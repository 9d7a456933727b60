import Attachments.Fault
import Attachments.Fields

/-!
Contract: the environment, in which variables are kept.

Owns:
- which variables an environment can hold.

Does not own: what the values mean.
-/

namespace Attachments

/-- The variables of an environment. A variable keeps its place when it is set again. -/
abbrev Environment :=
  Fields String String

/-- Sets a variable. Null characters end texts where variables are kept, and an equals sign ends a
name. -/
def Environment.set (environment : Environment) (name value : String) :
    Except Fault Environment :=
  if '\x00' ∈ name.toList ∨ '\x00' ∈ value.toList then .error .nullInVariable
  else if '=' ∈ name.toList then .error .badVariableName
  else if name.isEmpty then .error .emptyVariableName
  else .ok (environment.put name value)

end Attachments
