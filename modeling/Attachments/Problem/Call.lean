import Attachments.Datum.Dictionary
import Attachments.Problem.Basic

/-!
Contract: problems built from the name of a class and a list of arguments.

Owns:
- the parameters of each class;
- how arguments by position and by name meet parameters, and what is wrong when they do not;
- the problem of a class with given arguments.

Does not own: what the problems say.
-/

namespace Attachments

/-- The parameters of a class: those that must be given, those that may be, and whether other
names are kept besides. -/
structure Signature where
  required : List String
  optional : List String
  keepsOthers : Bool
  deriving DecidableEq, Repr

/-- The parameters of each class. -/
def ProblemClass.signature : ProblemClass → Signature
  | .general => ⟨["message"], ["context"], false⟩
  | .validation => ⟨["field", "reason"], [], true⟩
  | .missingInput => ⟨[], [], false⟩
  | .missingComponent => ⟨["component"], [], false⟩
  | .missingId => ⟨[], [], false⟩
  | .invalidComponent => ⟨["component", "value"], ["separator"], false⟩
  | .malformed => ⟨["serialized"], ["expected_shapes"], false⟩

/-- Arguments matched with parameters, and the named arguments that are not parameters. -/
structure Binding where
  bound : Fields String Datum
  others : Fields String Datum

namespace Signature

/-- The names that can be given by position. -/
def parameters (signature : Signature) : List String :=
  signature.required ++ signature.optional

/-- Adds named arguments to a binding, one after the other. The object under construction is bound
already, under the name `self`. -/
def bindNamed (signature : Signature) (binding : Binding) :
    List (String × Datum) → Except CallMisuse Binding
  | [] => .ok binding
  | (name, value) :: rest =>
    if name = "self" then .error (.repeated name)
    else if name ∈ signature.parameters then
      if binding.bound.has name then .error (.repeated name)
      else bindNamed signature { binding with bound := binding.bound ++ [(name, value)] } rest
    else if signature.keepsOthers then
      bindNamed signature { binding with others := binding.others ++ [(name, value)] } rest
    else .error (.unexpected name)

/-- Matches arguments with parameters. Names are looked at first, then whether there are too many
arguments by position, then whether any is missing. -/
def bind (signature : Signature) (positional : List Datum) (named : Fields String Datum) :
    Except CallMisuse Binding := do
  let byPosition := signature.parameters.zip positional
  let binding ← signature.bindNamed ⟨byPosition, []⟩ named
  let least := signature.required.length
  let most := signature.parameters.length
  if most < positional.length then
    .error (.tooMany (least + 1) (most + 1) (positional.length + 1))
  else
    match signature.required.filter fun name => !binding.bound.has name with
    | [] => .ok binding
    | missing => .error (.missing missing)

end Signature

namespace Problem

/-- The problem of a refusal, unless the refusal cannot be written. -/
def ofRejection (rejection : Rejection) : Except Fault Problem :=
  rejection.made.map .rejected

/-- The problem of a class with arguments that were matched with its parameters. -/
def ofBinding (problemClass : ProblemClass) (binding : Binding) : Except Fault Problem :=
  let argument (name : String) : Datum := (binding.bound.get? name).getD .null
  match problemClass with
  | .general =>
    let context := argument "context"
    .ok (.general (argument "message") (if context.truthy then context else .dict []))
  | .validation =>
    ofRejection (.invalidField (argument "field") (argument "reason") binding.others)
  | .missingInput => ofRejection .missingInput
  | .missingComponent => ofRejection (.missingComponent (argument "component"))
  | .missingId => ofRejection .missingId
  | .invalidComponent =>
    let separator := (binding.bound.get? "separator").getD (.text "/")
    ofRejection (.invalidComponent (argument "component") (argument "value") separator)
  | .malformed =>
    match binding.bound.get? "expected_shapes" with
    | none => ofRejection (.malformed (argument "serialized") .standard)
    | some shapes =>
      match Hint.ofDatum shapes with
      | .ok hint => ofRejection (.malformed (argument "serialized") hint)
      | .error fault => .error fault

/-- The problem of a class with arguments by position and by name. -/
def build
    (problemClass : ProblemClass)
    (positional : List Datum)
    (named : Fields Datum Datum) :
    Except Fault Problem := do
  let named ← Datum.namedArguments named
  match problemClass.signature.bind positional named with
  | .error misuse => .error (.misusedCall (problemClass.name ++ ".__init__") misuse)
  | .ok binding => ofBinding problemClass binding

end Problem

end Attachments
