/-!
Contract: the classes of problems.

Owns:
- the seven classes, their names and their codes;
- which class belongs to which wider ones.

Does not own: what a single problem says.
-/

namespace Attachments

/-- The class of a problem. Every class but the first is about a value that was refused. -/
inductive ProblemClass where
  | general
  | validation
  | missingInput
  | missingComponent
  | missingId
  | invalidComponent
  | malformed
  deriving DecidableEq, Repr

namespace ProblemClass

/-- All classes, the widest first. -/
def all : List ProblemClass :=
  [.general, .validation, .missingInput, .missingComponent, .missingId, .invalidComponent,
    .malformed]

def name : ProblemClass → String
  | .general => "DomainError"
  | .validation => "ValidationError"
  | .missingInput => "MissingInputError"
  | .missingComponent => "MissingComponentError"
  | .missingId => "MissingIdError"
  | .invalidComponent => "InvalidComponentError"
  | .malformed => "MalformedIdentifierError"

/-- The name of a class with the place where the class is known. -/
def qualifiedName (problemClass : ProblemClass) : String :=
  "tessera.foundation.domain.exceptions." ++ problemClass.name

/-- The code by which programs tell the classes apart. -/
def code : ProblemClass → String
  | .general => "DOMAIN_ERROR"
  | .validation => "VALIDATION_ERROR"
  | .missingInput => "MISSING_INPUT"
  | .missingComponent => "MISSING_COMPONENT"
  | .missingId => "MISSING_ID"
  | .invalidComponent => "INVALID_COMPONENT"
  | .malformed => "MALFORMED_IDENTIFIER"

def ofName? (text : String) : Option ProblemClass :=
  all.find? (·.name == text)

/-- A class is found under its name. -/
theorem ofName?_name (problemClass : ProblemClass) :
    ofName? problemClass.name = some problemClass := by
  cases problemClass <;> decide

/-- The class itself and the wider classes that hold it, the widest first. -/
def lineage : ProblemClass → List ProblemClass
  | .general => [.general]
  | .validation => [.general, .validation]
  | .missingInput => [.general, .validation, .missingInput]
  | .missingComponent => [.general, .validation, .missingComponent]
  | .missingId => [.general, .validation, .missingComponent, .missingId]
  | .invalidComponent => [.general, .validation, .invalidComponent]
  | .malformed => [.general, .validation, .malformed]

end ProblemClass

end Attachments
