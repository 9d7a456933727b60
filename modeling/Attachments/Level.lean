/-!
Contract: the five severities of records.

Owns:
- their names, in both cases, and their numbers;
- the numbers that stand under names.

Does not own: which severities are let through.
-/

namespace Attachments

/-- How severe a record is. -/
inductive Level where
  | debug
  | info
  | warning
  | error
  | critical
  deriving DecidableEq, Repr

namespace Level

/-- All severities, from the least. -/
def all : List Level :=
  [.debug, .info, .warning, .error, .critical]

/-- The name in capital letters. -/
def name : Level → String
  | .debug => "DEBUG"
  | .info => "INFO"
  | .warning => "WARNING"
  | .error => "ERROR"
  | .critical => "CRITICAL"

/-- The name in small letters. -/
def label : Level → String
  | .debug => "debug"
  | .info => "info"
  | .warning => "warning"
  | .error => "error"
  | .critical => "critical"

/-- The number by which severities are compared. -/
def number : Level → Nat
  | .debug => 10
  | .info => 20
  | .warning => 30
  | .error => 40
  | .critical => 50

/-- The severity whose name in capital letters is the text. -/
def ofName? (text : String) : Option Level :=
  all.find? (·.name == text)

/-- A severity is found under its name. -/
theorem ofName?_name (level : Level) : ofName? level.name = some level := by
  cases level <;> decide

/-- A severity is found only under its name. -/
theorem name_of_ofName? {text : String} {level : Level} (found : ofName? text = some level) :
    level.name = text := by
  simpa using List.find?_some found

/-- Names of numbers that are no names of severities: two second names, and the number below all. -/
def furtherNumbers : List (String × Nat) :=
  [("WARN", 30), ("FATAL", 50), ("NOTSET", 0)]

/-- The number that stands under a name. -/
def numberNamed? (text : String) : Option Nat :=
  (ofName? text).map number <|> (furtherNumbers.find? (·.1 == text)).map (·.2)

/-- The names in capital letters, in alphabetical order. -/
def sortedNames : List String :=
  (all.map name).mergeSort

end Level

end Attachments
