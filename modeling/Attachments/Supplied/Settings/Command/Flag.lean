import Attachments.Fault

/-!
Contract: the flags of a command.

Owns:
- the spellings of a flag, what it sets, and how;
- the flags of a command, and the characters that can start one.

Does not own: which flags there are, and how arguments are read.
-/

namespace Attachments

/-- How a flag sets its target: to the value that goes with it, to yes or no as it is spelled, or
always to one answer. A flag can also ask for help. -/
inductive FlagRole where
  | takesValue
  | asSpelled
  | fixed (answer : Bool)
  | asksForHelp
  deriving DecidableEq, Repr

/-- A flag: its spellings, what it sets, and how. -/
structure CommandFlag where
  spellings : List String
  target : String
  role : FlagRole
  deriving DecidableEq, Repr

namespace CommandFlag

/-- The start of the spellings that say no. -/
def denial : String :=
  "--no-"

/-- The spellings of a flag that says yes or no: for each long one there is another that says no.
-/
def withDenials (spellings : List String) : List String :=
  spellings.flatMap fun spelling =>
    match spelling.toList with
    | '-' :: '-' :: name => [spelling, denial ++ String.ofList name]
    | _ => [spelling]

/-- The name of a flag in reports, which holds all its spellings. -/
def title (flag : CommandFlag) : String :=
  "/".intercalate flag.spellings

def takesValue (flag : CommandFlag) : Bool :=
  flag.role == .takesValue

def saysYes (spelling : String) : Bool :=
  !denial.toList.isPrefixOf spelling.toList

end CommandFlag

/-- What is needed to read the arguments of a command: the characters that can start a flag, and
the flags. -/
structure CommandForm where
  starts : List Char
  flags : List CommandFlag
  deriving DecidableEq, Repr

namespace CommandForm

def flag? (form : CommandForm) (spelling : String) : Option CommandFlag :=
  form.flags.find? (·.spellings.contains spelling)

/-- Puts a flag behind the others, unless one of its spellings is taken already. -/
def add (form : CommandForm) (flag : CommandFlag) : Except Fault CommandForm :=
  match flag.spellings.filter fun spelling => (form.flag? spelling).isSome with
  | [] => .ok { form with flags := form.flags ++ [flag] }
  | taken => .error (.takenFlags flag.title taken)

end CommandForm

end Attachments
