import Attachments.Datum.Basic
import Attachments.Supplied.Settings.Command.Flag
import Attachments.Text.Blank
import Attachments.Text.Case
import Attachments.Supplied.Text.Digit
import Attachments.Text.Search

/-!
Contract: what each argument of a command is, taken by itself.

Owns:
- flags, alone or with a value attached to them;
- arguments that are no flags, and those that only look like one;
- the mark behind which nothing is a flag;
- flags that are written in another case.

Does not own: which arguments are the values of flags before them.
-/

namespace Attachments

/-- A value that is attached to a flag, and whether an equals sign stands between them. -/
structure AttachedValue where
  text : String
  behindSign : Bool
  deriving DecidableEq, Repr

/-- What an argument is. -/
inductive ArgumentReading where
  | plain
  | mark
  | unknownFlag
  | flag (flag : CommandFlag) (spelling : String) (attached : Option AttachedValue)
  deriving DecidableEq, Repr

namespace CommandForm

/-- Cuts an argument at its first equals sign. -/
def cut (argument : String) : String × Option String :=
  let text := argument.toList
  (String.ofList (text.takeWhile (· != '=')),
    (text.dropWhile (· != '=')).tail?.map String.ofList)

/-- Whether a text is a number behind a dash. -/
def isNegative : List Char → Bool
  | '-' :: text =>
    match text.dropWhile Text.isDigit with
    | [] => !text.isEmpty
    | '.' :: places => !places.isEmpty && places.all Text.isDigit
    | _ => false
  | _ => false

/-- Whether an argument looks like a number behind a dash. The end of the line may be written. -/
def looksNegative (argument : String) : Bool :=
  let text := argument.toList
  isNegative (if text.getLast? = some '\n' then text.dropLast else text)

/-- Whether a flag looks like a number, so that no number is taken for a value. -/
def hasNegativeFlags (form : CommandForm) : Bool :=
  form.flags.any (·.spellings.any looksNegative)

/-- The flag of two characters at the start of an argument, with the text behind it. -/
def short? (form : CommandForm) : List Char → Option (CommandFlag × String × String)
  | first :: second :: rest =>
    if second ∈ form.starts then none
    else
      let spelling := String.ofList [first, second]
      (form.flag? spelling).map fun flag => (flag, spelling, String.ofList rest)
  | _ => none

/-- Reads an argument that is no flag as it stands, but starts like one and goes on. -/
def readCompound (form : CommandForm) (argument : String) : ArgumentReading :=
  let (before, value?) := cut argument
  match value?.bind fun value => (form.flag? before).map (value, ·) with
  | some (value, flag) => .flag flag before (some ⟨value, true⟩)
  | none =>
    match form.short? argument.toList with
    | some (flag, spelling, rest) => .flag flag spelling (some ⟨rest, false⟩)
    | none =>
      if looksNegative argument && !form.hasNegativeFlags || ' ' ∈ argument.toList then .plain
      else .unknownFlag

def readText (form : CommandForm) (argument : String) : ArgumentReading :=
  match argument.toList with
  | [] => .plain
  | first :: rest =>
    if argument == "--" then .mark
    else if first ∉ form.starts then .plain
    else
      match form.flag? argument with
      | some flag => .flag flag argument none
      | none => if rest.isEmpty then .plain else form.readCompound argument

/-- Reads an argument that may be no text. Only its start is looked at. -/
def readValue (form : CommandForm) : Datum → Except Fault ArgumentReading
  | .text argument => .ok (form.readText argument)
  | value =>
    if !value.truthy then .ok .plain
    else
      match value with
      | .list (.text part :: _) =>
        if Text.holds part.toList form.starts then .error (.unhashable .list) else .ok .plain
      | .list (other :: _) => .error (.notPartOfText other.kind)
      | .dict _ => .error (.noEntry 0)
      | other => .error (.notSubscriptable other.kind)

/-- Reads all arguments. Behind the mark none is a flag. -/
def read (form : CommandForm) : List Datum → Except Fault (List (Datum × ArgumentReading))
  | [] => .ok []
  | argument :: rest => do
    match ← form.readValue argument with
    | .mark => .ok ((argument, .mark) :: rest.map ((·, .plain)))
    | reading => .ok ((argument, reading) :: (← form.read rest))

/-! ## Case -/

/-- Whether a character can belong to the name of a flag. -/
def inName (character : Char) : Bool :=
  character != '=' && !Text.isBlank character

/-- Whether a text opens like a flag. An opening in a letter or digit is not told from other
characters, but only one of them stands for itself. -/
def opens (opening text : List Char) : Bool :=
  match opening with
  | [only] => if only.isAlphanum then only == 'w' else text.head? == some only
  | _ => opening.isPrefixOf text

/-- The flag at the start of an argument and the text behind it. The last character of the opening
may stand twice. -/
def opened? (opening text : List Char) : Option (List Char × List Char) :=
  let last? := opening.getLast?
  let length :=
    if !last?.any inName && text[opening.length]? == last? then opening.length + 1
    else opening.length
  let name := (text.drop length).takeWhile inName
  if opens opening text && !name.isEmpty then
    some (text.take length ++ name, (text.drop length).dropWhile inName)
  else none

/-- An argument with the flag at its start in small letters, if that makes it a known one. Of the
text behind it, one line is kept. -/
def folded (form : CommandForm) (opening : List Char) (argument : String) : String :=
  match opened? opening argument.toList with
  | some (flag, behind) =>
    let spelling := Text.lower (String.ofList flag)
    if (form.flag? spelling).isSome then
      spelling ++ String.ofList (behind.takeWhile (· != '\n'))
    else argument
  | none => argument

/-- Why flags that open with a character cannot be looked for in any case, if they cannot: some
letters and digits have a meaning of their own in such a search. -/
def searchFault? (opening : List Char) : Option String :=
  match opening with
  | [letter] =>
    let shown := String.singleton letter
    if letter ∈ ['b', 'A', 'B', 'Z'] then some "nothing to repeat at position 4"
    else if letter ∈ ['u', 'U', 'x'] then
      some ("incomplete escape \\" ++ shown ++ " at position 2")
    else if letter = 'N' then some "undefined character name '1,2' at position 2"
    else if letter = '1' then some "cannot refer to an open group at position 2"
    else if letter.isDigit && letter != '0' then
      some ("invalid group reference " ++ shown ++ " at position 3")
    else if letter.isAlpha && letter ∉ "adDfnrsStvwW".toList then
      some ("bad escape \\" ++ shown ++ " at position 2")
    else none
  | _ => none

end CommandForm

end Attachments
