import Attachments.Settings.Environment
import Attachments.Text.CodePoint

/-!
Contract: references to variables inside the values of a settings file.

Owns:
- the form of a reference: a name in braces behind a dollar sign, with or without a text that
  stands for an unknown variable;
- what a reference stands for: a variable of the file above it, else one of the environment.

Does not own: where values begin and end.
-/

namespace Attachments

namespace SettingsFile

/-- A reference: the name of a variable, and the text for the case that it is unknown. -/
structure Reference where
  name : Text.Points
  default : Text.Points
  deriving DecidableEq, Repr

def isAt (character : Char) (point : Text.CodePoint) : Bool :=
  point == .character character

/-- Reads a reference at the start of a text and gives it with the text behind it. -/
def reference? : Text.Points → Option (Reference × Text.Points)
  | .character '$' :: .character '\x7b' :: rest =>
    let inName (point : Text.CodePoint) : Bool := !isAt '\x7d' point && !isAt ':' point
    let name := rest.takeWhile inName
    match rest.dropWhile inName with
    | .character '\x7d' :: after => some (⟨name, []⟩, after)
    | .character ':' :: .character '-' :: rest =>
      match rest.dropWhile (!isAt '\x7d' ·) with
      | _ :: after => some (⟨name, rest.takeWhile (!isAt '\x7d' ·)⟩, after)
      | [] => none
    | _ => none
  | _ => none

/-- The text that a reference stands for. A variable of the file without a value stands for nothing,
and hides one of the environment, which has only whole names. -/
def Reference.text
    (environment : Environment)
    (above : Fields Text.Points (Option Text.Points))
    (reference : Reference) :
    Text.Points :=
  match above.get? reference.name with
  | some value? => value?.getD []
  | none =>
    (((Text.CodePoint.whole? reference.name).bind environment.get?).map Text.points).getD
      reference.default

/-- Replaces the references of a text, at most `count` of them and of the characters between. -/
def expandWithin
    (environment : Environment)
    (above : Fields Text.Points (Option Text.Points)) :
    (count : Nat) → Text.Points → Text.Points
  | 0, _ => []
  | _, [] => []
  | count + 1, point :: rest =>
    match reference? (point :: rest) with
    | some (reference, after) =>
      reference.text environment above ++ expandWithin environment above count after
    | none => point :: expandWithin environment above count rest

/-- Replaces all references of a value. What they stand for is not looked at again. -/
def expand
    (environment : Environment)
    (above : Fields Text.Points (Option Text.Points))
    (value : Text.Points) :
    Text.Points :=
  expandWithin environment above value.length value

end SettingsFile

end Attachments
