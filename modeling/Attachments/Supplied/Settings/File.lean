import Attachments.Settings.Library
import Attachments.Settings.Reference
import Attachments.Text.Lines

/-!
Contract: the file that holds settings, one variable to a line.

Owns:
- names, which may follow the word "export" and may stand in single quotes;
- values, bare or in single or double quotes, and comments;
- the mark of the encoding at the start of the file;
- the variables of the file, each of which sees those above it;
- what is read of a file that breaks these rules: the offending lines are skipped.

Does not own: which variables mean anything.
-/

namespace Attachments

namespace SettingsFile

/-- The text without the mark of the encoding at its start. -/
def withoutMark : Text.Points → Text.Points
  | .character '\ufeff' :: rest => rest
  | text => text

/-- The text after the word "export" and the blanks behind it, if it starts with both. -/
def skipExport (text : Text.Points) : Text.Points :=
  let word := Text.points "export"
  match text.drop word.length with
  | blank :: rest =>
    if word.isPrefixOf text && Text.isInnerBlank blank then Text.skipInnerBlanks rest else text
  | [] => text

/-- Whether a code point can stand in a bare name. -/
def isNamePoint (point : Text.CodePoint) : Bool :=
  !isAt '=' point && !isAt '#' point && !Text.isBlankPoint point

/-- Reads a name and gives it with the text behind it. There is none before a comment. -/
def name? : Text.Points → Option (Option Text.Points × Text.Points)
  | .character '#' :: rest => some (none, .character '#' :: rest)
  | .character '\'' :: rest =>
    let name := rest.takeWhile (!isAt '\'' ·)
    match rest.dropWhile (!isAt '\'' ·) with
    | _ :: after => if name.isEmpty then none else some (some name, after)
    | [] => none
  | text =>
    let name := text.takeWhile isNamePoint
    if name.isEmpty then none else some (some name, text.dropWhile isNamePoint)

/-- The text up to the closing mark and the text behind it. A backslash takes what is next with it,
so that a mark behind it does not close. -/
def quoted? (mark : Char) : Text.Points → Option (Text.Points × Text.Points)
  | [] => none
  | .character '\\' :: point :: rest =>
    (quoted? mark rest).map fun (inner, after) => (.character '\\' :: point :: inner, after)
  | point :: rest =>
    if isAt mark point then some ([], rest)
    else (quoted? mark rest).map fun (inner, after) => (point :: inner, after)

/-- The character that an escape between single quotes stands for. -/
def singleEscape? : Char → Option Char
  | '\\' => some '\\'
  | '\'' => some '\''
  | _ => none

/-- The character that an escape between double quotes stands for. -/
def doubleEscape? : Char → Option Char
  | '\\' => some '\\'
  | '\'' => some '\''
  | '"' => some '"'
  | 'a' => some '\x07'
  | 'b' => some '\x08'
  | 'f' => some '\x0c'
  | 'n' => some '\n'
  | 'r' => some '\r'
  | 't' => some '\t'
  | 'v' => some '\x0b'
  | _ => none

/-- Replaces the escapes of a quoted text. A backslash before anything else stands for itself. -/
def unescape (escape? : Char → Option Char) : Text.Points → Text.Points
  | [] => []
  | .character '\\' :: point :: rest =>
    match point.character?.bind escape? with
    | some meant => .character meant :: unescape escape? rest
    | none => .character '\\' :: unescape escape? (point :: rest)
  | point :: rest => point :: unescape escape? rest

/-- A bare value without its comment, which starts at a number sign behind a blank. -/
def beforeComment (afterBlank : Bool) : Text.Points → Text.Points
  | [] => []
  | point :: rest =>
    if afterBlank && isAt '#' point then []
    else point :: beforeComment (Text.isBlankPoint point) rest

/-- Reads the value behind an equals sign and gives it with the text behind it. Blanks before it
are skipped, but a number sign behind them starts a comment. -/
def value? (text : Text.Points) : Option (Text.Points × Text.Points) :=
  match Text.skipInnerBlanks text with
  | .character '\'' :: rest =>
    (quoted? '\'' rest).map fun (inner, after) => (unescape singleEscape? inner, after)
  | .character '"' :: rest =>
    (quoted? '"' rest).map fun (inner, after) => (unescape doubleEscape? inner, after)
  | _ =>
    let bare := Text.skipInnerBlanks (beforeComment false (Text.restOfLine text))
    some (Text.trimEnd bare, Text.fromLineEnd text)

/-- Reads the value of a name, if an equals sign follows. -/
def assigned? : Text.Points → Option (Option Text.Points × Text.Points)
  | .character '=' :: rest => (value? rest).map fun (value, after) => (some value, after)
  | text => some (none, text)

def skipComment (text : Text.Points) : Text.Points :=
  match Text.skipInnerBlanks text with
  | .character '#' :: rest => Text.fromLineEnd rest
  | _ => text

/-- Reads one line, or more if a quoted value goes on, and gives its variable with the text behind
it. A line that breaks the rules is passed over. -/
def entry (line : Text.Points) : Option SettingsBinding × Text.Points :=
  let text := skipExport line
  match name? text with
  | none => (none, Text.afterLine text)
  | some (name, behindName) =>
    let text := Text.skipInnerBlanks behindName
    match assigned? text with
    | none => (none, Text.afterLine text)
    | some (value, behindValue) =>
      let text := skipComment behindValue
      match Text.afterBlankLine? text with
      | some rest => (name.map fun name => ⟨name, value⟩, rest)
      | none => (none, Text.afterLine text)

/-- Reads at most `count` entries. -/
def entriesWithin : (count : Nat) → Text.Points → List SettingsBinding
  | 0, _ => []
  | count + 1, text =>
    match text.dropWhile Text.isBlankPoint with
    | [] => []
    | line =>
      let (binding?, rest) := entry line
      binding?.toList ++ entriesWithin count rest

/-- The variables of a file in their order. Each entry takes at least one code point, so there are
no more entries than code points. -/
def bindings (text : Text.Points) : List SettingsBinding :=
  let points := Text.unifyLineEnds (withoutMark text)
  entriesWithin points.length points

/-- The variables of a file as a record. References in a value are replaced, also between single
quotes; they see the environment and the variables above. -/
def record (environment : Environment) (text : Text.Points) :
    Fields Text.Points (Option Text.Points) :=
  (bindings text).foldl (fun above binding =>
    above.put binding.name (binding.value?.map (expand environment above))) []

end SettingsFile

end Attachments
