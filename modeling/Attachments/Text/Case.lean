import Attachments.Text.Case.Table
import Attachments.Text.CodePoint

/-!
Contract: full case mapping of texts.

Owns:
- the upper and lower case of one character, which may be several characters;
- upper and lower case of a text, with the rule for a capital sigma at the end of a word;
- lower case of a text that may be torn.

Does not own: the tables, and any mapping that depends on a language.
-/

namespace Attachments.Text

/-- The image of a character under a case mapping. A character the tables do not list is its own
image. -/
def mapCase
    (expansions : List CaseExpansion)
    (runs : List CaseRun)
    (character : Char) :
    List Char :=
  match expansions.find? (·.code == character.toNat) with
  | some expansion => expansion.image.map Char.ofNat
  | none =>
    match runs.findSome? (·.image? character.toNat) with
    | some code => [Char.ofNat code]
    | none => [character]

def upperOf (character : Char) : List Char :=
  mapCase upperExpansions upperRuns character

/-- The lower case of one character that stands alone. -/
def lowerOf (character : Char) : List Char :=
  mapCase lowerExpansions lowerRuns character

def upperCase (text : List Char) : List Char :=
  text.flatMap upperOf

/-- Whether a character is a cased letter, case-ignorable ones apart. -/
def isCased (character : Char) : Bool :=
  inRanges character.toNat casedRanges

/-- Whether a character is skipped when the end of a word is looked for. -/
def isCaseIgnorable (character : Char) : Bool :=
  inRanges character.toNat caseIgnorableRanges

/-- Whether the nearest character that is not case-ignorable exists and is cased. -/
def meetsCased (characters : List Char) : Bool :=
  (characters.dropWhile isCaseIgnorable).head?.any isCased

/-- Lower case of the rest of a text, where `before` holds the characters already passed, the
nearest one first. A capital sigma is lowered by its place: to the final form if a cased letter
stands before it and none after it. -/
def lowerFrom (before : List Char) : List Char → List Char
  | [] => []
  | character :: after =>
    let image :=
      if character = 'Σ' then
        [if meetsCased before && !meetsCased after then 'ς' else 'σ']
      else
        lowerOf character
    image ++ lowerFrom (character :: before) after

def lowerCase (text : List Char) : List Char :=
  lowerFrom [] text

def upper (text : String) : String :=
  String.ofList (upperCase text.toList)

def lower (text : String) : String :=
  String.ofList (lowerCase text.toList)

/-- Lower case of a text that may be torn. A half is like a sign that is no letter. -/
def lowerPoints (text : Points) : Points :=
  let lowered (whole : List Char) : Points := (lowerCase whole).map .character
  let (first, rest) := text.foldr (fun point (whole, rest) =>
    match point with
    | .character character => (character :: whole, rest)
    | .half unit => ([], .half unit :: lowered whole ++ rest)) (([] : List Char), ([] : Points))
  lowered first ++ rest

end Attachments.Text
