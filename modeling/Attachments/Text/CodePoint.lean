import Attachments.Text.Quoted

/-!
Contract: texts that may be torn between the two halves of a character.

Owns:
- the halves of pairs that make up one character, and that character;
- code points: characters, and halves that stand alone;
- whether a text is whole, and its characters if it is;
- the quoted form of such texts.

Does not own: where such texts come from, and how they are written.
-/

namespace Attachments.Text

/-- Whether a unit is the first half of a pair that makes up one character. -/
def isFirstOfPair (unit : Nat) : Bool :=
  0xD800 ≤ unit && unit < 0xDC00

def isSecondOfPair (unit : Nat) : Bool :=
  0xDC00 ≤ unit && unit < 0xE000

def pairCharacter (first second : Nat) : Char :=
  Char.ofNat (0x10000 + 0x400 * (first - 0xD800) + (second - 0xDC00))

/-- A code point: a character, or half of a pair of units that makes up one. A half is a unit from
0xD800 to 0xDFFF. -/
inductive CodePoint where
  | character (character : Char)
  | half (unit : Nat)
  deriving DecidableEq, Repr

/-- A text that may be torn. -/
abbrev Points :=
  List CodePoint

def points (text : String) : Points :=
  text.toList.map .character

namespace CodePoint

def ofNat (code : Nat) : CodePoint :=
  if isFirstOfPair code || isSecondOfPair code then .half code else .character (.ofNat code)

def character? : CodePoint → Option Char
  | .character scalar => some scalar
  | .half _ => none

/-- The characters of a text, unless it is torn. -/
def characters? (text : Points) : Option (List Char) :=
  text.mapM character?

/-- A text of characters is whole. -/
theorem characters?_map (text : List Char) : characters? (text.map .character) = some text := by
  induction text with
  | nil => rfl
  | cons first rest inductionHypothesis =>
    rw [characters?] at inductionHypothesis ⊢
    rw [List.map_cons, List.mapM_cons, inductionHypothesis]
    rfl

/-- The whole text of code points, unless it is torn. -/
def whole? (text : Points) : Option String :=
  (characters? text).map String.ofList

/-- The code points of a text make it up again. -/
theorem whole?_points (text : String) : whole? (points text) = some text := by
  rw [whole?, points, characters?_map, Option.map_some, String.ofList_toList]

/-- Two texts with the same code points are the same. -/
theorem points_inj {text other : String} : points text = points other ↔ text = other := by
  constructor
  · intro same
    have sameWhole := congrArg whole? same
    rw [whole?_points, whole?_points] at sameWhole
    exact Option.some.inj sameWhole
  · exact congrArg points

/-- The characters of a whole text are its code points. -/
theorem map_of_characters? {text : Points} {characters : List Char}
    (read : characters? text = some characters) : characters.map .character = text := by
  induction text generalizing characters with
  | nil =>
    obtain rfl := Option.some.inj read
    rfl
  | cons first rest inductionHypothesis =>
    rw [characters?, List.mapM_cons] at read
    cases first with
    | half unit => contradiction
    | character scalar =>
      obtain ⟨_, readFirst, readOthers⟩ := Option.bind_eq_some_iff.mp read
      obtain ⟨others, readRest, same⟩ := Option.bind_eq_some_iff.mp readOthers
      obtain rfl := Option.some.inj readFirst
      obtain rfl := Option.some.inj same
      exact congrArg (.character scalar :: ·) (inductionHypothesis readRest)

/-- A whole text has the code points that it was made of. -/
theorem points_of_whole? {text : Points} {string : String} (read : whole? text = some string) :
    points string = text := by
  obtain ⟨characters, readCharacters, rfl⟩ := Option.map_eq_some_iff.mp read
  rw [points, String.toList_ofList, map_of_characters? readCharacters]

/-- One code point inside quotation marks. -/
def escaped (mark : Char) : CodePoint → List Char
  | .character scalar => escape mark scalar
  | .half unit => '\\' :: 'u' :: hexDigits 4 unit

end CodePoint

/-- A text that may be torn in its quoted form. -/
def quotePoints (text : Points) : String :=
  let mark := quotationMark (text.filterMap (·.character?))
  String.ofList (mark :: text.flatMap (CodePoint.escaped mark) ++ [mark])

/-- The quoted form of the code points of a text is that of the text. -/
theorem quotePoints_points (text : String) : quotePoints (points text) = quote text := by
  have characters : (points text).filterMap (·.character?) = text.toList := by
    rw [points, List.filterMap_map]
    exact List.filterMap_some
  have escapes (mark : Char) :
      (points text).flatMap (CodePoint.escaped mark) = text.toList.flatMap (escape mark) := by
    rw [points, List.flatMap_map]
    rfl
  rw [quotePoints, characters, escapes, quote, quoteWith]

end Attachments.Text
