import Attachments.Proofs.Json.Strings
import Attachments.Text.Quoted
import Mathlib.Tactic.SplitIfs

/-!
Contract: quoted texts are printable, and they tell what was quoted.

Owns:
- that printable ASCII is printable here too, and that what controls a terminal or ends a line is
  not;
- that every character of a quoted text is printable;
- reading the character that an escape stands for;
- that a quoted text tells the text it quotes and where it ends, whatever stands behind it.

Does not own: the messages in which texts are quoted.
-/

namespace Attachments

namespace Text

open Json (IsPlain)

/-! ## Printable characters -/

def AllPrintable (text : List Char) : Prop :=
  ∀ character ∈ text, isPrintable character = true

theorem AllPrintable.append
    {text other : List Char}
    (printable : AllPrintable text)
    (otherPrintable : AllPrintable other) :
    AllPrintable (text ++ other) :=
  List.forall_mem_append.mpr ⟨printable, otherPrintable⟩

/-- The first two ranges end where printable ASCII begins, and begin where it ends. -/
theorem unprintableRanges_eq :
    unprintableRanges = ⟨0x00, 0x1F⟩ :: ⟨0x7F, 0xA0⟩ :: unprintableRanges.drop 2 :=
  rfl

theorem isPrintable_of_ascii
    {character : Char}
    (least : ' ' ≤ character)
    (most : character ≤ '~') :
    isPrintable character = true := by
  have beyondFirst : 0x20 ≤ character.toNat := least
  have beforeSecond : character.toNat ≤ 0x7E := most
  rw [isPrintable, unprintableRanges_eq, inRanges, if_neg (by simp only; omega), inRanges,
    if_pos (by simp only; omega), Bool.not_eq_true', decide_eq_false_iff_not]
  simp only
  omega

theorem allPrintable_of_isPlain {text : List Char} (plain : IsPlain text) : AllPrintable text :=
  fun character member => isPrintable_of_ascii (plain character member).1 (plain character member).2

/-- Whether a character is a control character, or separates lines or paragraphs. -/
def isControl (character : Char) : Bool :=
  let code := character.toNat
  code < 0x20 || (0x7F ≤ code && code ≤ 0x9F) || code == 0x2028 || code == 0x2029

theorem isControl_eq_false_of_isPrintable
    {character : Char}
    (printable : isPrintable character = true) :
    isControl character = false := by
  rw [← Bool.not_eq_true]
  intro control
  simp only [isControl, Bool.or_eq_true, Bool.and_eq_true, decide_eq_true_eq, beq_iff_eq] at control
  have inside : inRanges character.toNat unprintableRanges = true := by
    rcases control with ((first | second) | lines) | paragraphs
    · rw [unprintableRanges_eq, inRanges, if_pos (by simp only; omega)]
      simp
    · rw [unprintableRanges_eq, inRanges, if_neg (by simp only; omega), inRanges,
        if_pos (by simp only; omega)]
      simpa using second.1
    · rw [lines]
      decide +kernel
    · rw [paragraphs]
      decide +kernel
  rw [isPrintable, inside] at printable
  contradiction

/-! ## Quoted texts are printable -/

/-- The two marks that a text can stand between. -/
def IsMark (mark : Char) : Prop :=
  mark = '\'' ∨ mark = '"'

theorem isMark_quotationMark (text : List Char) : IsMark (quotationMark text) := by
  unfold quotationMark
  split
  · exact .inr rfl
  · exact .inl rfl

theorem IsMark.isPlain {mark : Char} (isMark : IsMark mark) : IsPlain [mark] := by
  rcases isMark with rfl | rfl <;> decide

theorem isPlain_hexEscape (character : Char) : IsPlain (hexEscape character) := by
  have introduced (letter : Char) (plain : IsPlain ['\\', letter]) (width : Nat) :
      IsPlain ('\\' :: letter :: hexDigits width character.toNat) :=
    plain.append (Json.isPlain_hexDigits width character.toNat)
  unfold hexEscape
  split_ifs
  · exact introduced 'x' (by decide) 2
  · exact introduced 'u' (by decide) 4
  · exact introduced 'U' (by decide) 8

theorem allPrintable_escape {mark : Char} (isMark : IsMark mark) (character : Char) :
    AllPrintable (escape mark character) := by
  unfold escape
  split_ifs with special newline carriage tab printable
  · have plain : IsPlain [character] := by
      rcases special with rfl | rfl
      · exact isMark.isPlain
      · decide
    have backslash : IsPlain ['\\'] := by decide
    exact allPrintable_of_isPlain (backslash.append plain)
  · exact allPrintable_of_isPlain (by decide)
  · exact allPrintable_of_isPlain (by decide)
  · exact allPrintable_of_isPlain (by decide)
  · exact List.forall_mem_singleton.mpr printable
  · exact allPrintable_of_isPlain (isPlain_hexEscape character)

theorem toList_quote (text : String) :
    (quote text).toList =
      quotationMark text.toList ::
        (text.toList.flatMap (escape (quotationMark text.toList)) ++
          [quotationMark text.toList]) := by
  rw [quote, quoteWith, String.toList_ofList, List.cons_append]

theorem allPrintable_quote (text : String) : AllPrintable (quote text).toList := by
  have isMark := isMark_quotationMark text.toList
  have mark : AllPrintable [quotationMark text.toList] := allPrintable_of_isPlain isMark.isPlain
  have body : AllPrintable (text.toList.flatMap (escape (quotationMark text.toList))) := by
    intro letter member
    obtain ⟨character, -, inEscape⟩ := List.mem_flatMap.mp member
    exact allPrintable_escape isMark character letter inEscape
  rw [toList_quote]
  exact mark.append (body.append mark)

/-! ## Reading one character -/

/-- Reads a character by a number of so many hexadecimal digits. -/
def numbered? (width : Nat) (text : List Char) : Option (Char × List Char) :=
  (Json.hexNumber? (text.take width)).map fun code => (Char.ofNat code, text.drop width)

/-- Reads the character of an escape behind its backslash. -/
def behindBackslash? : List Char → Option (Char × List Char)
  | [] => none
  | 'n' :: rest => some ('\n', rest)
  | 'r' :: rest => some ('\r', rest)
  | 't' :: rest => some ('\t', rest)
  | 'x' :: rest => numbered? 2 rest
  | 'u' :: rest => numbered? 4 rest
  | 'U' :: rest => numbered? 8 rest
  | character :: rest => some (character, rest)

/-- Reads the first character inside quotation marks, which may be escaped. -/
def firstCharacter? : List Char → Option (Char × List Char)
  | [] => none
  | character :: rest =>
    if character = '\\' then behindBackslash? rest else some (character, rest)

theorem numbered?_hexDigits
    {width : Nat}
    {character : Char}
    (small : character.toNat < 16 ^ width)
    (rest : List Char) :
    numbered? width (hexDigits width character.toNat ++ rest) = some (character, rest) := by
  have taken : (hexDigits width character.toNat ++ rest).take width =
      hexDigits width character.toNat :=
    List.take_left' (Json.length_hexDigits width _)
  have dropped : (hexDigits width character.toNat ++ rest).drop width = rest :=
    List.drop_left' (Json.length_hexDigits width _)
  rw [numbered?, taken, dropped, Json.hexNumber?_hexDigits width small, Option.map_some,
    Char.ofNat_toNat]

/-- The width of a hexadecimal escape is told by its letter and holds the whole code point. -/
theorem firstCharacter?_hexEscape (character : Char) (rest : List Char) :
    firstCharacter? (hexEscape character ++ rest) = some (character, rest) := by
  have most := Json.toNat_lt character
  unfold hexEscape
  split_ifs with two four
  · have small : character.toNat < 16 ^ 2 := by omega
    exact numbered?_hexDigits small rest
  · exact numbered?_hexDigits (by omega) rest
  · exact numbered?_hexDigits (by omega) rest

theorem firstCharacter?_escape
    {mark : Char}
    (isMark : IsMark mark)
    (character : Char)
    (rest : List Char) :
    firstCharacter? (escape mark character ++ rest) = some (character, rest) := by
  unfold escape
  split_ifs with special newline carriage tab printable
  · rcases special with rfl | rfl
    · rcases isMark with rfl | rfl <;> rfl
    · rfl
  · rw [newline]
    rfl
  · rw [carriage]
    rfl
  · rw [tab]
    rfl
  · have noBackslash : character ≠ '\\' := fun same => special (.inr same)
    rw [List.singleton_append, firstCharacter?, if_neg noBackslash]
  · exact firstCharacter?_hexEscape character rest

/-! ## Quoted texts tell what was quoted -/

/-- An escape tells its character and where it ends. -/
theorem escape_append_inj
    {mark left right : Char}
    {leftRest rightRest : List Char}
    (isMark : IsMark mark)
    (same : escape mark left ++ leftRest = escape mark right ++ rightRest) :
    left = right ∧ leftRest = rightRest := by
  have read := firstCharacter?_escape isMark left leftRest
  rw [same, firstCharacter?_escape isMark right rightRest] at read
  simpa [eq_comm] using read

/-- No escape begins like the mark that ends the text. -/
theorem head?_escape_append_ne
    {mark : Char}
    (isMark : IsMark mark)
    (character : Char)
    (rest : List Char) :
    (escape mark character ++ rest).head? ≠ some mark := by
  have noBackslash : '\\' ≠ mark := by
    rcases isMark with rfl | rfl <;> decide
  unfold escape hexEscape
  split_ifs with special <;> simp_all

theorem flatMap_escape_append_inj
    {mark : Char}
    {left right leftRest rightRest : List Char}
    (isMark : IsMark mark)
    (same : left.flatMap (escape mark) ++ mark :: leftRest =
      right.flatMap (escape mark) ++ mark :: rightRest) :
    left = right ∧ leftRest = rightRest := by
  induction left generalizing right with
  | nil =>
    cases right with
    | nil => exact ⟨rfl, List.tail_eq_of_cons_eq same⟩
    | cons character others =>
      rw [List.flatMap_cons, List.append_assoc] at same
      exact absurd (congrArg List.head? same).symm (head?_escape_append_ne isMark character _)
  | cons character others inductionHypothesis =>
    rw [List.flatMap_cons, List.append_assoc] at same
    cases right with
    | nil => exact absurd (congrArg List.head? same) (head?_escape_append_ne isMark character _)
    | cons otherCharacter rightOthers =>
      rw [List.flatMap_cons, List.append_assoc] at same
      obtain ⟨rfl, sameOthers⟩ := escape_append_inj isMark same
      obtain ⟨rfl, sameRest⟩ := inductionHypothesis sameOthers
      exact ⟨rfl, sameRest⟩

/-- A quoted text tells the text it quotes and where it ends. Its first character is the mark, and
with that every escape can be read. -/
theorem quote_append_inj
    {left right : String}
    {leftRest rightRest : List Char}
    (same : (quote left).toList ++ leftRest = (quote right).toList ++ rightRest) :
    left = right ∧ leftRest = rightRest := by
  rw [toList_quote, toList_quote, List.cons_append, List.cons_append, List.append_assoc,
    List.append_assoc] at same
  obtain ⟨sameMark, sameBody⟩ := List.cons.inj same
  rw [← sameMark] at sameBody
  obtain ⟨sameText, sameRest⟩ :=
    flatMap_escape_append_inj (isMark_quotationMark left.toList) sameBody
  exact ⟨String.toList_injective sameText, sameRest⟩

end Text

end Attachments
