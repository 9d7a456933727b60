import Attachments.Datum.Json
import Attachments.Proofs.Json.Reading
import Mathlib.Algebra.Group.Nat.Defs

/-!
Contract: strings are read as they were written.

Owns:
- that four hexadecimal digits write a unit;
- the code points that the escape of a character stands for, and the character they make up again;
- that a string is read back behind its first mark, and that it is written in printable ASCII.

Does not own: the values in which strings stand.
-/

namespace Attachments

namespace Json

open Text (CodePoint Points hexDigit hexDigits)

/-! ## Units -/

theorem hexValue?_hexDigit {value : Nat} (small : value < 16) :
    hexValue? (hexDigit value) = some value := by
  revert value
  decide

theorem length_hexDigits (width value : Nat) : (hexDigits width value).length = width := by
  induction width generalizing value with
  | zero => rfl
  | succ width inductionHypothesis => simp [hexDigits, inductionHypothesis]

theorem hexNumber?_hexDigits (width : Nat) {value : Nat} (small : value < 16 ^ width) :
    hexNumber? (hexDigits width value) = some value := by
  induction width generalizing value with
  | zero =>
    obtain rfl : value = 0 := by simpa using small
    rfl
  | succ width inductionHypothesis =>
    have front : hexNumber? (hexDigits width (value / 16)) = some (value / 16) :=
      inductionHypothesis (by rw [Nat.pow_succ] at small; omega)
    have last : hexValue? (hexDigit (value % 16)) = some (value % 16) :=
      hexValue?_hexDigit (Nat.mod_lt _ (by decide))
    rw [hexNumber?] at front ⊢
    rw [hexDigits, List.foldlM_append, front]
    simp [last, Nat.div_add_mod]

theorem codePoint?_unitEscape {unit : Nat} (small : unit < 0x10000) (rest : List Char) :
    codePoint? (unitEscape unit ++ rest) = some (.ofNat unit, rest) := by
  have taken : (hexDigits 4 unit ++ rest).take 4 = hexDigits 4 unit := by simp [length_hexDigits]
  have dropped : (hexDigits 4 unit ++ rest).drop 4 = rest := by simp [length_hexDigits]
  have enough : ¬ (hexDigits 4 unit ++ rest).length < 4 := by simp [length_hexDigits]
  rw [unitEscape, List.cons_append, List.cons_append, codePoint?, if_pos rfl, escaped?, if_pos rfl,
    if_neg enough, taken, dropped, hexNumber?_hexDigits 4 small, Option.map_some]

/-! ## Characters -/

/-- The code points that the escape of a character stands for: the character itself, or the two
halves of its pair. -/
def written (character : Char) : Points :=
  let code := character.toNat
  if code < 0x10000 then [.character character]
  else [.half (0xD800 + (code - 0x10000) / 0x400), .half (0xDC00 + (code - 0x10000) % 0x400)]

theorem toNat_lt (character : Char) : character.toNat < 0x110000 := by
  have valid := character.valid
  simp only [UInt32.isValidChar, Nat.isValidChar] at valid
  have same : character.toNat = character.val.toNat := rfl
  omega

theorem ofNat_toNat (character : Char) :
    CodePoint.ofNat character.toNat = .character character := by
  have valid := character.valid
  simp only [UInt32.isValidChar, Nat.isValidChar] at valid
  have same : character.toNat = character.val.toNat := rfl
  have whole : (Text.isFirstOfPair character.toNat || Text.isSecondOfPair character.toNat) =
      false := by
    simp only [Text.isFirstOfPair, Text.isSecondOfPair, Bool.or_eq_false_iff, Bool.and_eq_false_iff,
      decide_eq_false_iff_not]
    omega
  rw [CodePoint.ofNat, whole, Char.ofNat_toNat]
  rfl

theorem ofNat_firstOfPair {offset : Nat} (small : offset < 0x400) :
    CodePoint.ofNat (0xD800 + offset) = .half (0xD800 + offset) := by
  have isHalf : Text.isFirstOfPair (0xD800 + offset) = true := by
    simp only [Text.isFirstOfPair, Bool.and_eq_true, decide_eq_true_eq]
    omega
  rw [CodePoint.ofNat, isHalf]
  rfl

theorem ofNat_secondOfPair {offset : Nat} (small : offset < 0x400) :
    CodePoint.ofNat (0xDC00 + offset) = .half (0xDC00 + offset) := by
  have isHalf : Text.isSecondOfPair (0xDC00 + offset) = true := by
    simp only [Text.isSecondOfPair, Bool.and_eq_true, decide_eq_true_eq]
    omega
  rw [CodePoint.ofNat, isHalf, Bool.or_true]
  rfl

/-- The two halves of a pair make up the character that they were taken from. -/
theorem pairCharacter_halves {character : Char} (beyond : ¬ character.toNat < 0x10000) :
    Text.pairCharacter (0xD800 + (character.toNat - 0x10000) / 0x400)
      (0xDC00 + (character.toNat - 0x10000) % 0x400) = character := by
  have code : 0x10000 + 0x400 * (0xD800 + (character.toNat - 0x10000) / 0x400 - 0xD800) +
      (0xDC00 + (character.toNat - 0x10000) % 0x400 - 0xDC00) = character.toNat := by
    omega
  rw [Text.pairCharacter, code, Char.ofNat_toNat]

/-- Put together, the code points of a text are its characters. -/
theorem joined_written (characters : List Char) :
    joined (characters.flatMap written) = characters.map .character := by
  induction characters with
  | nil => rfl
  | cons character rest inductionHypothesis =>
    rw [List.flatMap_cons, List.map_cons, ← inductionHypothesis]
    by_cases single : character.toNat < 0x10000
    · rw [written, if_pos single]
      rfl
    · have most := toNat_lt character
      have halves : (Text.isFirstOfPair (0xD800 + (character.toNat - 0x10000) / 0x400) &&
          Text.isSecondOfPair (0xDC00 + (character.toNat - 0x10000) % 0x400)) = true := by
        simp only [Text.isFirstOfPair, Text.isSecondOfPair, Bool.and_eq_true, decide_eq_true_eq]
        omega
      rw [written, if_neg single, List.cons_append, List.singleton_append, joined, if_pos halves,
        pairCharacter_halves single]

/-! ## Reading strings -/

theorem codePoints?_of_codePoint?
    {text rest : List Char}
    {point : CodePoint}
    (read : codePoint? text = some (point, rest))
    (noEnd : text.head? ≠ some '"')
    (fuel : Nat) :
    codePoints? (fuel + 1) text =
      (codePoints? fuel rest).map fun (points, rest) => (point :: points, rest) := by
  rw [codePoints?, if_neg noEnd, read]
  rfl

theorem codePoints?_pair
    {first second : Nat}
    (firstSmall : first < 0x400)
    (secondSmall : second < 0x400)
    (fuel : Nat)
    (rest : List Char) :
    codePoints? (fuel + 2) ((unitEscape (0xD800 + first) ++ unitEscape (0xDC00 + second)) ++ rest) =
      (codePoints? fuel rest).map fun (points, rest) =>
        (.half (0xD800 + first) :: .half (0xDC00 + second) :: points, rest) := by
  have readSecond : codePoint? (unitEscape (0xDC00 + second) ++ rest) =
      some (.half (0xDC00 + second), rest) := by
    rw [codePoint?_unitEscape (by omega), ofNat_secondOfPair secondSmall]
  have readFirst : codePoint?
      (unitEscape (0xD800 + first) ++ (unitEscape (0xDC00 + second) ++ rest)) =
        some (.half (0xD800 + first), unitEscape (0xDC00 + second) ++ rest) := by
    rw [codePoint?_unitEscape (by omega), ofNat_firstOfPair firstSmall]
  rw [List.append_assoc, codePoints?_of_codePoint? readFirst (by simp [unitEscape]),
    codePoints?_of_codePoint? readSecond (by simp [unitEscape]), Option.map_map]
  rfl

/-- The escape of a character is read as the code points that it stands for. -/
theorem codePoints?_escape (character : Char) (fuel : Nat) (rest : List Char) :
    codePoints? (fuel + (written character).length) (escape character ++ rest) =
      (codePoints? fuel rest).map fun (points, rest) => (written character ++ points, rest) := by
  unfold escape
  split
  case h_8 notMark notBackslash _ _ _ _ _ =>
    by_cases printable : 0x20 ≤ character.toNat ∧ character.toNat < 0x7F
    · have alone : written character = [.character character] := if_pos (by omega)
      have notControl : ¬ character < ' ' := by
        intro control
        have before : character.toNat < 0x20 := control
        omega
      have read : codePoint? (character :: rest) = some (.character character, rest) := by
        rw [codePoint?, if_neg (by simpa using notBackslash), if_neg notControl]
      rw [if_pos printable, alone]
      exact codePoints?_of_codePoint? read (by simpa using notMark) fuel
    · rw [if_neg printable]
      by_cases single : character.toNat < 0x10000
      · have alone : written character = [.character character] := if_pos single
        have read := codePoint?_unitEscape single rest
        rw [ofNat_toNat] at read
        rw [if_pos single, alone]
        exact codePoints?_of_codePoint? read (by simp [unitEscape]) fuel
      · have most := toNat_lt character
        have pair : written character =
            [.half (0xD800 + (character.toNat - 0x10000) / 0x400),
              .half (0xDC00 + (character.toNat - 0x10000) % 0x400)] := if_neg single
        rw [if_neg single, pair]
        exact codePoints?_pair (by omega) (by omega) fuel rest
  all_goals exact codePoints?_of_codePoint? rfl (by simp) fuel

theorem codePoints?_text (characters : List Char) (fuel : Nat) (rest : List Char) :
    codePoints? (fuel + (characters.flatMap written).length) (characters.flatMap escape ++ rest) =
      (codePoints? fuel rest).map fun (points, rest) =>
        (characters.flatMap written ++ points, rest) := by
  induction characters generalizing fuel with
  | nil => simp
  | cons character others inductionHypothesis =>
    have enough : fuel + ((character :: others).flatMap written).length =
        fuel + (others.flatMap written).length + (written character).length := by
      rw [List.flatMap_cons, List.length_append]
      omega
    rw [enough, List.flatMap_cons, List.append_assoc, codePoints?_escape, inductionHypothesis,
      Option.map_map]
    congr 1
    funext ⟨points, rest⟩
    simp [List.flatMap_cons]

/-- An escape takes up at least as many characters as it stands for code points. -/
theorem length_written_le (character : Char) :
    (written character).length ≤ (escape character).length := by
  unfold escape
  split
  case h_8 =>
    by_cases printable : 0x20 ≤ character.toNat ∧ character.toNat < 0x7F
    · rw [if_pos printable, written, if_pos (by omega)]
      exact Nat.le_refl 1
    · have atMostTwo : (written character).length ≤ 2 := by
        by_cases single : character.toNat < 0x10000 <;> simp [written, single]
      have atLeastTwo (unit : Nat) : 2 ≤ (unitEscape unit).length := by simp [unitEscape]
      rw [if_neg printable]
      split
      · exact Nat.le_trans atMostTwo (atLeastTwo _)
      · rw [List.length_append]
        exact Nat.le_trans atMostTwo (Nat.le_add_right_of_le (atLeastTwo _))
  all_goals decide

theorem length_flatMap_written_le (characters : List Char) :
    (characters.flatMap written).length ≤ (characters.flatMap escape).length := by
  induction characters with
  | nil => exact Nat.le_refl 0
  | cons character rest inductionHypothesis =>
    have first := length_written_le character
    simp only [List.flatMap_cons, List.length_append]
    omega

theorem toList_quote (text : String) :
    (quote text).toList = '"' :: (text.toList.flatMap escape ++ ['"']) := by
  rw [quote, String.toList_ofList, List.cons_append]

/-- A string is read back behind its first mark, with as much fuel as it takes up characters. -/
theorem string?_quoted
    (text : String)
    {fuel : Nat}
    (enough : (text.toList.flatMap escape).length < fuel)
    (rest : List Char) :
    string? fuel (text.toList.flatMap escape ++ '"' :: rest) = some (text, rest) := by
  have most := length_flatMap_written_le text.toList
  obtain ⟨left, rfl⟩ : ∃ left, fuel = (left + 1) + (text.toList.flatMap written).length :=
    ⟨fuel - 1 - (text.toList.flatMap written).length, by omega⟩
  have ended : codePoints? (left + 1) ('"' :: rest) = some ([], rest) := rfl
  have whole : CodePoint.whole? (joined (text.toList.flatMap written)) = some text := by
    rw [joined_written]
    exact CodePoint.whole?_points text
  rw [string?, codePoints?_text, ended]
  simp [whole]

/-! ## Written strings -/

/-- A text of printable ASCII, which stands on one line. -/
def IsPlain (text : List Char) : Prop :=
  ∀ character ∈ text, ' ' ≤ character ∧ character ≤ '~'

instance (text : List Char) : Decidable (IsPlain text) :=
  List.decidableBAll _ text

theorem IsPlain.append
    {text other : List Char}
    (plain : IsPlain text)
    (otherPlain : IsPlain other) :
    IsPlain (text ++ other) :=
  List.forall_mem_append.mpr ⟨plain, otherPlain⟩

theorem isPlain_hexDigits (width value : Nat) : IsPlain (hexDigits width value) := by
  have digits : ∀ value < 16, IsPlain [hexDigit value] := by decide
  induction width generalizing value with
  | zero => exact List.forall_mem_nil _
  | succ width inductionHypothesis =>
    exact (inductionHypothesis _).append (digits _ (Nat.mod_lt _ (by decide)))

theorem isPlain_unitEscape (unit : Nat) : IsPlain (unitEscape unit) := by
  have mark : IsPlain ['\\', 'u'] := by decide
  exact mark.append (isPlain_hexDigits 4 unit)

theorem isPlain_escape (character : Char) : IsPlain (escape character) := by
  unfold escape
  split
  case h_8 =>
    by_cases printable : 0x20 ≤ character.toNat ∧ character.toNat < 0x7F
    · rw [if_pos printable]
      have least : ' '.toNat ≤ character.toNat := printable.1
      have most : character.toNat ≤ '~'.toNat := Nat.le_of_lt_succ printable.2
      exact List.forall_mem_singleton.mpr ⟨least, most⟩
    · rw [if_neg printable]
      split
      · exact isPlain_unitEscape _
      · exact (isPlain_unitEscape _).append (isPlain_unitEscape _)
  all_goals decide

theorem isPlain_quote (text : String) : IsPlain (quote text).toList := by
  have mark : IsPlain ['"'] := by decide
  have body : IsPlain (text.toList.flatMap escape) := by
    intro letter member
    obtain ⟨character, -, inEscape⟩ := List.mem_flatMap.mp member
    exact isPlain_escape character letter inEscape
  rw [toList_quote]
  exact mark.append (body.append mark)

end Json

end Attachments
