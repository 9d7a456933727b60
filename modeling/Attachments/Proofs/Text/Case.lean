import Attachments.Text.Case
import Mathlib.Data.List.Basic
import Mathlib.Data.List.Forall2

/-!
Contract: what the case mappings make of a text as a whole.

Owns:
- texts that differ in the case of ASCII letters at most, which have the same small letters;
- characters that part a text, so that what stands before and behind them is lowered for itself;
- the characters that are written for a capital letter, and the texts whose capital letters are a
  given word.

Does not own: the tables.
-/

namespace Attachments

namespace Text

/-! ## The letters of ASCII -/

/-- The codes of the capital letters of ASCII. -/
def capitalCodes : List Nat :=
  List.range' 0x41 26

/-- Whether a character is a capital letter of ASCII. -/
def isCapital (character : Char) : Bool :=
  decide (character.toNat ∈ capitalCodes)

theorem mem_capitalCodes {letter : Char} (capital : isCapital letter = true) :
    letter.toNat ∈ capitalCodes :=
  of_decide_eq_true capital

theorem exists_code {letter : Char} (capital : isCapital letter = true) :
    ∃ code ∈ capitalCodes, Char.ofNat code = letter :=
  ⟨letter.toNat, mem_capitalCodes capital, Char.ofNat_toNat letter⟩

/-- A character that is no capital letter of ASCII is small already. -/
theorem toLower_eq_of_not_isCapital {character : Char} (noCapital : isCapital character = false) :
    character.toLower = character := by
  refine dif_neg fun between => ?_
  have least : 0x41 ≤ character.toNat := between.1
  have most : character.toNat ≤ 0x5A := between.2
  have member : character.toNat ∈ capitalCodes :=
    List.mem_range'_1.mpr ⟨least, Nat.lt_succ_of_le most⟩
  exact absurd member (of_decide_eq_false noCapital)

/-- What does not tell the capital letters of ASCII from the small ones does not depend on the case
of ASCII letters. -/
theorem apply_toLower
    {Result : Type}
    (aspect : Char → Result)
    (same : ∀ code ∈ capitalCodes, aspect (Char.ofNat code).toLower = aspect (Char.ofNat code))
    (character : Char) :
    aspect character.toLower = aspect character := by
  cases capital : isCapital character with
  | false => rw [toLower_eq_of_not_isCapital capital]
  | true =>
    obtain ⟨code, member, rfl⟩ := exists_code capital
    exact same code member

/-- Two texts differ in the case of ASCII letters at most. -/
def SameLetters (text other : List Char) : Prop :=
  text.map Char.toLower = other.map Char.toLower

instance (text other : List Char) : Decidable (SameLetters text other) :=
  inferInstanceAs (Decidable (text.map Char.toLower = other.map Char.toLower))

/-! ## Small letters -/

theorem meetsCased_cons (character : Char) (rest : List Char) :
    meetsCased (character :: rest) =
      if isCaseIgnorable character then meetsCased rest else isCased character := by
  rw [meetsCased, List.dropWhile_cons]
  split <;> rfl

theorem lowerFrom_cons (before : List Char) (character : Char) (after : List Char) :
    lowerFrom before (character :: after) =
      (if character = 'Σ' then
          [if meetsCased before && !meetsCased after then 'ς' else 'σ']
        else
          lowerOf character) ++
        lowerFrom (character :: before) after :=
  rfl

theorem lowerOf_toLower (character : Char) : lowerOf character.toLower = lowerOf character :=
  apply_toLower lowerOf (by decide +kernel) character

theorem isCased_toLower (character : Char) : isCased character.toLower = isCased character :=
  apply_toLower isCased (by decide +kernel) character

theorem isCaseIgnorable_toLower (character : Char) :
    isCaseIgnorable character.toLower = isCaseIgnorable character :=
  apply_toLower isCaseIgnorable (by decide +kernel) character

theorem toLower_eq_sigma_iff (character : Char) :
    character.toLower = 'Σ' ↔ character = 'Σ' := by
  have same := apply_toLower (· == 'Σ') (by decide +kernel) character
  rw [← beq_iff_eq, same, beq_iff_eq]

theorem meetsCased_map_toLower (text : List Char) :
    meetsCased (text.map Char.toLower) = meetsCased text := by
  induction text with
  | nil => rfl
  | cons character rest inductionHypothesis =>
    rw [List.map_cons, meetsCased_cons, meetsCased_cons, isCaseIgnorable_toLower,
      isCased_toLower, inductionHypothesis]

theorem lowerFrom_map_toLower (before text : List Char) :
    lowerFrom (before.map Char.toLower) (text.map Char.toLower) = lowerFrom before text := by
  induction text generalizing before with
  | nil => rfl
  | cons character after inductionHypothesis =>
    have rest := inductionHypothesis (character :: before)
    rw [List.map_cons] at rest
    rw [List.map_cons, lowerFrom_cons, lowerFrom_cons, rest, meetsCased_map_toLower,
      meetsCased_map_toLower, lowerOf_toLower]
    simp only [toLower_eq_sigma_iff]

theorem SameLetters.lowerCase_eq {text other : List Char} (same : SameLetters text other) :
    lowerCase text = lowerCase other := by
  have lowered (letters : List Char) : lowerCase letters = lowerCase (letters.map Char.toLower) :=
    (lowerFrom_map_toLower [] letters).symm
  rw [lowered text, lowered other, same]

/-! ## Characters that part a text -/

/-- Whether a character parts a text: it is no cased letter, and it is not skipped when the end of a
word is looked for. -/
def IsParting (character : Char) : Prop :=
  isCased character = false ∧ isCaseIgnorable character = false

instance (character : Char) : Decidable (IsParting character) :=
  inferInstanceAs (Decidable (isCased character = false ∧ isCaseIgnorable character = false))

section IsParting

variable {parting : Char} (isParting : IsParting parting)
include isParting

theorem IsParting.ne_sigma : parting ≠ 'Σ' := by
  rintro rfl
  exact absurd isParting (by decide +kernel)

/-- No cased letter is met beyond a character that parts a text. -/
theorem IsParting.meetsCased_append (text others : List Char) :
    meetsCased (text ++ parting :: others) = meetsCased text := by
  induction text with
  | nil =>
    rw [List.nil_append, meetsCased_cons, if_neg (by simp [isParting.2]), isParting.1]
    rfl
  | cons character rest inductionHypothesis =>
    rw [List.cons_append, meetsCased_cons, meetsCased_cons, inductionHypothesis]

/-- What is lowered does not depend on what stands in front of a character that parts a text. -/
theorem IsParting.lowerFrom_append (before others text : List Char) :
    lowerFrom (before ++ parting :: others) text = lowerFrom before text := by
  induction text generalizing before with
  | nil => rfl
  | cons character after inductionHypothesis =>
    rw [lowerFrom_cons, lowerFrom_cons, isParting.meetsCased_append, ← List.cons_append,
      inductionHypothesis]

/-- What stands before a character that parts a text and what stands behind it are lowered apart. -/
theorem IsParting.lowerFrom_parted (before first second : List Char) :
    lowerFrom before (first ++ parting :: second) =
      lowerFrom before first ++ lowerOf parting ++ lowerCase second := by
  induction first generalizing before with
  | nil =>
    have behind := isParting.lowerFrom_append [] before second
    rw [List.nil_append] at behind
    rw [List.nil_append, lowerFrom_cons, if_neg isParting.ne_sigma, behind, lowerFrom, lowerCase,
      List.nil_append]
  | cons character rest inductionHypothesis =>
    rw [List.cons_append, lowerFrom_cons, lowerFrom_cons, isParting.meetsCased_append,
      inductionHypothesis]
    simp only [List.append_assoc]

theorem IsParting.lowerCase_parted (first second : List Char) :
    lowerCase (first ++ parting :: second) =
      lowerCase first ++ lowerOf parting ++ lowerCase second :=
  isParting.lowerFrom_parted [] first second

end IsParting

/-! ## Capital letters -/

/-- A character has the upper case that one of the tables lists, or is its own upper case. -/
theorem upperOf_cases (character : Char) :
    (∃ expansion ∈ upperExpansions, upperOf character = expansion.image.map Char.ofNat) ∨
      (∃ run ∈ upperRuns, ∃ code,
        run.image? character.toNat = some code ∧ upperOf character = [Char.ofNat code]) ∨
      upperOf character = [character] := by
  unfold upperOf mapCase
  split
  · next expansion found => exact .inl ⟨expansion, List.mem_of_find?_eq_some found, rfl⟩
  · split
    · next code found =>
      obtain ⟨run, member, image⟩ := List.exists_of_findSome?_eq_some found
      exact .inr (.inl ⟨run, member, code, image, rfl⟩)
    · exact .inr (.inr rfl)

/-- A character is written for a capital letter: the letter itself, its small letter or, for an I,
the small letter without a dot. -/
inductive WrittenFor : Char → Char → Prop where
  | capital (letter : Char) : WrittenFor letter letter
  | small (letter : Char) : WrittenFor letter letter.toLower
  | dotless : WrittenFor 'I' 'ı'

theorem upperOf_of_writtenFor
    {letter character : Char}
    (capital : isCapital letter = true)
    (written : WrittenFor letter character) :
    upperOf character = [letter] := by
  have itself : ∀ code ∈ capitalCodes, upperOf (Char.ofNat code) = [Char.ofNat code] := by
    decide +kernel
  have fromSmall : ∀ code ∈ capitalCodes,
      upperOf (Char.ofNat code).toLower = [Char.ofNat code] := by
    decide +kernel
  obtain ⟨code, member, same⟩ := exists_code capital
  cases written with
  | capital => exact same ▸ itself code member
  | small => exact same ▸ fromSmall code member
  | dotless => decide +kernel

/-- Of the runs, only that of the small letters of ASCII, the I without a dot and the long S lead to
letters of ASCII. -/
theorem upperRuns_cases :
    ∀ run ∈ upperRuns,
      run = ⟨0x61, 0x7A, 1, -32⟩ ∨ run = ⟨0x131, 0x131, 1, -232⟩ ∨
        run = ⟨0x17F, 0x17F, 1, -300⟩ ∨ 'Z'.toNat < run.first + run.shift := by
  decide +kernel

theorem code_le_of_isCapital {code : Nat} (capital : isCapital (Char.ofNat code) = true) :
    code ≤ 'Z'.toNat := by
  by_cases valid : code.isValidChar
  · have number : (Char.ofNat code).toNat = code := by
      rw [Char.ofNat, dif_pos valid]
      rfl
    have member := mem_capitalCodes capital
    rw [number, capitalCodes, List.mem_range'_1] at member
    exact Nat.le_of_lt_succ member.2
  · have null : Char.ofNat code = '\x00' := dif_neg valid
    rw [null] at capital
    contradiction

/-- What a run leads to from a character is written so, the long S apart. -/
theorem writtenFor_of_run
    {run : CaseRun}
    (member : run ∈ upperRuns)
    {character : Char}
    {code : Nat}
    (image : run.image? character.toNat = some code)
    (capital : isCapital (Char.ofNat code) = true)
    (noS : Char.ofNat code ≠ 'S') :
    WrittenFor (Char.ofNat code) character := by
  have within := code_le_of_isCapital capital
  rw [CaseRun.image?] at image
  split at image
  case isFalse => contradiction
  case isTrue inside =>
  obtain ⟨least, most, -⟩ := inside
  obtain rfl := Option.some.inj image
  rcases upperRuns_cases run member with rfl | rfl | rfl | beyond
  · have fromSmall : ∀ small ∈ List.range' 0x61 26,
        (Char.ofNat (small + (-32 : Int)).toNat).toLower = Char.ofNat small := by
      decide
    have small := fromSmall character.toNat
      (List.mem_range'_1.mpr ⟨least, Nat.lt_succ_of_le most⟩)
    rw [Char.ofNat_toNat] at small
    have written := WrittenFor.small (Char.ofNat (character.toNat + (-32 : Int)).toNat)
    rwa [small] at written
  · have dotless : character.toNat = 0x131 := Nat.le_antisymm most least
    rw [← Char.ofNat_toNat character, dotless]
    exact .dotless
  · have long : character.toNat = 0x17F := Nat.le_antisymm most least
    rw [long] at noS
    exact absurd rfl noS
  · omega

/-- Characters that are each written for one letter are written for their capital letters. -/
theorem writtenFor_upperCase
    {text : List Char}
    (single : ∀ character ∈ text,
      ∃ letter, upperOf character = [letter] ∧ WrittenFor letter character) :
    List.Forall₂ WrittenFor (upperCase text) text := by
  induction text with
  | nil => exact .nil
  | cons character rest inductionHypothesis =>
    rw [List.forall_mem_cons] at single
    obtain ⟨⟨letter, image, writtenFor⟩, others⟩ := single
    rw [upperCase, List.flatMap_cons, image]
    exact .cons writtenFor (inductionHypothesis others)

/-- A word of capital letters is spelled letter by letter: no character expands into a part of it,
and it has no S, which can also be written long. -/
structure SpelledByLetter (word : List Char) : Prop where
  letters : word.all (fun letter => isCapital letter && letter != 'S') = true
  unexpanded : ∀ expansion ∈ upperExpansions, ¬ expansion.image.map Char.ofNat <:+: word

namespace SpelledByLetter

variable {word : List Char} (spelled : SpelledByLetter word)
include spelled

theorem writtenFor_of_infix {character : Char} (part : upperOf character <:+: word) :
    ∃ letter, upperOf character = [letter] ∧ WrittenFor letter character := by
  rcases upperOf_cases character with
    ⟨expansion, isExpansion, image⟩ | ⟨run, isRun, code, found, image⟩ | itself
  · exact absurd (image ▸ part) (spelled.unexpanded expansion isExpansion)
  · have inWord : Char.ofNat code ∈ word :=
      part.subset (image ▸ List.mem_singleton_self (Char.ofNat code))
    have isLetter := List.all_eq_true.mp spelled.letters _ inWord
    rw [Bool.and_eq_true, bne_iff_ne] at isLetter
    exact ⟨_, image, writtenFor_of_run isRun found isLetter.1 isLetter.2⟩
  · exact ⟨character, itself, .capital character⟩

theorem upperCase_of_writtenFor
    {text : List Char}
    (written : List.Forall₂ WrittenFor word text) :
    upperCase text = word := by
  have letters := spelled.letters
  clear spelled
  induction written with
  | nil => rfl
  | cons writtenFor _ inductionHypothesis =>
    rw [List.all_cons, Bool.and_eq_true, Bool.and_eq_true] at letters
    rw [upperCase, List.flatMap_cons, upperOf_of_writtenFor letters.1.1 writtenFor, ← upperCase,
      inductionHypothesis letters.2, List.singleton_append]

/-- A text has the word as its capital letters exactly if it is written for it letter by letter. -/
theorem upperCase_eq_iff (text : List Char) :
    upperCase text = word ↔ List.Forall₂ WrittenFor word text := by
  refine ⟨?_, spelled.upperCase_of_writtenFor⟩
  intro upper
  have single : ∀ character ∈ text,
      ∃ letter, upperOf character = [letter] ∧ WrittenFor letter character := by
    intro character member
    have part : upperOf character <:+: upperCase text := List.infix_flatMap_of_mem member upperOf
    exact spelled.writtenFor_of_infix (upper ▸ part)
  exact upper ▸ writtenFor_upperCase single

end SpelledByLetter

end Text

end Attachments
