import Attachments.Proofs.Json.Strings
import Attachments.Proofs.Numeral.Double

/-!
Contract: numbers are read as they were written.

Owns:
- that the parts of a number are read up to what ends it;
- that integers and numbers of double precision are read back;
- that written numbers are printable ASCII, and what they begin with.

Does not own: the values in which numbers stand.
-/

namespace Attachments

namespace Json

/-- Where a number ends: no digit, no point and no mark of a power follows. -/
def Ends (rest : List Char) : Prop :=
  ∀ character, rest.head? = some character →
    character.isDigit = false ∧ character ∉ ['.', 'e', 'E']

theorem takeWhile_digits
    {digits : List Char}
    (each : ∀ digit ∈ digits, digit.isDigit = true)
    {rest : List Char}
    (ends : ∀ character, rest.head? = some character → character.isDigit = false) :
    (digits ++ rest).takeWhile Char.isDigit = digits ∧
      (digits ++ rest).dropWhile Char.isDigit = rest := by
  rw [List.takeWhile_append_of_pos each, List.dropWhile_append_of_pos each]
  cases rest with
  | nil => simp
  | cons character others => simp [ends character rfl]

/-! ## The parts of a number -/

/-- Digits are read up to what is none. -/
theorem digits?_append
    {digits : List Char}
    (each : ∀ digit ∈ digits, digit.isDigit = true)
    (nonempty : digits ≠ [])
    {rest : List Char}
    (ends : ∀ character, rest.head? = some character → character.isDigit = false) :
    digits? (digits ++ rest) = some (digits, rest) := by
  obtain ⟨taken, dropped⟩ := takeWhile_digits each ends
  rw [digits?, taken, dropped]
  exact if_neg nonempty

theorem whole?_append
    {digits : List Char}
    (each : ∀ digit ∈ digits, digit.isDigit = true)
    (nonempty : digits ≠ [])
    (first : digits.head? = some '0' → digits = ['0'])
    {rest : List Char}
    (ends : ∀ character, rest.head? = some character → character.isDigit = false) :
    whole? (digits ++ rest) = some (digits, rest) := by
  have proper : ¬ (digits.head? = some '0' ∧ digits ≠ ['0']) := fun zero => zero.2 (first zero.1)
  simp [whole?, digits?_append each nonempty ends, proper]

theorem fraction?_of_ends
    {rest : List Char}
    (ends : ∀ character, rest.head? = some character → character ≠ '.') :
    fraction? rest = some ([], rest) := by
  match rest with
  | [] => rfl
  | character :: others =>
    have noPoint := ends character rfl
    simp [fraction?, noPoint]

theorem power?_of_ends
    {rest : List Char}
    (ends : ∀ character, rest.head? = some character → character ∉ ['e', 'E']) :
    power? rest = some (none, rest) := by
  match rest with
  | [] => rfl
  | character :: others =>
    have noMark := ends character rfl
    simp only [List.mem_cons, List.not_mem_nil, or_false, not_or] at noMark
    simp [power?, noMark.1, noMark.2]

/-! ## Numerals -/

open Numeral (Decimal isDigit_of_mem head?_toDigits_ne_zero wholeDigits)

/-- The digits of a whole number are at least as many as asked for, and write it. -/
theorem wholeDigits_reads (least amount : Nat) :
    (∀ digit ∈ wholeDigits 10 least amount, digit.isDigit = true) ∧
      wholeDigits 10 least amount ≠ [] ∧
      Nat.ofDigitChars 10 (wholeDigits 10 least amount) 0 = amount := by
  unfold wholeDigits
  refine ⟨fun digit member => ?_, ?_, ?_⟩
  · rcases List.mem_append.mp member with zero | digit
    · exact (List.eq_of_mem_replicate zero) ▸ rfl
    · exact isDigit_of_mem digit
  · simp [Nat.toDigits_ne_nil]
  · rw [Numeral.ofDigitChars_zeros_append, Nat.ofDigitChars_ten_toDigits]

def powerText : Option Int → List Char
  | none => []
  | some power => 'e' :: (if power < 0 then '-' else '+') :: wholeDigits 10 2 power.natAbs

/-- The text of the places of a numeral. -/
def fractionText (fraction : List Char) : List Char :=
  if fraction.isEmpty then [] else '.' :: fraction

theorem text_eq (numeral : Decimal) :
    numeral.text false =
      numeral.whole ++ (fractionText numeral.fraction ++ powerText numeral.power?) := by
  obtain ⟨whole, fraction, power⟩ := numeral
  cases power with
  | none => cases fraction <;> simp [Decimal.text, fractionText, powerText]
  | some power => cases fraction <;> simp [Decimal.text, fractionText, powerText]

theorem power?_powerText (power : Option Int) {rest : List Char} (ends : Ends rest) :
    power? (powerText power ++ rest) = some (power, rest) := by
  cases power with
  | none =>
    refine power?_of_ends fun character first => ?_
    have noMark := (ends character first).2
    simp only [List.mem_cons, not_or] at noMark ⊢
    exact noMark.2
  | some power =>
    obtain ⟨each, nonempty, amount⟩ := wholeDigits_reads 2 power.natAbs
    have read := digits?_append each nonempty fun character first => (ends character first).1
    by_cases negative : power < 0
    · have sign : -(power.natAbs : Int) = power := by omega
      simp only [powerText, negative, ↓reduceIte, List.cons_append, power?, signedPower?, read,
        amount, sign, Option.map_some]
    · have sign : (power.natAbs : Int) = power := by omega
      simp only [powerText, negative, ↓reduceIte, List.cons_append, power?, signedPower?, read,
        amount, sign, Option.map_some]

theorem head?_powerText
    {power : Option Int}
    {character : Char}
    {rest : List Char}
    (ends : Ends rest)
    (first : (powerText power ++ rest).head? = some character) :
    character.isDigit = false ∧ character ≠ '.' := by
  cases power with
  | none =>
    have noMark := ends character first
    simp only [List.mem_cons, not_or] at noMark
    exact ⟨noMark.1, noMark.2.1⟩
  | some power =>
    obtain rfl : 'e' = character := by simpa [powerText] using first
    decide

theorem fraction?_fractionText
    {fraction : List Char}
    (each : ∀ digit ∈ fraction, digit.isDigit = true)
    {rest : List Char}
    (ends : ∀ character, rest.head? = some character →
      character.isDigit = false ∧ character ≠ '.') :
    fraction? (fractionText fraction ++ rest) = some (fraction, rest) := by
  cases fraction with
  | nil => exact fraction?_of_ends fun character first => (ends character first).2
  | cons digit others =>
    exact digits?_append each (List.cons_ne_nil _ _) fun character first =>
      (ends character first).1

theorem head?_fractionText {fraction rest : List Char} {character : Char}
    (ends : ∀ character, rest.head? = some character →
      character.isDigit = false ∧ character ≠ '.')
    (first : (fractionText fraction ++ rest).head? = some character) :
    character.isDigit = false := by
  cases fraction with
  | nil => exact (ends character first).1
  | cons digit others =>
    obtain rfl : '.' = character := by simpa [fractionText] using first
    decide

theorem signed?_text
    (isNegative : Bool)
    {numeral : Decimal}
    (proper : numeral.IsProper)
    {rest : List Char}
    (ends : Ends rest) :
    signed? isNegative (numeral.text false ++ rest) =
      (numberOf? isNegative numeral).map fun number => (number, rest) := by
  have readPower := power?_powerText numeral.power? ends
  have behindFraction : ∀ character,
      (powerText numeral.power? ++ rest).head? = some character →
        character.isDigit = false ∧ character ≠ '.' :=
    fun character first => head?_powerText ends first
  have behindWhole : ∀ character,
      (fractionText numeral.fraction ++ (powerText numeral.power? ++ rest)).head? =
        some character → character.isDigit = false :=
    fun character first => head?_fractionText behindFraction first
  have readFraction := fraction?_fractionText proper.fraction behindFraction
  have readWhole := whole?_append proper.whole proper.nonempty proper.first behindWhole
  rw [text_eq, List.append_assoc, List.append_assoc, signed?, readWhole]
  simp only [Option.bind_eq_bind, Option.bind_some, readFraction, readPower]

/-! ## Whole numbers and numbers of double precision -/

def wholeNumeral (amount : Nat) : Decimal :=
  ⟨Nat.toDigits 10 amount, [], none⟩

theorem wholeNumeral_isProper (amount : Nat) : (wholeNumeral amount).IsProper where
  whole := fun _ member => isDigit_of_mem member
  nonempty := Nat.toDigits_ne_nil
  first := fun zero => by
    rcases Nat.eq_zero_or_pos amount with rfl | positive
    · rfl
    · exact absurd zero (head?_toDigits_ne_zero positive)
  fraction := List.forall_mem_nil _

theorem text_wholeNumeral (amount : Nat) :
    (wholeNumeral amount).text false = Nat.toDigits 10 amount := by
  simp [text_eq, wholeNumeral, fractionText, powerText]

theorem numberOf?_wholeNumeral (isNegative : Bool) (amount : Nat) :
    numberOf? isNegative (wholeNumeral amount) =
      some (.int (if isNegative then -(amount : Int) else amount)) := by
  simp [numberOf?, wholeNumeral]

/-- The numeral of a number of double precision is read as the number. -/
theorem numberOf?_numeral (number : Numeral.Double) :
    numberOf? number.isNegative number.numeral = some (.real number) := by
  have real : ¬ (number.numeral.fraction = [] ∧ number.numeral.power? = none) :=
    Classical.not_and_iff_not_or_not.mpr number.numeral_isReal
  have reads := number.ticks_numeral
  rw [Decimal.ticks] at reads
  rw [numberOf?, if_neg real, Numeral.Double.nearest?, reads, number.ofTicks?_ticks,
    Option.map_some]

def LeadsNumber (character : Char) : Prop :=
  character = '-' ∨ character.isDigit = true

/-- What a number begins with is no blank, and begins nothing else. -/
theorem LeadsNumber.ne
    {character : Char}
    (leads : LeadsNumber character) :
    isBlank character = false ∧ character ∉ ['"', '[', '\x7b', ']', '\x7d', 'n', 't', 'f'] := by
  have isBlank_eq : isBlank character = false ↔ character ∉ [' ', '\t', '\n', '\r'] := by
    simp [isBlank, and_assoc]
  rw [isBlank_eq]
  rcases leads with rfl | digit
  · decide
  · have noBlank : ∀ other ∈ [' ', '\t', '\n', '\r'], other.isDigit = false := by simp
    have noMark : ∀ other ∈ ['"', '[', '\x7b', ']', '\x7d', 'n', 't', 'f'],
        other.isDigit = false := by simp
    constructor <;> intro member
    · exact absurd digit (by simp [noBlank character member])
    · exact absurd digit (by simp [noMark character member])

def signedText (isNegative : Bool) (numeral : Decimal) : List Char :=
  (if isNegative then ['-'] else []) ++ numeral.text false

theorem toList_int (value : Int) :
    (toString value).toList =
      signedText (decide (value < 0)) (wholeNumeral value.natAbs) := by
  rw [Int.toString_eq_repr, Int.repr_eq_if, signedText, text_wholeNumeral]
  by_cases negative : value < 0
  · have absolute : (-value).toNat = value.natAbs := by omega
    simp [negative, Int.not_le.mpr negative, String.toList_append, Nat.toList_repr, absolute]
  · have absolute : value.toNat = value.natAbs := by omega
    simp [negative, Int.not_lt.mp negative, Nat.toList_repr, absolute]

theorem toList_real (number : Numeral.Double) :
    number.literal.toList = signedText number.isNegative number.numeral := by
  have sign : (if number.isNegative then "-" else "").toList =
      if number.isNegative then ['-'] else [] := by
    split <;> rfl
  rw [Numeral.Double.literal, String.toList_append, sign, String.toList_ofList, signedText]

section Proper

variable {numeral : Decimal} (proper : numeral.IsProper)
include proper

theorem text_eq_cons :
    ∃ digit others, numeral.text false = digit :: others ∧ digit.isDigit = true := by
  obtain ⟨digit, digits, spelled⟩ := List.exists_cons_of_ne_nil proper.nonempty
  rw [text_eq, spelled]
  exact ⟨digit, _, rfl, proper.whole digit (spelled ▸ List.mem_cons_self)⟩

theorem signedText_eq_cons (isNegative : Bool) :
    ∃ first others, signedText isNegative numeral = first :: others ∧ LeadsNumber first := by
  cases isNegative with
  | true => exact ⟨'-', _, rfl, .inl rfl⟩
  | false =>
    obtain ⟨digit, others, spelled, isDigit⟩ := text_eq_cons proper
    exact ⟨digit, others, spelled, .inr isDigit⟩

/-- A proper numeral with a sign is read as its number. -/
theorem number?_signedText (isNegative : Bool) {rest : List Char} (ends : Ends rest) :
    number? (signedText isNegative numeral ++ rest) =
      (numberOf? isNegative numeral).map fun number => (number, rest) := by
  rw [← signed?_text isNegative proper ends]
  cases isNegative with
  | true => rfl
  | false =>
    obtain ⟨digit, others, spelled, isDigit⟩ := text_eq_cons proper
    have notBlank : isBlank digit = false := (LeadsNumber.ne (.inr isDigit)).1
    have notSign : digit ≠ '-' := by
      rintro rfl
      exact absurd isDigit (by decide)
    simp [signedText, spelled, number?, behind?, notBlank, notSign]

end Proper

theorem number?_int (value : Int) {rest : List Char} (ends : Ends rest) :
    number? ((toString value).toList ++ rest) = some (.int value, rest) := by
  have signed : (if decide (value < 0) then -(value.natAbs : Int) else value.natAbs) = value := by
    by_cases negative : value < 0
    · rw [if_pos (decide_eq_true negative)]
      omega
    · rw [if_neg (by simpa using negative)]
      omega
  rw [toList_int, number?_signedText (wholeNumeral_isProper _) _ ends, numberOf?_wholeNumeral,
    signed, Option.map_some]

theorem number?_real (number : Numeral.Double) {rest : List Char} (ends : Ends rest) :
    number? (number.literal.toList ++ rest) = some (.real number, rest) := by
  rw [toList_real, number?_signedText number.numeral_isProper _ ends, numberOf?_numeral,
    Option.map_some]

theorem int_eq_cons (value : Int) :
    ∃ first others, (toString value).toList = first :: others ∧ LeadsNumber first := by
  rw [toList_int]
  exact signedText_eq_cons (wholeNumeral_isProper _) _

theorem real_eq_cons (number : Numeral.Double) :
    ∃ first others, number.literal.toList = first :: others ∧ LeadsNumber first := by
  rw [toList_real]
  exact signedText_eq_cons number.numeral_isProper _

/-! ## Written numbers -/

theorem isPlain_of_isDigit
    {digits : List Char}
    (each : ∀ digit ∈ digits, digit.isDigit = true) :
    IsPlain digits := by
  intro digit member
  have isDigit := each digit member
  simp only [Char.isDigit, Bool.and_eq_true, decide_eq_true_eq] at isDigit
  have least : '0'.toNat ≤ digit.toNat := isDigit.1
  have most : digit.toNat ≤ '9'.toNat := isDigit.2
  exact ⟨Nat.le_trans (by decide : ' '.toNat ≤ '0'.toNat) least,
    Nat.le_trans most (by decide : '9'.toNat ≤ '~'.toNat)⟩

theorem isPlain_signedText {numeral : Decimal} (proper : numeral.IsProper) (isNegative : Bool) :
    IsPlain (signedText isNegative numeral) := by
  have sign : IsPlain (if isNegative then ['-'] else []) := by
    cases isNegative <;> decide
  have fraction : IsPlain (fractionText numeral.fraction) := by
    unfold fractionText
    split
    · exact List.forall_mem_nil _
    · exact List.forall_mem_cons.mpr ⟨by decide, isPlain_of_isDigit proper.fraction⟩
  have power : IsPlain (powerText numeral.power?) := by
    cases numeral.power? with
    | none => exact List.forall_mem_nil _
    | some power =>
      have digits := isPlain_of_isDigit (wholeDigits_reads 2 power.natAbs).1
      refine List.forall_mem_cons.mpr ⟨by decide, List.forall_mem_cons.mpr ⟨?_, digits⟩⟩
      split <;> decide
  rw [signedText, text_eq]
  exact sign.append ((isPlain_of_isDigit proper.whole).append (fraction.append power))

theorem isPlain_int (value : Int) : IsPlain (toString value).toList := by
  rw [toList_int]
  exact isPlain_signedText (wholeNumeral_isProper _) _

theorem isPlain_real (number : Numeral.Double) : IsPlain number.literal.toList := by
  rw [toList_real]
  exact isPlain_signedText number.numeral_isProper _

end Json

end Attachments
