import Attachments.Numeral.Double
import Mathlib.Algebra.Group.Nat.Defs

/-!
Contract: numbers of double precision and their shortest numerals.

Owns:
- that the number nearest to a decimal one depends on its value alone, and not on zeros at the end
  of its digits;
- that the shortest digits of a number stand for it, and begin with no zero unless it is zero;
- that the numeral of a number is a proper one, and stands for the number.

Does not own: the texts of numerals, and how texts are read.
-/

namespace Attachments.Numeral

/-! ## Decimal digits -/

theorem isDigit_of_mem {amount : Nat} {digit : Char} (member : digit ∈ Nat.toDigits 10 amount) :
    digit.isDigit = true :=
  Nat.isDigit_of_mem_toDigits (by decide) (by decide) member

/-- Only zero is written with a zero in front. -/
theorem head?_toDigits_ne_zero {amount : Nat} (positive : 0 < amount) :
    (Nat.toDigits 10 amount).head? ≠ some '0' := by
  induction amount using Nat.strongRecOn with
  | ind amount inductionHypothesis =>
    rw [Nat.toDigits_eq_if (by decide)]
    split
    next small =>
      have digits : ∀ digit < 10, 0 < digit → [Nat.digitChar digit].head? ≠ some '0' := by decide
      exact digits amount small positive
    next large =>
      have front := inductionHypothesis (amount / 10) (by omega) (by omega)
      rw [List.head?_append]
      cases first : (Nat.toDigits 10 (amount / 10)).head? with
      | none => exact absurd (List.head?_eq_none_iff.mp first) Nat.toDigits_ne_nil
      | some digit => simpa [first] using front

/-- Zeros behind digits multiply what they write. -/
theorem ofDigitChars_append_zeros (digits : List Char) (zeros : Nat) :
    Nat.ofDigitChars 10 (digits ++ List.replicate zeros '0') 0 =
      Nat.ofDigitChars 10 digits 0 * 10 ^ zeros := by
  rw [Nat.ofDigitChars_append, Nat.ofDigitChars_replicate_zero, Nat.mul_comm]

/-- Zeros in front of digits make no difference. -/
theorem ofDigitChars_zeros_append (zeros : Nat) (digits : List Char) :
    Nat.ofDigitChars 10 (List.replicate zeros '0' ++ digits) 0 =
      Nat.ofDigitChars 10 digits 0 := by
  rw [Nat.ofDigitChars_append, Nat.ofDigitChars_replicate_zero, Nat.mul_zero]

/-! ## The nearest number -/

/-- Two ways to write a ratio have the same nearest amount. -/
theorem nearestWithBits_congr
    (bits : Nat)
    {numerator denominator otherNumerator otherDenominator : Nat}
    (positive : 0 < denominator)
    (otherPositive : 0 < otherDenominator)
    (sameRatio : numerator * otherDenominator = otherNumerator * denominator) :
    nearestWithBits bits numerator denominator =
      nearestWithBits bits otherNumerator otherDenominator := by
  rw [← nearestWithBits_mul bits numerator denominator otherPositive, sameRatio,
    Nat.mul_comm denominator, nearestWithBits_mul bits _ _ positive]

/-- A zero more at the end of an amount goes with a power of ten less. -/
theorem nearestTicks_scale (amount places : Nat) (power : Int) :
    nearestTicks (amount * 10 ^ places) (power - places) = nearestTicks amount power := by
  have positive (exponent : Nat) : 0 < 10 ^ exponent := Nat.pow_pos (by decide)
  apply nearestWithBits_congr 53 (positive _) (positive _)
  have exponents : places + ((power - places).toNat + (-power).toNat) =
      power.toNat + (-(power - places)).toNat := by
    omega
  have scaled : wholeTicks (amount * 10 ^ places) = wholeTicks amount * 10 ^ places :=
    Nat.mul_right_comm amount (10 ^ places) (2 ^ tickPlace)
  rw [scaled, Nat.pow_eq, Nat.pow_eq, Nat.mul_assoc, Nat.mul_assoc,
    Nat.mul_assoc, ← Nat.pow_add, ← Nat.pow_add, ← Nat.pow_add, exponents]

/-! ## Significant digits -/

/-- Digits of which the first is no zero, or zero alone. -/
structure Significant.Leads (leading : Significant) : Prop where
  each : ∀ digit ∈ leading.digits, digit.isDigit = true
  nonempty : leading.digits ≠ []
  first : leading.digits.head? = some '0' → leading = ⟨['0'], 0⟩

theorem nearestQuotient_pos {amount unit : Nat} (positive : 0 < unit) (enough : unit ≤ amount) :
    0 < nearestQuotient amount unit := by
  have below : 0 < amount / unit := Nat.div_pos enough positive
  unfold nearestQuotient
  dsimp only
  split
  · exact Nat.succ_pos _
  · exact below

/-- The power of ten at which the digits of an amount are cut is no greater than the amount. -/
theorem pow_spare_le {count amount : Nat} (some : 0 < count) (positive : 0 < amount) :
    10 ^ ((Nat.toDigits 10 amount).length - count) ≤ amount := by
  by_cases short : (Nat.toDigits 10 amount).length ≤ count
  · rw [Nat.sub_eq_zero_of_le short]
    exact positive
  · have spare : 0 < (Nat.toDigits 10 amount).length - count := by omega
    have longer : ¬ (Nat.toDigits 10 amount).length ≤
        (Nat.toDigits 10 amount).length - count := by omega
    rw [Nat.length_toDigits_le_iff (by decide) spare] at longer
    exact Nat.le_of_not_lt longer

theorem significant_leads {count : Nat} (some : 0 < count) (place amount : Nat) :
    (significant count place amount).Leads := by
  unfold significant
  split
  · exact ⟨List.forall_mem_singleton.mpr rfl, List.cons_ne_nil _ _, fun _ => rfl⟩
  next notZero =>
    have unit : 0 < Nat.pow 10 ((Nat.toDigits 10 amount).length - count) :=
      Nat.pow_pos (by decide)
    have positive := nearestQuotient_pos unit (pow_spare_le some (Nat.pos_of_ne_zero notZero))
    refine ⟨fun digit member => isDigit_of_mem (List.mem_of_mem_take member), ?_, fun zero => ?_⟩
    · intro none
      rcases List.take_eq_nil_iff.mp none with noCount | noDigits
      · omega
      · exact Nat.toDigits_ne_nil noDigits
    · rw [List.head?_take, if_neg (by omega)] at zero
      exact absurd zero (head?_toDigits_ne_zero positive)

/-- As many digits as there are write an amount exactly. -/
theorem significant_all (place : Nat) {amount : Nat} (notZero : amount ≠ 0) :
    significant (Nat.toDigits 10 amount).length place amount =
      ⟨Nat.toDigits 10 amount,
        Int.ofNat (Nat.toDigits 10 amount).length - Int.ofNat (place + 1)⟩ := by
  have exact : nearestQuotient amount 1 = amount := by
    simp [nearestQuotient, Nat.mod_one]
  rw [significant, if_neg notZero]
  simp only [Nat.sub_self, Nat.pow_eq, Nat.pow_zero, exact, List.take_length, Nat.add_zero]

/-- Digits that write an amount in a decimal place stand for it. -/
theorem ticksOf_toDigits (place amount : Nat) :
    Double.ticksOf ⟨Nat.toDigits 10 amount,
        Int.ofNat (Nat.toDigits 10 amount).length - Int.ofNat (place + 1)⟩ =
      nearestTicks amount (-place) := by
  have some : 0 < (Nat.toDigits 10 amount).length := List.length_pos_iff.mpr Nat.toDigits_ne_nil
  have power : Int.ofNat (Nat.toDigits 10 amount).length - Int.ofNat (place + 1) -
      ((Nat.toDigits 10 amount).length - 1 : Nat) = -(place : Int) := by
    simp only [Int.ofNat_eq_natCast]
    omega
  rw [Double.ticksOf, power, Nat.ofDigitChars_ten_toDigits]

namespace Double

/-- The shortest digits are as many as were tried, and are read as the number; or they are all. -/
theorem shortest_cases (ticks : Nat) :
    (∃ count, shortest ticks = significant (count + 1) tickPlace (decimalAmount ticks) ∧
        ticksOf (shortest ticks) = ticks) ∨
      shortest ticks = allDigits ticks := by
  cases found : (List.range 17).findSome? (digitsBehind? ticks) with
  | none =>
    right
    rw [shortest, found, Option.getD_none]
  | some leading =>
    left
    obtain ⟨count, -, tried⟩ := List.exists_of_findSome?_eq_some found
    rw [shortest, found, Option.getD_some]
    unfold digitsBehind? at tried
    dsimp only at tried
    split at tried
    next reads =>
      obtain rfl := Option.some.inj tried
      exact ⟨count, rfl, reads⟩
    next => contradiction

theorem shortest_leads (ticks : Nat) : (shortest ticks).Leads := by
  rcases shortest_cases ticks with ⟨count, same, -⟩ | all
  · rw [same]
    exact significant_leads (Nat.succ_pos count) _ _
  · rw [all]
    exact significant_leads (List.length_pos_iff.mpr Nat.toDigits_ne_nil) _ _

/-- The amount of a number of ticks in the decimal place of a tick is the number itself. -/
theorem nearestTicks_decimalAmount {ticks : Nat} (short : nearestWithBits 53 ticks 1 = ticks) :
    nearestTicks (decimalAmount ticks) (-tickPlace) = ticks := by
  have positive : 0 < 10 ^ tickPlace := Nat.pow_pos (by decide)
  have whole : wholeTicks (decimalAmount ticks) = ticks * 10 ^ tickPlace := by
    rw [wholeTicks, decimalAmount, Nat.mul_assoc, Nat.pow_eq, Nat.pow_eq, ← Nat.mul_pow]
  have scaled := nearestWithBits_mul 53 ticks 1 positive
  rw [Nat.one_mul] at scaled
  rw [nearestTicks, whole, Int.neg_neg, Int.toNat_natCast, Int.toNat_neg_natCast, Nat.pow_eq,
    Nat.pow_eq, Nat.pow_zero, Nat.mul_one, scaled, short]

/-- All digits of a number stand for it exactly. -/
theorem ticksOf_allDigits {ticks : Nat} (short : nearestWithBits 53 ticks 1 = ticks) :
    ticksOf (allDigits ticks) = ticks := by
  by_cases zero : ticks = 0
  · have nothing : decimalAmount ticks = 0 := by rw [zero, decimalAmount, Nat.zero_mul]
    rw [allDigits, nothing, significant, if_pos rfl, zero]
    simp [ticksOf, nearestTicks, wholeTicks, nearestWithBits, nearestQuotient,
      Nat.ofDigitChars_cons]
  · have notZero : decimalAmount ticks ≠ 0 :=
      Nat.mul_ne_zero zero (Nat.ne_of_gt (Nat.pow_pos (by decide)))
    rw [allDigits, significant_all tickPlace notZero, ticksOf_toDigits,
      nearestTicks_decimalAmount short]

/-- The shortest digits of a number stand for it. -/
theorem ticksOf_shortest {ticks : Nat} (short : nearestWithBits 53 ticks 1 = ticks) :
    ticksOf (shortest ticks) = ticks := by
  rcases shortest_cases ticks with ⟨count, -, reads⟩ | all
  · exact reads
  · rw [all, ticksOf_allDigits short]

end Double

/-! ## Numerals -/

namespace Decimal

/-- The ticks nearest to the number that a numeral stands for. -/
def ticks (decimal : Decimal) : Nat :=
  nearestTicks (Nat.ofDigitChars 10 (decimal.whole ++ decimal.fraction) 0)
    (decimal.power?.getD 0 - decimal.fraction.length)

/-- A numeral of digits that has no zero in front of others. -/
structure IsProper (decimal : Decimal) : Prop where
  whole : ∀ digit ∈ decimal.whole, digit.isDigit = true
  nonempty : decimal.whole ≠ []
  first : decimal.whole.head? = some '0' → decimal.whole = ['0']
  fraction : ∀ digit ∈ decimal.fraction, digit.isDigit = true

variable {leading : Significant} (leads : leading.Leads)
include leads

theorem ofSignificant_isProper : (ofSignificant leading).IsProper := by
  obtain ⟨first, rest, spelled⟩ := List.exists_cons_of_ne_nil leads.nonempty
  have each := leads.each
  rw [spelled, List.forall_mem_cons] at each
  refine ⟨?_, ?_, ?_, ?_⟩
  · simpa [ofSignificant, spelled] using each.1
  · simp [ofSignificant, spelled]
  · intro zero
    simpa [ofSignificant, spelled] using zero
  · simpa [ofSignificant, spelled] using each.2

theorem ticks_ofSignificant : (ofSignificant leading).ticks = Double.ticksOf leading := by
  obtain ⟨first, rest, spelled⟩ := List.exists_cons_of_ne_nil leads.nonempty
  simp [ticks, ofSignificant, Double.ticksOf, spelled]

theorem placed_isProper (most : Int) : (placed most leading).IsProper := by
  have zeros (count : Nat) : ∀ digit ∈ List.replicate count '0', digit.isDigit = true :=
    fun digit member => (List.eq_of_mem_replicate member) ▸ rfl
  unfold placed
  split
  · exact ofSignificant_isProper leads
  · split
    · refine ⟨zeros 1, List.cons_ne_nil _ _, fun _ => rfl, fun digit member => ?_⟩
      rcases List.mem_append.mp member with zero | digit
      · exact zeros _ _ zero
      · exact leads.each _ digit
    next =>
      obtain ⟨first, rest, spelled⟩ := List.exists_cons_of_ne_nil leads.nonempty
      refine ⟨fun digit member => ?_, ?_, fun zero => ?_,
        fun digit member => leads.each _ (List.mem_of_mem_drop member)⟩
      · rcases List.mem_append.mp member with digit | zero
        · exact leads.each _ (List.mem_of_mem_take digit)
        · exact zeros _ _ zero
      · simp [withZeros, spelled]
      · have alone : leading = ⟨['0'], 0⟩ := leads.first (by simpa [withZeros, spelled] using zero)
        rw [alone]
        rfl

/-- Wherever the point is placed, the numeral stands for what the digits do. -/
theorem ticks_placed (most : Int) : (placed most leading).ticks = Double.ticksOf leading := by
  have some : 0 < leading.digits.length := List.length_pos_iff.mpr leads.nonempty
  unfold placed
  split
  · exact ticks_ofSignificant leads
  · split
    next small =>
      have front : ['0'] ++ (List.replicate (leading.power.natAbs - 1) '0' ++ leading.digits) =
          List.replicate (leading.power.natAbs - 1 + 1) '0' ++ leading.digits := by
        rw [List.replicate_succ]
        rfl
      have power : (none : Option Int).getD 0 -
          (List.replicate (leading.power.natAbs - 1) '0' ++ leading.digits).length =
            leading.power - (leading.digits.length - 1 : Nat) := by
        simp only [Option.getD_none, List.length_append, List.length_replicate]
        omega
      rw [ticks, front, ofDigitChars_zeros_append, power, Double.ticksOf]
    next large =>
      by_cases short : leading.digits.length ≤ leading.power.toNat + 1
      -- All digits stand before the point, with zeros behind them.
      · let zeros := leading.power.toNat + 1 - leading.digits.length
        have power : leading.power - (leading.digits.length - 1 : Nat) = zeros := by omega
        have scaled := nearestTicks_scale (Nat.ofDigitChars 10 leading.digits 0) zeros zeros
        rw [Int.sub_self] at scaled
        simp only [ticks, List.drop_eq_nil_of_le short, List.take_of_length_le short, withZeros,
          List.append_nil, List.length_nil, Option.getD_none, Double.ticksOf, power,
          ofDigitChars_append_zeros]
        exact scaled
      · have power : (none : Option Int).getD 0 -
            (leading.digits.drop (leading.power.toNat + 1)).length =
              leading.power - (leading.digits.length - 1 : Nat) := by
          simp only [Option.getD_none, List.length_drop]
          omega
        have noZeros : leading.power.toNat + 1 -
            (leading.digits.take (leading.power.toNat + 1)).length = 0 := by
          rw [List.length_take]
          omega
        simp only [ticks, withZeros, noZeros, List.replicate_zero, List.append_nil,
          List.take_append_drop, power, Double.ticksOf]

omit leads in
/-- A zero behind the point makes no difference. -/
theorem ticks_zero_behind (whole : List Char) :
    (Decimal.mk whole ['0'] none).ticks = (Decimal.mk whole [] none).ticks := by
  have scaled := nearestTicks_scale (Nat.ofDigitChars 10 whole 0) 1 0
  have zero : Nat.ofDigitChars 10 (whole ++ ['0']) 0 = Nat.ofDigitChars 10 whole 0 * 10 ^ 1 :=
    ofDigitChars_append_zeros whole 1
  simp only [ticks, zero, List.append_nil]
  exact scaled

end Decimal

namespace Double

/-- A numeral with a power of ten, or with at least one place. -/
theorem numeral_cases (number : Double) :
    number.numeral = Decimal.placed 16 (shortest number.ticks) ∧
        (number.numeral.fraction ≠ [] ∨ number.numeral.power? ≠ none) ∨
      ∃ whole, Decimal.placed 16 (shortest number.ticks) = ⟨whole, [], none⟩ ∧
        number.numeral = ⟨whole, ['0'], none⟩ := by
  unfold numeral
  dsimp only
  rcases Decimal.placed 16 (shortest number.ticks) with ⟨whole, fraction, power⟩
  split
  next bare =>
    simp only [Bool.and_eq_true, List.isEmpty_iff, Option.isNone_iff_eq_none] at bare
    obtain ⟨rfl, rfl⟩ := bare
    exact .inr ⟨whole, rfl, rfl⟩
  next full =>
    simp only [Bool.and_eq_true, List.isEmpty_iff, Option.isNone_iff_eq_none] at full
    exact .inl ⟨rfl, Classical.not_and_iff_not_or_not.mp full⟩

theorem numeral_isProper (number : Double) : number.numeral.IsProper := by
  have placed := Decimal.placed_isProper (shortest_leads number.ticks) 16
  rcases number.numeral_cases with ⟨same, -⟩ | ⟨whole, bare, same⟩
  · rwa [same]
  · rw [bare] at placed
    rw [same]
    exact ⟨placed.whole, placed.nonempty, placed.first, by simp⟩

/-- The numeral of a number stands for it. -/
theorem ticks_numeral (number : Double) : number.numeral.ticks = number.ticks := by
  have reads := ticksOf_shortest number.short
  have placed := Decimal.ticks_placed (shortest_leads number.ticks) 16
  rcases number.numeral_cases with ⟨same, -⟩ | ⟨whole, bare, same⟩
  · rw [same, placed, reads]
  · rw [bare] at placed
    rw [same, Decimal.ticks_zero_behind, placed, reads]

/-- The numeral of a number tells it from whole numbers. -/
theorem numeral_isReal (number : Double) :
    number.numeral.fraction ≠ [] ∨ number.numeral.power? ≠ none := by
  rcases number.numeral_cases with ⟨-, real⟩ | ⟨whole, -, same⟩
  · exact real
  · exact .inl (by simp [same])

theorem ofTicks?_ticks (number : Double) :
    ofTicks? number.isNegative number.ticks = some number := by
  rw [ofTicks?, dif_pos ⟨number.short, number.bounded⟩]

end Double

end Attachments.Numeral
