import Attachments.Numeral.Rounding

/-!
Contract: decimal numerals of amounts that are given in some decimal place.

Owns:
- the first significant digits of an amount;
- three forms: with a fixed number of places, with a power of ten, and with a number of digits,
  which takes whichever of the other two is handier;
- the text of a numeral.

Does not own: signs, and how wide a numeral is made.
-/

namespace Attachments.Numeral

/-- A numeral: the digits before and behind the point, and the power of ten if one is written. -/
structure Decimal where
  whole : List Char
  fraction : List Char
  power? : Option Int
  deriving DecidableEq, Repr

/-- Digits, the first of which stands for that many times a power of ten. -/
structure Significant where
  digits : List Char
  power : Int
  deriving DecidableEq, Repr

def withZeros (length : Nat) (digits : List Char) : List Char :=
  digits ++ List.replicate (length - digits.length) '0'

/-- Digits without the zeros at their end. The first digit stays. -/
def withoutZeros : List Char → List Char
  | [] => []
  | first :: rest => first :: (rest.reverse.dropWhile (· == '0')).reverse

/-- The digits of a whole number, at least as many as asked for. -/
def wholeDigits (base least amount : Nat) : List Char :=
  let digits := Nat.toDigits base amount
  List.replicate (least - digits.length) '0' ++ digits

/-- The first significant digits, at most `count` of them, of an amount in the given decimal place,
rounded to the nearest number. Rounding up to the next power of ten gives one digit more, a zero,
which is left out. -/
def significant (count place amount : Nat) : Significant :=
  if amount = 0 then ⟨['0'], 0⟩
  else
    let spare := (Nat.toDigits 10 amount).length - count
    let kept := Nat.toDigits 10 (nearestQuotient amount (Nat.pow 10 spare))
    ⟨kept.take count, Int.ofNat (kept.length + spare) - Int.ofNat (place + 1)⟩

namespace Decimal

/-- The form with a fixed number of places, of an amount in the given decimal place. Places behind
the given one hold zeros. -/
def fixed (places place amount : Nat) : Decimal :=
  let kept := min places place
  let rounded := nearestQuotient amount (Nat.pow 10 (place - kept))
  let fraction := wholeDigits 10 kept (rounded % Nat.pow 10 kept)
  ⟨Nat.toDigits 10 (rounded / Nat.pow 10 kept),
    if places = 0 then [] else withZeros places (fraction.drop (fraction.length - kept)), none⟩

/-- Digits as a numeral with a power of ten. -/
def ofSignificant (leading : Significant) : Decimal :=
  ⟨leading.digits.take 1, leading.digits.drop 1, some leading.power⟩

/-- Digits as a numeral that has a power of ten if the first digit stands more than four places
behind the point, or at least `most` places before it. -/
def placed (most : Int) (leading : Significant) : Decimal :=
  if leading.power < -4 ∨ most ≤ leading.power then ofSignificant leading
  else if leading.power < 0 then
    ⟨['0'], List.replicate (leading.power.natAbs - 1) '0' ++ leading.digits, none⟩
  else
    let wholeCount := leading.power.toNat + 1
    ⟨withZeros wholeCount (leading.digits.take wholeCount), leading.digits.drop wholeCount, none⟩

/-- The form with a power of ten and a fixed number of places. -/
def scientific (places place amount : Nat) : Decimal :=
  let leading := significant (places + 1) place amount
  ofSignificant { leading with digits := withZeros (places + 1) leading.digits }

/-- The form with a number of digits. Zeros at the end are written only on request. -/
def general (count place amount : Nat) (keepsZeros : Bool) : Decimal :=
  let leading := significant count place amount
  let digits :=
    if keepsZeros then withZeros count leading.digits else withoutZeros leading.digits
  placed count { leading with digits := digits }

/-- The text of a numeral. The point is left out before an empty fraction, unless it is asked for;
a power of ten has a sign and at least two digits. -/
def text (keepsPoint : Bool) (decimal : Decimal) : List Char :=
  let point := if decimal.fraction.isEmpty && !keepsPoint then [] else ['.']
  let power := match decimal.power? with
    | none => []
    | some power => 'e' :: (if power < 0 then '-' else '+') :: wholeDigits 10 2 power.natAbs
  decimal.whole ++ point ++ decimal.fraction ++ power

end Decimal

end Attachments.Numeral
