import Attachments.Numeral.Decimal

/-!
Contract: the finite numbers of double precision.

Owns:
- such numbers, each a sign and a number of ticks, the smallest steps between two of them;
- the number nearest to a decimal one;
- the shortest numeral that is read as a number, and its text.

Does not own: infinite and undefined numbers.
-/

namespace Attachments.Numeral

/-- The binary place of a tick. It is a decimal place too, in which a tick is a whole amount. -/
@[irreducible]
def tickPlace : Nat :=
  1074

/-- The ticks of a whole number. -/
def wholeTicks (amount : Nat) : Nat :=
  amount * Nat.pow 2 tickPlace

/-- The first number of ticks beyond all finite numbers. -/
def ticksBeyond : Nat :=
  wholeTicks (Nat.pow 2 1024)

/-- The ticks that are nearest to so many times a power of ten. -/
def nearestTicks (amount : Nat) (power : Int) : Nat :=
  nearestWithBits 53 (wholeTicks amount * Nat.pow 10 power.toNat)
    (Nat.pow 10 (-power).toNat)

/-- A finite number of double precision: its sign and its ticks, which need at most 53 binary digits
before the zeros at their end. Zero has both signs. -/
structure Double where
  isNegative : Bool
  ticks : Nat
  short : nearestWithBits 53 ticks 1 = ticks
  bounded : ticks < ticksBeyond
  deriving DecidableEq, Repr

namespace Double

/-- The number of so many ticks, if there is one. -/
def ofTicks? (isNegative : Bool) (ticks : Nat) : Option Double :=
  if fits : nearestWithBits 53 ticks 1 = ticks ∧ ticks < ticksBeyond then
    some ⟨isNegative, ticks, fits.1, fits.2⟩
  else none

/-- The number nearest to so many times a power of ten, unless it is too great. -/
def nearest? (isNegative : Bool) (amount : Nat) (power : Int) : Option Double :=
  ofTicks? isNegative (nearestTicks amount power)

/-- The ticks with the sign. -/
def amount (number : Double) : Int :=
  if number.isNegative then -number.ticks else number.ticks

def decimalAmount (ticks : Nat) : Nat :=
  ticks * Nat.pow 5 tickPlace

def ticksOf (leading : Significant) : Nat :=
  nearestTicks (Nat.ofDigitChars 10 leading.digits 0)
    (leading.power - (leading.digits.length - 1 : Nat))

def allDigits (ticks : Nat) : Significant :=
  significant (Nat.toDigits 10 (decimalAmount ticks)).length tickPlace (decimalAmount ticks)

/-- The first significant digits of a number of ticks, one more than `count`, if they are read as
the number. -/
def digitsBehind? (ticks count : Nat) : Option Significant :=
  let leading := significant (count + 1) tickPlace (decimalAmount ticks)
  if ticksOf leading = ticks then some leading else none

/-- The fewest significant digits that are read as so many ticks. Seventeen always suffice, but all
of them would too. -/
def shortest (ticks : Nat) : Significant :=
  ((List.range 17).findSome? (digitsBehind? ticks)).getD (allDigits ticks)

/-- The numeral of a number. It has a power of ten if the first digit stands more than four places
behind the point or more than fifteen before it, and otherwise at least one place. -/
def numeral (number : Double) : Decimal :=
  let decimal := Decimal.placed 16 (shortest number.ticks)
  if decimal.fraction.isEmpty && decimal.power?.isNone then { decimal with fraction := ['0'] }
  else decimal

def literal (number : Double) : String :=
  (if number.isNegative then "-" else "") ++ String.ofList (number.numeral.text false)

end Double

end Attachments.Numeral
