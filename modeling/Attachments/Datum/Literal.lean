import Attachments.Datum.Basic
import Attachments.Text.Quoted

/-!
Contract: the written forms of a value in messages.

Owns:
- the literal form, in which texts are quoted;
- the plain form, in which a value that is a text stands for itself;
- what keeps a value from being written.

Does not own: the JSON form.
-/

namespace Attachments

namespace Datum

/-! ## The forms -/

/-- The literal form of a tuple whose items have the given ones. A single one is followed by a
comma. -/
def tupleLiteral : List String → String
  | [only] => "(" ++ only ++ ",)"
  | items => "(" ++ ", ".intercalate items ++ ")"

mutual

/-- The literal form. -/
def literal : Datum → String
  | .null => "None"
  | .bool value => if value then "True" else "False"
  | .int value => toString value
  | .real value => value.literal
  | .text value => Text.quote value
  | .list items => "[" ++ ", ".intercalate (itemLiterals items) ++ "]"
  | .tuple items => tupleLiteral (itemLiterals items)
  | .dict entries => "\x7b" ++ ", ".intercalate (entryLiterals entries) ++ "\x7d"
  | .object value => value.literal

def itemLiterals : List Datum → List String
  | [] => []
  | item :: rest => literal item :: itemLiterals rest

/-- The entries of a dictionary, each with a colon between key and value. -/
def entryLiterals : List (Datum × Datum) → List String
  | [] => []
  | (key, value) :: rest => (literal key ++ ": " ++ literal value) :: entryLiterals rest

end

/-- The plain form: a text is itself, an object has its own, and any other value is in literal
form. -/
def plain : Datum → String
  | .text value => value
  | .object value => value.plain
  | value => literal value

/-! ## What cannot be written -/

/-- The greatest number of decimal digits with which an integer is written. -/
def mostDigits : Nat :=
  4300

/-- What keeps an integer from being written in decimal digits. -/
def digitObstacle? (value : Int) : Option String :=
  if (Nat.toDigits 10 value.natAbs).length ≤ mostDigits then none
  else some (s!"Exceeds the limit ({mostDigits} digits) for integer string conversion; "
    ++ "use sys.set_int_max_str_digits() to increase the limit")

theorem digitObstacle?_eq_none_iff (value : Int) :
    digitObstacle? value = none ↔ (Nat.toDigits 10 value.natAbs).length ≤ mostDigits := by
  simp [digitObstacle?]

/-- A power of ten has more digits than its exponent says. -/
theorem length_toDigits_power {count : Nat} (some : 0 < count) :
    count < (Nat.toDigits 10 ((Nat.pow 10 count : Nat) : Int).natAbs).length := by
  rw [Int.natAbs_natCast, ← Nat.not_le, Nat.length_toDigits_le_iff (by decide) some]
  exact Nat.lt_irrefl _

mutual

/-- What keeps a value from being written: the first integer with too many digits in it, or the
first object that cannot be written. -/
def obstacle? : Datum → Option String
  | .int value => digitObstacle? value
  | .list items => firstObstacle? items
  | .tuple items => firstObstacle? items
  | .dict entries => firstEntryObstacle? entries
  | .object value => value.obstacle?
  | _ => none

/-- What keeps the first of the items from being written. -/
def firstObstacle? : List Datum → Option String
  | [] => none
  | item :: rest => obstacle? item <|> firstObstacle? rest

/-- What keeps the first of the entries from being written, its key before its value. -/
def firstEntryObstacle? : List (Datum × Datum) → Option String
  | [] => none
  | (key, value) :: rest => obstacle? key <|> obstacle? value <|> firstEntryObstacle? rest

end

/-- The outcome for values that have to be written, one after the other. -/
def written {Value : Type} (values : List Datum) (outcome : Value) : Except Fault Value :=
  match firstObstacle? values with
  | some reason => .error (.unwritable reason)
  | none => .ok outcome

/-- The literal form of a value, if it can be written. -/
def literalText (value : Datum) : Except Fault String :=
  written [value] value.literal

/-- The plain form of a value, if it can be written. -/
def plainText (value : Datum) : Except Fault String :=
  written [value] value.plain

/-- A text can always be written. -/
@[simp]
theorem obstacle?_text (text : String) : obstacle? (.text text) = none := by
  simp [obstacle?]

end Datum

end Attachments
