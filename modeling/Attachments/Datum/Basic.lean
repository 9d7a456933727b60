import Attachments.Datum.Foreign
import Attachments.Numeral.Double
import Attachments.Text.Search

/-!
Contract: the values that callers hand over before anything is known about them.

Owns:
- the type of such values, and what each of them is;
- truth, elements and equality of values, the search for a text in a value, and the values that can
  be keys.

Does not own: how values are written, and order between them.
-/

namespace Attachments

/-- A value of unknown shape. Integers are unbounded; a dictionary keeps its entries in order; an
object is a value of any class that is not listed. -/
inductive Datum where
  | null
  | bool (value : Bool)
  | int (value : Int)
  | real (value : Numeral.Double)
  | text (value : String)
  | list (items : List Datum)
  | tuple (items : List Datum)
  | dict (entries : List (Datum × Datum))
  | object (value : Foreign Datum)
  deriving Inhabited

namespace Datum

def kind : Datum → Kind
  | .null => .null
  | .bool _ => .bool
  | .int _ => .int
  | .real _ => .real
  | .text _ => .text
  | .list _ => .list
  | .tuple _ => .tuple
  | .dict _ => .dict
  | .object value => .object value.className

/-- Whether the value is null. -/
def isNull : Datum → Bool
  | .null => true
  | _ => false

/-- Whether the value counts as true: null, zero and everything empty do not. -/
def truthy : Datum → Bool
  | .null => false
  | .bool value => value
  | .int value => value != 0
  | .real value => value.ticks != 0
  | .text value => !value.isEmpty
  | .list items => !items.isEmpty
  | .tuple items => !items.isEmpty
  | .dict entries => !entries.isEmpty
  | .object value => value.isTrue

/-- The elements of a value that has some: the characters of a text, the items of a list or a tuple,
the keys of a dictionary, and what an object gives. -/
def elements? : Datum → Option (List Datum)
  | .text value => some (value.toList.map fun character => .text (String.singleton character))
  | .list items => some items
  | .tuple items => some items
  | .dict entries => some (entries.map (·.1))
  | .object value => value.elements?
  | _ => none

/-- The whole number of a truth value or an integer. -/
def integer? : Datum → Option Int
  | .bool value => some (if value then 1 else 0)
  | .int value => some value
  | _ => none

/-- The number of ticks in a numeric value. The truth values count as zero and one. -/
def amount? : Datum → Option Int
  | .real value => some value.amount
  | value => value.integer?.map (· * (Numeral.wholeTicks 1 : Int))

mutual

/-- Equality of values. Numbers are equal by amount across their kinds, lists and tuples item by
item, and dictionaries without regard to order. -/
def same : Datum → Datum → Bool
  | .null, .null => true
  | .text left, .text right => left == right
  | .list left, .list right => sameItems left right
  | .tuple left, .tuple right => sameItems left right
  | .dict left, .dict right => left.length == right.length && sameEntries left right
  | .object left, .object right => left.identity == right.identity
  | .real left, right => right.amount? == some left.amount
  | .bool left, .real right => (Datum.bool left).amount? == some right.amount
  | .int left, .real right => (Datum.int left).amount? == some right.amount
  | .bool left, right => right.integer? == some (if left then 1 else 0)
  | .int left, right => right.integer? == some left
  | _, _ => false

def sameItems : List Datum → List Datum → Bool
  | [], [] => true
  | left :: lefts, right :: rights => same left right && sameItems lefts rights
  | _, _ => false

/-- Whether every entry on the left has an equal one on the right. -/
def sameEntries : List (Datum × Datum) → List (Datum × Datum) → Bool
  | [], _ => true
  | (key, value) :: rest, right =>
    right.any (fun entry => same key entry.1 && same value entry.2) && sameEntries rest right

end

instance : BEq Datum where
  beq := same

/-- A value equals a text only by being that text. -/
theorem beq_text_iff (value : Datum) (text : String) :
    (value == .text text) = true ↔ value = .text text := by
  have unfolded : (value == .text text) = same value (.text text) := rfl
  rw [unfolded]
  cases value <;> simp [same, integer?, amount?]

/-- Looks for a text in a value: in a text as a part, in a list or a tuple as an item, in a
dictionary as a key, and in an object in its own way. A value that holds nothing cannot be
searched. -/
def holdsText (part : String) : Datum → Except Fault Bool
  | .text value => .ok (Text.holds part.toList value.toList)
  | .list items => .ok (items.any (· == .text part))
  | .tuple items => .ok (items.any (· == .text part))
  | .dict entries => .ok (entries.any (·.1 == .text part))
  | .object value => value.holds part
  | other => .error (.notContainer other.kind)

mutual

/-- What keeps the value from being a key: a list or a dictionary, itself or inside tuples, or an
object that is none. -/
def unhashable? : Datum → Option Kind
  | .list _ => some .list
  | .dict _ => some .dict
  | .tuple items => firstUnhashable? items
  | .object value => if value.isHashable then none else some (.object value.className)
  | _ => none

/-- What keeps the first of the items from being a key. -/
def firstUnhashable? : List Datum → Option Kind
  | [] => none
  | item :: rest => unhashable? item <|> firstUnhashable? rest

end

def checkKey (value : Datum) : Except Fault Unit :=
  match value.unhashable? with
  | some kind => .error (.unhashable kind)
  | none => .ok ()

end Datum

end Attachments
