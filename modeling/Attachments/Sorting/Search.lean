/-!
Contract: finding how many items at the start of a list pass a test.

Owns:
- the search by halving, and the search that widens from the start and then halves;
- the order of the tests, which decides which failure is reported.

Does not own: the tests. In a list that is searched, the items that pass stand before all others.
-/

namespace Attachments.Sorting

variable {Item Failure : Type}

/-- The number of items that pass. The middle item is tested and then one of the halves is searched.
Of two items in the middle the second one is tested, or the first one if the list is turned
around, so that it is the same item either way. -/
def countByHalving
    (backward : Bool)
    (passes : Item → Except Failure Bool)
    (items : List Item) :
    Except Failure Nat :=
  match _cut : items.drop ((items.length - backward.toNat) / 2) with
  | [] => .ok 0
  | middle :: right => do
    let leftCount := (items.length - backward.toNat) / 2
    if ← passes middle then
      let count ← countByHalving backward passes right
      .ok (leftCount + 1 + count)
    else countByHalving backward passes (items.take leftCount)
termination_by items.length
decreasing_by
  all_goals
    have lengths := congrArg List.length _cut
    simp only [List.length_drop, List.length_cons] at lengths
  · omega
  · rw [List.length_take]
    omega

/-- Bounds on the number of items that pass. Items are tested at growing distances, from
`distance` on, as long as they pass; `passed` items are known to. -/
def widen
    (passes : Item → Except Failure Bool)
    (items : List Item)
    (passed distance : Nat) :
    Except Failure (Nat × Nat) :=
  match _found : items[distance]? with
  | none => .ok (passed, items.length)
  | some item => do
    if ← passes item then widen passes items (distance + 1) (2 * distance + 1)
    else .ok (passed, distance)
termination_by items.length - distance
decreasing_by
  have inside := (List.getElem?_eq_some_iff.1 _found).1
  omega

/-- The number of items that pass, where few are expected to. The first item is tested, then items
further and further away, and the stretch between the last two of them is searched by halving. -/
def countFromStart
    (backward : Bool)
    (passes : Item → Except Failure Bool)
    (items : List Item) :
    Except Failure Nat :=
  match items with
  | [] => .ok 0
  | first :: _ => do
    if ← passes first then
      let (least, greatest) ← widen passes items 1 1
      let count ← countByHalving backward passes ((items.take greatest).drop least)
      .ok (least + count)
    else .ok 0

end Attachments.Sorting
