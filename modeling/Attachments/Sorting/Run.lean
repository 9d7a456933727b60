import Attachments.Sorting.Search

/-!
Contract: runs, which are the sorted stretches that a sort starts from.

Owns:
- the stretch at the start of a list that is in order already, upward or strictly downward;
- insertion of items into a sorted list;
- that no item is lost.

Does not own: the comparison. Items of which neither comes before the other keep their order.
-/

namespace Attachments.Sorting

variable {Item Failure : Type}

/-- The items that go on as expected, each of them before the one at its left or not, and the items
from the first that does not. -/
def stretch (before : Item → Item → Except Failure Bool) (expected : Bool) (previous : Item) :
    List Item → Except Failure (List Item × List Item)
  | [] => .ok ([], [])
  | item :: rest => do
    let isBefore ← before item previous
    if isBefore = expected then
      let (further, others) ← stretch before expected item rest
      .ok (item :: further, others)
    else .ok ([], item :: rest)

/-- The longest stretch at the start of a list that goes upward throughout or strictly downward
throughout, in ascending order, and the items behind it. -/
def start (before : Item → Item → Except Failure Bool) :
    List Item → Except Failure (List Item × List Item)
  | first :: second :: rest => do
    let descends ← before second first
    let (further, others) ← stretch before descends second rest
    let items := first :: second :: further
    .ok (if descends then items.reverse else items, others)
  | items => .ok (items, [])

/-- Puts an item into a sorted list, behind all items that it does not come before. -/
def insert (before : Item → Item → Except Failure Bool) (item : Item) (sorted : List Item) :
    Except Failure (List Item) := do
  let count ← countByHalving false (fun other => (before item other).map (!·)) sorted
  .ok (sorted.take count ++ item :: sorted.drop count)

/-- The first run of a list and the items behind it. A stretch of fewer than `least` items takes in
the items behind it until there are as many. -/
def firstRun (before : Item → Item → Except Failure Bool) (least : Nat) (items : List Item) :
    Except Failure (List Item × List Item) := do
  let (sorted, others) ← start before items
  let missing := least - sorted.length
  let run ← (others.take missing).foldlM (fun sorted item => insert before item sorted) sorted
  .ok (run, others.drop missing)

/-! ## No item is lost -/

section Laws

variable {before : Item → Item → Except Failure Bool}

/-- A chain of two computations succeeds exactly if both do. -/
theorem bind_eq_ok
    {First Second : Type}
    {first : Except Failure First}
    {next : First → Except Failure Second}
    {result : Second} :
    (first >>= next) = .ok result ↔ ∃ value, first = .ok value ∧ next value = .ok result := by
  cases first <;> simp [bind, Except.bind]

theorem stretch_append
    {expected : Bool}
    {previous : Item}
    {items further others : List Item}
    (found : stretch before expected previous items = .ok (further, others)) :
    further ++ others = items := by
  induction items generalizing previous further with
  | nil =>
    simp only [stretch, Except.ok.injEq, Prod.mk.injEq] at found
    simp [← found.1, ← found.2]
  | cons item rest inductionHypothesis =>
    rw [stretch, bind_eq_ok] at found
    obtain ⟨isBefore, _, found⟩ := found
    split at found
    · obtain ⟨⟨later, behind⟩, inner, found⟩ := bind_eq_ok.1 found
      simp only [Except.ok.injEq, Prod.mk.injEq] at found
      obtain ⟨rfl, rfl⟩ := found
      simp [inductionHypothesis inner]
    · simp only [Except.ok.injEq, Prod.mk.injEq] at found
      simp [← found.1, ← found.2]

theorem start_perm
    {items sorted others : List Item}
    (found : start before items = .ok (sorted, others)) :
    (sorted ++ others).Perm items := by
  match items with
  | [] =>
    simp only [start, Except.ok.injEq, Prod.mk.injEq] at found
    simp [← found.1, ← found.2]
  | [only] =>
    simp only [start, Except.ok.injEq, Prod.mk.injEq] at found
    simp [← found.1, ← found.2]
  | first :: second :: rest =>
    rw [start, bind_eq_ok] at found
    obtain ⟨descends, _, found⟩ := found
    obtain ⟨⟨further, behind⟩, later, found⟩ := bind_eq_ok.1 found
    simp only [Except.ok.injEq, Prod.mk.injEq] at found
    obtain ⟨rfl, rfl⟩ := found
    have whole := stretch_append later
    subst whole
    cases descends
    · simp
    · simpa using (first :: second :: further).reverse_perm.append_right behind

/-- Insertion adds the item and keeps all others. -/
theorem insert_perm
    {item : Item}
    {sorted placed : List Item}
    (found : insert before item sorted = .ok placed) :
    placed.Perm (item :: sorted) := by
  obtain ⟨count, _, found⟩ := bind_eq_ok.1 found
  simp only [Except.ok.injEq] at found
  rw [← found]
  refine List.perm_middle.trans ?_
  rw [List.take_append_drop]

/-- Insertion of many items adds them and keeps all others. -/
theorem insertAll_perm
    {items sorted placed : List Item}
    (found : items.foldlM (fun sorted item => insert before item sorted) sorted = .ok placed) :
    placed.Perm (sorted ++ items) := by
  induction items generalizing sorted with
  | nil =>
    simp only [List.foldlM_nil, pure, Except.pure, Except.ok.injEq] at found
    simp [← found]
  | cons item rest inductionHypothesis =>
    rw [List.foldlM_cons, bind_eq_ok] at found
    obtain ⟨next, inserted, found⟩ := found
    exact (inductionHypothesis found).trans
      (((insert_perm inserted).append_right rest).trans List.perm_middle.symm)

theorem firstRun_perm
    {least : Nat}
    {items run others : List Item}
    (found : firstRun before least items = .ok (run, others)) :
    (run ++ others).Perm items := by
  obtain ⟨⟨sorted, behind⟩, begun, found⟩ := bind_eq_ok.1 found
  obtain ⟨full, filled, found⟩ := bind_eq_ok.1 found
  simp only [Except.ok.injEq, Prod.mk.injEq] at found
  obtain ⟨rfl, rfl⟩ := found
  refine ((insertAll_perm filled).append_right _).trans ?_
  rw [List.append_assoc, List.take_append_drop]
  exact start_perm begun

end Laws

end Attachments.Sorting
