import Attachments.Sorting.Merge

/-!
Contract: sorting with a comparison that can fail.

Owns:
- the length to which short runs are extended;
- which neighbouring runs are merged, and when;
- that sorting loses no item and adds none.

Does not own: the comparison. Items of which neither comes before the other keep their order. The
order of the comparisons decides which failure is reported.
-/

namespace Attachments.Sorting

variable {Item Failure : Type}

/-- The length to which short runs are extended: that of the list divided by the power of two that
leaves at most 64, rounded up. A list of fewer than 64 items is a single run. -/
def leastRun (length : Nat) : Nat :=
  let unit := Nat.pow 2 (length.log2 - 5)
  (length + unit - 1) / unit

/-- The depth of the border between two neighbouring runs, the first of which starts at `start`: the
number of equal leading binary digits of the middles of both, as parts of the whole list. Borders
of greater depth are merged away first. -/
def depth (length start left right : Nat) : Nat :=
  let leftMiddle := 2 * start + left
  let rightMiddle := leftMiddle + left + right
  ((List.range (length.log2 + 2)).takeWhile fun digits =>
    leftMiddle * Nat.pow 2 digits / length == rightMiddle * Nat.pow 2 digits / length).length

/-- A run that waits to be merged with its right neighbour, and the depth of their border. -/
structure Waiting (Item : Type) where
  run : List Item
  depth : Nat

/-- The patience at the start of a sort. -/
def initialPatience : Nat :=
  worthwhile

/-- Merges the last run with those that wait at its left, nearest first, as long as their borders
are deeper than the one at its right. Gives the run, those that still wait, and the patience. -/
def settle (before : Item → Item → Except Failure Bool) (rightDepth patience : Nat) :
    (waiting : List (Waiting Item)) → (last : List Item) →
      Except Failure (List Item × List (Waiting Item) × Nat)
  | [], last => .ok (last, [], patience)
  | nearest :: others, last =>
    if rightDepth < nearest.depth then do
      let (merged, patience) ← merge before patience nearest.run last
      settle before rightDepth patience others merged
    else .ok (last, nearest :: others, patience)

/-- Merges all runs that are left, from the right to the left. If the run at the left of the two
last ones is shorter than the last one, it is merged with its right neighbour first. -/
def finish (before : Item → Item → Except Failure Bool) (patience : Nat) :
    (waiting : List (List Item)) → (last : List Item) → Except Failure (List Item)
  | [], last => .ok last
  | [left], last => (merge before patience left last).map (·.1)
  | middle :: left :: others, last => do
    if left.length < last.length then
      let (merged, patience) ← merge before patience left middle
      finish before patience (merged :: others) last
    else
      let (merged, patience) ← merge before patience middle last
      finish before patience (left :: others) merged
termination_by waiting => waiting.length

/-- Goes on with at most `count` further runs. The last run that was found starts at `start`. -/
def sortRuns
    (before : Item → Item → Except Failure Bool)
    (length count start patience : Nat)
    (waiting : List (Waiting Item))
    (last items : List Item) :
    Except Failure (List Item) :=
  match count, items with
  | count + 1, first :: rest => do
    let (run, others) ← firstRun before (leastRun length) (first :: rest)
    let border := depth length start last.length run.length
    let (settled, waiting, patience) ← settle before border patience waiting last
    sortRuns before length count (start + last.length) patience (⟨settled, border⟩ :: waiting)
      run others
  | _, items => finish before patience (waiting.map (·.run)) (last ++ items)

/-- Sorts a list. Each run takes at least one item, so there are no more runs than items. -/
def sort (before : Item → Item → Except Failure Bool) (items : List Item) :
    Except Failure (List Item) := do
  let (run, others) ← firstRun before (leastRun items.length) items
  sortRuns before items.length items.length 0 initialPatience [] run others

/-! ## No item is lost -/

section Laws

variable {before : Item → Item → Except Failure Bool}

/-- The items of runs that wait, nearest first, in the order of the list. -/
def inOrder (waiting : List (List Item)) : List Item :=
  waiting.reverse.flatten

/-- The items of the nearest run stand behind those of the others. -/
theorem inOrder_cons (nearest : List Item) (others : List (List Item)) :
    inOrder (nearest :: others) = inOrder others ++ nearest := by
  simp [inOrder]

theorem settle_perm
    {rightDepth patience final : Nat}
    {waiting still : List (Waiting Item)}
    {last settled : List Item}
    (found : settle before rightDepth patience waiting last = .ok (settled, still, final)) :
    (inOrder (still.map (·.run)) ++ settled).Perm (inOrder (waiting.map (·.run)) ++ last) := by
  induction waiting generalizing last patience with
  | nil =>
    simp only [settle, Except.ok.injEq, Prod.mk.injEq] at found
    obtain ⟨rfl, rfl, _⟩ := found
    exact List.Perm.refl _
  | cons nearest others inductionHypothesis =>
    rw [settle] at found
    split at found
    · obtain ⟨⟨merged, next⟩, joined, found⟩ := bind_eq_ok.1 found
      refine (inductionHypothesis found).trans ?_
      rw [List.map_cons, inOrder_cons, List.append_assoc]
      exact (merge_perm joined).append_left _
    · simp only [Except.ok.injEq, Prod.mk.injEq] at found
      obtain ⟨rfl, rfl, _⟩ := found
      exact List.Perm.refl _

/-- Finishing keeps the items of all runs. -/
theorem finish_perm
    {patience : Nat}
    {waiting : List (List Item)}
    {last sorted : List Item}
    (found : finish before patience waiting last = .ok sorted) :
    sorted.Perm (inOrder waiting ++ last) := by
  fun_induction finish before patience waiting last generalizing sorted with
  | case1 =>
    simp only [Except.ok.injEq] at found
    simp [inOrder, found]
  | case2 patience left last =>
    cases joined : merge before patience left last with
    | error failure => simp [joined, Except.map] at found
    | ok merged =>
      simp only [joined, Except.map, Except.ok.injEq] at found
      rw [← found]
      simpa [inOrder] using merge_perm joined
  | case3 _ middle left others last _ inductionHypothesis =>
    obtain ⟨⟨merged, next⟩, joined, found⟩ := bind_eq_ok.1 found
    refine (inductionHypothesis _ _ found).trans ?_
    rw [inOrder_cons, inOrder_cons, inOrder_cons, List.append_assoc (inOrder others) left middle]
    exact ((merge_perm joined).append_left _).append_right _
  | case4 _ middle left others last _ inductionHypothesis =>
    obtain ⟨⟨merged, next⟩, joined, found⟩ := bind_eq_ok.1 found
    refine (inductionHypothesis _ _ found).trans ?_
    rw [inOrder_cons, inOrder_cons, inOrder_cons, List.append_assoc _ middle last]
    exact (merge_perm joined).append_left _

/-- Going on with further runs keeps all items. -/
theorem sortRuns_perm
    {length count start patience : Nat}
    {waiting : List (Waiting Item)}
    {last items sorted : List Item}
    (found : sortRuns before length count start patience waiting last items = .ok sorted) :
    sorted.Perm (inOrder (waiting.map (·.run)) ++ (last ++ items)) := by
  induction count generalizing start patience waiting last items with
  | zero => exact finish_perm (by simpa [sortRuns] using found)
  | succ count inductionHypothesis =>
    cases items with
    | nil => exact finish_perm (by simpa [sortRuns] using found)
    | cons first rest =>
      rw [sortRuns] at found
      obtain ⟨⟨run, others⟩, begun, found⟩ := bind_eq_ok.1 found
      obtain ⟨⟨settled, still, next⟩, ended, found⟩ := bind_eq_ok.1 found
      refine (inductionHypothesis found).trans ?_
      rw [List.map_cons, inOrder_cons, ← List.append_assoc _ last]
      exact (settle_perm ended).append (firstRun_perm begun)

theorem sort_perm {items sorted : List Item} (found : sort before items = .ok sorted) :
    sorted.Perm items := by
  obtain ⟨⟨run, others⟩, begun, found⟩ := bind_eq_ok.1 found
  refine (sortRuns_perm found).trans ?_
  simpa [inOrder] using firstRun_perm begun

end Laws

end Attachments.Sorting
