import Attachments.Proofs.Sorting.Merge
import Attachments.Sorting.Schedule

/-!
Contract: whole sorts where every comparison is answered.

Owns:
- that settling, finishing and going on with further runs keep runs sorted and lose no item;
- that a sort whose comparisons are all answered succeeds and gives the stable sort of the library.

Does not own: which lists have comparisons that are all answered.
-/

namespace Attachments.Sorting

variable
  {Item Failure : Type}
  {before : Item → Item → Except Failure Bool}
  {le : Item → Item → Bool}
  {known : Item → Prop}

/-- Two runs are merged to one. -/
theorem merge_isRun
    (decides : Decides before le known)
    (patience : Nat)
    {left right : List Item}
    (leftRun : IsRun le known left)
    (rightRun : IsRun le known right) :
    ∃ merged final, merge before patience left right = .ok (merged, final) ∧
      IsRun le known merged ∧ SameTies le (left ++ right) merged := by
  obtain ⟨merged, final, found, arranges⟩ :=
    merge_spec decides patience leftRun rightRun
  have ofBoth : Known known (left ++ right) :=
    List.forall_mem_append.mpr ⟨leftRun.known, rightRun.known⟩
  exact ⟨merged, final, found, arranges.isRun decides.ranking ofBoth, arranges.stable⟩

theorem settle_spec
    (decides : Decides before le known)
    (rightDepth patience : Nat)
    {waiting : List (Waiting Item)}
    {last : List Item}
    (waitingRuns : ∀ entry ∈ waiting, IsRun le known entry.run)
    (lastRun : IsRun le known last) :
    ∃ settled still final, settle before rightDepth patience waiting last =
        .ok (settled, still, final) ∧
      (∀ entry ∈ still, IsRun le known entry.run) ∧ IsRun le known settled ∧
      SameTies le (inOrder (waiting.map (·.run)) ++ last)
        (inOrder (still.map (·.run)) ++ settled) := by
  induction waiting generalizing last patience with
  | nil => exact ⟨last, [], patience, rfl, waitingRuns, lastRun, .refl _⟩
  | cons nearest others inductionHypothesis =>
    obtain ⟨nearestRun, othersRuns⟩ := List.forall_mem_cons.mp waitingRuns
    rw [settle]
    split
    · obtain ⟨merged, next, found, mergedRun, same⟩ :=
        merge_isRun decides patience nearestRun lastRun
      obtain ⟨settled, still, final, reached, stillRuns, settledRun, sameAll⟩ :=
        inductionHypothesis next othersRuns mergedRun
      rw [found, ok_bind]
      refine ⟨settled, still, final, reached, stillRuns, settledRun, .trans ?_ sameAll⟩
      rw [List.map_cons, inOrder_cons, List.append_assoc]
      exact (SameTies.refl _).append same
    · exact ⟨last, nearest :: others, patience, rfl, waitingRuns, lastRun, .refl _⟩

theorem finish_spec
    (decides : Decides before le known)
    {patience : Nat}
    {waiting : List (List Item)}
    {last : List Item}
    (waitingRuns : ∀ run ∈ waiting, IsRun le known run)
    (lastRun : IsRun le known last) :
    ∃ sorted, finish before patience waiting last = .ok sorted ∧
      Arranges le (inOrder waiting ++ last) sorted := by
  fun_induction finish before patience waiting last with
  | case1 patience last => exact ⟨last, rfl, arranges_self lastRun.sorted⟩
  | case2 patience left last =>
    obtain ⟨merged, final, found, mergedRun, same⟩ :=
      merge_isRun decides patience (waitingRuns left List.mem_cons_self) lastRun
    rw [found]
    refine ⟨merged, rfl, (arranges_self mergedRun.sorted).of_sameTies ?_⟩
    simpa [inOrder] using same
  | case3 patience middle left others last shorter inductionHypothesis =>
    obtain ⟨middleRun, leftRuns⟩ := List.forall_mem_cons.mp waitingRuns
    obtain ⟨leftRun, othersRuns⟩ := List.forall_mem_cons.mp leftRuns
    obtain ⟨merged, next, found, mergedRun, same⟩ := merge_isRun decides patience leftRun middleRun
    obtain ⟨sorted, reached, arranges⟩ :=
      inductionHypothesis merged next (List.forall_mem_cons.mpr ⟨mergedRun, othersRuns⟩) lastRun
    rw [found, ok_bind]
    refine ⟨sorted, reached, arranges.of_sameTies ?_⟩
    rw [inOrder_cons, inOrder_cons, inOrder_cons, List.append_assoc (inOrder others) left middle]
    exact ((SameTies.refl _).append same).append (.refl _)
  | case4 patience middle left others last longer inductionHypothesis =>
    obtain ⟨middleRun, leftRuns⟩ := List.forall_mem_cons.mp waitingRuns
    obtain ⟨merged, next, found, mergedRun, same⟩ := merge_isRun decides patience middleRun lastRun
    obtain ⟨sorted, reached, arranges⟩ := inductionHypothesis merged next leftRuns mergedRun
    rw [found, ok_bind]
    refine ⟨sorted, reached, arranges.of_sameTies ?_⟩
    rw [inOrder_cons, inOrder_cons, List.append_assoc _ middle last]
    exact (SameTies.refl _).append same

/-- Going on with further runs arranges what waits, the last run and the items behind it. -/
theorem sortRuns_spec
    (decides : Decides before le known)
    (length start patience : Nat)
    {count : Nat}
    {waiting : List (Waiting Item)}
    {last items : List Item}
    (waitingRuns : ∀ entry ∈ waiting, IsRun le known entry.run)
    (lastRun : IsRun le known last)
    (ofItems : Known known items)
    (enough : items.length ≤ count) :
    ∃ sorted, sortRuns before length count start patience waiting last items = .ok sorted ∧
      Arranges le (inOrder (waiting.map (·.run)) ++ (last ++ items)) sorted := by
  have finished {patience : Nat} {waiting : List (Waiting Item)} {last : List Item}
      (waitingRuns : ∀ entry ∈ waiting, IsRun le known entry.run)
      (lastRun : IsRun le known last) :
      ∃ sorted, finish before patience (waiting.map (·.run)) (last ++ []) = .ok sorted ∧
        Arranges le (inOrder (waiting.map (·.run)) ++ (last ++ [])) sorted := by
    rw [List.append_nil]
    exact finish_spec decides (List.forall_mem_map.mpr waitingRuns) lastRun
  induction count generalizing start patience waiting last items with
  | zero =>
    obtain rfl : items = [] := List.length_eq_zero_iff.mp (Nat.le_zero.mp enough)
    exact finished waitingRuns lastRun
  | succ count inductionHypothesis =>
    cases items with
    | nil => exact finished waitingRuns lastRun
    | cons first rest =>
      obtain ⟨run, others, front, begun, whole, arranges, someFront⟩ :=
        firstRun_spec decides (leastRun length) ofItems
      obtain ⟨settled, still, next, ended, stillRuns, settledRun, same⟩ :=
        settle_spec decides (depth length start last.length run.length) patience waitingRuns lastRun
      have parts := ofItems
      rw [whole] at parts
      obtain ⟨ofFront, ofOthers⟩ := List.forall_mem_append.mp parts
      have fewer : others.length ≤ count := by
        have lengths := congrArg List.length whole
        have positive := List.length_pos_iff.mpr (someFront (List.cons_ne_nil first rest))
        rw [List.length_append] at lengths
        omega
      have stillSettled : ∀ entry ∈
          (⟨settled, depth length start last.length run.length⟩ : Waiting Item) :: still,
          IsRun le known entry.run :=
        List.forall_mem_cons.mpr ⟨settledRun, stillRuns⟩
      obtain ⟨sorted, reached, arrangesAll⟩ :=
        inductionHypothesis (start + last.length) next stillSettled
          (arranges.isRun decides.ranking ofFront) ofOthers fewer
      rw [sortRuns, begun, ok_bind]
      dsimp only
      rw [ended, ok_bind]
      refine ⟨sorted, reached, arrangesAll.of_sameTies ?_⟩
      rw [List.map_cons, inOrder_cons, whole, ← List.append_assoc _ last]
      exact same.append (arranges.stable.append (.refl others))

/-- A sort whose comparisons are all answered succeeds, and it gives the stable sort of the library:
the items in ascending order, those of one rank in the order in which they came. -/
theorem sort_eq_mergeSort
    (decides : Decides before le known)
    {items : List Item}
    (ofItems : Known known items) :
    sort before items = .ok (items.mergeSort le) := by
  obtain ⟨run, others, front, begun, whole, arranges, -⟩ :=
    firstRun_spec decides (leastRun items.length) ofItems
  have parts := ofItems
  rw [whole] at parts
  obtain ⟨ofFront, ofOthers⟩ := List.forall_mem_append.mp parts
  have enough : others.length ≤ items.length := by
    rw [whole, List.length_append]
    exact Nat.le_add_left _ _
  have noneWaiting : ∀ entry ∈ ([] : List (Waiting Item)), IsRun le known entry.run :=
    List.forall_mem_nil _
  obtain ⟨sorted, reached, arrangesAll⟩ :=
    sortRuns_spec decides items.length 0 initialPatience noneWaiting
      (arranges.isRun decides.ranking ofFront) ofOthers enough
  have arrangesItems : Arranges le items sorted := by
    refine arrangesAll.of_sameTies ?_
    rw [whole]
    exact arranges.stable.append (.refl others)
  rw [sort, begun, ok_bind]
  dsimp only
  rw [reached, arrangesItems.unique decides.ranking (arranges_mergeSort decides.ranking items)]

end Attachments.Sorting
