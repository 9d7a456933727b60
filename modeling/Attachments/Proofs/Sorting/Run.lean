import Attachments.Proofs.Sorting.Arrangement
import Attachments.Sorting.Run

/-!
Contract: searches and runs where every comparison is answered.

Owns:
- what it means that a comparison decides by a ranking on the items that are known;
- that a search counts the items that pass, in whichever way it goes about it;
- that the stretch at the start of a list, an insertion and a whole first run are arranged.

Does not own: how runs are merged.
-/

namespace Attachments.Sorting

variable {Item Failure : Type}

/-! ## Decided comparisons -/

/-- A comparison is answered by a ranking wherever both items are known. -/
structure Decides
    (before : Item → Item → Except Failure Bool)
    (le : Item → Item → Bool)
    (known : Item → Prop) :
    Prop where
  ranking : Ranking le
  answer : ∀ {left right}, known left → known right → before left right = .ok (!le right left)

/-- Negated, a comparison tells whether the second item may stand in front of the first. -/
theorem Decides.notBefore
    {before : Item → Item → Except Failure Bool}
    {le : Item → Item → Bool}
    {known : Item → Prop}
    (decides : Decides before le known)
    {item other : Item}
    (ofItem : known item)
    (ofOther : known other) :
    (before item other).map (!·) = .ok (le other item) := by
  rw [decides.answer ofItem ofOther, Except.map, Bool.not_not]

def Known (known : Item → Prop) (items : List Item) : Prop :=
  ∀ item ∈ items, known item

theorem ok_bind
    {First Second : Type}
    (value : First)
    (next : First → Except Failure Second) :
    (Except.ok value >>= next) = next value :=
  rfl

/-- A sorted list of known items. -/
structure IsRun (le : Item → Item → Bool) (known : Item → Prop) (run : List Item) : Prop where
  known : Known known run
  sorted : run.Pairwise fun left right => le left right = true

theorem IsRun.sublist
    {le : Item → Item → Bool}
    {known : Item → Prop}
    {run part : List Item}
    (isRun : IsRun le known run)
    (isPart : part.Sublist run) :
    IsRun le known part :=
  ⟨fun item member => isRun.known item (isPart.subset member), isRun.sorted.sublist isPart⟩

theorem Arranges.isRun
    {le : Item → Item → Bool}
    {known : Item → Prop}
    {items result : List Item}
    (arranges : Arranges le items result)
    (ranking : Ranking le)
    (ofItems : Known known items) :
    IsRun le known result :=
  ⟨fun item member => ofItems item ((arranges.mem_iff ranking item).mpr member), arranges.sorted⟩

/-! ## Searches -/

section Searches

variable {passes : Item → Except Failure Bool} {test : Item → Bool}

/-- A search by halving counts the items that pass. -/
theorem countByHalving_eq
    {items : List Item}
    (backward : Bool)
    (answers : ∀ item ∈ items, passes item = .ok (test item))
    (falls : Falls test items) :
    countByHalving backward passes items = .ok (items.countP test) := by
  fun_induction countByHalving backward passes items with
  | case1 items cut =>
    have lengths := congrArg List.length cut
    simp only [List.length_drop, List.length_nil] at lengths
    obtain rfl : items = [] := List.length_eq_zero_iff.mp (by omega)
    rfl
  | case2 items middle right cut leftCount rightHalf leftHalf =>
    have whole : items = items.take leftCount ++ middle :: right := by
      rw [← cut, List.take_append_drop]
    have size : (items.take leftCount).length = leftCount := by
      have lengths := congrArg List.length cut
      simp only [List.length_drop, List.length_cons] at lengths
      rw [List.length_take]
      omega
    have isMember {item : Item} (member : item ∈ middle :: right) : item ∈ items := by
      rw [whole]
      exact List.mem_append_right _ member
    have parts := falls
    rw [whole] at parts
    obtain ⟨ofLeft, ofOthers, between⟩ := List.pairwise_append.mp parts
    have count : items.countP test =
        (items.take leftCount).countP test + (middle :: right).countP test := by
      rw [← List.countP_append, ← whole]
    rw [answers middle (isMember List.mem_cons_self), ok_bind]
    cases passing : test middle with
    | true =>
      have allLeft : (items.take leftCount).countP test = leftCount := by
        rw [List.countP_eq_length.mpr fun item member =>
          between item member middle List.mem_cons_self passing, size]
      have ofRight := rightHalf (fun item member => answers item (isMember (.tail _ member)))
        ofOthers.tail
      rw [if_pos rfl, ofRight, ok_bind, count, allLeft, List.countP_cons_of_pos passing]
      congr 1
      omega
    | false =>
      have noneRight : (middle :: right).countP test = 0 := by
        have fail := Falls.eq_false ofOthers passing
        exact List.countP_eq_zero.mpr fun item member => by simp [fail item member]
      rw [if_neg Bool.false_ne_true, count, noneRight]
      exact leftHalf (fun item member => answers item (List.mem_of_mem_take member)) ofLeft

/-- Widening gives bounds: all items in front of the first one pass, and none behind the second. -/
theorem widen_spec
    {items : List Item}
    {passed distance : Nat}
    (answers : ∀ item ∈ items, passes item = .ok (test item))
    (falls : Falls test items)
    (inside : passed ≤ items.length)
    (inOrder : passed ≤ distance)
    (pass : ∀ item ∈ items.take passed, test item = true) :
    ∃ least greatest, widen passes items passed distance = .ok (least, greatest) ∧
      least ≤ greatest ∧ greatest ≤ items.length ∧
      (∀ item ∈ items.take least, test item = true) ∧
      ∀ item ∈ items.drop greatest, test item = false := by
  fun_induction widen passes items passed distance with
  | case1 passed distance found =>
    exact ⟨passed, items.length, rfl, inside, Nat.le_refl _, pass, by simp⟩
  | case2 passed distance item found inductionHypothesis =>
    obtain ⟨within, atDistance⟩ := List.getElem?_eq_some_iff.mp found
    have parts := falls
    rw [← List.take_append_drop distance items, List.drop_eq_getElem_cons within,
      atDistance] at parts
    obtain ⟨-, ofBack, between⟩ := List.pairwise_append.mp parts
    rw [answers item (List.mem_of_getElem? found), ok_bind]
    cases passing : test item with
    | true =>
      rw [if_pos rfl]
      apply inductionHypothesis within (by omega)
      rw [List.take_succ_eq_append_getElem within, atDistance]
      refine List.forall_mem_append.mpr ⟨?_, List.forall_mem_singleton.mpr passing⟩
      exact fun other member => between other member item List.mem_cons_self passing
    | false =>
      rw [if_neg Bool.false_ne_true]
      refine ⟨passed, distance, rfl, inOrder, Nat.le_of_lt within, pass, ?_⟩
      rw [List.drop_eq_getElem_cons within, atDistance]
      exact Falls.eq_false ofBack passing

/-- A search from the start counts the items that pass. -/
theorem countFromStart_eq
    {items : List Item}
    (backward : Bool)
    (answers : ∀ item ∈ items, passes item = .ok (test item))
    (falls : Falls test items) :
    countFromStart backward passes items = .ok (items.countP test) := by
  cases items with
  | nil => rfl
  | cons first rest =>
    rw [countFromStart, answers first List.mem_cons_self, ok_bind]
    cases passing : test first with
    | true =>
      obtain ⟨least, greatest, bounds, inOrder, inside, front, back⟩ :=
        widen_spec answers falls (Nat.succ_le_of_lt (by simp)) (Nat.le_refl 1)
          (List.forall_mem_singleton.mpr passing)
      let between := ((first :: rest).take greatest).drop least
      have isBetween : between.Sublist (first :: rest) :=
        (List.drop_sublist _ _).trans (List.take_sublist _ _)
      have ofBetween : countByHalving backward passes between = .ok (between.countP test) :=
        countByHalving_eq backward (fun item member => answers item (isBetween.subset member))
          (falls.sublist isBetween)
      have allFront : ((first :: rest).take least).countP test = least := by
        rw [List.countP_eq_length.mpr front, List.length_take]
        omega
      have noneBack : ((first :: rest).drop greatest).countP test = 0 :=
        List.countP_eq_zero.mpr fun item member => by simp [back item member]
      have whole : (first :: rest).countP test = least + between.countP test := by
        rw [← List.take_append_drop greatest (first :: rest), List.countP_append, noneBack,
          ← List.take_append_drop least ((first :: rest).take greatest), List.countP_append,
          List.take_take, Nat.min_eq_left inOrder, allFront]
        rfl
      rw [if_pos rfl, bounds, ok_bind]
      dsimp only
      rw [ofBetween, ok_bind, whole]
    | false =>
      have fail := Falls.eq_false falls passing
      rw [if_neg Bool.false_ne_true,
        List.countP_eq_zero.mpr fun item member => by simp [fail item member]]

end Searches

/-! ## Runs -/

section Runs

variable
  {before : Item → Item → Except Failure Bool}
  {le : Item → Item → Bool}
  {known : Item → Prop}

/-- Steps in one direction, upward or strictly downward, make up a step in that direction. -/
theorem Ranking.step_trans
    (ranking : Ranking le)
    {expected : Bool}
    {first second third : Item}
    (lower : (!le first second) = expected)
    (upper : (!le second third) = expected) :
    (!le first third) = expected := by
  cases expected with
  | false =>
    simp only [Bool.not_eq_false'] at lower upper ⊢
    exact ranking.trans _ _ _ lower upper
  | true =>
    simp only [Bool.not_eq_true'] at lower upper ⊢
    rw [← Bool.not_eq_true]
    intro whole
    have back := ranking.trans _ _ _ whole (ranking.of_not upper)
    exact Bool.false_ne_true (lower.symm.trans back)

/-- Items that go on in one direction, each from the one at its left. -/
def GoesOn (le : Item → Item → Bool) (expected : Bool) : List Item → Prop :=
  List.Pairwise fun left right => (!le left right) = expected

theorem GoesOn.cons
    {expected : Bool}
    {previous item : Item}
    {further : List Item}
    (ranking : Ranking le)
    (step : (!le previous item) = expected)
    (goesOn : GoesOn le expected (item :: further)) :
    GoesOn le expected (previous :: item :: further) := by
  refine List.pairwise_cons.mpr ⟨?_, goesOn⟩
  refine List.forall_mem_cons.mpr ⟨step, fun other member => ?_⟩
  exact ranking.step_trans step (List.rel_of_pairwise_cons goesOn member)

theorem stretch_spec
    (decides : Decides before le known)
    (expected : Bool)
    {previous : Item}
    {items : List Item}
    (ofPrevious : known previous)
    (ofItems : Known known items) :
    ∃ further others, stretch before expected previous items = .ok (further, others) ∧
      further ++ others = items ∧ GoesOn le expected (previous :: further) := by
  induction items generalizing previous with
  | nil => exact ⟨[], [], rfl, rfl, List.pairwise_singleton _ _⟩
  | cons item rest inductionHypothesis =>
    obtain ⟨ofItem, ofRest⟩ := List.forall_mem_cons.mp ofItems
    rw [stretch, decides.answer ofItem ofPrevious, ok_bind]
    by_cases step : (!le previous item) = expected
    · obtain ⟨further, others, found, whole, goesOn⟩ := inductionHypothesis ofItem ofRest
      rw [if_pos step, found, ok_bind]
      exact ⟨item :: further, others, rfl, congrArg (item :: ·) whole,
        goesOn.cons decides.ranking step⟩
    · rw [if_neg step]
      exact ⟨[], item :: rest, rfl, rfl, List.pairwise_singleton _ _⟩

/-- The start of a list is the arrangement of its first items. -/
theorem start_spec
    (decides : Decides before le known)
    {items : List Item}
    (ofItems : Known known items) :
    ∃ sorted others front, start before items = .ok (sorted, others) ∧
      items = front ++ others ∧ Arranges le front sorted ∧ (items ≠ [] → front ≠ []) := by
  match items with
  | [] => exact ⟨[], [], [], rfl, rfl, arranges_self .nil, id⟩
  | [only] =>
    exact ⟨[only], [], [only], rfl, rfl, arranges_self (List.pairwise_singleton _ _), id⟩
  | first :: second :: rest =>
    obtain ⟨ofFirst, ofOthers⟩ := List.forall_mem_cons.mp ofItems
    obtain ⟨ofSecond, ofRest⟩ := List.forall_mem_cons.mp ofOthers
    obtain ⟨further, others, found, whole, goesOn⟩ :=
      stretch_spec decides (!le first second) ofSecond ofRest
    have goesOn : GoesOn le (!le first second) (first :: second :: further) :=
      goesOn.cons decides.ranking rfl
    rw [start, decides.answer ofSecond ofFirst, ok_bind, found, ok_bind]
    refine ⟨_, others, first :: second :: further, rfl, by simp [whole], ?_, by simp⟩
    cases inOrder : le first second with
    | true =>
      rw [inOrder] at goesOn
      exact arranges_self (goesOn.imp fun step => by simpa using step)
    | false =>
      rw [inOrder] at goesOn
      exact arranges_reverse_of_descending decides.ranking
        (goesOn.imp fun step => by simpa using step)

/-- Insertion arranges the item behind those that are arranged already. -/
theorem insert_spec
    (decides : Decides before le known)
    {front sorted : List Item}
    {item : Item}
    (ofItem : known item)
    (ofFront : Known known front)
    (arranges : Arranges le front sorted) :
    ∃ placed, insert before item sorted = .ok placed ∧
      Arranges le (front ++ [item]) placed := by
  have ofSorted : Known known sorted := (arranges.isRun decides.ranking ofFront).known
  have falls := decides.ranking.falls arranges.sorted item
  have count : countByHalving false (fun other => (before item other).map (!·)) sorted =
      .ok (sorted.countP fun other => le other item) :=
    countByHalving_eq false
      (fun other member => decides.notBefore ofItem (ofSorted other member)) falls
  rw [insert, count, ok_bind]
  refine ⟨_, rfl, ?_⟩
  have split := List.take_append_drop (sorted.countP fun other => le other item) sorted
  have behind : Arranges le (sorted.drop (sorted.countP fun other => le other item) ++ [])
      (sorted.drop (sorted.countP fun other => le other item)) := by
    rw [List.append_nil]
    exact arranges_self (arranges.sorted.drop)
  have placed := behind.insertBehind decides.ranking (split.symm ▸ arranges.sorted)
    falls.of_mem_take falls.of_mem_drop (List.forall_mem_nil _)
  rw [split] at placed
  exact placed.of_sameTies (arranges.stable.append (.refl [item]))

/-- Insertion of many items arranges them behind those that are arranged already. -/
theorem insertAll_spec
    (decides : Decides before le known)
    {front sorted items : List Item}
    (ofFront : Known known front)
    (ofItems : Known known items)
    (arranges : Arranges le front sorted) :
    ∃ placed,
      items.foldlM (fun sorted item => insert before item sorted) sorted = .ok placed ∧
        Arranges le (front ++ items) placed := by
  induction items generalizing front sorted with
  | nil => exact ⟨sorted, rfl, by rwa [List.append_nil]⟩
  | cons item rest inductionHypothesis =>
    obtain ⟨ofItem, ofRest⟩ := List.forall_mem_cons.mp ofItems
    obtain ⟨placed, inserted, arrangesPlaced⟩ := insert_spec decides ofItem ofFront arranges
    have ofPlaced : Known known (front ++ [item]) :=
      List.forall_mem_append.mpr ⟨ofFront, List.forall_mem_singleton.mpr ofItem⟩
    obtain ⟨all, insertedAll, arrangesAll⟩ := inductionHypothesis ofPlaced ofRest arrangesPlaced
    rw [List.append_assoc, List.singleton_append] at arrangesAll
    exact ⟨all, by rw [List.foldlM_cons, inserted, ok_bind, insertedAll], arrangesAll⟩

theorem firstRun_spec
    (decides : Decides before le known)
    (least : Nat)
    {items : List Item}
    (ofItems : Known known items) :
    ∃ run others front, firstRun before least items = .ok (run, others) ∧
      items = front ++ others ∧ Arranges le front run ∧ (items ≠ [] → front ≠ []) := by
  obtain ⟨sorted, others, front, begun, whole, arranges, someFront⟩ := start_spec decides ofItems
  have parts := ofItems
  rw [whole] at parts
  obtain ⟨ofFront, ofOthers⟩ := List.forall_mem_append.mp parts
  obtain ⟨run, filled, arrangesRun⟩ := insertAll_spec decides ofFront
    (fun item member => ofOthers item (List.mem_of_mem_take member)) arranges
  rw [firstRun, begun, ok_bind]
  dsimp only
  rw [filled, ok_bind]
  refine ⟨run, _, _, rfl, ?_, arrangesRun, fun notEmpty isEmpty => ?_⟩
  · rw [List.append_assoc, List.take_append_drop, whole]
  · exact someFront notEmpty (List.append_eq_nil_iff.mp isEmpty).1

end Runs

end Attachments.Sorting
