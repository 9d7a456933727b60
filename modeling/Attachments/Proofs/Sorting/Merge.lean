import Attachments.Proofs.Sorting.Run
import Attachments.Sorting.Merge

/-!
Contract: merges of neighbouring runs where every comparison is answered.

Owns:
- runs that can be merged without a look at the end of the run that reaches further;
- what taking an item, or a whole stretch, leaves to be merged;
- that a merge arranges the items of both runs, in whichever direction and at whichever pace.

Does not own: which runs are merged, and when.
-/

namespace Attachments.Sorting

variable {Item Failure : Type} {le : Item → Item → Bool}

/-! ## Mergeable runs -/

/-- Two sorted runs of which the first has an item that is to stand behind all items of the second.
Among items of one rank those of the first go first. -/
structure Mergeable (le : Item → Item → Bool) (leading following : List Item) : Prop where
  leadingSorted : leading.Pairwise fun left right => le left right = true
  followingSorted : following.Pairwise fun left right => le left right = true
  reaches : following ≠ [] → ∃ last ∈ leading, ∀ other ∈ following, le last other = false

/-- An item of the second run is taken, and in front of it the items of the first run that may stand
there. -/
theorem Mergeable.takeFollowing
    {item : Item}
    (front : List Item)
    {back following : List Item}
    (mergeable : Mergeable le (front ++ back) (item :: following))
    (ranking : Ranking le)
    (ofFront : ∀ other ∈ front, le other item = true)
    (ofBack : ∀ other ∈ back, le other item = false) :
    Mergeable le back following ∧
      ∀ {merged}, Arranges le (back ++ following) merged →
        Arranges le ((front ++ back) ++ item :: following) (front ++ item :: merged) := by
  obtain ⟨leadingSorted, followingSorted, reaches⟩ := mergeable
  constructor
  · refine ⟨(List.pairwise_append.mp leadingSorted).2.1, followingSorted.tail, fun _ => ?_⟩
    obtain ⟨last, member, beyond⟩ := reaches (List.cons_ne_nil item following)
    obtain ⟨beyondItem, beyondRest⟩ := List.forall_mem_cons.mp beyond
    refine ⟨last, ?_, beyondRest⟩
    rcases List.mem_append.mp member with inFront | inBack
    · exact absurd (beyondItem.symm.trans (ofFront last inFront)) Bool.false_ne_true
    · exact inBack
  · intro merged rest
    exact rest.insertBehind ranking leadingSorted ofFront ofBack
      fun other => List.rel_of_pairwise_cons followingSorted

/-- An item of the first run is taken, and in front of it the items of the second run that it may
not stand in front of. It is not the last one of its run. -/
theorem Mergeable.takeLeading
    {item : Item}
    (front : List Item)
    {leading back : List Item}
    (mergeable : Mergeable le (item :: leading) (front ++ back))
    (ranking : Ranking le)
    (more : 1 < (item :: leading).length)
    (ofFront : ∀ other ∈ front, le item other = false)
    (ofBack : ∀ other ∈ back, le item other = true) :
    Mergeable le leading back ∧
      ∀ {merged}, Arranges le (leading ++ back) merged →
        Arranges le ((item :: leading) ++ (front ++ back)) (front ++ item :: merged) := by
  obtain ⟨leadingSorted, followingSorted, reaches⟩ := mergeable
  have inFront : ∀ other ∈ leading, le item other = true := fun other =>
    List.rel_of_pairwise_cons leadingSorted
  constructor
  · refine ⟨leadingSorted.tail, (List.pairwise_append.mp followingSorted).2.1, fun someBack => ?_⟩
    obtain ⟨last, member, beyond⟩ := reaches (List.append_ne_nil_of_right_ne_nil front someBack)
    have beyondBack : ∀ other ∈ back, le last other = false := fun other inBack =>
      beyond other (List.mem_append_right front inBack)
    rcases List.mem_cons.mp member with rfl | later
    -- All items behind one that reaches further than the second run do so too.
    · obtain ⟨next, rest, rfl⟩ := List.exists_cons_of_length_pos (Nat.lt_of_succ_lt_succ more)
      refine ⟨next, List.mem_cons_self, fun other inBack => ?_⟩
      exact absurd ((beyondBack other inBack).symm.trans (ofBack other inBack)) Bool.false_ne_true
    · exact ⟨last, later, beyondBack⟩
  · intro merged rest
    exact rest.insertBefore ranking followingSorted inFront ofFront ofBack

/-- Where the second run is used up or the first one is down to one item, nothing is left to
compare. -/
theorem Mergeable.decided
    {leading following : List Item}
    (mergeable : Mergeable le leading following)
    (ranking : Ranking le)
    (short : following = [] ∨ leading.length ≤ 1) :
    Arranges le (leading ++ following) (following ++ leading) := by
  obtain ⟨leadingSorted, followingSorted, reaches⟩ := mergeable
  by_cases usedUp : following = []
  · rw [usedUp, List.append_nil, List.nil_append]
    exact arranges_self leadingSorted
  · obtain ⟨last, member, beyond⟩ := reaches usedUp
    have alone : leading = [last] := by
      match leading, short.resolve_left usedUp with
      | [only], _ => rw [List.mem_singleton.mp member]
      | [], _ => exact absurd member List.not_mem_nil
      | _ :: _ :: _, long => simp at long
    have nothingLeft : Arranges le ([] ++ []) [] := arranges_self .nil
    rw [← List.append_nil following] at followingSorted
    have arranged := nothingLeft.insertBefore ranking followingSorted (List.forall_mem_nil _)
      beyond (List.forall_mem_nil _)
    rw [List.append_nil] at arranged
    rw [alone]
    exact arranged

/-! ## What is left to be merged -/

/-- The first item of the first run is taken. -/
theorem Mergeable.stepLeading
    {item first : Item}
    {leading following : List Item}
    (mergeable : Mergeable le (item :: leading) (first :: following))
    (ranking : Ranking le)
    (more : 1 < (item :: leading).length)
    (inFront : le item first = true) :
    Mergeable le leading (first :: following) ∧
      ∀ {merged}, Arranges le (leading ++ first :: following) merged →
        Arranges le ((item :: leading) ++ first :: following) (item :: merged) :=
  Mergeable.takeLeading [] mergeable ranking more (List.forall_mem_nil _)
    (List.forall_mem_cons.mpr ⟨inFront, fun _ member => ranking.trans _ _ _ inFront
      (List.rel_of_pairwise_cons mergeable.followingSorted member)⟩)

/-- The first item of the second run is taken. -/
theorem Mergeable.stepFollowing
    {item first : Item}
    {leading following : List Item}
    (mergeable : Mergeable le (first :: leading) (item :: following))
    (ranking : Ranking le)
    (behind : le first item = false) :
    Mergeable le (first :: leading) following ∧
      ∀ {merged}, Arranges le ((first :: leading) ++ following) merged →
        Arranges le ((first :: leading) ++ item :: following) (item :: merged) :=
  Mergeable.takeFollowing [] mergeable ranking (List.forall_mem_nil _)
    (Falls.eq_false (ranking.falls mergeable.leadingSorted item) behind)

/-- A stretch of the second run is taken, and the first item of the first run behind it. -/
theorem Mergeable.searchLeading
    {item : Item}
    {leading following : List Item}
    (mergeable : Mergeable le (item :: leading) following)
    (ranking : Ranking le)
    (more : 1 < (item :: leading).length) :
    Mergeable le leading (following.drop (following.countP fun other => !le item other)) ∧
      ∀ {merged},
        Arranges le (leading ++ following.drop (following.countP fun other => !le item other))
          merged →
        Arranges le ((item :: leading) ++ following)
          (following.take (following.countP fun other => !le item other) ++ item :: merged) := by
  have falls := ranking.falls_not mergeable.followingSorted item
  have split := List.take_append_drop (following.countP fun other => !le item other) following
  rw [← split] at mergeable
  obtain ⟨left, arranges⟩ := Mergeable.takeLeading _ mergeable ranking more
    (by simpa using falls.of_mem_take) (by simpa using falls.of_mem_drop)
  rw [split] at arranges
  exact ⟨left, arranges⟩

/-- A stretch of the first run is taken, and the first item of the second run behind it. -/
theorem Mergeable.searchFollowing
    {item : Item}
    {leading following : List Item}
    (mergeable : Mergeable le leading (item :: following))
    (ranking : Ranking le) :
    Mergeable le (leading.drop (leading.countP fun other => le other item)) following ∧
      ∀ {merged},
        Arranges le (leading.drop (leading.countP fun other => le other item) ++ following)
          merged →
        Arranges le (leading ++ item :: following)
          (leading.take (leading.countP fun other => le other item) ++ item :: merged) := by
  have falls := ranking.falls mergeable.leadingSorted item
  have split := List.take_append_drop (leading.countP fun other => le other item) leading
  rw [← split] at mergeable
  obtain ⟨left, arranges⟩ :=
    Mergeable.takeFollowing _ mergeable ranking falls.of_mem_take falls.of_mem_drop
  rw [split] at arranges
  exact ⟨left, arranges⟩

/-! ## Merges under way -/

/-- A merge succeeds and gives the arrangement of some items. -/
def Merges
    (le : Item → Item → Bool)
    (items : List Item)
    (outcome : Except Failure (List Item × Nat)) :
    Prop :=
  ∃ merged final, outcome = .ok (merged, final) ∧ Arranges le items merged

/-- A merge of what is left goes on to a merge of all. -/
theorem Merges.goOn
    {inner : Item → Item → Bool}
    {items rest : List Item}
    {outcome : Except Failure (List Item × Nat)}
    {put : List Item → List Item}
    (merges : Merges inner rest outcome)
    (arranges : ∀ {merged}, Arranges inner rest merged → Arranges le items (put merged)) :
    Merges le items (outcome >>= fun reached => .ok (put reached.1, reached.2)) := by
  obtain ⟨merged, final, rfl, arranged⟩ := merges
  exact ⟨put merged, final, rfl, arranges arranged⟩

/-- The run that among items of one rank gives its items first. -/
def leadingRun : (backward : Bool) → (left right : List Item) → List Item
  | false, left, _ => left
  | true, _, right => right

def followingRun : (backward : Bool) → (left right : List Item) → List Item
  | false, _, right => right
  | true, left, _ => left

section Merges

variable {before : Item → Item → Except Failure Bool} {known : Item → Prop}

theorem rightIsNext_false
    (decides : Decides before le known)
    {left right : Item}
    (ofLeft : known left)
    (ofRight : known right) :
    rightIsNext before false left right = .ok (!turned false le left right) := by
  rw [rightIsNext, decides.answer ofRight ofLeft]
  simp [Except.map, turned]

theorem rightIsNext_true
    (decides : Decides before le known)
    {left right : Item}
    (ofLeft : known left)
    (ofRight : known right) :
    rightIsNext before true left right = .ok (turned true le right left) := by
  rw [rightIsNext, decides.answer ofRight ofLeft]
  simp [Except.map, turned]

/-- While a merge is not decided, both runs have items, and the run that gives its items first has
more than one. -/
theorem more_of_undecided
    {backward : Bool}
    {left right : List Item}
    (undecided : ¬ decided backward left right = true) :
    left ≠ [] ∧ right ≠ [] ∧ 1 < (leadingRun backward left right).length := by
  cases backward with
  | false =>
    simp only [decided, Bool.false_eq_true, if_false, Bool.or_eq_true, List.isEmpty_iff,
      decide_eq_true_eq, not_or, Nat.not_le] at undecided
    refine ⟨?_, undecided.1, undecided.2⟩
    rintro rfl
    exact absurd undecided.2 (by simp)
  | true =>
    simp only [decided, if_true, Bool.or_eq_true, List.isEmpty_iff, decide_eq_true_eq, not_or,
      Nat.not_le] at undecided
    refine ⟨undecided.1, ?_, undecided.2⟩
    rintro rfl
    exact absurd undecided.2 (by simp)

/-! ### Searches during a merge -/

theorem searchLeft_false
    (decides : Decides before le known)
    {left : List Item}
    {item : Item}
    (ofLeft : Known known left)
    (ofItem : known item)
    (sorted : left.Pairwise fun left right => turned false le left right = true) :
    countFromStart false (fun other => (rightIsNext before false other item).map (!·)) left =
      .ok (left.countP fun other => turned false le other item) := by
  refine countFromStart_eq false (fun other member => ?_) (decides.ranking.falls sorted item)
  rw [rightIsNext_false decides (ofLeft other member) ofItem, Except.map, Bool.not_not]

theorem searchLeft_true
    (decides : Decides before le known)
    {left : List Item}
    {item : Item}
    (ofLeft : Known known left)
    (ofItem : known item)
    (sorted : left.Pairwise fun left right => turned true le left right = true) :
    countFromStart true (fun other => (rightIsNext before true other item).map (!·)) left =
      .ok (left.countP fun other => !turned true le item other) := by
  refine countFromStart_eq true (fun other member => ?_)
    ((decides.ranking.turned true).falls_not sorted item)
  rw [rightIsNext_true decides (ofLeft other member) ofItem, Except.map]

theorem searchRight_false
    (decides : Decides before le known)
    {right : List Item}
    {item : Item}
    (ofRight : Known known right)
    (ofItem : known item)
    (sorted : right.Pairwise fun left right => turned false le left right = true) :
    countFromStart false (rightIsNext before false item) right =
      .ok (right.countP fun other => !turned false le item other) :=
  countFromStart_eq false
    (fun other member => rightIsNext_false decides ofItem (ofRight other member))
    (decides.ranking.falls_not sorted item)

theorem searchRight_true
    (decides : Decides before le known)
    {right : List Item}
    {item : Item}
    (ofRight : Known known right)
    (ofItem : known item)
    (sorted : right.Pairwise fun left right => turned true le left right = true) :
    countFromStart true (rightIsNext before true item) right =
      .ok (right.countP fun other => turned true le other item) :=
  countFromStart_eq true
    (fun other member => rightIsNext_true decides ofItem (ofRight other member))
    ((decides.ranking.turned true).falls sorted item)

/-! ### The whole of what is left -/

/-- A merge under way arranges what is left of both runs, in the order in which it is taken. The
induction is on the merge itself: every pace takes items off one of the runs, in either direction,
and leaves mergeable runs. -/
theorem mergeAt_spec
    (decides : Decides before le known)
    (backward : Bool)
    {pace : Pace}
    {kept patience : Nat}
    {left right : List Item}
    (ofLeft : Known known left)
    (ofRight : Known known right)
    (mergeable : Mergeable (turned backward le) (leadingRun backward left right)
      (followingRun backward left right)) :
    Merges (turned backward le)
      (leadingRun backward left right ++ followingRun backward left right)
      (mergeAt before backward pace kept patience left right) := by
  have ranking := decides.ranking.turned backward
  fun_induction mergeAt before backward pace kept patience left right with
  | case1 _ _ _ left right isDecided =>
    refine ⟨_, _, rfl, ?_⟩
    cases backward with
    | false =>
      have short : right = [] ∨ left.length ≤ 1 := by simpa [decided] using isDecided
      exact Mergeable.decided mergeable ranking short
    | true =>
      have short : left = [] ∨ right.length ≤ 1 := by simpa [decided] using isDecided
      exact Mergeable.decided mergeable ranking short
  | case2 _ _ _ _ leftFirst leftRest rightFirst rightRest undecided rightTaken leftTaken =>
    obtain ⟨ofLeftFirst, ofLeftRest⟩ := List.forall_mem_cons.mp ofLeft
    obtain ⟨ofRightFirst, ofRightRest⟩ := List.forall_mem_cons.mp ofRight
    obtain ⟨-, -, more⟩ := more_of_undecided undecided
    cases backward with
    | false =>
      rw [rightIsNext_false decides ofLeftFirst ofRightFirst, ok_bind]
      cases inFront : turned false le leftFirst rightFirst with
      | true =>
        obtain ⟨mergeable, arranges⟩ := Mergeable.stepLeading mergeable ranking more inFront
        exact (leftTaken ofLeftRest ofRight mergeable).goOn arranges
      | false =>
        obtain ⟨mergeable, arranges⟩ := Mergeable.stepFollowing mergeable ranking inFront
        exact (rightTaken ofLeft ofRightRest mergeable).goOn arranges
    | true =>
      rw [rightIsNext_true decides ofLeftFirst ofRightFirst, ok_bind]
      cases inFront : turned true le rightFirst leftFirst with
      | true =>
        obtain ⟨mergeable, arranges⟩ := Mergeable.stepLeading mergeable ranking more inFront
        exact (rightTaken ofLeft ofRightRest mergeable).goOn arranges
      | false =>
        obtain ⟨mergeable, arranges⟩ := Mergeable.stepFollowing mergeable ranking inFront
        exact (leftTaken ofLeftRest ofRight mergeable).goOn arranges
  | case3 _ _ left rightFirst rightRest undecided goesOn =>
    obtain ⟨ofRightFirst, ofRightRest⟩ := List.forall_mem_cons.mp ofRight
    obtain ⟨-, -, more⟩ := more_of_undecided undecided
    have ofRest (count : Nat) : Known known (left.drop count) := fun item member =>
      ofLeft item (List.mem_of_mem_drop member)
    cases backward with
    | false =>
      rw [searchLeft_false decides ofLeft ofRightFirst mergeable.leadingSorted, ok_bind]
      obtain ⟨mergeable, arranges⟩ := Mergeable.searchFollowing mergeable ranking
      exact (goesOn _ (ofRest _) ofRightRest mergeable).goOn arranges
    | true =>
      rw [searchLeft_true decides ofLeft ofRightFirst mergeable.followingSorted, ok_bind]
      obtain ⟨mergeable, arranges⟩ := Mergeable.searchLeading mergeable ranking more
      exact (goesOn _ (ofRest _) ofRightRest mergeable).goOn arranges
  | case4 _ _ _ leftFirst leftRest right undecided goesOn =>
    obtain ⟨ofLeftFirst, ofLeftRest⟩ := List.forall_mem_cons.mp ofLeft
    obtain ⟨-, -, more⟩ := more_of_undecided undecided
    have ofRest (count : Nat) : Known known (right.drop count) := fun item member =>
      ofRight item (List.mem_of_mem_drop member)
    cases backward with
    | false =>
      rw [searchRight_false decides ofRight ofLeftFirst mergeable.followingSorted, ok_bind]
      obtain ⟨mergeable, arranges⟩ := Mergeable.searchLeading mergeable ranking more
      exact (goesOn _ _ _ ofLeftRest (ofRest _) mergeable).goOn arranges
    | true =>
      rw [searchRight_true decides ofRight ofLeftFirst mergeable.leadingSorted, ok_bind]
      obtain ⟨mergeable, arranges⟩ := Mergeable.searchFollowing mergeable ranking
      exact (goesOn _ _ _ ofLeftRest (ofRest _) mergeable).goOn arranges
  | case5 pace _ _ left right notStepping notLeft notRight undecided =>
    -- Both runs have items, and for such runs every pace has a case of its own above.
    obtain ⟨someLeft, someRight, -⟩ := more_of_undecided undecided
    obtain ⟨leftFirst, leftRest, rfl⟩ := List.exists_cons_of_ne_nil someLeft
    obtain ⟨rightFirst, rightRest, rfl⟩ := List.exists_cons_of_ne_nil someRight
    cases pace with
    | stepping leftStreak rightStreak => exact (notStepping _ _ _ _ _ _ rfl rfl rfl).elim
    | searchingLeft => exact (notLeft _ _ rfl rfl).elim
    | searchingRight leftCount => exact (notRight _ _ _ rfl rfl).elim

/-! ## Whole merges -/

/-- In a sorted list all items may stand in front of the last one. -/
theorem le_getLast
    {items : List Item}
    {last : Item}
    (ranking : Ranking le)
    (sorted : items.Pairwise fun left right => le left right = true)
    (isLast : items.getLast? = some last) :
    ∀ item ∈ items, le item last = true := by
  obtain ⟨front, rfl⟩ := List.getLast?_eq_some_iff.mp isLast
  intro item member
  rcases List.mem_append.mp member with inFront | isItem
  · exact (List.pairwise_append.mp sorted).2.2 item inFront last (List.mem_singleton_self last)
  · rw [List.mem_singleton.mp isItem]
    exact ranking.refl last

/-- Seen from the end, the run that gives its items first is the other one. -/
theorem Mergeable.turn
    {left right : List Item}
    {first : Item}
    (leftSorted : left.Pairwise fun left right => le left right = true)
    (rightSorted : (first :: right).Pairwise fun left right => le left right = true)
    (beyond : ∀ other ∈ left, le other first = false) :
    Mergeable (turned true le) (first :: right).reverse left.reverse where
  leadingSorted := List.pairwise_reverse.mpr rightSorted
  followingSorted := List.pairwise_reverse.mpr leftSorted
  reaches _ := ⟨first, List.mem_reverse.mpr List.mem_cons_self,
    fun other member => beyond other (List.mem_reverse.mp member)⟩

theorem mergeMoving_spec
    (decides : Decides before le known)
    (patience : Nat)
    {left others : List Item}
    {first last : Item}
    (leftRun : IsRun le known left)
    (rightRun : IsRun le known (first :: others))
    (isLast : left.getLast? = some last)
    (behindFirst : ∀ other ∈ left, le other first = false)
    (beforeLast : ∀ other ∈ first :: others, le last other = false) :
    Merges le (left ++ first :: others) (mergeMoving before patience left (first :: others)) := by
  unfold mergeMoving
  split
  · have mergeable : Mergeable le ([] ++ left) (first :: others) :=
      ⟨leftRun.sorted, rightRun.sorted, fun _ => ⟨last, List.mem_of_getLast? isLast, beforeLast⟩⟩
    obtain ⟨mergeable, arranges⟩ := Mergeable.takeFollowing [] mergeable decides.ranking
      (List.forall_mem_nil _) behindFirst
    have ofOthers : Known known others := (List.forall_mem_cons.mp rightRun.known).2
    exact (mergeAt_spec decides false leftRun.known ofOthers mergeable).goOn arranges
  · obtain ⟨front, rfl⟩ := List.getLast?_eq_some_iff.mp isLast
    have turnedLeft : (front ++ [last]).reverse = last :: front.reverse := by simp
    have mergeable := Mergeable.turn leftRun.sorted rightRun.sorted behindFirst
    rw [turnedLeft, ← List.nil_append (first :: others).reverse] at mergeable
    obtain ⟨mergeable, arranges⟩ := Mergeable.takeFollowing [] mergeable
      (decides.ranking.turned true) (List.forall_mem_nil _)
      fun other member => beforeLast other (List.mem_reverse.mp member)
    have ofFront : Known known front.reverse := fun item member =>
      leftRun.known item (List.mem_append_left _ (List.mem_reverse.mp member))
    have ofTurned : Known known (first :: others).reverse := fun item member =>
      rightRun.known item (List.mem_reverse.mp member)
    have turnedAround {merged : List Item}
        (arranged : Arranges (turned true le) ((first :: others).reverse ++ front.reverse) merged) :
        Arranges le ((front ++ [last]) ++ first :: others) (last :: merged).reverse := by
      simpa using (arranges arranged).reverse
    rw [turnedLeft]
    exact (mergeAt_spec decides true ofFront ofTurned mergeable).goOn turnedAround

/-- The items of a sorted list that stand from some item on, found from the end. -/
theorem drop_countP_reverse
    {test : Item → Bool}
    {items : List Item}
    (falls : Falls test items.reverse) :
    (∀ item ∈ items.take (items.length - items.reverse.countP test), test item = false) ∧
      ∀ item ∈ items.drop (items.length - items.reverse.countP test), test item = true := by
  have pass := falls.of_mem_take
  have fail := falls.of_mem_drop
  rw [List.take_reverse] at pass
  rw [List.drop_reverse] at fail
  exact ⟨fun item member => fail item (List.mem_reverse.mpr member),
    fun item member => pass item (List.mem_reverse.mpr member)⟩

/-- Items at the start of the left run and at the end of the right run that stay in place are set
around what is merged in between. -/
theorem Arranges.framed
    {low moving inner high merged : List Item}
    {first last : Item}
    (ranking : Ranking le)
    (arranged : Arranges le (moving ++ first :: inner) merged)
    (leftSorted : (low ++ moving).Pairwise fun left right => le left right = true)
    (rightSorted : ((first :: inner) ++ high).Pairwise fun left right => le left right = true)
    (isLast : moving.getLast? = some last)
    (upToFirst : ∀ item ∈ low, le item first = true)
    (fromLast : ∀ item ∈ high, le last item = true) :
    Arranges le ((low ++ moving) ++ ((first :: inner) ++ high)) (low ++ merged ++ high) := by
  obtain ⟨lowSorted, movingSorted, lowMoving⟩ := List.pairwise_append.mp leftSorted
  obtain ⟨innerSorted, highSorted, innerHigh⟩ := List.pairwise_append.mp rightSorted
  have lowInner : ∀ item ∈ low, ∀ other ∈ first :: inner, le item other = true := by
    refine fun item member => List.forall_mem_cons.mpr ⟨upToFirst item member, ?_⟩
    exact fun other later => ranking.trans _ _ _ (upToFirst item member)
      (List.rel_of_pairwise_cons innerSorted later)
  have lowHigh : ∀ item ∈ low, ∀ other ∈ high, le item other = true :=
    fun item member other later =>
      ranking.trans _ _ _ (upToFirst item member) (innerHigh first List.mem_cons_self other later)
  have movingHigh : ∀ item ∈ moving, ∀ other ∈ high, le item other = true :=
    fun item member other later => ranking.trans _ _ _
      (le_getLast ranking movingSorted isLast item member) (fromLast other later)
  have whole : Arranges le ((low ++ (moving ++ first :: inner)) ++ high)
      ((low ++ merged) ++ high) := by
    refine ((arranges_self lowSorted).append ranking arranged ?_).append ranking
      (arranges_self highSorted) ?_
    · exact fun item member => List.forall_mem_append.mpr
        ⟨lowMoving item member, lowInner item member⟩
    · exact List.forall_mem_append.mpr ⟨lowHigh, List.forall_mem_append.mpr
        ⟨movingHigh, innerHigh⟩⟩
  simpa using whole

/-- A merge of two sorted runs arranges the items of both. -/
theorem merge_spec
    (decides : Decides before le known)
    (patience : Nat)
    {left right : List Item}
    (leftRun : IsRun le known left)
    (rightRun : IsRun le known right) :
    Merges le (left ++ right) (merge before patience left right) := by
  have ranking := decides.ranking
  cases right with
  | nil =>
    rw [List.append_nil]
    exact ⟨left, patience, rfl, arranges_self leftRun.sorted⟩
  | cons first others =>
    have ofFirst : known first := rightRun.known first List.mem_cons_self
    have falls := ranking.falls leftRun.sorted first
    have low := countFromStart_eq false
      (fun item member => decides.notBefore ofFirst (leftRun.known item member)) falls
    have kept := List.take_append_drop (left.countP fun item => le item first) left
    have leftParts := leftRun.sorted
    rw [← kept] at leftParts
    rw [merge, low, ok_bind]
    dsimp only
    split
    next isEmpty =>
      rw [List.getLast?_eq_none_iff.mp isEmpty, List.append_nil] at kept
      have upToFirst := falls.of_mem_take
      rw [kept] at upToFirst
      have upToRight : ∀ item ∈ left, ∀ other ∈ first :: others, le item other = true :=
        fun item member => List.forall_mem_cons.mpr ⟨upToFirst item member, fun other later =>
          ranking.trans _ _ _ (upToFirst item member)
            (List.rel_of_pairwise_cons rightRun.sorted later)⟩
      exact ⟨_, _, rfl, arranges_self (List.pairwise_append.mpr
        ⟨leftRun.sorted, rightRun.sorted, upToRight⟩)⟩
    next last isLast =>
      have moving := List.mem_of_getLast? isLast
      have ofLast : known last := leftRun.known last (List.mem_of_mem_drop moving)
      have rises : Falls (fun item => le last item) (first :: others).reverse :=
        List.pairwise_reverse.mpr (rightRun.sorted.imp fun ordered inFront =>
          ranking.trans _ _ _ inFront ordered)
      have high := countFromStart_eq true
        (fun item member => decides.notBefore (rightRun.known item (List.mem_reverse.mp member))
          ofLast) rises
      obtain ⟨beforeLast, behindLast⟩ := drop_countP_reverse rises
      rw [high, ok_bind]
      generalize (first :: others).length - (first :: others).reverse.countP
        (fun item => le last item) = border at beforeLast behindLast ⊢
      have cut := List.take_append_drop border (first :: others)
      cases inner : (first :: others).take border with
      | nil =>
        -- The first item of the right run is to stand in front of the last one of the left run.
        rw [inner, List.nil_append] at cut
        rw [cut] at behindLast
        have apart : le last first = false := falls.of_mem_drop last moving
        exact absurd (apart.symm.trans (behindLast first List.mem_cons_self)) Bool.false_ne_true
      | cons head rest =>
        rw [inner] at cut beforeLast
        obtain rfl : head = first := (List.cons.inj cut).1
        have movingRight : IsRun le known (head :: rest) :=
          rightRun.sublist (inner ▸ List.take_sublist border _)
        have rightParts := rightRun.sorted
        rw [← cut] at rightParts
        have middle := mergeMoving_spec decides patience
          (leftRun.sublist (List.drop_sublist _ _)) movingRight isLast falls.of_mem_drop beforeLast
        have framed {merged : List Item} (arranged : Arranges le
            (left.drop (left.countP fun item => le item head) ++ head :: rest) merged) :=
          arranged.framed ranking leftParts rightParts isLast falls.of_mem_take behindLast
        rw [kept, cut] at framed
        exact middle.goOn framed

end Merges

end Attachments.Sorting
