/-!
Contract: lists arranged by a ranking, with items of one rank in the order in which they came.

Owns:
- lists whose items pass a test up to some item and fail it from there on;
- rankings, and which items are of one rank;
- lists that hold the same items of every rank in the same order;
- arranged lists, of which a list has only one, and which the stable sort of the library gives;
- how arranged lists are put together and turned around.

Does not own: how a sort arrives at an arranged list.
-/

namespace Attachments.Sorting

variable {Item : Type} {le : Item → Item → Bool}

/-! ## Tests that fail from some item on -/

/-- The items that pass stand before all others. -/
def Falls (test : Item → Bool) : List Item → Prop :=
  List.Pairwise fun left right => test right = true → test left = true

/-- Behind an item that fails no item passes. -/
theorem Falls.eq_false
    {test : Item → Bool}
    {item : Item}
    {rest : List Item}
    (falls : Falls test (item :: rest))
    (fails : test item = false) :
    ∀ other ∈ item :: rest, test other = false := by
  refine List.forall_mem_cons.mpr ⟨fails, fun other later => ?_⟩
  rw [← Bool.not_eq_true]
  intro otherPasses
  exact Bool.false_ne_true (fails.symm.trans (List.rel_of_pairwise_cons falls later otherPasses))

/-- As many items as pass at all pass at the start, and no item behind them passes. -/
theorem Falls.take_drop
    {test : Item → Bool}
    {items : List Item}
    (falls : Falls test items) :
    items.take (items.countP test) = items.filter test ∧
      items.drop (items.countP test) = items.filter fun item => !test item := by
  induction items with
  | nil => exact ⟨rfl, rfl⟩
  | cons item rest inductionHypothesis =>
    cases passes : test item with
    | true => simpa [passes] using inductionHypothesis falls.tail
    | false =>
      have noneLater : ∀ other ∈ rest, test other = false :=
        (List.forall_mem_cons.mp (falls.eq_false passes)).2
      have noCount : (item :: rest).countP test = 0 := by
        simpa [List.countP_eq_zero, passes] using noneLater
      have nonePassing : (item :: rest).filter test = [] := by
        simpa [List.filter_eq_nil_iff, passes] using noneLater
      have allFailing : (item :: rest).filter (fun other => !test other) = item :: rest := by
        simpa [List.filter_eq_self, passes] using noneLater
      rw [noCount, nonePassing, allFailing]
      exact ⟨rfl, rfl⟩

theorem Falls.of_mem_take
    {test : Item → Bool}
    {items : List Item}
    (falls : Falls test items) :
    ∀ item ∈ items.take (items.countP test), test item = true := by
  rw [falls.take_drop.1]
  exact fun item member => (List.mem_filter.mp member).2

theorem Falls.of_mem_drop
    {test : Item → Bool}
    {items : List Item}
    (falls : Falls test items) :
    ∀ item ∈ items.drop (items.countP test), test item = false := by
  rw [falls.take_drop.2]
  exact fun item member => by simpa using (List.mem_filter.mp member).2

theorem Falls.filter_append
    {test : Item → Bool}
    {items : List Item}
    (falls : Falls test items) :
    items = items.filter test ++ items.filter fun item => !test item := by
  rw [← falls.take_drop.1, ← falls.take_drop.2, List.take_append_drop]

/-! ## Rankings -/

/-- A ranking: which items may stand before which ones. -/
structure Ranking (le : Item → Item → Bool) : Prop where
  trans : ∀ first second third,
    le first second = true → le second third = true → le first third = true
  total : ∀ left right, (le left right || le right left) = true

theorem Ranking.refl (ranking : Ranking le) (item : Item) : le item item = true := by
  simpa using ranking.total item item

/-- Of two items one may stand before the other. -/
theorem Ranking.of_not (ranking : Ranking le) {left right : Item} (not : le left right = false) :
    le right left = true := by
  simpa [not] using ranking.total left right

/-- The ranking of items that are taken from the end. -/
def turned (backward : Bool) (le : Item → Item → Bool) (left right : Item) : Bool :=
  if backward then le right left else le left right

theorem Ranking.turned (ranking : Ranking le) (backward : Bool) :
    Ranking (turned backward le) := by
  cases backward with
  | false => exact ranking
  | true =>
    exact ⟨fun first second third lower upper => ranking.trans third second first upper lower,
      fun left right => ranking.total right left⟩

/-- Whether two items are of one rank. -/
def tied (le : Item → Item → Bool) (item other : Item) : Bool :=
  le item other && le other item

theorem tied_turned (backward : Bool) (item other : Item) :
    tied (turned backward le) item other = tied le item other := by
  cases backward with
  | false => rfl
  | true => exact Bool.and_comm _ _

theorem Ranking.tied_self (ranking : Ranking le) (item : Item) : tied le item item = true := by
  simp [tied, ranking.refl item]

theorem Ranking.tied_of_tied
    (ranking : Ranking le)
    {item left right : Item}
    (first : tied le item left = true)
    (second : tied le item right = true) :
    tied le left right = true := by
  simp only [tied, Bool.and_eq_true] at first second ⊢
  exact ⟨ranking.trans _ _ _ first.2 second.1, ranking.trans _ _ _ second.2 first.1⟩

/-- Sorted items may stand in front of an item up to some item. -/
theorem Ranking.falls
    (ranking : Ranking le)
    {items : List Item}
    (sorted : items.Pairwise fun left right => le left right = true)
    (item : Item) :
    Falls (fun other => le other item) items :=
  sorted.imp fun ordered => ranking.trans _ _ _ ordered

/-- Up to some item, an item may not stand in front of sorted ones. -/
theorem Ranking.falls_not
    (ranking : Ranking le)
    {items : List Item}
    (sorted : items.Pairwise fun left right => le left right = true)
    (item : Item) :
    Falls (fun other => !le item other) items := by
  refine sorted.imp fun {left right} ordered => ?_
  simp only [Bool.not_eq_true']
  intro beyond
  rw [← Bool.not_eq_true]
  intro inFront
  exact Bool.false_ne_true (beyond.symm.trans (ranking.trans _ _ _ inFront ordered))

/-! ## The same items of every rank -/

/-- Two lists hold the same items of every rank in the same order. -/
def SameTies (le : Item → Item → Bool) (items others : List Item) : Prop :=
  ∀ item, items.filter (tied le item) = others.filter (tied le item)

theorem SameTies.refl (items : List Item) : SameTies le items items :=
  fun _ => rfl

theorem SameTies.trans
    {first second third : List Item}
    (lower : SameTies le first second)
    (upper : SameTies le second third) :
    SameTies le first third :=
  fun item => (lower item).trans (upper item)

theorem SameTies.append
    {front otherFront back otherBack : List Item}
    (first : SameTies le front otherFront)
    (second : SameTies le back otherBack) :
    SameTies le (front ++ back) (otherFront ++ otherBack) := by
  intro item
  rw [List.filter_append, List.filter_append, first item, second item]

theorem SameTies.mem_iff
    {items others : List Item}
    (same : SameTies le items others)
    (ranking : Ranking le)
    (item : Item) :
    item ∈ items ↔ item ∈ others := by
  have inBoth : item ∈ items.filter (tied le item) ↔ item ∈ others.filter (tied le item) := by
    rw [same item]
  simpa [List.mem_filter, ranking.tied_self item] using inBoth

/-- Items change places with others if none of them is of one rank with one of these. -/
theorem sameTies_swap
    (ranking : Ranking le)
    {block others : List Item}
    (apart : ∀ item ∈ block, ∀ other ∈ others, tied le item other = false) :
    SameTies le (others ++ block) (block ++ others) := by
  intro rank
  rw [List.filter_append, List.filter_append]
  by_cases inBlock : ∃ item ∈ block, tied le rank item = true
  · obtain ⟨item, member, tiedItem⟩ := inBlock
    have noOther : others.filter (tied le rank) = [] := by
      rw [List.filter_eq_nil_iff]
      intro other otherMember tiedOther
      have alike := ranking.tied_of_tied tiedItem tiedOther
      exact Bool.false_ne_true ((apart item member other otherMember).symm.trans alike)
    rw [noOther, List.append_nil, List.nil_append]
  · have noItem : block.filter (tied le rank) = [] := by
      rw [List.filter_eq_nil_iff]
      exact fun item member tiedItem => inBlock ⟨item, member, tiedItem⟩
    rw [noItem, List.append_nil, List.nil_append]

/-! ## Arranged lists -/

/-- A list in ascending order, with the items of every rank in the order in which they came. -/
structure Arranges (le : Item → Item → Bool) (items result : List Item) : Prop where
  sorted : result.Pairwise fun left right => le left right = true
  stable : SameTies le items result

theorem arranges_self
    {items : List Item}
    (sorted : items.Pairwise fun left right => le left right = true) :
    Arranges le items items :=
  ⟨sorted, .refl items⟩

theorem Arranges.mem_iff
    {items result : List Item}
    (arranges : Arranges le items result)
    (ranking : Ranking le)
    (item : Item) :
    item ∈ items ↔ item ∈ result :=
  arranges.stable.mem_iff ranking item

theorem Arranges.of_sameTies
    {items others result : List Item}
    (arranges : Arranges le items result)
    (same : SameTies le others items) :
    Arranges le others result :=
  ⟨arranges.sorted, same.trans arranges.stable⟩

/-- Arranged lists are put together if no item of the second may stand only before one of the
first. -/
theorem Arranges.append
    {front frontResult back backResult : List Item}
    (ranking : Ranking le)
    (first : Arranges le front frontResult)
    (second : Arranges le back backResult)
    (between : ∀ item ∈ front, ∀ other ∈ back, le item other = true) :
    Arranges le (front ++ back) (frontResult ++ backResult) where
  sorted := by
    refine List.pairwise_append.mpr ⟨first.sorted, second.sorted, ?_⟩
    intro item member other otherMember
    exact between item ((first.mem_iff ranking item).mpr member) other
      ((second.mem_iff ranking other).mpr otherMember)
  stable := first.stable.append second.stable

/-- What is arranged by the ranking from the end is arranged by the ranking once it is turned
around. -/
theorem Arranges.reverse
    {items result : List Item}
    (arranges : Arranges (turned true le) items result) :
    Arranges le items.reverse result.reverse where
  sorted := List.pairwise_reverse.mpr arranges.sorted
  stable := by
    intro item
    have same := arranges.stable item
    simp only [show tied (turned true le) item = tied le item from
      funext fun other => tied_turned true item other] at same
    rw [List.filter_reverse, List.filter_reverse, same]

/-- A list can be arranged in one way only. The first items of two arrangements are of one rank, and
of that rank both have the same item first. -/
theorem Arranges.unique
    {items result other : List Item}
    (ranking : Ranking le)
    (first : Arranges le items result)
    (second : Arranges le items other) :
    result = other := by
  obtain ⟨sorted, stable⟩ := first
  obtain ⟨otherSorted, otherStable⟩ := second
  have same : SameTies le result other := fun item => (stable item).symm.trans (otherStable item)
  clear stable otherStable
  induction result generalizing other with
  | nil =>
    cases other with
    | nil => rfl
    | cons item rest => exact absurd ((same.mem_iff ranking item).mpr List.mem_cons_self) (by simp)
  | cons item rest inductionHypothesis =>
    cases other with
    | nil => exact absurd ((same.mem_iff ranking item).mp List.mem_cons_self) (by simp)
    | cons otherItem otherRest =>
      have least {front : Item} {behind : List Item}
          (sorted : (front :: behind).Pairwise fun left right => le left right = true)
          {member : Item} (inside : member ∈ front :: behind) : le front member = true := by
        rcases List.mem_cons.mp inside with rfl | later
        · exact ranking.refl _
        · exact List.rel_of_pairwise_cons sorted later
      have sameRank : tied le item otherItem = true := by
        rw [tied, Bool.and_eq_true]
        exact ⟨least sorted ((same.mem_iff ranking otherItem).mpr List.mem_cons_self),
          least otherSorted ((same.mem_iff ranking item).mp List.mem_cons_self)⟩
      have heads := same item
      rw [List.filter_cons_of_pos (ranking.tied_self item),
        List.filter_cons_of_pos sameRank] at heads
      obtain rfl := (List.cons.inj heads).1
      have sameRest : SameTies le rest otherRest := by
        intro rank
        have whole := same rank
        by_cases ofRank : tied le rank item = true
        · rw [List.filter_cons_of_pos ofRank, List.filter_cons_of_pos ofRank] at whole
          exact (List.cons.inj whole).2
        · rwa [List.filter_cons_of_neg ofRank, List.filter_cons_of_neg ofRank] at whole
      exact congrArg (item :: ·) (inductionHypothesis sorted.tail otherSorted.tail sameRest)

theorem arranges_mergeSort (ranking : Ranking le) (items : List Item) :
    Arranges le items (items.mergeSort le) where
  sorted := List.pairwise_mergeSort ranking.trans ranking.total items
  stable := by
    intro rank
    have ofRank :
        (items.filter (tied le rank)).Pairwise fun left right => le left right = true := by
      refine List.pairwise_of_forall_mem_list fun left leftMember right rightMember => ?_
      have alike := ranking.tied_of_tied (List.mem_filter.mp leftMember).2
        (List.mem_filter.mp rightMember).2
      exact (Bool.and_eq_true _ _ ▸ alike).1
    have kept : (items.filter (tied le rank)).Sublist (items.mergeSort le) :=
      List.sublist_mergeSort ranking.trans ranking.total ofRank List.filter_sublist
    have keptOfRank : (items.filter (tied le rank)).Sublist
        ((items.mergeSort le).filter (tied le rank)) := by
      simpa [List.filter_filter] using kept.filter (tied le rank)
    apply keptOfRank.eq_of_length
    exact ((List.mergeSort_perm items le).filter (tied le rank)).length_eq.symm

/-! ## One item among others -/

/-- Strictly descending items are arranged once they are turned around: no two are of one rank. -/
theorem arranges_reverse_of_descending
    (ranking : Ranking le)
    {items : List Item}
    (descends : items.Pairwise fun left right => le left right = false) :
    Arranges le items items.reverse where
  sorted := List.pairwise_reverse.mpr (descends.imp ranking.of_not)
  stable := by
    intro rank
    rw [List.filter_reverse]
    have descendsStill := descends.filter (tied le rank)
    cases ofRank : items.filter (tied le rank) with
    | nil => rfl
    | cons item others =>
      cases others with
      | nil => rfl
      | cons other rest =>
        have members : ∀ member ∈ item :: other :: rest, tied le rank member = true := by
          intro member inside
          rw [← ofRank] at inside
          exact (List.mem_filter.mp inside).2
        have alike : tied le item other = true :=
          ranking.tied_of_tied (members item (by simp)) (members other (by simp))
        rw [ofRank] at descendsStill
        have apart := List.rel_of_pairwise_cons descendsStill List.mem_cons_self
        rw [tied, apart] at alike
        contradiction

/-- An item behind sorted ones that may all stand in front of it is sorted with them. -/
theorem arranges_concat
    {front : List Item}
    {item : Item}
    (sorted : front.Pairwise fun left right => le left right = true)
    (inFront : ∀ other ∈ front, le other item = true) :
    Arranges le (front ++ [item]) (front ++ [item]) := by
  refine arranges_self (List.pairwise_append.mpr
    ⟨sorted, List.pairwise_singleton _ _, fun other member last isLast => ?_⟩)
  rw [List.mem_singleton.mp isLast]
  exact inFront other member

/-- An item of the second list goes behind the items of the first one that may stand in front of it,
and so behind those of its rank. -/
theorem Arranges.insertBehind
    {item : Item}
    {front back following merged : List Item}
    (ranking : Ranking le)
    (rest : Arranges le (back ++ following) merged)
    (sorted : (front ++ back).Pairwise fun left right => le left right = true)
    (ofFront : ∀ other ∈ front, le other item = true)
    (ofBack : ∀ other ∈ back, le other item = false)
    (ofFollowing : ∀ other ∈ following, le item other = true) :
    Arranges le ((front ++ back) ++ item :: following) (front ++ item :: merged) := by
  obtain ⟨frontSorted, -, between⟩ := List.pairwise_append.mp sorted
  have arranged : Arranges le ((front ++ [item]) ++ (back ++ following))
      ((front ++ [item]) ++ merged) := by
    refine (arranges_concat frontSorted ofFront).append ranking rest ?_
    simp only [List.forall_mem_append, List.forall_mem_singleton]
    refine ⟨fun other member => ⟨between other member, fun later laterMember => ?_⟩,
      fun other member => ranking.of_not (ofBack other member), ofFollowing⟩
    exact ranking.trans _ _ _ (ofFront other member) (ofFollowing later laterMember)
  have swap : SameTies le (back ++ [item]) ([item] ++ back) := by
    refine sameTies_swap ranking (List.forall_mem_singleton.mpr fun other member => ?_)
    rw [tied, ofBack other member, Bool.and_false]
  have same : SameTies le ((front ++ back) ++ item :: following)
      ((front ++ [item]) ++ (back ++ following)) := by
    have whole := ((SameTies.refl front).append swap).append (.refl following)
    simpa using whole
  simpa using arranged.of_sameTies same

/-- An item of the first list goes behind the items of the second one that it may not stand in front
of, and so in front of those of its rank. -/
theorem Arranges.insertBefore
    {item : Item}
    {leading front back merged : List Item}
    (ranking : Ranking le)
    (rest : Arranges le (leading ++ back) merged)
    (sorted : (front ++ back).Pairwise fun left right => le left right = true)
    (ofLeading : ∀ other ∈ leading, le item other = true)
    (ofFront : ∀ other ∈ front, le item other = false)
    (ofBack : ∀ other ∈ back, le item other = true) :
    Arranges le ((item :: leading) ++ (front ++ back)) (front ++ item :: merged) := by
  obtain ⟨frontSorted, -, between⟩ := List.pairwise_append.mp sorted
  have inFront : ∀ other ∈ front, le other item = true := fun other member =>
    ranking.of_not (ofFront other member)
  have arranged : Arranges le ((front ++ [item]) ++ (leading ++ back))
      ((front ++ [item]) ++ merged) := by
    refine (arranges_concat frontSorted inFront).append ranking rest ?_
    simp only [List.forall_mem_append, List.forall_mem_singleton]
    refine ⟨fun other member => ⟨fun later laterMember => ?_, between other member⟩,
      ofLeading, ofBack⟩
    exact ranking.trans _ _ _ (inFront other member) (ofLeading later laterMember)
  have swap : SameTies le ((item :: leading) ++ front) (front ++ (item :: leading)) := by
    refine sameTies_swap ranking fun other member first firstMember => ?_
    have apart : le first other = false := by
      rw [← Bool.not_eq_true]
      intro reaches
      have fromItem : le item other = true := by
        rcases List.mem_cons.mp firstMember with rfl | later
        · exact reaches
        · exact ranking.trans _ _ _ (ofLeading first later) reaches
      exact Bool.false_ne_true ((ofFront other member).symm.trans fromItem)
    rw [tied, apart, Bool.and_false]
  have same : SameTies le ((item :: leading) ++ (front ++ back))
      ((front ++ [item]) ++ (leading ++ back)) := by
    have whole := swap.append (.refl back)
    simpa using whole
  simpa using arranged.of_sameTies same

end Attachments.Sorting
