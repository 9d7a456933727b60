import Attachments.Identifier.Sorting
import Attachments.Proofs.Identifier.Order
import Attachments.Proofs.Sorting.Schedule

/-!
Contract: identifiers in order, whatever the order in which they came.

Owns:
- the order of identifiers as a ranking in both directions, and that it leaves one sequence only;
- that the sort by comparisons never fails on identifiers and gives that sequence;
- what an ascending list looks like, told by domains;
- the distinct identifiers, the least and the greatest one, and the positions of equal ones.

Does not own: lists in which plain values stand among identifiers.
-/

namespace Attachments

namespace Identifier

open Sorting (Arranges Falls Ranking arranges_mergeSort turned)

/-! ## The order as a ranking -/

theorem notAfter_iff (left right : Identifier) : notAfter left right = true ↔ ¬ right < left := by
  simp [notAfter]

theorem ranking_notAfter : Ranking notAfter where
  trans first second third lower upper := by
    rw [notAfter_iff] at lower upper ⊢
    intro behind
    rcases lt_trichotomy first second with before | rfl | after
    · exact upper (lt_trans behind before)
    · exact upper behind
    · exact lower after
  total left right := by
    rw [Bool.or_eq_true, notAfter_iff, notAfter_iff]
    by_cases before : left < right
    · exact .inl (lt_asymm before)
    · exact .inr before

/-- Identifiers of one rank are equal. -/
theorem eq_of_turned
    {descending : Bool}
    {left right : Identifier}
    (first : turned descending notAfter left right = true)
    (second : turned descending notAfter right left = true) :
    left = right := by
  have apart : ¬ left < right ∧ ¬ right < left := by
    cases descending with
    | false => exact ⟨(notAfter_iff _ _).mp second, (notAfter_iff _ _).mp first⟩
    | true => exact ⟨(notAfter_iff _ _).mp first, (notAfter_iff _ _).mp second⟩
  rcases lt_trichotomy left right with before | same | behind
  · exact absurd before apart.1
  · exact same
  · exact absurd behind apart.2

def InOrder (descending : Bool) (identifiers : List Identifier) : Prop :=
  identifiers.Pairwise fun left right => turned descending notAfter left right = true

/-- The order leaves one sequence of given identifiers only. -/
theorem InOrder.eq_of_perm
    {descending : Bool}
    {identifiers others : List Identifier}
    (inOrder : InOrder descending identifiers)
    (otherInOrder : InOrder descending others)
    (permuted : identifiers.Perm others) :
    identifiers = others :=
  permuted.eq_of_pairwise (fun _ _ _ _ => eq_of_turned) inOrder otherInOrder

theorem InOrder.reverse
    {descending : Bool}
    {identifiers : List Identifier}
    (inOrder : InOrder descending identifiers) :
    InOrder (!descending) identifiers.reverse := by
  rw [InOrder, List.pairwise_reverse]
  cases descending <;> exact inOrder

/-! ## Arranged lists -/

/-- The order of entries is that of their identifiers. -/
theorem ranking_entries (descending : Bool) :
    Ranking fun left right : Identifier × Nat => turned descending notAfter left.1 right.1 where
  trans first second third :=
    (ranking_notAfter.turned descending).trans first.1 second.1 third.1
  total left right := (ranking_notAfter.turned descending).total left.1 right.1

theorem arranges_arranged (descending : Bool) (identifiers : List Identifier) :
    Arranges (fun left right : Identifier × Nat => turned descending notAfter left.1 right.1)
      identifiers.zipIdx (arranged descending identifiers) :=
  arranges_mergeSort (ranking_entries descending) identifiers.zipIdx

theorem arranged_perm (descending : Bool) (identifiers : List Identifier) :
    (arranged descending identifiers).Perm identifiers.zipIdx :=
  List.mergeSort_perm _ _

def sequence (descending : Bool) (identifiers : List Identifier) : List Identifier :=
  (arranged descending identifiers).map Prod.fst

theorem inOrder_sequence (descending : Bool) (identifiers : List Identifier) :
    InOrder descending (sequence descending identifiers) :=
  List.pairwise_map.mpr (arranges_arranged descending identifiers).sorted

theorem sequence_perm (descending : Bool) (identifiers : List Identifier) :
    (sequence descending identifiers).Perm identifiers := by
  have whole := (arranged_perm descending identifiers).map Prod.fst
  rwa [List.zipIdx_map_fst] at whole

theorem sequence_eq_of_perm
    (descending : Bool)
    {identifiers others : List Identifier}
    (permuted : identifiers.Perm others) :
    sequence descending identifiers = sequence descending others :=
  (inOrder_sequence descending identifiers).eq_of_perm (inOrder_sequence descending others)
    ((sequence_perm descending identifiers).trans
      (permuted.trans (sequence_perm descending others).symm))

theorem sequence_true (identifiers : List Identifier) :
    sequence true identifiers = (sequence false identifiers).reverse :=
  (inOrder_sequence true identifiers).eq_of_perm (inOrder_sequence false identifiers).reverse
    ((sequence_perm true identifiers).trans
      ((sequence_perm false identifiers).symm.trans (List.reverse_perm _).symm))

/-- The entries of one identifier stand in the order of their positions. -/
theorem arranged_filter
    (descending : Bool)
    (identifiers : List Identifier)
    (identifier : Identifier) :
    (arranged descending identifiers).filter (fun entry => entry.1 = identifier) =
      identifiers.zipIdx.filter (fun entry => entry.1 = identifier) := by
  have same := (arranges_arranged descending identifiers).stable (identifier, 0)
  have ofRank : Sorting.tied
      (fun left right : Identifier × Nat => turned descending notAfter left.1 right.1)
      (identifier, 0) = fun entry => decide (entry.1 = identifier) := by
    funext entry
    rw [Bool.eq_iff_iff, Sorting.tied, Bool.and_eq_true, decide_eq_true_eq]
    constructor
    · rintro ⟨first, second⟩
      exact eq_of_turned second first
    · rintro rfl
      exact ⟨(ranking_notAfter.turned descending).refl _,
        (ranking_notAfter.turned descending).refl _⟩
  rw [ofRank] at same
  exact same.symm

/-! ## Sorting by comparisons -/

/-- Whether one operand may stand before another. Plain values are set behind all identifiers here;
no comparison says so. -/
def operandNotAfter : Operand → Operand → Bool
  | .named left, .named right => notAfter left right
  | .plain _, .named _ => false
  | _, .plain _ => true

theorem ranking_operandNotAfter : Ranking operandNotAfter where
  trans first second third lower upper := by
    cases first <;> cases second <;> cases third <;>
      simp_all only [operandNotAfter, Bool.false_eq_true]
    exact ranking_notAfter.trans _ _ _ lower upper
  total left right := by
    cases left <;> cases right <;> try rfl
    exact ranking_notAfter.total _ _

/-- Comparisons of identifiers are all answered, and by their order. -/
theorem decides_named :
    Sorting.Decides (fun left right : Operand => left.relate .less right) operandNotAfter
      (fun operand => ∃ identifier, operand = .named identifier) where
  ranking := ranking_operandNotAfter
  answer := by
    rintro _ _ ⟨left, rfl⟩ ⟨right, rfl⟩
    rw [(relate_named left right).1, operandNotAfter, notAfter, Bool.not_not]

theorem sort_named (identifiers : List Identifier) :
    Sorting.sort (fun left right : Operand => left.relate .less right) (identifiers.map .named) =
      .ok ((sequence false identifiers).map .named) := by
  have named : Sorting.Known (fun operand => ∃ identifier, operand = .named identifier)
      (identifiers.map Operand.named) := by
    intro operand member
    obtain ⟨identifier, -, rfl⟩ := List.mem_map.mp member
    exact ⟨identifier, rfl⟩
  have same : sequence false identifiers = identifiers.mergeSort notAfter :=
    (inOrder_sequence false identifiers).eq_of_perm
      (arranges_mergeSort ranking_notAfter identifiers).sorted
      ((sequence_perm false identifiers).trans (List.mergeSort_perm _ _).symm)
  have mapped : (identifiers.mergeSort notAfter).map Operand.named =
      (identifiers.map Operand.named).mergeSort operandNotAfter :=
    List.map_mergeSort fun left _ right _ => rfl
  rw [Sorting.sort_eq_mergeSort decides_named named, same, mapped]

/-- Identifiers are sorted by their comparisons as they are by their order. -/
theorem arranged_named (descending : Bool) (identifiers : List Identifier) :
    Operand.arranged descending (identifiers.map .named) =
      .ok ((sequence descending identifiers).map .named) := by
  cases descending with
  | false => exact sort_named identifiers
  | true =>
    have sameTurned : sequence false identifiers.reverse = sequence false identifiers :=
      sequence_eq_of_perm false (List.reverse_perm identifiers)
    rw [Operand.arranged]
    simp only [if_true, ← List.map_reverse]
    rw [sort_named, sameTurned, sequence_true, List.map_reverse]
    rfl

theorem mapM_toIdentifier (operation : String) (identifiers : List Identifier) :
    (identifiers.map Operand.named).mapM (Operand.toIdentifier operation) = .ok identifiers := by
  induction identifiers with
  | nil => rfl
  | cons identifier rest inductionHypothesis =>
    rw [List.map_cons, List.mapM_cons, inductionHypothesis]
    rfl

theorem sortable_named (descending : Bool) (identifiers : List Identifier) :
    Operand.sortable descending (identifiers.map .named) = .ok identifiers := by
  rw [Operand.sortable, arranged_named, Sorting.ok_bind, mapM_toIdentifier, Sorting.ok_bind,
    mapM_toIdentifier]

/-! ## Distinct identifiers -/

theorem mem_distinct_iff (identifiers : List Identifier) (identifier : Identifier) :
    identifier ∈ distinct identifiers ↔ identifier ∈ identifiers := by
  induction identifiers with
  | nil => exact Iff.rfl
  | cons first rest inductionHypothesis =>
    by_cases same : identifier = first
    · simp [distinct, same]
    · simp [distinct, same, inductionHypothesis]

theorem nodup_distinct (identifiers : List Identifier) : (distinct identifiers).Nodup := by
  induction identifiers with
  | nil => exact List.nodup_nil
  | cons first rest inductionHypothesis =>
    refine List.nodup_cons.mpr ⟨?_, inductionHypothesis.filter _⟩
    simp

theorem inOrder_ascending (identifiers : List Identifier) :
    InOrder false (ascending identifiers) :=
  (arranges_mergeSort ranking_notAfter identifiers).sorted

theorem ascending_perm (identifiers : List Identifier) :
    (ascending identifiers).Perm identifiers :=
  List.mergeSort_perm _ _

theorem ascending_eq_of_perm
    {identifiers others : List Identifier}
    (permuted : identifiers.Perm others) :
    ascending identifiers = ascending others :=
  (inOrder_ascending identifiers).eq_of_perm (inOrder_ascending others)
    ((ascending_perm identifiers).trans (permuted.trans (ascending_perm others).symm))

theorem distinct_perm
    {identifiers others : List Identifier}
    (permuted : identifiers.Perm others) :
    (distinct identifiers).Perm (distinct others) := by
  rw [List.perm_ext_iff_of_nodup (nodup_distinct identifiers) (nodup_distinct others)]
  intro identifier
  rw [mem_distinct_iff, mem_distinct_iff, permuted.mem_iff]

/-- Distinct identifiers in order ascend strictly. -/
theorem ascending_distinct_strict (identifiers : List Identifier) :
    (ascending (distinct identifiers)).Pairwise (· < ·) := by
  have noTwice : (ascending (distinct identifiers)).Nodup :=
    (ascending_perm _).nodup_iff.mpr (nodup_distinct identifiers)
  refine ((inOrder_ascending (distinct identifiers)).and noTwice).imp ?_
  rintro left right ⟨notAfter, different⟩
  rcases lt_trichotomy left right with before | same | behind
  · exact before
  · exact absurd same different
  · exact absurd behind ((notAfter_iff left right).mp notAfter)

/-! ## The least and the greatest identifier -/

/-- The one of two items that may stand in front, the first one if both may. -/
def better {Item : Type} (le : Item → Item → Bool) (left right : Item) : Item :=
  if le left right then left else right

theorem better_spec
    {Item : Type}
    {le : Item → Item → Bool}
    (ranking : Ranking le)
    (left right : Item) :
    (better le left right = left ∨ better le left right = right) ∧
      le (better le left right) left = true ∧ le (better le left right) right = true := by
  unfold better
  cases inFront : le left right with
  | true => exact ⟨.inl rfl, ranking.refl left, inFront⟩
  | false => exact ⟨.inr rfl, ranking.of_not inFront, ranking.refl right⟩

/-- Going on with the better of two items ends with an item of the list that may stand in front of
all. -/
theorem foldl_better
    {Item : Type}
    {le : Item → Item → Bool}
    (ranking : Ranking le)
    (first : Item)
    (rest : List Item) :
    rest.foldl (better le) first ∈ first :: rest ∧
      ∀ item ∈ first :: rest, le (rest.foldl (better le) first) item = true := by
  induction rest generalizing first with
  | nil => simp [ranking.refl]
  | cons second rest inductionHypothesis =>
    obtain ⟨one, ofFirst, ofSecond⟩ := better_spec ranking first second
    obtain ⟨member, inFront⟩ := inductionHypothesis (better le first second)
    have ofBetter := inFront _ List.mem_cons_self
    rw [List.foldl_cons]
    constructor
    · rcases List.mem_cons.mp member with isBetter | later
      · rw [isBetter]
        rcases one with isFirst | isSecond
        · rw [isFirst]
          exact List.mem_cons_self
        · rw [isSecond]
          exact List.mem_cons_of_mem _ List.mem_cons_self
      · exact List.mem_cons_of_mem _ (List.mem_cons_of_mem _ later)
    · refine List.forall_mem_cons.mpr ⟨ranking.trans _ _ _ ofBetter ofFirst,
        List.forall_mem_cons.mpr ⟨ranking.trans _ _ _ ofBetter ofSecond, ?_⟩⟩
      exact fun item later => inFront item (List.mem_cons_of_mem _ later)

/-- The best of a list is the first one in order. -/
theorem head?_sequence (descending : Bool) (first : Identifier) (rest : List Identifier) :
    (sequence descending (first :: rest)).head? =
      some (rest.foldl (better (turned descending notAfter)) first) := by
  obtain ⟨member, inFront⟩ := foldl_better (ranking_notAfter.turned descending) first rest
  have permuted := sequence_perm descending (first :: rest)
  have inOrder := inOrder_sequence descending (first :: rest)
  cases ordered : sequence descending (first :: rest) with
  | nil =>
    rw [ordered] at permuted
    exact absurd permuted.symm.eq_nil (List.cons_ne_nil first rest)
  | cons head others =>
    rw [ordered] at permuted inOrder
    have ofBest := inFront head (permuted.mem_iff.mp List.mem_cons_self)
    rcases List.mem_cons.mp (permuted.mem_iff.mpr member) with isHead | later
    · rw [isHead, List.head?_cons]
    · rw [List.head?_cons, eq_of_turned (List.rel_of_pairwise_cons inOrder later) ofBest]

theorem least_cons (first : Identifier) (rest : List Identifier) :
    ∃ identifier, least (first :: rest) = .ok identifier ∧
      (sequence false (first :: rest)).head? = some identifier := by
  have same : smaller = better (turned false notAfter) := by
    funext left right
    simp [smaller, better, turned, notAfter]
  exact ⟨_, rfl, same ▸ head?_sequence false first rest⟩

theorem greatest_cons (first : Identifier) (rest : List Identifier) :
    ∃ identifier, greatest (first :: rest) = .ok identifier ∧
      (sequence false (first :: rest)).getLast? = some identifier := by
  have same : greater = better (turned true notAfter) := by
    funext left right
    simp [greater, better, turned, notAfter]
  have last := head?_sequence true first rest
  rw [sequence_true, List.head?_reverse] at last
  exact ⟨_, rfl, same ▸ last⟩

/-! ## Ascending lists -/

/-- What a list looks like that holds identifiers in ascending order: legacy identifiers stand
first, and for every domain the identifiers of lesser domains stand in front of those that have it,
and those of greater domains behind. -/
structure Ascends (sorted : List Identifier) : Prop where
  ordered : sorted.Pairwise fun left right => ¬ right < left
  legacyFirst : sorted =
    sorted.filter isLegacy ++ sorted.filter fun identifier => !identifier.isLegacy
  domains : ∀ domain : String, sorted =
    sorted.filter (fun identifier => identifier.domain.val < domain) ++
      (sorted.filter (fun identifier => identifier.domain.val = domain) ++
        sorted.filter fun identifier => domain < identifier.domain.val)

theorem texts_standing (left right : String) :
    (left < right ∧ left ≠ right ∧ ¬ right < left) ∨ left = right ∨
      (¬ left < right ∧ left ≠ right ∧ right < left) := by
  rcases Std.lt_trichotomy left right with less | same | greater
  · refine .inl ⟨less, ?_, fun greater => String.lt_irrefl _ (String.lt_trans less greater)⟩
    rintro rfl
    exact String.lt_irrefl left less
  · exact .inr (.inl same)
  · refine .inr (.inr ⟨fun less => String.lt_irrefl _ (String.lt_trans less greater), ?_, greater⟩)
    rintro rfl
    exact String.lt_irrefl left greater

/-- A test that lesser texts pass with every text is passed by the domains up to some identifier and
failed from there on. -/
theorem InOrder.falls_domain
    {sorted : List Identifier}
    (inOrder : InOrder false sorted)
    (test : String → Bool)
    (downward : ∀ {lesser greater}, lesser < greater → test greater = true → test lesser = true) :
    Falls (fun identifier => test identifier.domain.val) sorted := by
  refine inOrder.imp fun {left right} notBehind (passes : test right.domain.val = true) => ?_
  change test left.domain.val = true
  rcases Std.lt_trichotomy left.domain.val right.domain.val with before | same | behind
  · exact downward before passes
  · rwa [same]
  · exact absurd (.inl behind) ((notAfter_iff left right).mp notBehind)

theorem InOrder.ascends {sorted : List Identifier} (inOrder : InOrder false sorted) :
    Ascends sorted where
  ordered := inOrder.imp fun {left right} => (notAfter_iff left right).mp
  legacyFirst := by
    refine (inOrder.falls_domain String.isEmpty ?_).filter_append
    intro lesser greater less empty
    rw [String.isEmpty_iff] at empty
    rw [empty, String.lt_iff] at less
    exact absurd less (List.not_lt_nil _)
  domains domain := by
    have lesserFirst := (inOrder.falls_domain (fun text => decide (text < domain))
      fun less before => decide_eq_true (String.lt_trans less (of_decide_eq_true before))
      ).filter_append
    have others : InOrder false
        (sorted.filter fun identifier => !decide (identifier.domain.val < domain)) :=
      inOrder.filter _
    have greaterLast := (others.falls_domain (fun text => !decide (domain < text)) (by
      intro lesser greater less notBeyond
      simp only [Bool.not_eq_true', decide_eq_false_iff_not] at notBeyond ⊢
      exact fun beyond => notBeyond (String.lt_trans beyond less))).filter_append
    have having (text : String) :
        (!decide (domain < text) && !decide (text < domain)) = decide (text = domain) := by
      rcases texts_standing text domain with ⟨less, different, notGreater⟩ | same |
        ⟨_, different, greater⟩
      · simp [less, different, notGreater]
      · simp [same]
      · simp [different, greater]
    have beyond (text : String) :
        (!!decide (domain < text) && !decide (text < domain)) = decide (domain < text) := by
      rcases texts_standing text domain with ⟨less, _, notGreater⟩ | same | ⟨notLess, _, greater⟩
      · simp [less, notGreater]
      · simp [same]
      · simp [notLess, greater]
    simp only [List.filter_filter, having, beyond] at greaterLast
    exact lesserFirst.trans (congrArg (_ ++ ·) greaterLast)

/-! ## Sorted lists -/

/-- Sorting forgets the order in which identifiers came. It never fails, and for a list and any
permutation of it the comparisons lead to the same sequence of identifiers and of encoded forms; the
distinct ones are given strictly ascending, each once. The sorted list ascends, legacy identifiers
first and then domain by domain; its ends are the least and the greatest identifier; descending
order is the reverse. Equal identifiers keep the order of their positions in both directions. -/
theorem sorting_exact (identifiers others : List Identifier) (permuted : identifiers.Perm others) :
    (∀ descending,
      Operand.arranged descending (identifiers.map .named) =
        .ok ((arranged descending identifiers).map fun entry => .named entry.1) ∧
      Operand.sortable descending (identifiers.map .named) = .ok identifiers ∧
      (arranged descending identifiers).map Prod.fst =
        (arranged descending others).map Prod.fst ∧
      (arranged descending identifiers).map (fun entry => entry.1.encode) =
        (arranged descending others).map fun entry => entry.1.encode) ∧
    (ascending (distinct identifiers) = ascending (distinct others) ∧
      (ascending (distinct identifiers)).Pairwise (· < ·) ∧
      ∀ identifier, identifier ∈ ascending (distinct identifiers) ↔ identifier ∈ identifiers) ∧
    Ascends ((arranged false identifiers).map Prod.fst) ∧
    (identifiers ≠ [] → ∃ first last,
      ((arranged false identifiers).map Prod.fst).head? = some first ∧
      least identifiers = .ok first ∧
      ((arranged false identifiers).map Prod.fst).getLast? = some last ∧
      greatest identifiers = .ok last) ∧
    (arranged true identifiers).map (fun entry => entry.1.encode) =
      ((arranged false identifiers).map fun entry => entry.1.encode).reverse ∧
    ∀ descending,
      (arranged descending identifiers).Perm identifiers.zipIdx ∧
      ∀ identifier,
        (arranged descending identifiers).filter (fun entry => entry.1 = identifier) =
          identifiers.zipIdx.filter fun entry => entry.1 = identifier := by
  have through {Value : Type} (shown : Identifier → Value) (descending : Bool)
      (identifiers : List Identifier) :
      (arranged descending identifiers).map (fun entry => shown entry.1) =
        (sequence descending identifiers).map shown := by
    rw [sequence, List.map_map]
    rfl
  refine ⟨fun descending => ⟨?_, sortable_named descending identifiers, ?_, ?_⟩,
    ⟨?_, ascending_distinct_strict identifiers, ?_⟩, (inOrder_sequence false identifiers).ascends,
    ?_, ?_, ?_⟩
  · rw [through, arranged_named]
  · exact sequence_eq_of_perm descending permuted
  · rw [through, through, sequence_eq_of_perm descending permuted]
  · exact ascending_eq_of_perm (distinct_perm permuted)
  · intro identifier
    rw [(ascending_perm _).mem_iff, mem_distinct_iff]
  · intro notEmpty
    obtain ⟨first, rest, rfl⟩ := List.exists_cons_of_ne_nil notEmpty
    obtain ⟨smallest, isLeast, isFirst⟩ := least_cons first rest
    obtain ⟨largest, isGreatest, isLast⟩ := greatest_cons first rest
    exact ⟨smallest, largest, isFirst, isLeast, isLast, isGreatest⟩
  · rw [through, through, sequence_true, List.map_reverse]
  · exact fun descending =>
      ⟨arranged_perm descending identifiers, arranged_filter descending identifiers⟩

/-- A legacy identifier, one with a domain that is given twice, and one whose domain goes on from
that domain and whose id is empty. -/
theorem sorting_exact_mixed :
    let bare : Identifier := ⟨⟨"", by decide⟩, ⟨"b", by decide⟩⟩
    let twice : Identifier := ⟨⟨"a", by decide⟩, ⟨"x", by decide⟩⟩
    let longer : Identifier := ⟨⟨"a-", by decide⟩, ⟨"", by decide⟩⟩
    [longer, twice, bare, twice].Perm [twice, twice, longer, bare] ∧
      ((arranged false [longer, twice, bare, twice]).map Prod.fst).head? = some bare ∧
      (arranged false [longer, twice, bare, twice]).map Prod.fst =
        (arranged false [twice, twice, longer, bare]).map Prod.fst ∧
      (arranged true [longer, twice, bare, twice]).filter (fun entry => entry.1 = twice) =
        [(twice, 1), (twice, 3)] := by
  intro bare twice longer
  have permuted : [longer, twice, bare, twice].Perm [twice, twice, longer, bare] := by decide
  obtain ⟨sequences, -, -, ends, -, stable⟩ := sorting_exact _ _ permuted
  obtain ⟨first, last, isFirst, isLeast, -, -⟩ := ends (List.cons_ne_nil _ _)
  have smallest : [twice, bare, twice].foldl smaller longer = bare := by decide +kernel
  have least : least [longer, twice, bare, twice] = .ok bare := congrArg Except.ok smallest
  obtain rfl := Except.ok.inj (isLeast.symm.trans least)
  refine ⟨permuted, isFirst, (sequences false).2.2.1, ?_⟩
  rw [(stable true).2 twice]
  decide

end Identifier

end Attachments
