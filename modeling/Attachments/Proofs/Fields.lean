import Attachments.Fields
import Mathlib.Data.List.Forall2
import Mathlib.Data.List.Nodup

/-!
Contract: two records side by side.

Owns:
- records that agree: the same names in the same order, and the same values under the names that
  are compared;
- that writes keep the agreement, and what reads find in records that agree;
- records that hold the same fields in another order, with distinct names, which reads cannot tell
  apart;
- what is read after several writes, additions and changes;
- the last field under one of several names, which writes under other names do not change;
- a record under other names, in which reads and writes go the same way if no two names meet;
- a record with other values under the same names, which writes keep apart from the names;
- records with the same names and related values.

Does not own: which names are compared.
-/

namespace Attachments

namespace Fields

variable {Name Value : Type}

/-! ## Agreement -/

/-- Two records agree on the names that are compared: they have the same names in the same order,
and the same values under these names. -/
inductive AgreeOn (compared : Name → Prop) : Fields Name Value → Fields Name Value → Prop where
  | nil : AgreeOn compared [] []
  | cons
      {name : Name} {value other : Value} {left right : Fields Name Value}
      (same : compared name → value = other)
      (rest : AgreeOn compared left right) :
      AgreeOn compared ((name, value) :: left) ((name, other) :: right)

section Agreement

variable {compared : Name → Prop} {left right : Fields Name Value}

theorem AgreeOn.names_eq (agree : AgreeOn compared left right) :
    left.map Prod.fst = right.map Prod.fst := by
  induction agree with
  | nil => rfl
  | cons _ _ inductionHypothesis => simp [inductionHypothesis]

theorem AgreeOn.concat
    (agree : AgreeOn compared left right)
    {name : Name}
    {value other : Value}
    (same : compared name → value = other) :
    AgreeOn compared (left ++ [(name, value)]) (right ++ [(name, other)]) := by
  induction agree with
  | nil => exact .cons same .nil
  | cons sameFirst _ inductionHypothesis => exact .cons sameFirst inductionHypothesis

/-- A search that looks at names only ends at the same name. -/
theorem AgreeOn.find?_name
    (agree : AgreeOn compared left right)
    (wanted : Name → Bool) :
    (left.find? fun field => wanted field.1).map Prod.fst =
      (right.find? fun field => wanted field.1).map Prod.fst := by
  induction agree with
  | nil => rfl
  | @cons name _ _ _ _ _ _ inductionHypothesis =>
    cases found : wanted name with
    | true => simp [found]
    | false => simpa [found] using inductionHypothesis

variable [BEq Name]

theorem AgreeOn.has_eq (agree : AgreeOn compared left right) (name : Name) :
    has left name = has right name := by
  induction agree with
  | nil => rfl
  | cons _ _ inductionHypothesis =>
    simp only [has, List.any_cons] at inductionHypothesis ⊢
    rw [inductionHypothesis]

/-- A read finds something in both records or in neither, and under a name that is compared it
finds the same. -/
theorem AgreeOn.get?_cases
    [LawfulBEq Name]
    (agree : AgreeOn compared left right)
    (name : Name) :
    (get? left name = none ∧ get? right name = none) ∨
      ∃ value other, get? left name = some value ∧ get? right name = some other ∧
        (compared name → value = other) := by
  induction agree with
  | nil => exact .inl ⟨rfl, rfl⟩
  | @cons known value other _ _ same _ inductionHypothesis =>
    by_cases found : known = name
    · subst found
      exact .inr ⟨value, other, by simp [get?], by simp [get?], same⟩
    · simpa [get?, found] using inductionHypothesis

theorem AgreeOn.put
    [LawfulBEq Name]
    (agree : AgreeOn compared left right)
    (name : Name)
    {value other : Value}
    (same : compared name → value = other) :
    AgreeOn compared (put left name value) (put right name other) := by
  induction agree with
  | nil => exact .cons same .nil
  | @cons known _ _ _ _ sameKnown rest inductionHypothesis =>
    by_cases found : known = name
    · subst found
      simpa [Fields.put] using .cons same rest
    · simpa [Fields.put, found] using .cons sameKnown inductionHypothesis

theorem AgreeOn.putNew
    (agree : AgreeOn compared left right)
    (name : Name)
    {value other : Value}
    (same : compared name → value = other) :
    AgreeOn compared (putNew left name value) (putNew right name other) := by
  unfold Fields.putNew
  rw [agree.has_eq name]
  split
  · exact agree
  · exact agree.concat same

theorem AgreeOn.putAll
    [LawfulBEq Name]
    {pairs otherPairs : Fields Name Value}
    (agree : AgreeOn compared left right)
    (agreePairs : AgreeOn compared pairs otherPairs) :
    AgreeOn compared (putAll left pairs) (putAll right otherPairs) := by
  induction agreePairs generalizing left right with
  | nil => exact agree
  | cons same _ inductionHypothesis => exact inductionHypothesis (agree.put _ same)

end Agreement

/-! ## Reordering -/

/-- No name stands in a record twice. -/
def Distinct (fields : Fields Name Value) : Prop :=
  (fields.map Prod.fst).Nodup

instance [DecidableEq Name] (fields : Fields Name Value) : Decidable (Distinct fields) :=
  inferInstanceAs (Decidable (fields.map Prod.fst).Nodup)

/-- Two records hold the same fields under distinct names, perhaps in another order. -/
structure Reordered (left right : Fields Name Value) : Prop where
  distinct : Distinct left
  perm : left.Perm right

section Reordering

variable {left right : Fields Name Value}

theorem Reordered.symm (reordered : Reordered left right) : Reordered right left :=
  ⟨(reordered.perm.map Prod.fst).nodup_iff.mp reordered.distinct, reordered.perm.symm⟩

variable [BEq Name] [LawfulBEq Name]

theorem has_iff_mem (fields : Fields Name Value) (name : Name) :
    has fields name = true ↔ name ∈ fields.map Prod.fst := by
  simp [has, List.any_eq_true, List.mem_map]

theorem get?_eq_some_iff
    {fields : Fields Name Value}
    (distinct : Distinct fields)
    (name : Name)
    (value : Value) :
    get? fields name = some value ↔ (name, value) ∈ fields := by
  induction fields with
  | nil => simp [get?]
  | cons field rest inductionHypothesis =>
    obtain ⟨known, old⟩ := field
    obtain ⟨fresh, distinctRest⟩ := List.nodup_cons.mp distinct
    by_cases same : known = name
    · subst same
      -- No later field has the name, so the value is the one found.
      have notLater : (known, value) ∉ rest := fun later =>
        fresh (List.mem_map.mpr ⟨_, later, rfl⟩)
      simp [get?, notLater, eq_comm]
    · simp [get?, same, Ne.symm same, inductionHypothesis distinctRest]

theorem mem_of_get?
    {fields : Fields Name Value}
    {name : Name}
    {value : Value}
    (found : get? fields name = some value) :
    (name, value) ∈ fields := by
  induction fields with
  | nil => contradiction
  | cons field rest inductionHypothesis =>
    obtain ⟨known, old⟩ := field
    rw [get?] at found
    split at found
    next same =>
      rw [beq_iff_eq.mp same, Option.some.inj found]
      exact List.mem_cons_self
    next => exact List.mem_cons_of_mem _ (inductionHypothesis found)

/-- Nothing is found under a name that no field has. -/
theorem get?_eq_none_of_ne
    {fields : Fields Name Value}
    {name : Name}
    (other : ∀ field ∈ fields, field.1 ≠ name) :
    get? fields name = none := by
  rw [Option.eq_none_iff_forall_ne_some]
  exact fun value found => other _ (mem_of_get? found) rfl

/-- A read finds the same value in any order. -/
theorem Reordered.get?_eq (reordered : Reordered left right) (name : Name) :
    get? left name = get? right name := by
  ext value
  rw [get?_eq_some_iff reordered.distinct, get?_eq_some_iff reordered.symm.distinct]
  exact reordered.perm.mem_iff

theorem Distinct.put
    {fields : Fields Name Value}
    (distinct : Distinct fields)
    (name : Name)
    (value : Value) :
    Distinct (put fields name value) := by
  unfold Distinct
  rw [names_put]
  split
  next => exact distinct
  next absent =>
    rw [has_iff_mem] at absent
    refine List.nodup_append.mpr ⟨distinct, by simp, ?_⟩
    rintro known member other sole rfl
    exact absent (List.mem_singleton.mp sole ▸ member)

theorem Distinct.putAll
    {fields : Fields Name Value}
    (distinct : Distinct fields)
    (pairs : List (Name × Value)) :
    Distinct (putAll fields pairs) := by
  induction pairs generalizing fields with
  | nil => exact distinct
  | cons pair rest inductionHypothesis => exact inductionHypothesis (distinct.put pair.1 pair.2)

/-- Where the names are distinct, a write changes the one field of its name or adds it. -/
theorem put_eq
    {fields : Fields Name Value}
    (distinct : Distinct fields)
    (name : Name)
    (value : Value) :
    put fields name value =
      if has fields name then
        fields.map fun field => (field.1, if field.1 == name then value else field.2)
      else fields ++ [(name, value)] := by
  induction fields with
  | nil => rfl
  | cons field rest inductionHypothesis =>
    obtain ⟨known, old⟩ := field
    obtain ⟨fresh, distinctRest⟩ := List.nodup_cons.mp distinct
    by_cases same : known = name
    · subst same
      have untouched :
          rest.map (fun field => (field.1, if field.1 == known then value else field.2)) =
            rest := by
        rw [List.map_congr_left (g := id), List.map_id]
        intro field member
        have different : field.1 ≠ known := fun same =>
          fresh (List.mem_map.mpr ⟨field, member, same⟩)
        simp [different]
      simp [put, has, untouched]
    · have step : has ((known, old) :: rest) name = has rest name := by simp [has, same]
      rw [step]
      by_cases found : has rest name
      · simp [put, same, found, inductionHypothesis distinctRest]
      · simp [put, same, found, inductionHypothesis distinctRest]

theorem Distinct.concat
    {fields : Fields Name Value}
    (distinct : Distinct fields)
    {name : Name}
    (fresh : ¬ has fields name = true)
    (value : Value) :
    Distinct (fields ++ [(name, value)]) := by
  have written := distinct.put name value
  rwa [put_eq distinct, if_neg fresh] at written

theorem Distinct.putNew
    {fields : Fields Name Value}
    (distinct : Distinct fields)
    (name : Name)
    (value : Value) :
    Distinct (putNew fields name value) := by
  unfold Fields.putNew
  split
  next => exact distinct
  next fresh => exact distinct.concat fresh value

theorem Distinct.foldl_putNew
    {fields : Fields Name Value}
    (distinct : Distinct fields)
    (additions : Fields Name Value) :
    Distinct
      (additions.foldl (fun merged field => Fields.putNew merged field.1 field.2) fields) := by
  induction additions generalizing fields with
  | nil => exact distinct
  | cons field rest inductionHypothesis =>
    exact inductionHypothesis (distinct.putNew field.1 field.2)

/-- A name that is there already cannot come again further on. -/
theorem not_distinct_of_has
    {fields others : Fields Name Value}
    {name : Name}
    (found : has fields name = true)
    (value : Value) :
    ¬ Distinct (fields ++ (name, value) :: others) := by
  intro distinct
  rw [Distinct, List.map_append, List.nodup_append] at distinct
  exact distinct.2.2 name ((has_iff_mem fields name).mp found) name List.mem_cons_self rfl

/-- Pairs with new and distinct names are written behind the record. -/
theorem putAll_of_distinct
    {fields pairs : Fields Name Value}
    (distinct : Distinct (fields ++ pairs)) :
    putAll fields pairs = fields ++ pairs := by
  induction pairs generalizing fields with
  | nil => exact (List.append_nil fields).symm
  | cons pair rest inductionHypothesis =>
    obtain ⟨name, value⟩ := pair
    have distinctFields : Distinct fields :=
      List.Nodup.sublist ((List.sublist_append_left fields _).map Prod.fst) distinct
    have fresh : ¬ has fields name = true := fun found => not_distinct_of_has found value distinct
    have step : putAll fields ((name, value) :: rest) =
        putAll (fields ++ [(name, value)]) rest := by
      rw [putAll, List.foldl_cons, put_eq distinctFields, if_neg fresh]
      rfl
    rw [List.append_cons] at distinct
    rw [step, inductionHypothesis distinct, List.append_assoc, List.singleton_append]

/-- Pairs with distinct names are a record already. -/
theorem ofPairs_of_distinct
    {pairs : Fields Name Value}
    (distinct : Distinct pairs) :
    ofPairs pairs = pairs :=
  putAll_of_distinct distinct

end Reordering

/-! ## Reading what was written -/

section Written

variable [BEq Name] [LawfulBEq Name] (fields : Fields Name Value) (name : Name)

theorem get?_eq_none_iff : get? fields name = none ↔ has fields name = false := by
  rw [has_eq_isSome, Option.isSome_eq_false_iff, Option.isNone_iff_eq_none]

theorem get?_append (others : Fields Name Value) :
    get? (fields ++ others) name = (get? fields name).or (get? others name) := by
  induction fields with
  | nil => rfl
  | cons field rest inductionHypothesis =>
    obtain ⟨known, value⟩ := field
    by_cases same : known = name <;> simp [get?, same, inductionHypothesis]

theorem get?_put (written : Name) (value : Value) :
    get? (put fields written value) name =
      if written == name then some value else get? fields name := by
  by_cases same : written = name
  · simp [same, get?_put_same]
  · simp [same, get?_put_other fields value same]

theorem get?_putNew (written : Name) (value : Value) :
    get? (putNew fields written value) name =
      (get? fields name).or (get? [(written, value)] name) := by
  unfold putNew
  split
  next found =>
    by_cases same : written = name
    · subst same
      rw [has_eq_isSome] at found
      rw [Option.or_of_isSome found]
    · simp [get?, same]
  next => rw [get?_append]

/-- Additions count where nothing was before, and the first of them where there are several. -/
theorem get?_foldl_putNew (additions : Fields Name Value) :
    get? (additions.foldl (fun merged field => putNew merged field.1 field.2) fields) name =
      (get? fields name).or (get? additions name) := by
  induction additions generalizing fields with
  | nil => simp [get?]
  | cons field rest inductionHypothesis =>
    rw [List.foldl_cons, inductionHypothesis, get?_putNew, Option.or_assoc, ← get?_append,
      List.singleton_append]

/-- Pairs with distinct names count before what they are written over. -/
theorem get?_putAll
    {pairs : Fields Name Value}
    (distinct : Distinct pairs) :
    get? (putAll fields pairs) name = (get? pairs name).or (get? fields name) := by
  induction pairs generalizing fields with
  | nil => rfl
  | cons pair rest inductionHypothesis =>
    obtain ⟨written, value⟩ := pair
    obtain ⟨fresh, distinctRest⟩ := List.nodup_cons.mp distinct
    have step : putAll fields ((written, value) :: rest) = putAll (put fields written value) rest :=
      rfl
    rw [step, inductionHypothesis _ distinctRest, get?_put]
    by_cases same : written = name
    · subst same
      have notLater : get? rest written = none := by
        rw [get?_eq_none_iff, ← Bool.not_eq_true, has_iff_mem]
        exact fresh
      simp [get?, notLater]
    · simp [get?, same]

theorem get?_erase (erased : Name) :
    get? (erase fields erased) name = if erased == name then none else get? fields name := by
  by_cases same : erased = name
  · simp [same, get?_erase_same]
  · simp [same, get?_erase_other fields same]

theorem get?_map {Other : Type} (change : Name × Value → Other) :
    get? (fields.map fun field => (field.1, change field)) name =
      (get? fields name).map fun value => change (name, value) := by
  induction fields with
  | nil => rfl
  | cons field rest inductionHypothesis =>
    obtain ⟨known, value⟩ := field
    by_cases same : known = name
    · simp [get?, same]
    · simpa [get?, same] using inductionHypothesis

end Written

/-! ## Last fields -/

def last? (wanted : Name → Bool) (fields : Fields Name Value) : Option Value :=
  (fields.filter fun field => wanted field.1).getLast?.map Prod.snd

theorem last?_cons
    (wanted : Name → Bool)
    (field : Name × Value)
    (rest : Fields Name Value) :
    last? wanted (field :: rest) =
      (last? wanted rest).or (if wanted field.1 then some field.2 else none) := by
  unfold last?
  by_cases isWanted : wanted field.1
  · simp only [List.filter_cons, isWanted, if_true, List.getLast?_cons]
    cases (rest.filter fun field => wanted field.1).getLast? <;> rfl
  · simp [isWanted]

/-- A change of names and values, field by field, is seen through. -/
theorem last?_map {Other Result : Type}
    (wanted : Other → Bool)
    (rename : Name → Other)
    (change : Value → Result)
    (fields : Fields Name Value) :
    last? wanted (fields.map fun field => (rename field.1, change field.2)) =
      (last? (fun name => wanted (rename name)) fields).map change := by
  simp only [last?, List.filter_map, List.getLast?_map, Option.map_map]
  rfl

/-- Fields that are left out do not matter if none of them is wanted. -/
theorem last?_filter
    {wanted related : Name → Bool}
    (around : ∀ name, wanted name = true → related name = true)
    (fields : Fields Name Value) :
    last? wanted (fields.filter fun field => related field.1) = last? wanted fields := by
  have both (field : Name × Value) :
      (wanted field.1 && related field.1) = wanted field.1 := by
    cases isWanted : wanted field.1 with
    | false => rfl
    | true => rw [around field.1 isWanted, Bool.true_and]
  simp only [last?, List.filter_filter, both]

section Written

variable [BEq Name] [LawfulBEq Name]

theorem get?_putAll_last (fields : Fields Name Value) (pairs : List (Name × Value)) (name : Name) :
    get? (putAll fields pairs) name = (last? (· == name) pairs).or (get? fields name) := by
  induction pairs generalizing fields with
  | nil => rfl
  | cons pair rest inductionHypothesis =>
    have step : putAll fields (pair :: rest) = putAll (put fields pair.1 pair.2) rest := rfl
    rw [step, inductionHypothesis, get?_put, last?_cons, Option.or_assoc]
    cases pair.1 == name <;> rfl

theorem get?_ofPairs (pairs : List (Name × Value)) (name : Name) :
    get? (ofPairs pairs) name = last? (· == name) pairs := by
  rw [ofPairs, get?_putAll_last, get?, Option.or_none]

/-- A write under another name is not seen among the fields that are wanted. -/
theorem filter_put
    (wanted : Name → Bool)
    (fields : Fields Name Value)
    (name : Name)
    (value : Value) :
    ((put fields name value).filter fun field => wanted field.1) =
      if wanted name then put (fields.filter fun field => wanted field.1) name value
      else fields.filter fun field => wanted field.1 := by
  induction fields with
  | nil => by_cases isWanted : wanted name <;> simp [put, isWanted]
  | cons field rest inductionHypothesis =>
    obtain ⟨known, old⟩ := field
    by_cases same : known = name
    · subst same
      by_cases isWanted : wanted known <;> simp [put, isWanted]
    · by_cases isWanted : wanted name <;> by_cases knownWanted : wanted known <;>
        simp [put, same, isWanted, knownWanted, inductionHypothesis]

/-- Writes under other names are not seen among the fields that are wanted. -/
theorem filter_putAll
    (wanted : Name → Bool)
    (fields pairs : Fields Name Value) :
    ((putAll fields pairs).filter fun field => wanted field.1) =
      putAll (fields.filter fun field => wanted field.1)
        (pairs.filter fun pair => wanted pair.1) := by
  induction pairs generalizing fields with
  | nil => rfl
  | cons pair rest inductionHypothesis =>
    have step : putAll fields (pair :: rest) = putAll (put fields pair.1 pair.2) rest := rfl
    rw [step, inductionHypothesis, filter_put, List.filter_cons]
    split <;> rfl

theorem filter_ofPairs (wanted : Name → Bool) (pairs : List (Name × Value)) :
    ((ofPairs pairs).filter fun field => wanted field.1) =
      ofPairs (pairs.filter fun pair => wanted pair.1) :=
  filter_putAll wanted [] pairs

end Written

/-! ## Other names -/

def rename {Other : Type} (change : Name → Other) (fields : Fields Name Value) :
    Fields Other Value :=
  fields.map fun field => (change field.1, field.2)

section Renaming

variable {Other : Type} [BEq Name] [LawfulBEq Name] [BEq Other] [LawfulBEq Other]
variable {change : Name → Other}

/-- A read under the changed name finds the same value. -/
theorem get?_rename
    (injective : Function.Injective change)
    (fields : Fields Name Value)
    (name : Name) :
    get? (rename change fields) (change name) = get? fields name := by
  induction fields with
  | nil => rfl
  | cons field rest inductionHypothesis =>
    obtain ⟨known, value⟩ := field
    by_cases same : known = name
    · simp [rename, get?, same]
    · have different : change known ≠ change name := fun meet => same (injective meet)
      simpa [rename, get?, same, different] using inductionHypothesis

/-- A write under the changed name changes the same field, or adds one at the end where the other
write does. -/
theorem put_rename
    (injective : Function.Injective change)
    (fields : Fields Name Value)
    (name : Name)
    (value : Value) :
    put (rename change fields) (change name) value = rename change (put fields name value) := by
  induction fields with
  | nil => rfl
  | cons field rest inductionHypothesis =>
    obtain ⟨known, old⟩ := field
    by_cases same : known = name
    · simp [rename, put, same]
    · have different : change known ≠ change name := fun meet => same (injective meet)
      simpa [rename, put, same, different] using inductionHypothesis

end Renaming

/-! ## Other values -/

def mapValues {Other : Type} (change : Value → Other) (fields : Fields Name Value) :
    Fields Name Other :=
  fields.map fun field => (field.1, change field.2)

section Values

variable {Other : Type} (change : Value → Other) (fields : Fields Name Value)

theorem names_mapValues : (mapValues change fields).map Prod.fst = fields.map Prod.fst := by
  rw [mapValues, List.map_map]
  rfl

/-- A search that looks at names only finds the same field. -/
theorem find?_mapValues (wanted : Name → Bool) :
    (mapValues change fields).find? (fun field => wanted field.1) =
      (fields.find? fun field => wanted field.1).map fun field => (field.1, change field.2) := by
  rw [mapValues, List.find?_map]
  rfl

variable [BEq Name] (name : Name) (value : Value)

theorem has_mapValues : has (mapValues change fields) name = has fields name := by
  rw [has, mapValues, List.any_map]
  rfl

theorem get?_mapValues : get? (mapValues change fields) name = (get? fields name).map change := by
  induction fields with
  | nil => rfl
  | cons field rest inductionHypothesis =>
    obtain ⟨known, value⟩ := field
    rw [mapValues, List.map_cons, ← mapValues, get?, get?, inductionHypothesis]
    split <;> rfl

theorem put_mapValues :
    put (mapValues change fields) name (change value) =
      mapValues change (put fields name value) := by
  induction fields with
  | nil => rfl
  | cons field rest inductionHypothesis =>
    obtain ⟨known, old⟩ := field
    rw [mapValues, List.map_cons, ← mapValues, put, put, inductionHypothesis]
    split <;> rfl

theorem putNew_mapValues :
    putNew (mapValues change fields) name (change value) =
      mapValues change (putNew fields name value) := by
  rw [putNew, putNew, has_mapValues]
  split
  · rfl
  · rw [mapValues, mapValues, List.map_append]
    rfl

theorem putAll_mapValues (pairs : Fields Name Value) :
    putAll (mapValues change fields) (mapValues change pairs) =
      mapValues change (putAll fields pairs) := by
  induction pairs generalizing fields with
  | nil => rfl
  | cons pair rest inductionHypothesis =>
    have step (written : Fields Name Value) :
        putAll written (pair :: rest) = putAll (put written pair.1 pair.2) rest := rfl
    rw [step, ← inductionHypothesis, ← put_mapValues]
    rfl

end Values

/-! ## Related values -/

/-- Two records have the same names in the same order, and related values under them. -/
def Related {Other : Type} (relation : Value → Other → Prop) :
    Fields Name Value → Fields Name Other → Prop :=
  List.Forall₂ fun field other => field.1 = other.1 ∧ relation field.2 other.2

section Relation

variable {Other : Type} {relation : Value → Other → Prop}
variable {left : Fields Name Value} {right : Fields Name Other}

theorem Related.mono
    {weaker : Value → Other → Prop}
    (related : Related relation left right)
    (weaken : ∀ value other, relation value other → weaker value other) :
    Related weaker left right :=
  List.Forall₂.imp (fun _ _ fields => ⟨fields.1, weaken _ _ fields.2⟩) related

variable [BEq Name] [LawfulBEq Name]

theorem Related.put
    (related : Related relation left right)
    (name : Name)
    {value : Value}
    {other : Other}
    (written : relation value other) :
    Related relation (put left name value) (put right name other) := by
  induction related with
  | nil => exact List.Forall₂.cons (And.intro rfl written) .nil
  | @cons field other _ _ fields rest inductionHypothesis =>
    obtain ⟨known, old⟩ := field
    obtain ⟨_, otherOld⟩ := other
    obtain ⟨rfl, relatedOld⟩ := fields
    by_cases found : known = name
    · subst found
      simpa [Related, Fields.put] using And.intro written rest
    · simpa [Related, Fields.put, found] using And.intro relatedOld inductionHypothesis

/-- A read finds nothing in both records or related values. -/
theorem Related.get?_cases (related : Related relation left right) (name : Name) :
    (get? left name = none ∧ get? right name = none) ∨
      ∃ value other,
        get? left name = some value ∧ get? right name = some other ∧ relation value other := by
  induction related with
  | nil => exact .inl ⟨rfl, rfl⟩
  | @cons field other _ _ fields _ inductionHypothesis =>
    obtain ⟨known, value⟩ := field
    obtain ⟨_, other⟩ := other
    obtain ⟨rfl, relatedValues⟩ := fields
    by_cases found : known = name
    · exact .inr ⟨value, other, by simp [get?, found], by simp [get?, found], relatedValues⟩
    · simpa [get?, found] using inductionHypothesis

end Relation

end Fields

end Attachments
