import Attachments.Datum.Bytes
import Attachments.Event.Redaction
import Attachments.Proofs.Fields
import Mathlib.Data.List.Forall2

/-!
Contract: what one pass over a record in its place leaves of it, whatever its keys are.

Owns:
- masked records, told field by field;
- the fields in front of the first key that cannot be judged, and what becomes of them, of that key
  and of all that stands behind it;
- that writing under one key after the other is the mask, and touches no other record;
- that a second pass changes nothing.

Does not own: which names are sensitive.
-/

namespace Attachments

namespace Fields

variable {Name Value : Type} [BEq Name]

theorem put_append
    {front : Fields Name Value}
    {name : Name}
    (absent : has front name = false)
    (others : Fields Name Value)
    (value : Value) :
    put (front ++ others) name value = front ++ put others name value := by
  induction front with
  | nil => rfl
  | cons field rest inductionHypothesis =>
    obtain ⟨known, old⟩ := field
    simp only [has, List.any_cons, Bool.or_eq_false_iff] at absent
    rw [List.cons_append, put, if_neg (by simp [absent.1]), inductionHypothesis absent.2,
      List.cons_append]

end Fields

namespace Redaction

variable {Value : Type} (mark : Value)

/-! ## Masked records -/

/-- Every key of a record can be judged, and the other record has the same keys in the same order,
with the mark under the sensitive ones and the same values under all others. -/
def Masked : Fields Datum Value → Fields Datum Value → Prop :=
  List.Forall₂ fun field masked =>
    masked.1 = field.1 ∧ ∃ sensitive, isSensitiveKey field.1 = .ok sensitive ∧
      masked.2 = if sensitive then mark else field.2

variable {mark}

theorem Masked.names {record masked : Fields Datum Value} (isMasked : Masked mark record masked) :
    masked.map Prod.fst = record.map Prod.fst := by
  induction isMasked with
  | nil => rfl
  | cons field _ inductionHypothesis => simp [field.1, inductionHypothesis]

/-- A masked record is masked already. -/
theorem Masked.again {record masked : Fields Datum Value} (isMasked : Masked mark record masked) :
    Masked mark masked masked := by
  induction isMasked with
  | nil => exact .nil
  | cons field _ inductionHypothesis =>
    obtain ⟨same, sensitive, judged, value⟩ := field
    refine .cons ⟨rfl, sensitive, same ▸ judged, ?_⟩ inductionHypothesis
    rw [value]
    split <;> rfl

/-- The mask passes fields whose keys can be judged and goes on behind them. -/
theorem Masked.mask_append
    {front masked : Fields Datum Value}
    (isMasked : Masked mark front masked)
    (rest : Fields Datum Value) :
    mask isSensitiveKey mark (front ++ rest) =
      ((mask isSensitiveKey mark rest).1, masked ++ (mask isSensitiveKey mark rest).2) := by
  induction isMasked with
  | nil => rfl
  | @cons field shown _ _ judged _ inductionHypothesis =>
    obtain ⟨key, value⟩ := field
    obtain ⟨shownKey, shownValue⟩ := shown
    obtain ⟨same, sensitive, judged, shownSame⟩ := judged
    simp only at same judged shownSame
    subst same shownSame
    simp only [List.cons_append, mask, judged, inductionHypothesis]

theorem Masked.mask_eq
    {record masked : Fields Datum Value}
    (isMasked : Masked mark record masked) :
    mask isSensitiveKey mark record = (none, masked) := by
  have whole := isMasked.mask_append []
  rwa [List.append_nil, mask, List.append_nil] at whole

/-- A key that cannot be judged ends the mask where it stands. -/
theorem mask_of_unjudged
    {key : Datum}
    {fault : Fault}
    (unjudged : isSensitiveKey key = .error fault)
    (value : Value)
    (after : Fields Datum Value) :
    mask isSensitiveKey mark ((key, value) :: after) = (some fault, (key, value) :: after) := by
  rw [mask, unjudged]

/-- All keys of a record can be judged, or there is a first one that cannot. -/
theorem masked_or_first_unjudged (mark : Value) (record : Fields Datum Value) :
    (∃ masked, Masked mark record masked) ∨
      ∃ before key value after masked fault,
        record = before ++ (key, value) :: after ∧ Masked mark before masked ∧
          isSensitiveKey key = .error fault := by
  induction record with
  | nil => exact .inl ⟨[], .nil⟩
  | cons field rest inductionHypothesis =>
    obtain ⟨key, value⟩ := field
    cases judged : isSensitiveKey key with
    | error fault => exact .inr ⟨[], key, value, rest, [], fault, rfl, .nil, judged⟩
    | ok sensitive =>
      let shown : Datum × Value := (key, if sensitive then mark else value)
      rcases inductionHypothesis with
        ⟨masked, isMasked⟩ | ⟨before, other, found, after, masked, fault, rfl, isMasked, unjudged⟩
      · exact .inl ⟨shown :: masked, .cons ⟨rfl, sensitive, judged, rfl⟩ isMasked⟩
      · exact .inr ⟨_ :: before, other, found, after, shown :: masked, fault, rfl,
          .cons ⟨rfl, sensitive, judged, rfl⟩ isMasked, unjudged⟩

/-! ## Keys -/

theorem isSensitiveKey_of_text {key : Datum} (isText : key.kind = .text) :
    ∃ sensitive, isSensitiveKey key = .ok sensitive := by
  cases key with
  | text name => exact ⟨isSensitive name, rfl⟩
  | _ => contradiction

/-- Of the keys that are no texts only objects have a small form. -/
theorem isSensitiveKey_of_other
    {key : Datum}
    (noText : key.kind ≠ .text)
    (noObject : ∀ object, key ≠ .object object) :
    isSensitiveKey key = .error (.noOperation key.kind "lower") := by
  cases key with
  | text name => exact absurd rfl noText
  | object value => exact absurd rfl (noObject value)
  | _ => rfl

/-- What is sensitive is found under itself. -/
theorem beq_self_of_sensitive {key : Datum} (sensitive : isSensitiveKey key = .ok true) :
    (key == key) = true := by
  cases key with
  | text name => exact (Datum.beq_text_iff _ _).mpr rfl
  | object value => exact beq_self_eq_true value.identity
  | _ => contradiction

/-! ## Writing in place -/

/-- No key of a record is found under an earlier one. -/
def IsDictionary (record : Fields Datum Value) : Prop :=
  record.Pairwise fun field other => (field.1 == other.1) = false

instance (record : Fields Datum Value) : Decidable (IsDictionary record) :=
  inferInstanceAs (Decidable (record.Pairwise fun field other => (field.1 == other.1) = false))

theorem IsDictionary.congr
    {record other : Fields Datum Value}
    (dictionary : IsDictionary record)
    (names : other.map Prod.fst = record.map Prod.fst) :
    IsDictionary other := by
  unfold IsDictionary at dictionary ⊢
  rw [← List.pairwise_map (R := fun key other : Datum => (key == other) = false)] at dictionary ⊢
  rwa [names]

/-- A sensitive key is written where it stands. -/
theorem IsDictionary.put_eq
    {before after : Fields Datum Value}
    {key : Datum}
    {value : Value}
    (dictionary : IsDictionary (before ++ (key, value) :: after))
    (sensitive : isSensitiveKey key = .ok true) :
    Fields.put (before ++ (key, value) :: after) key mark = before ++ (key, mark) :: after := by
  have absent : Fields.has before key = false := by
    rw [Fields.has, List.any_eq_false]
    intro field member
    rw [(List.pairwise_append.mp dictionary).2.2 field member (key, value) List.mem_cons_self]
    exact Bool.false_ne_true
  rw [Fields.put_append absent, Fields.put, if_pos (beq_self_of_sensitive sensitive)]

section Stored

variable {records : Records Value} {address : Nat}

theorem modify_eq_set
    {record : Fields Datum Value}
    (held : records[address]? = some record)
    (change : Fields Datum Value → Fields Datum Value) :
    records.modify address change = records.set address (change record) := by
  obtain ⟨inside, found⟩ := List.getElem?_eq_some_iff.mp held
  rw [List.modify_eq_set_getElem?, held]
  rfl

theorem getElem?_set_of_held
    {record : Fields Datum Value}
    (held : records[address]? = some record)
    (other : Fields Datum Value) :
    (records.set address other)[address]? = some other := by
  obtain ⟨inside, -⟩ := List.getElem?_eq_some_iff.mp held
  rw [List.getElem?_set_self inside]

/-- Behind finished fields, writing under one key after the other leaves what the mask leaves. -/
theorem maskAt_eq
    (finished rest : Fields Datum Value)
    (held : records[address]? = some (finished ++ rest))
    (dictionary : IsDictionary (finished ++ rest)) :
    maskAt mark address (rest.map Prod.fst) records =
      ((mask isSensitiveKey mark rest).1,
        records.set address (finished ++ (mask isSensitiveKey mark rest).2)) := by
  have unchanged : records.set address (finished ++ rest) = records := by
    obtain ⟨inside, found⟩ := List.getElem?_eq_some_iff.mp held
    rw [← found, List.set_getElem_self]
  induction rest generalizing finished records with
  | nil => rw [mask, unchanged, List.map_nil, maskAt]
  | cons field rest inductionHypothesis =>
    obtain ⟨key, value⟩ := field
    rw [List.map_cons, maskAt, mask]
    cases judged : isSensitiveKey key with
    | error fault => exact congrArg (some fault, ·) unchanged.symm
    | ok sensitive =>
      -- The finished fields grow by this one, masked.
      let shown : Datum × Value := (key, if sensitive then mark else value)
      have sameNames : IsDictionary ((finished ++ [shown]) ++ rest) :=
        dictionary.congr (by simp [shown])
      have later {written : Records Value}
          (same : written = records.set address ((finished ++ [shown]) ++ rest)) :
          maskAt mark address (rest.map Prod.fst) written =
            ((mask isSensitiveKey mark rest).1,
              records.set address (finished ++ shown :: (mask isSensitiveKey mark rest).2)) := by
        have heldThen : written[address]? = some ((finished ++ [shown]) ++ rest) :=
          same ▸ getElem?_set_of_held held _
        have unchangedThen : written.set address ((finished ++ [shown]) ++ rest) = written := by
          rw [same, List.set_set]
        rw [inductionHypothesis _ heldThen sameNames unchangedThen, same, List.set_set,
          List.append_assoc, List.singleton_append]
      cases sensitive with
      | true =>
        refine later ?_
        rw [modify_eq_set held, dictionary.put_eq judged, List.append_assoc, List.singleton_append]
        rfl
      | false =>
        refine later ?_
        rw [List.append_assoc, List.singleton_append]
        exact unchanged.symm

/-- One pass leaves what the mask leaves of the record, in its place, and no other record is
touched. -/
theorem process_eq
    {record : Fields Datum Value}
    (held : records[address]? = some record)
    (dictionary : IsDictionary record) :
    process mark records address =
      (match (mask isSensitiveKey mark record).1 with
        | none => .ok address
        | some fault => .error fault,
        records.set address (mask isSensitiveKey mark record).2) := by
  rw [process, held, Option.getD_some, maskAt_eq [] record held dictionary, List.nil_append]
  cases (mask isSensitiveKey mark record).1 <;> rfl

theorem Masked.process_eq
    {record masked : Fields Datum Value}
    (isMasked : Masked mark record masked)
    (held : records[address]? = some record)
    (dictionary : IsDictionary record) :
    process mark records address = (.ok address, records.set address masked) := by
  rw [Redaction.process_eq held dictionary, isMasked.mask_eq]

theorem Masked.process_append_eq
    {before masked after : Fields Datum Value}
    {key : Datum}
    {value : Value}
    {fault : Fault}
    (isMasked : Masked mark before masked)
    (unjudged : isSensitiveKey key = .error fault)
    (held : records[address]? = some (before ++ (key, value) :: after))
    (dictionary : IsDictionary (before ++ (key, value) :: after)) :
    process mark records address =
      (.error fault, records.set address (masked ++ (key, value) :: after)) := by
  rw [Redaction.process_eq held dictionary, isMasked.mask_append, mask_of_unjudged unjudged]

/-! ## One pass -/

end Stored

end Redaction

end Attachments
