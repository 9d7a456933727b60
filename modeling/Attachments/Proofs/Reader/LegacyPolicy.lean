import Attachments.Proofs.Identifier.NormalForm
import Attachments.Proofs.Reader.Run

/-!
Contract: what a policy against legacy identifiers keeps out.

Owns:
- the texts that are read as legacy identifiers in spite of the policy: a leading separator with a
  token behind it;
- the same for single values, batches and the journal.

Does not own: policies that allow legacy identifiers.
-/

namespace Attachments

/-- A separator with a token behind it that holds something, or an object that is cut as if it were
that. -/
def LeadsWithSeparator (value : Datum) : Prop :=
  ∃ token : Component, token.val ≠ "" ∧
    (value = .text (String.singleton separator ++ token.val) ∨
      ∃ object, value = .object object ∧ object.split = .ok [.text "", .text token.val])

theorem paired_empty (token : Component) :
    paired .empty token = String.singleton separator ++ token.val := by
  simp [paired, Component.empty]

namespace Identifier

theorem isLegacy_iff (identifier : Identifier) :
    identifier.isLegacy = true ↔ identifier.domain.val = "" := by
  simp [isLegacy]

/-- A policy against legacy identifiers looks at tokens only, and so the leading separator gets
past it. -/
theorem decode_forbidden_legacy_iff (value : Datum) :
    (∃ identifier, decode false value = .ok identifier ∧ identifier.isLegacy = true) ↔
      LeadsWithSeparator value := by
  constructor
  · rintro ⟨⟨domain, id⟩, decoded, legacy⟩
    obtain rfl : domain = .empty := Subtype.ext ((isLegacy_iff _).mp legacy)
    have someId : id.val ≠ "" := fun noId => something_of_decode decoded ⟨rfl, noId⟩
    refine ⟨id, someId, ?_⟩
    -- A token alone needs the policy, so only a pair with an empty domain is left.
    by_cases isObject : ∃ object, value = .object object
    · obtain ⟨object, rfl⟩ := isObject
      rcases pieces_of_decode decoded with ⟨given, -⟩ | ⟨allowed, -⟩
      · exact .inr ⟨object, rfl, given⟩
      · contradiction
    · obtain ⟨text, rfl⟩ := text_of_decode decoded fun object same => isObject ⟨object, same⟩
      obtain ⟨-, rfl | ⟨allowed, -⟩⟩ := (decode_eq_ok_iff _ _ _).mp decoded
      · exact .inl (congrArg Datum.text (paired_empty id))
      · contradiction
  · rintro ⟨token, someToken, rfl | ⟨object, rfl, given⟩⟩
    · refine ⟨⟨.empty, token⟩, ?_, rfl⟩
      rw [← paired_empty, decode_pair, if_neg fun nothing => someToken nothing.2]
    · exact ⟨⟨.empty, token⟩, decode_of_pieces false given fun nothing => someToken nothing.2, rfl⟩

end Identifier

namespace Reader

/-- Whether a value is read as a legacy identifier. -/
def ReadsAsLegacy (reader : Reader) (value : Datum) : Prop :=
  ∃ identifier, Identifier.decode reader.readsLegacy value = .ok identifier ∧
    identifier.isLegacy = true

theorem readsAsLegacy_of_forbidden {reader : Reader} (forbids : reader.readsLegacy = false)
    (value : Datum) : reader.ReadsAsLegacy value ↔ LeadsWithSeparator value := by
  rw [ReadsAsLegacy, forbids]
  exact Identifier.decode_forbidden_legacy_iff value

/-! ## Entries for legacy identifiers -/

theorem read_fst (reader : Reader) (value : Datum) :
    (reader.read value).1 = Identifier.decode reader.readsLegacy value := by
  unfold read
  cases Identifier.decode reader.readsLegacy value <;> rfl

/-- A value that is read leaves an entry for a legacy identifier exactly if it is read as one. -/
theorem legacyEntry_mem_read_iff (reader : Reader) (value : Datum) :
    (∃ named, legacyEntry named ∈ (reader.read value).2) ↔ reader.ReadsAsLegacy value := by
  unfold read ReadsAsLegacy
  cases decoded : Identifier.decode reader.readsLegacy value with
  | ok identifier =>
    cases legacy : identifier.isLegacy with
    | true => exact ⟨fun _ => ⟨identifier, rfl, legacy⟩, fun _ => ⟨value, by simp [legacy]⟩⟩
    | false => simp [legacy]
  | error failure => simp

/-- A refusal adds an entry of another level, and so the place in a list makes no difference. -/
theorem legacyEntry_mem_entries_iff (reader : Reader) (index : Nat) (value : Datum) :
    (∃ named, legacyEntry named ∈ reader.entries index value) ↔ reader.ReadsAsLegacy value := by
  rw [← legacyEntry_mem_read_iff]
  unfold entries read
  cases Identifier.decode reader.readsLegacy value with
  | ok identifier => rfl
  | error failure =>
    cases failure with
    | rejected rejection => simp [legacyEntry, rejectionEntry]
    | fault fault => rfl

theorem legacyEntry_mem_entriesFrom_iff (reader : Reader) (index : Nat) (values : List Datum) :
    (∃ named, legacyEntry named ∈ reader.entriesFrom index values) ↔
      ∃ value ∈ values, reader.ReadsAsLegacy value := by
  induction values generalizing index with
  | nil => simp [entriesFrom]
  | cons value values inductionHypothesis =>
    rw [entriesFrom_cons]
    simp only [List.mem_append, List.mem_cons, exists_or, exists_eq_or_imp]
    rw [legacyEntry_mem_entries_iff, inductionHypothesis (index + 1)]

theorem isLegacy_mem_parsed_iff (reader : Reader) (values : List Datum) :
    (∃ identifier ∈ values.filterMap reader.parsed?, identifier.isLegacy = true) ↔
      ∃ value ∈ values, reader.ReadsAsLegacy value := by
  simp only [List.mem_filterMap, parsed?_eq_some_iff, ReadsAsLegacy]
  constructor
  · rintro ⟨identifier, ⟨value, member, decoded⟩, legacy⟩
    exact ⟨value, member, identifier, decoded, legacy⟩
  · rintro ⟨value, member, identifier, decoded, legacy⟩
    exact ⟨identifier, ⟨value, member, decoded⟩, legacy⟩

/-! ## Batches -/

theorem isLegacy_mem_batch_iff
    {reader : Reader}
    {values : List Datum}
    {batch : Batch}
    (returned : (reader.readMany (.list values)).1 = .ok batch) :
    (∃ identifier ∈ batch.parsed, identifier.isLegacy = true) ↔
      ∃ value ∈ values, reader.ReadsAsLegacy value := by
  rcases reader.survive_or_first_fault values with
    survive | ⟨before, value, fault, rest, rfl, survive, failed⟩
  · rw [readMany_of_survive reader survive] at returned
    obtain rfl := Except.ok.inj returned
    exact isLegacy_mem_parsed_iff reader values
  · rw [readMany_of_fault reader rest survive failed] at returned
    contradiction

/-- The journal of a batch has an entry for a legacy identifier exactly if a value in front of the
first fault is read as one. -/
theorem legacyEntry_mem_journal_iff (reader : Reader) (values : List Datum) :
    (∃ named, legacyEntry named ∈ (reader.readMany (.list values)).2) ↔
      ∃ value ∈ reader.examined values, reader.ReadsAsLegacy value := by
  rw [← legacyEntry_mem_entriesFrom_iff reader 0]
  rcases reader.survive_or_first_fault values with
    survive | ⟨before, value, fault, rest, rfl, survive, failed⟩
  -- The summary at the end is an entry of another level.
  · have noSummary (named : Datum) (batch : Batch) : legacyEntry named ≠ summaryEntry batch := by
      simp [legacyEntry, summaryEntry]
    rw [readMany_of_survive reader survive, examined_of_survive survive]
    simp only [List.mem_append]
    split <;> simp [noSummary]
  · rw [readMany_of_fault reader rest survive failed, examined_append_fault rest survive failed]

/-! ## A policy against legacy identifiers -/

/-- Under a policy against legacy identifiers, a text is read as one exactly if it leads with the
separator. Only such values make a reader return a legacy identifier, alone or in a batch, or name
one in the journal; of a batch that meets a fault, the values in front of it count. -/
theorem forbidden_legacy_iff_leadsWithSeparator
    (policy : Datum)
    (forbids : policy.truthy = false) :
    (∀ text : String,
      (∃ identifier, Identifier.decode policy.truthy (.text text) = .ok identifier ∧
        identifier.isLegacy = true) ↔ LeadsWithSeparator (.text text)) ∧
    (∀ value : Datum,
      ((∃ identifier, ((Reader.mk policy).read value).1 = .ok identifier ∧
        identifier.isLegacy = true) ↔ LeadsWithSeparator value) ∧
      ((∃ named, legacyEntry named ∈ ((Reader.mk policy).read value).2) ↔
        LeadsWithSeparator value)) ∧
    (∀ values : List Datum,
      (∀ batch, ((Reader.mk policy).readMany (.list values)).1 = .ok batch →
        ((∃ identifier ∈ batch.parsed, identifier.isLegacy = true) ↔
          ∃ value ∈ values, LeadsWithSeparator value)) ∧
      ((∃ named, legacyEntry named ∈ ((Reader.mk policy).readMany (.list values)).2) ↔
        ∃ value ∈ (Reader.mk policy).examined values, LeadsWithSeparator value)) := by
  have leading (value : Datum) :
      (Reader.mk policy).ReadsAsLegacy value ↔ LeadsWithSeparator value :=
    readsAsLegacy_of_forbidden forbids value
  refine ⟨fun text => leading (.text text), fun value => ⟨?_, ?_⟩, fun values => ⟨?_, ?_⟩⟩
  · rw [← leading, read_fst]
    rfl
  · rw [← leading, legacyEntry_mem_read_iff]
  · intro batch returned
    simp only [isLegacy_mem_batch_iff returned, leading]
  · simp only [legacyEntry_mem_journal_iff, leading]

/-- A token alone is refused, but the same token behind a separator is entered as legacy before a
number ends the batch. -/
theorem forbidden_legacy_leading_in_batch :
    (Datum.int 0).truthy = false ∧
      ∃ named, legacyEntry named ∈
        ((Reader.mk (.int 0)).readMany
          (.list [.text "example.com/x", .text "x", .text "/x", .int 7])).2 := by
  have exact := forbidden_legacy_iff_leadsWithSeparator (.int 0) rfl
  refine ⟨rfl, (exact.2.2 _).2.mpr ⟨.text "/x", ?_, ⟨"x", by decide⟩, by decide, .inl rfl⟩⟩
  have survive : ∀ value ∈ [Datum.text "example.com/x", .text "x", .text "/x"],
      (Reader.mk (.int 0)).survives value = true :=
    survives_of_isReadable _ (by decide)
  rw [show [Datum.text "example.com/x", .text "x", .text "/x", .int 7] =
    [Datum.text "example.com/x", .text "x", .text "/x"] ++ .int 7 :: [] from rfl,
    examined_append_fault [] survive rfl]
  simp

/-- A policy against legacy identifiers does not keep them all out. -/
theorem forbidden_legacy_read :
    ¬ ∀ (policy : Datum) (text : String) (identifier : Identifier),
      policy.truthy = false →
        Identifier.decode policy.truthy (.text text) = .ok identifier →
          identifier.isLegacy = false := by
  intro claimed
  have decoded : Identifier.decode false (.text "/x") = .ok ⟨.empty, ⟨"x", by decide⟩⟩ := rfl
  exact absurd (claimed (.bool false) "/x" _ rfl decoded) (by decide)

end Reader

end Attachments
