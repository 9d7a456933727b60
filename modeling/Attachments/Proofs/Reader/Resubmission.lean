import Attachments.Proofs.Identifier.NormalForm
import Attachments.Proofs.Reader.Partition

/-!
Contract: what comes of reading the two lists of a batch again.

Owns:
- that the encoded forms of the identifiers of a batch give the same identifiers and no refusal;
- that the refused values of a batch are refused again for the same reason, at their places among
  themselves.

Does not own: how the first batch divides the values that it was read from.
-/

namespace Attachments

def RejectedValue.movedTo (position : Nat) (record : RejectedValue) : RejectedValue :=
  { record with index := .int position }

/-- The records at the positions that they have among themselves, of which the first is `index`. -/
def renumberedFrom (index : Nat) (records : List RejectedValue) : List RejectedValue :=
  (records.zipIdx index).map fun entry => entry.1.movedTo entry.2

theorem renumberedFrom_cons (index : Nat) (record : RejectedValue) (records : List RejectedValue) :
    renumberedFrom index (record :: records) =
      record.movedTo index :: renumberedFrom (index + 1) records :=
  rfl

namespace Reader

/-! ## Parsed identifiers -/

/-- The encoded form of an identifier that any reader found is read as it, where legacy identifiers
are allowed. -/
theorem parsed?_encode
    {reader other : Reader}
    (allows : other.readsLegacy = true)
    {value : Datum}
    {identifier : Identifier}
    (parsed : reader.parsed? value = some identifier) :
    other.parsed? (.text identifier.encode) = some identifier := by
  have decoded := (parsed?_eq_some_iff reader value identifier).mp parsed
  rw [parsed?_eq_some_iff, allows]
  exact Identifier.decode_encode_of_decode decoded

theorem rejected?_of_parsed?
    {reader : Reader}
    {value : Datum}
    {identifier : Identifier}
    (parsed : reader.parsed? value = some identifier)
    (index : Nat) :
    reader.rejected? index value = none := by
  rw [parsed?_eq_some_iff] at parsed
  simp only [rejected?, parsed]

/-- Encoded forms that are read give back what they were made of, and nothing else. -/
theorem batchOf_encoded
    {reader : Reader}
    {identifiers : List Identifier}
    (parsed : ∀ identifier ∈ identifiers,
      reader.parsed? (.text identifier.encode) = some identifier) :
    reader.batchOf (identifiers.map fun identifier => .text identifier.encode) =
      ⟨identifiers, []⟩ := by
  have allParsed (index : Nat) :
      (identifiers.map fun identifier => Datum.text identifier.encode).filterMap reader.parsed? =
          identifiers ∧
        reader.rejectedFrom index (identifiers.map fun identifier => .text identifier.encode) =
          [] := by
    induction identifiers generalizing index with
    | nil => exact ⟨rfl, rfl⟩
    | cons identifier rest inductionHypothesis =>
      have first := parsed identifier List.mem_cons_self
      obtain ⟨parsedRest, rejectedRest⟩ := inductionHypothesis
        (fun other member => parsed other (List.mem_cons_of_mem _ member)) (index + 1)
      rw [List.map_cons, filterMap_parsed?_cons, rejectedFrom_cons, first,
        rejected?_of_parsed? first, parsedRest, rejectedRest]
      exact ⟨rfl, rfl⟩
  rw [batchOf, (allParsed 0).1, (allParsed 0).2]

/-! ## Refused values -/

/-- A refusal looks at the value alone, so at another position only the record is another. -/
theorem rejected?_again
    {reader : Reader}
    {index : Nat}
    {value : Datum}
    {record : RejectedValue}
    (rejected : reader.rejected? index value = some record)
    (position : Nat) :
    reader.parsed? record.value = none ∧
      reader.rejected? position record.value = some (record.movedTo position) := by
  obtain ⟨rejection, refused, rfl⟩ := (rejected?_eq_some_iff _ _ _ _).mp rejected
  constructor
  · simp only [parsed?, refused, Except.toOption]
  · exact (rejected?_eq_some_iff _ _ _ _).mpr ⟨rejection, refused, rfl⟩

/-- A batch survives what is refused. -/
theorem survives_of_rejected?
    {reader : Reader}
    {index : Nat}
    {value : Datum}
    {record : RejectedValue}
    (rejected : reader.rejected? index value = some record) :
    reader.survives record.value = true := by
  obtain ⟨rejection, refused, rfl⟩ := (rejected?_eq_some_iff _ _ _ _).mp rejected
  exact (reader.survives_iff value).mpr (.inr ⟨rejection, refused⟩)

theorem rejected?_of_mem_rejectedFrom
    {reader : Reader}
    {index : Nat}
    {values : List Datum}
    {record : RejectedValue}
    (member : record ∈ reader.rejectedFrom index values) :
    ∃ position value, reader.rejected? position value = some record := by
  obtain ⟨entry, -, rejected⟩ := List.mem_filterMap.mp member
  exact ⟨entry.2, entry.1, rejected⟩

/-- The values of records leave the same records again, renumbered. -/
theorem batchOf_rejected
    {reader : Reader}
    {records : List RejectedValue}
    (rejected : ∀ record ∈ records, ∃ position value,
      reader.rejected? position value = some record) :
    reader.batchOf (records.map RejectedValue.value) = ⟨[], renumberedFrom 0 records⟩ := by
  have allRejected (index : Nat) :
      (records.map RejectedValue.value).filterMap reader.parsed? = [] ∧
        reader.rejectedFrom index (records.map RejectedValue.value) =
          renumberedFrom index records := by
    induction records generalizing index with
    | nil => exact ⟨rfl, rfl⟩
    | cons record rest inductionHypothesis =>
      obtain ⟨position, value, first⟩ := rejected record List.mem_cons_self
      obtain ⟨notParsed, rejectedAgain⟩ := rejected?_again first index
      obtain ⟨parsedRest, rejectedRest⟩ := inductionHypothesis
        (fun other member => rejected other (List.mem_cons_of_mem _ member)) (index + 1)
      rw [List.map_cons, filterMap_parsed?_cons, rejectedFrom_cons, notParsed, rejectedAgain,
        parsedRest, rejectedRest, renumberedFrom_cons]
      exact ⟨rfl, rfl⟩
  rw [batchOf, (allRejected 0).1, (allRejected 0).2]

/-! ## Batches -/

/-- A batch is stable when its lists are read again. The encoded forms of its identifiers, read
where legacy identifiers are allowed, give the same identifiers in the same order and no refusal.
Its refused values, read under the policy that refused them, give no identifier and the same
records: each has the value and the problem it had, and its position among the refused values. -/
theorem readMany_again
    (policy : Datum)
    (values : List Datum)
    (readable : ∀ value ∈ values, value.isReadable = true) :
    ∃ batch : Batch,
      ((Reader.mk policy).readMany (.list values)).1 = .ok batch ∧
      (∀ allowing : Datum, allowing.truthy = true →
        ((Reader.mk allowing).readMany
          (.list (batch.parsed.map fun identifier => .text identifier.encode))).1 =
            .ok ⟨batch.parsed, []⟩) ∧
      ((Reader.mk policy).readMany (.list (batch.rejected.map RejectedValue.value))).1 =
        .ok ⟨[], renumberedFrom 0 batch.rejected⟩ := by
  refine ⟨(Reader.mk policy).batchOf values, ?_, ?_, ?_⟩
  · rw [readMany_of_survive (Reader.mk policy) (survives_of_isReadable _ readable)]
  · intro allowing allows
    have encodedReadable : ∀ value ∈ ((Reader.mk policy).batchOf values).parsed.map
        (fun identifier => Datum.text identifier.encode), value.isReadable = true := by
      intro value member
      obtain ⟨identifier, -, rfl⟩ := List.mem_map.mp member
      rfl
    rw [readMany_of_survive (Reader.mk allowing) (survives_of_isReadable _ encodedReadable),
      batchOf_encoded]
    intro identifier member
    obtain ⟨value, -, parsed⟩ := List.mem_filterMap.mp member
    exact parsed?_encode allows parsed
  · have made : ∀ record ∈ ((Reader.mk policy).batchOf values).rejected, ∃ position value,
        (Reader.mk policy).rejected? position value = some record := fun record member =>
      rejected?_of_mem_rejectedFrom member
    have survive : ∀ value ∈ ((Reader.mk policy).batchOf values).rejected.map
        RejectedValue.value, (Reader.mk policy).survives value = true := by
      intro value member
      obtain ⟨record, rejectedMember, rfl⟩ := List.mem_map.mp member
      obtain ⟨position, value, rejected⟩ := made record rejectedMember
      exact survives_of_rejected? rejected
    rw [readMany_of_survive (Reader.mk policy) survive, batchOf_rejected made]

/-- A token behind a separator comes back as the bare token, which is read as the same identifier.
The text with two separators moves from the third place to the first. -/
theorem readMany_again_mixed :
    let values : List Datum := [.text "a/x", .text "/token", .text "x/y/z", .null]
    (∀ value ∈ values, value.isReadable = true) ∧
      ∃ batch : Batch,
        ((Reader.mk (.bool false)).readMany (.list values)).1 = .ok batch ∧
        batch.rejected.map RejectedValue.index = [.int 2, .int 3] ∧
        (Datum.bool true).truthy = true ∧
        ((Reader.mk (.bool true)).readMany (.list [.text "a/x", .text "token"])).1 =
          .ok ⟨batch.parsed, []⟩ ∧
        ((Reader.mk (.bool false)).readMany (.list [.text "x/y/z", .null])).1 =
          .ok ⟨[], renumberedFrom 0 batch.rejected⟩ := by
  intro values
  have readable : ∀ value ∈ values, value.isReadable = true := by decide
  obtain ⟨batch, returned, parsedAgain, rejectedAgain⟩ :=
    readMany_again (.bool false) values readable
  refine ⟨readable, batch, returned, ?_, rfl, ?_, ?_⟩
  · cases returned
    rfl
  · have again := parsedAgain (.bool true) rfl
    cases returned
    exact again
  · cases returned
    exact rejectedAgain

end Reader

end Attachments
