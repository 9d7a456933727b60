import Attachments.Proofs.Reader.Run
import Mathlib.Data.List.Forall2

/-!
Contract: how a list without faults is divided between the two lists of a batch.

Owns:
- the positions at which the values of a list leave something;
- what it means that a batch divides the values of a list, position by position;
- that reading many values divides them, and when nothing is refused.

Does not own: the journal, and lists with faults.
-/

namespace Attachments

/-! ## Positions -/

/-- The positions of a list at which value and position together give something. -/
def positionsWith {Result : Type} (given? : Datum × Nat → Option Result) (values : List Datum) :
    List Nat :=
  (values.zipIdx.filter fun entry => (given? entry).isSome).map Prod.snd

section Positions

variable {Result : Type} (given? : Datum × Nat → Option Result)

theorem positionsWith_ascending (values : List Datum) :
    (positionsWith given? values).Pairwise (· < ·) := by
  have all : (values.zipIdx.map Prod.snd).Pairwise (· < ·) := by
    rw [List.zipIdx_map_snd]
    exact List.pairwise_lt_range' 1
  exact all.sublist (List.filter_sublist.map Prod.snd)

theorem mem_positionsWith_iff (values : List Datum) (position : Nat) :
    position ∈ positionsWith given? values ↔
      ∃ value, values[position]? = some value ∧ (given? (value, position)).isSome = true := by
  simp only [positionsWith, List.mem_map, List.mem_filter, List.mem_zipIdx_iff_getElem?]
  constructor
  · rintro ⟨⟨value, _⟩, ⟨found, given⟩, rfl⟩
    exact ⟨value, found, given⟩
  · rintro ⟨value, found, given⟩
    exact ⟨(value, position), ⟨found, given⟩, rfl⟩

theorem forall₂_filterMap {Entry : Type} (given? : Entry → Option Result) (entries : List Entry) :
    List.Forall₂ (fun entry result => entry ∈ entries ∧ given? entry = some result)
      (entries.filter fun entry => (given? entry).isSome) (entries.filterMap given?) := by
  induction entries with
  | nil => exact .nil
  | cons entry rest inductionHypothesis =>
    have later := inductionHypothesis.imp fun _ _ ⟨member, given⟩ =>
      And.intro (List.mem_cons_of_mem entry member) given
    cases given : given? entry with
    | none => simpa [given] using later
    | some result => simpa [given] using later

/-- What a list gives stands in the order of the positions that give it. -/
theorem forall₂_positionsWith (values : List Datum) :
    List.Forall₂
      (fun position result =>
        ∃ value, values[position]? = some value ∧ given? (value, position) = some result)
      (positionsWith given? values) (values.zipIdx.filterMap given?) := by
  rw [positionsWith, List.forall₂_map_left_iff]
  apply (forall₂_filterMap given? values.zipIdx).imp
  rintro ⟨value, position⟩ result ⟨member, given⟩
  exact ⟨value, List.mem_zipIdx_iff_getElem?.mp member, given⟩

end Positions

/-! ## Divided lists -/

/-- A batch divides the values of a list under a policy: the positions whose values are refused and
the other ones, both ascending, stand for its two lists. A record holds its position, the value
found there, and the refusal of that value; an identifier is what the value of its position is read
as. -/
structure Batch.Divides
    (batch : Batch)
    (allowLegacy : Bool)
    (values : List Datum)
    (kept refused : List Nat) :
    Prop where
  refused_ascending : refused.Pairwise (· < ·)
  mem_refused_iff : ∀ position, position ∈ refused ↔
    ∃ value failure, values[position]? = some value ∧
      Identifier.decode allowLegacy value = .error failure
  rejected : List.Forall₂
    (fun position record => ∃ value rejection, values[position]? = some value ∧
      Identifier.decode allowLegacy value = .error (.rejected rejection) ∧
      record = ⟨.int position, value, .rejected rejection⟩)
    refused batch.rejected
  kept_ascending : kept.Pairwise (· < ·)
  mem_kept_iff : ∀ position, position ∈ kept ↔ position < values.length ∧ position ∉ refused
  parsed : List.Forall₂
    (fun position identifier => ∃ value, values[position]? = some value ∧
      Identifier.decode allowLegacy value = .ok identifier)
    kept batch.parsed

namespace Reader

/-! ## One value -/

theorem rejected?_eq_some_iff
    (reader : Reader)
    (index : Nat)
    (value : Datum)
    (record : RejectedValue) :
    reader.rejected? index value = some record ↔
      ∃ rejection, Identifier.decode reader.readsLegacy value = .error (.rejected rejection) ∧
        record = ⟨.int index, value, .rejected rejection⟩ := by
  unfold rejected?
  cases decoded : Identifier.decode reader.readsLegacy value with
  | ok identifier => simp
  | error failure =>
    cases failure with
    | rejected rejection => simp [eq_comm]
    | fault fault => simp

/-- A value that is no fault adds one thing to one of the two lists. -/
theorem parsed?_or_rejected?
    (reader : Reader)
    (index : Nat)
    {value : Datum}
    (readable : value.isReadable = true) :
    (∃ identifier, reader.parsed? value = some identifier ∧
        reader.rejected? index value = none) ∨
      ∃ record, reader.parsed? value = none ∧ reader.rejected? index value = some record := by
  unfold parsed? rejected?
  rcases Identifier.decode_of_isReadable reader.readsLegacy readable with
    ⟨identifier, decoded⟩ | ⟨rejection, refused⟩
  · simp [decoded, Except.toOption]
  · simp [refused, Except.toOption]

theorem isSome_rejected?_iff
    (reader : Reader)
    (index : Nat)
    {value : Datum}
    (readable : value.isReadable = true) :
    (reader.rejected? index value).isSome = true ↔
      ∃ failure, Identifier.decode reader.readsLegacy value = .error failure := by
  unfold rejected?
  rcases Identifier.decode_of_isReadable reader.readsLegacy readable with
    ⟨identifier, decoded⟩ | ⟨rejection, refused⟩
  · simp [decoded]
  · simp [refused]

/-! ## Lists -/

/-- The records of a list and its identifiers are as many as its values. -/
theorem length_parsed_add_length_rejected
    (reader : Reader)
    (index : Nat)
    {values : List Datum}
    (readable : ∀ value ∈ values, value.isReadable = true) :
    (values.filterMap reader.parsed?).length + (reader.rejectedFrom index values).length =
      values.length := by
  induction values generalizing index with
  | nil => rfl
  | cons value values inductionHypothesis =>
    have tail := inductionHypothesis (index + 1) fun other member =>
      readable other (by simp [member])
    rw [filterMap_parsed?_cons, rejectedFrom_cons]
    simp only [List.length_append, List.length_cons]
    rcases parsed?_or_rejected? reader index (readable value (by simp)) with
      ⟨identifier, parsed, notRejected⟩ | ⟨record, notParsed, rejected⟩
    · simp only [parsed, notRejected, Option.toList_some, Option.toList_none, List.length_cons,
        List.length_nil]
      omega
    · simp only [notParsed, rejected, Option.toList_some, Option.toList_none, List.length_cons,
        List.length_nil]
      omega

theorem filterMap_parsed?_zipIdx (reader : Reader) (values : List Datum) :
    values.zipIdx.filterMap (fun entry => reader.parsed? entry.1) =
      values.filterMap reader.parsed? := by
  have whole : (values.zipIdx.map Prod.fst).filterMap reader.parsed? =
      values.zipIdx.filterMap (reader.parsed? ∘ Prod.fst) :=
    List.filterMap_map
  rw [List.zipIdx_map_fst] at whole
  exact whole.symm

/-- The batch of a list without faults divides its values. -/
theorem batchOf_divides
    (reader : Reader)
    {values : List Datum}
    (readable : ∀ value ∈ values, value.isReadable = true) :
    (reader.batchOf values).Divides reader.readsLegacy values
      (positionsWith (fun entry => reader.parsed? entry.1) values)
      (positionsWith (fun entry => reader.rejected? entry.2 entry.1) values) where
  refused_ascending := positionsWith_ascending _ values
  mem_refused_iff position := by
    rw [mem_positionsWith_iff]
    apply exists_congr
    intro value
    rw [exists_and_left]
    refine and_congr_right fun found => ?_
    exact isSome_rejected?_iff reader position (readable value (List.mem_of_getElem? found))
  rejected := by
    apply (forall₂_positionsWith _ values).imp
    rintro position record ⟨value, found, rejected⟩
    obtain ⟨rejection, refused, rfl⟩ := (rejected?_eq_some_iff _ _ _ _).mp rejected
    exact ⟨value, rejection, found, refused, rfl⟩
  kept_ascending := positionsWith_ascending _ values
  mem_kept_iff position := by
    rw [mem_positionsWith_iff, mem_positionsWith_iff]
    constructor
    · rintro ⟨value, found, kept⟩
      refine ⟨(List.getElem?_eq_some_iff.mp found).1, ?_⟩
      rintro ⟨other, foundOther, refused⟩
      obtain rfl : value = other := Option.some.inj (found.symm.trans foundOther)
      rcases parsed?_or_rejected? reader position
        (readable value (List.mem_of_getElem? found)) with ⟨_, _, none⟩ | ⟨_, none, _⟩
      · simp [none] at refused
      · simp [none] at kept
    · rintro ⟨inside, notRefused⟩
      have found : values[position]? = some values[position] := List.getElem?_eq_getElem inside
      refine ⟨_, found, ?_⟩
      rcases parsed?_or_rejected? reader position
        (readable _ (List.mem_of_getElem? found)) with ⟨_, parsed, _⟩ | ⟨_, _, rejected⟩
      · simp [parsed]
      · exact absurd ⟨_, found, by simp [rejected]⟩ notRefused
  parsed := by
    rw [batchOf, ← filterMap_parsed?_zipIdx]
    apply (forall₂_positionsWith _ values).imp
    rintro position identifier ⟨value, found, parsed⟩
    exact ⟨value, found, (parsed?_eq_some_iff _ _ _).mp parsed⟩

end Reader

/-- Nothing is refused exactly if every value is read. -/
theorem Batch.Divides.ok_iff
    {batch : Batch}
    {allowLegacy : Bool}
    {values : List Datum}
    {kept refused : List Nat}
    (divides : batch.Divides allowLegacy values kept refused) :
    batch.ok = true ↔
      ∀ value ∈ values, ∃ identifier, Identifier.decode allowLegacy value = .ok identifier := by
  have sameLength : refused.length = batch.rejected.length := divides.rejected.length_eq
  have noRefusal : batch.ok = true ↔ refused = [] := by
    rw [Batch.ok, List.isEmpty_iff, ← List.length_eq_zero_iff, ← sameLength,
      List.length_eq_zero_iff]
  rw [noRefusal, List.eq_nil_iff_forall_not_mem]
  constructor
  · intro none value member
    obtain ⟨position, found⟩ := List.getElem?_of_mem member
    cases decoded : Identifier.decode allowLegacy value with
    | ok identifier => exact ⟨identifier, rfl⟩
    | error failure =>
      exact absurd ((divides.mem_refused_iff position).mpr ⟨value, failure, found, decoded⟩)
        (none position)
  · intro all position refusedThere
    obtain ⟨value, failure, found, failed⟩ := (divides.mem_refused_iff position).mp refusedThere
    obtain ⟨identifier, decoded⟩ := all value (List.mem_of_getElem? found)
    rw [decoded] at failed
    contradiction

namespace Reader

/-! ## Batches -/

/-- Reading a list of texts and nulls gives a batch under every policy, and the batch divides the
values: no value is lost, none is in both lists, and the two lists together are as long as the
list that was read. Nothing is refused exactly if every value is read. -/
theorem readMany_divides
    (policy : Datum)
    (values : List Datum)
    (readable : ∀ value ∈ values, value.isReadable = true) :
    ∃ batch kept refused,
      ((Reader.mk policy).readMany (.list values)).1 = .ok batch ∧
      batch.Divides policy.truthy values kept refused ∧
      batch.parsed.length + batch.rejected.length = values.length ∧
      (batch.ok = true ↔ ∀ value ∈ values,
        ∃ identifier, Identifier.decode policy.truthy value = .ok identifier) := by
  have divides := batchOf_divides (Reader.mk policy) readable
  refine ⟨(Reader.mk policy).batchOf values, _, _, ?_, divides, ?_, divides.ok_iff⟩
  · rw [readMany_of_survive (Reader.mk policy) (survives_of_isReadable _ readable)]
  · exact length_parsed_add_length_rejected (Reader.mk policy) 0 readable

/-- Between values that are read, a text with two separators, null and the empty text are refused,
each at its own position. -/
theorem readMany_divides_mixed :
    let values : List Datum := [.text "a/x", .text "x/y/z", .null, .text "", .text "b/y"]
    (∀ value ∈ values, value.isReadable = true) ∧
      ∃ batch kept refused,
        ((Reader.mk (.bool true)).readMany (.list values)).1 = .ok batch ∧
        batch.Divides true values kept refused ∧
        2 ∈ refused ∧ 4 ∈ kept ∧ batch.ok = false := by
  intro values
  have readable : ∀ value ∈ values, value.isReadable = true := by decide
  obtain ⟨batch, kept, refused, returned, divides, -, ok⟩ :=
    readMany_divides (.bool true) values readable
  have nullRefused : 2 ∈ refused :=
    (divides.mem_refused_iff 2).mpr ⟨.null, .rejected .missingInput, rfl, rfl⟩
  have lastKept : 4 ∈ kept := by
    refine (divides.mem_kept_iff 4).mpr ⟨by decide, fun lastRefused => ?_⟩
    obtain ⟨value, failure, found, failed⟩ := (divides.mem_refused_iff 4).mp lastRefused
    cases found
    cases failed
  have notOk : batch.ok = false := by
    rw [Bool.eq_false_iff, ne_eq, ok]
    intro all
    obtain ⟨identifier, decoded⟩ := all .null (by simp [values])
    contradiction
  exact ⟨readable, batch, kept, refused, returned, divides, nullRefused, lastKept, notOk⟩

end Reader

end Attachments
