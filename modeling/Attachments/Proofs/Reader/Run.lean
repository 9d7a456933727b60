import Attachments.Proofs.Identifier.Decoding
import Attachments.Reader.Basic

/-!
Contract: what a reader makes of a list, said value by value.

Owns:
- which values a batch survives;
- what one value adds to a batch and to the journal, whatever stands around it;
- the whole outcome of a list without faults, and the outcome of a list that meets one.

Does not own: what a policy lets through.
-/

namespace Attachments

/-- Whether a value is a text or null. Such values are read or refused under every policy. -/
def Datum.isReadable : Datum → Bool
  | .null => true
  | .text _ => true
  | _ => false

theorem Identifier.decode_of_isReadable
    (allowLegacy : Bool)
    {value : Datum}
    (readable : value.isReadable = true) :
    (∃ identifier, decode allowLegacy value = .ok identifier) ∨
      ∃ rejection, decode allowLegacy value = .error (.rejected rejection) := by
  cases value with
  | null => exact .inr ⟨.missingInput, rfl⟩
  | text text =>
    rcases decode_text_cases allowLegacy text with decoded | refused
    · exact .inl decoded
    · exact .inr ⟨_, refused.trans (congrArg Except.error (malformed_text text))⟩
  | _ => contradiction

namespace Reader

/-- Whether a batch survives a value: the value is read or refused, and does not end in a fault. -/
def survives (reader : Reader) (value : Datum) : Bool :=
  match Identifier.decode reader.readsLegacy value with
  | .error (.fault _) => false
  | _ => true

theorem survives_iff (reader : Reader) (value : Datum) :
    reader.survives value = true ↔
      (∃ identifier, Identifier.decode reader.readsLegacy value = .ok identifier) ∨
        ∃ rejection, Identifier.decode reader.readsLegacy value = .error (.rejected rejection) := by
  unfold survives
  rcases Identifier.decode reader.readsLegacy value with (_ | _) | _ <;> simp

theorem survives_eq_false_iff (reader : Reader) (value : Datum) :
    reader.survives value = false ↔
      ∃ fault, Identifier.decode reader.readsLegacy value = .error (.fault fault) := by
  unfold survives
  rcases Identifier.decode reader.readsLegacy value with (_ | _) | _ <;> simp

/-- A batch survives texts and nulls. -/
theorem survives_of_isReadable
    (reader : Reader)
    {values : List Datum}
    (readable : ∀ value ∈ values, value.isReadable = true) :
    ∀ value ∈ values, reader.survives value = true := by
  intro value member
  rw [survives_iff]
  exact Identifier.decode_of_isReadable reader.readsLegacy (readable value member)

/-! ## One value -/

/-- The identifier that a value adds to a batch. -/
def parsed? (reader : Reader) (value : Datum) : Option Identifier :=
  (Identifier.decode reader.readsLegacy value).toOption

theorem parsed?_eq_some_iff (reader : Reader) (value : Datum) (identifier : Identifier) :
    reader.parsed? value = some identifier ↔
      Identifier.decode reader.readsLegacy value = .ok identifier := by
  unfold parsed?
  cases Identifier.decode reader.readsLegacy value <;> simp [Except.toOption]

/-- The record that a refused value adds to a batch. -/
def rejected? (reader : Reader) (index : Nat) (value : Datum) : Option RejectedValue :=
  match Identifier.decode reader.readsLegacy value with
  | .error (.rejected rejection) => some ⟨.int index, value, .rejected rejection⟩
  | _ => none

def entries (reader : Reader) (index : Nat) (value : Datum) : Journal :=
  match Identifier.decode reader.readsLegacy value with
  | .ok identifier => if identifier.isLegacy then [legacyEntry value] else []
  | .error (.rejected rejection) => [rejectionEntry index rejection]
  | .error (.fault _) => []

/-- A value that is no fault adds its share in front of what the rest of the list gives. -/
theorem readFrom_cons
    (reader : Reader)
    (index : Nat)
    {value : Datum}
    (rest : List Datum)
    (survives : reader.survives value = true) :
    reader.readFrom index (value :: rest) =
      ((reader.readFrom (index + 1) rest).1.map fun batch =>
          ⟨(reader.parsed? value).toList ++ batch.parsed,
            (reader.rejected? index value).toList ++ batch.rejected⟩,
        reader.entries index value ++ (reader.readFrom (index + 1) rest).2) := by
  rcases (reader.survives_iff value).mp survives with
    ⟨identifier, decoded⟩ | ⟨rejection, refused⟩
  · simp [readFrom, read, parsed?, rejected?, entries, decoded, Except.toOption]
  · simp [readFrom, read, parsed?, rejected?, entries, refused, Except.toOption]

/-- A fault ends the list with an empty journal of its own. -/
theorem readFrom_fault
    (reader : Reader)
    (index : Nat)
    {value : Datum}
    {fault : Fault}
    (rest : List Datum)
    (failed : Identifier.decode reader.readsLegacy value = .error (.fault fault)) :
    reader.readFrom index (value :: rest) = (.error fault, []) := by
  simp [readFrom, read, failed]

/-! ## Lists -/

/-- The records of the refused values of a list of which the first has the position `index`. -/
def rejectedFrom (reader : Reader) (index : Nat) (values : List Datum) : List RejectedValue :=
  (values.zipIdx index).filterMap fun entry => reader.rejected? entry.2 entry.1

/-- The entries of the values of a list of which the first has the position `index`. -/
def entriesFrom (reader : Reader) (index : Nat) (values : List Datum) : Journal :=
  (values.zipIdx index).flatMap fun entry => reader.entries entry.2 entry.1

theorem filterMap_parsed?_cons (reader : Reader) (value : Datum) (values : List Datum) :
    (value :: values).filterMap reader.parsed? =
      (reader.parsed? value).toList ++ values.filterMap reader.parsed? := by
  cases parsed : reader.parsed? value <;> simp [parsed]

theorem rejectedFrom_cons (reader : Reader) (index : Nat) (value : Datum) (values : List Datum) :
    reader.rejectedFrom index (value :: values) =
      (reader.rejected? index value).toList ++ reader.rejectedFrom (index + 1) values := by
  cases rejected : reader.rejected? index value <;> simp [rejectedFrom, rejected]

theorem entriesFrom_cons (reader : Reader) (index : Nat) (value : Datum) (values : List Datum) :
    reader.entriesFrom index (value :: values) =
      reader.entries index value ++ reader.entriesFrom (index + 1) values := by
  simp [entriesFrom]

/-- Values that are no faults put their shares, in order, in front of what the rest of the list
gives, and the rest is numbered behind them. -/
theorem readFrom_append
    (reader : Reader)
    (index : Nat)
    {values : List Datum}
    (rest : List Datum)
    (survive : ∀ value ∈ values, reader.survives value = true) :
    reader.readFrom index (values ++ rest) =
      ((reader.readFrom (index + values.length) rest).1.map fun batch =>
          ⟨values.filterMap reader.parsed? ++ batch.parsed,
            reader.rejectedFrom index values ++ batch.rejected⟩,
        reader.entriesFrom index values ++
          (reader.readFrom (index + values.length) rest).2) := by
  induction values generalizing index with
  | nil =>
    simp only [List.nil_append, List.length_nil, Nat.add_zero]
    rcases reader.readFrom index rest with ⟨_ | _, _⟩ <;> rfl
  | cons value values inductionHypothesis =>
    have shifted : index + (value :: values).length = index + 1 + values.length := by
      simp only [List.length_cons]
      omega
    have surviveTail : ∀ other ∈ values, reader.survives other = true := fun other member =>
      survive other (by simp [member])
    have tail := inductionHypothesis (index + 1) surviveTail
    rw [List.cons_append, readFrom_cons reader index _ (survive value (by simp)), tail, shifted,
      filterMap_parsed?_cons, rejectedFrom_cons, entriesFrom_cons]
    -- A fault further on drops the records of both sides and leaves the entries as they are.
    rcases reader.readFrom (index + 1 + values.length) rest with ⟨outcome, journal⟩
    cases outcome with
    | error fault => simp [Except.map]
    | ok batch => simp [Except.map]

/-- The outcome of a list without faults. -/
theorem readFrom_of_survive
    (reader : Reader)
    (index : Nat)
    {values : List Datum}
    (survive : ∀ value ∈ values, reader.survives value = true) :
    reader.readFrom index values =
      (.ok ⟨values.filterMap reader.parsed?, reader.rejectedFrom index values⟩,
        reader.entriesFrom index values) := by
  have whole := readFrom_append reader index [] survive
  rw [List.append_nil] at whole
  rw [whole]
  simp [readFrom, Except.map, Batch.empty]

/-- The outcome of a list that meets a fault: what was read before it is lost, and its entries
stay. -/
theorem readFrom_of_fault
    (reader : Reader)
    (index : Nat)
    {values : List Datum}
    {value : Datum}
    {fault : Fault}
    (rest : List Datum)
    (survive : ∀ value ∈ values, reader.survives value = true)
    (failed : Identifier.decode reader.readsLegacy value = .error (.fault fault)) :
    reader.readFrom index (values ++ value :: rest) =
      (.error fault, reader.entriesFrom index values) := by
  rw [readFrom_append reader index _ survive, readFrom_fault reader _ rest failed]
  simp [Except.map]

/-! ## Batches -/

/-- The batch of a list without faults. -/
def batchOf (reader : Reader) (values : List Datum) : Batch :=
  ⟨values.filterMap reader.parsed?, reader.rejectedFrom 0 values⟩

/-- A list without faults is read to its end, and a summary follows if a value was refused. -/
theorem readMany_of_survive
    (reader : Reader)
    {values : List Datum}
    (survive : ∀ value ∈ values, reader.survives value = true) :
    reader.readMany (.list values) =
      (.ok (reader.batchOf values),
        reader.entriesFrom 0 values ++
          if (reader.batchOf values).ok then [] else [summaryEntry (reader.batchOf values)]) := by
  simp only [readMany, Datum.elements?, readAll, readFrom_of_survive reader 0 survive, batchOf]
  split <;> simp [*]

/-- A list that meets a fault gives no batch and no summary. -/
theorem readMany_of_fault
    (reader : Reader)
    {values : List Datum}
    {value : Datum}
    {fault : Fault}
    (rest : List Datum)
    (survive : ∀ value ∈ values, reader.survives value = true)
    (failed : Identifier.decode reader.readsLegacy value = .error (.fault fault)) :
    reader.readMany (.list (values ++ value :: rest)) =
      (.error fault, reader.entriesFrom 0 values) := by
  simp only [readMany, Datum.elements?, readAll, readFrom_of_fault reader 0 rest survive failed]

/-- The values in front of the first fault. -/
def examined (reader : Reader) (values : List Datum) : List Datum :=
  values.takeWhile reader.survives

theorem examined_of_survive
    {reader : Reader}
    {values : List Datum}
    (survive : ∀ value ∈ values, reader.survives value = true) :
    reader.examined values = values := by
  have kept : (values ++ []).takeWhile reader.survives =
      values ++ [].takeWhile reader.survives :=
    List.takeWhile_append_of_pos survive
  rwa [List.append_nil, List.takeWhile_nil, List.append_nil] at kept

theorem examined_append_fault
    {reader : Reader}
    {values : List Datum}
    {value : Datum}
    {fault : Fault}
    (rest : List Datum)
    (survive : ∀ value ∈ values, reader.survives value = true)
    (failed : Identifier.decode reader.readsLegacy value = .error (.fault fault)) :
    reader.examined (values ++ value :: rest) = values := by
  have ends : reader.survives value = false := (reader.survives_eq_false_iff value).mpr ⟨_, failed⟩
  rw [examined, List.takeWhile_append_of_pos survive,
    List.takeWhile_cons_of_neg (by simp [ends]), List.append_nil]

theorem survive_or_first_fault (reader : Reader) (values : List Datum) :
    (∀ value ∈ values, reader.survives value = true) ∨
      ∃ before value fault rest, values = before ++ value :: rest ∧
        (∀ value ∈ before, reader.survives value = true) ∧
        Identifier.decode reader.readsLegacy value = .error (.fault fault) := by
  induction values with
  | nil => exact .inl (by simp)
  | cons value values inductionHypothesis =>
    cases survives : reader.survives value with
    | false =>
      obtain ⟨fault, failed⟩ := (reader.survives_eq_false_iff value).mp survives
      exact .inr ⟨[], value, fault, values, rfl, by simp, failed⟩
    | true =>
      rcases inductionHypothesis with
        all | ⟨before, other, fault, rest, rfl, allBefore, failed⟩
      · exact .inl (by simpa [survives] using all)
      · exact .inr ⟨value :: before, other, fault, rest, rfl, by simpa [survives] using allBefore,
          failed⟩

end Reader

end Attachments
