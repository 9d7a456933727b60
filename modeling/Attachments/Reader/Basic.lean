import Attachments.Identifier.Decoding
import Attachments.Reader.Batch
import Attachments.Reader.Journal

/-!
Contract: reading encoded forms under a policy on legacy identifiers.

Owns:
- reading one value, and what the journal says of it;
- reading many values, where a refusal is recorded and a fault ends the batch.

Does not own: the encoded forms.
-/

namespace Attachments

/-- A reader of encoded forms. Its policy is kept as it was given; every value that counts as true
allows legacy identifiers. -/
structure Reader where
  allowLegacy : Datum
  deriving Inhabited

namespace Reader

def readsLegacy (reader : Reader) : Bool :=
  reader.allowLegacy.truthy

def legacyEntry (value : Datum) : Entry :=
  ⟨.debug, s!"Decoded legacy attachment id: {value.plain}"⟩

/-- The entry for a refused value. -/
def rejectionEntry (index : Nat) (rejection : Rejection) : Entry :=
  let code := rejection.problemClass.code
  ⟨.warning, s!"Rejected attachment id at index {index} ({code}): {rejection.message}"⟩

/-- The entry at the end of a batch with refused values. -/
def summaryEntry (batch : Batch) : Entry :=
  ⟨.info,
    s!"Parsed {batch.parsed.length} attachment ids, rejected {batch.rejected.length}"⟩

/-- Reads one value. The journal names the value of a legacy identifier. -/
def read (reader : Reader) (value : Datum) : Except Failure Identifier × Journal :=
  match Identifier.decode reader.readsLegacy value with
  | .ok identifier => (.ok identifier, if identifier.isLegacy then [legacyEntry value] else [])
  | .error failure => (.error failure, [])

/-- Reads values of which the first has the position `index`. A fault leaves the later values
unread and keeps the journal so far. -/
def readFrom (reader : Reader) (index : Nat) : List Datum → Except Fault Batch × Journal
  | [] => (.ok .empty, [])
  | value :: rest =>
    match reader.read value with
    | (.ok identifier, journal) =>
      let (outcome, later) := readFrom reader (index + 1) rest
      (outcome.map fun batch => { batch with parsed := identifier :: batch.parsed },
        journal ++ later)
    | (.error (.rejected rejection), journal) =>
      let (outcome, later) := readFrom reader (index + 1) rest
      let entry : RejectedValue := ⟨.int index, value, .rejected rejection⟩
      (outcome.map fun batch => { batch with rejected := entry :: batch.rejected },
        journal ++ rejectionEntry index rejection :: later)
    | (.error (.fault fault), journal) => (.error fault, journal)

/-- Reads all values of a list. If the whole list was read and a value was refused, the journal
ends with a summary. -/
def readAll (reader : Reader) (values : List Datum) : Except Fault Batch × Journal :=
  match reader.readFrom 0 values with
  | (.ok batch, journal) =>
    (.ok batch, if batch.ok then journal else journal ++ [summaryEntry batch])
  | (.error fault, journal) => (.error fault, journal)

def readMany (reader : Reader) (values : Datum) : Except Fault Batch × Journal :=
  match values.elements? with
  | some elements => reader.readAll elements
  | none => (.error (.notIterable values.kind), [])

end Reader

end Attachments
