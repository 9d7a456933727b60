import Attachments.Proofs.Identifier.Stored
import Attachments.Proofs.Reader.Run
import Attachments.Session.Run

/-!
Contract: a storage with a record for every identifier that a session ever made.

Owns:
- what the steps of a session do to stored identifiers: which they make, where slots and the index
  point, and what becomes of an attempt to change one;
- which identifiers a batch makes, whether it is read to its end or not;
- that refused writes and new keys leave the records alone.

Does not own: how the storage stays in step with the session.
-/

namespace Attachments

/-- The identifiers that are made when values are read one after the other. A refused value makes
none. A fault ends the reading, and what was made before it is there. -/
def StoredIdentifier.readAll (allowLegacy : Bool) : List Datum → List StoredIdentifier
  | [] => []
  | value :: rest =>
    match decode allowLegacy value with
    | .ok stored => stored :: readAll allowLegacy rest
    | .error (.rejected _) => readAll allowLegacy rest
    | .error (.fault _) => []

/-- Stored identifiers in the order in which they were made. Slots and the keys of the index are
places in this order. -/
structure Storage where
  records : List StoredIdentifier
  slots : Fields String Nat
  keys : List Nat

namespace Storage

/-! ## Steps on stored identifiers -/

/-- The storage before the first step. -/
def empty : Storage :=
  ⟨[], [], []⟩

/-- Adds records that no slot points to. -/
def addAll (storage : Storage) (made : List StoredIdentifier) : Storage :=
  { storage with records := storage.records ++ made }

def add (storage : Storage) (made : StoredIdentifier) (target : Option String) : Storage :=
  { storage.addAll [made] with
    slots := match target with
      | some name => storage.slots.put name storage.records.length
      | none => storage.slots }

/-- Adds a record unless the making of it failed. -/
def addMade
    (storage : Storage)
    (made : Except Failure StoredIdentifier)
    (target : Option String) :
    Storage :=
  match made with
  | .ok stored => storage.add stored target
  | .error _ => storage

/-- Adds what a spelling stands for, unless that failed or is a plain value. -/
def addSpelled (storage : Storage) (spelling : Spelling) (target : Option String) : Storage :=
  match StoredIdentifier.spelled spelling with
  | .ok (some stored) => storage.add stored target
  | _ => storage

def record? (storage : Storage) (name : String) : Option StoredIdentifier :=
  storage.slots.get? name >>= fun place => storage.records[place]?

/-- Writes to the record of a slot, in its place. If the write is refused, the record stays. -/
def change
    (storage : Storage)
    (name : String)
    (write : StoredIdentifier → Except Fault StoredIdentifier) :
    Storage :=
  match storage.slots.get? name, (storage.record? name).map write with
  | some place, some (.ok written) =>
    { storage with records := storage.records.set place written }
  | _, _ => storage

/-- Whether the records of two places are equal. -/
def sameAt (storage : Storage) (left right : Nat) : Bool :=
  match storage.records[left]?, storage.records[right]? with
  | some left, some right => left.same right
  | _, _ => false

/-- Makes the record of a slot a key of the index, unless an equal one is a key already. -/
def keep (storage : Storage) (name : String) : Storage :=
  match storage.slots.get? name with
  | none => storage
  | some place =>
    if storage.keys.any fun key => storage.sameAt key place then storage
    else { storage with keys := storage.keys ++ [place] }

/-- What a step of a session does to the stored identifiers. -/
def step (session : Session) (storage : Storage) : Step → Storage
  | .read name value target =>
    match session.readers.get? name with
    | some reader => storage.addMade (StoredIdentifier.decode reader.readsLegacy value) target
    | none => storage
  | .readMany name values =>
    match session.readers.get? name, values.elements? with
    | some reader, some elements =>
      storage.addAll (StoredIdentifier.readAll reader.readsLegacy elements)
    | _, _ => storage
  | .makeIdentifier name spelling => storage.addSpelled spelling (some name)
  | .assign name field => storage.change name (StoredIdentifier.assign field)
  | .delete name field => storage.change name (StoredIdentifier.delete field)
  | .replace name target changes =>
    match storage.record? name with
    | some stored => storage.addMade (stored.replace changes) (some target)
    | none => storage
  | .store name _ => storage.keep name
  | .find spelling => storage.addSpelled spelling none
  | _ => storage

/-- What the steps of a run do to the stored identifiers, one after the other. -/
def run (libraries : Libraries) (time : String) (session : Session) (storage : Storage) :
    List Step → Storage
  | [] => storage
  | step :: rest =>
    run libraries time (session.step libraries time step).2 (storage.step session step) rest

/-! ## What stays -/

theorem keep_records (storage : Storage) (name : String) :
    (storage.keep name).records = storage.records := by
  unfold keep
  split
  · rfl
  · split <;> rfl

theorem change_refused
    (storage : Storage)
    (name : String)
    {write : StoredIdentifier → Except Fault StoredIdentifier}
    {refusal : Fault}
    (refused : ∀ stored, write stored = .error refusal) :
    storage.change name write = storage := by
  unfold change
  split
  next place written pointed made =>
    obtain ⟨stored, _, accepted⟩ := Option.map_eq_some_iff.mp made
    rw [refused] at accepted
    contradiction
  next => rfl

end Storage

namespace Reader

/-! ## Batches of stored identifiers -/

/-- What is made is what the values in front of the first fault stand for. -/
theorem readAll_eq (reader : Reader) (values : List Datum) :
    StoredIdentifier.readAll reader.readsLegacy values =
      ((reader.examined values).filterMap reader.parsed?).map Identifier.stored := by
  induction values with
  | nil => rfl
  | cons value rest inductionHypothesis =>
    rw [StoredIdentifier.readAll, StoredIdentifier.decode_eq, examined]
    cases survives : reader.survives value with
    | false =>
      obtain ⟨fault, failed⟩ := (reader.survives_eq_false_iff value).mp survives
      rw [List.takeWhile_cons_of_neg (by simp [survives]), failed]
      rfl
    | true =>
      rw [List.takeWhile_cons_of_pos survives, filterMap_parsed?_cons, parsed?]
      rcases (reader.survives_iff value).mp survives with
        ⟨identifier, decoded⟩ | ⟨rejection, refused⟩
      · rw [decoded]
        exact congrArg (identifier.stored :: ·) inductionHypothesis
      · rw [refused]
        exact inductionHypothesis

/-- If there is a batch, its identifiers are all that were made. -/
theorem parsed_of_readFrom
    (reader : Reader)
    {index : Nat}
    {values : List Datum}
    {batch : Batch}
    (read : (reader.readFrom index values).1 = .ok batch) :
    batch.parsed = (reader.examined values).filterMap reader.parsed? := by
  rcases reader.survive_or_first_fault values with
    survive | ⟨before, value, fault, rest, rfl, survive, failed⟩
  · rw [readFrom_of_survive reader index survive] at read
    rw [← Except.ok.inj read, examined_of_survive survive]
  · rw [readFrom_of_fault reader index rest survive failed] at read
    contradiction

end Reader

end Attachments
