import Attachments.Proofs.Fields
import Attachments.Proofs.Session.Step
import Attachments.Proofs.Session.Storage

/-!
Contract: a session and the storage of its identifiers, in step through every run.

Owns:
- which identifiers a step reports, and which steps have to do with identifiers;
- when a storage represents a session, and that every step keeps it so;
- that slots, index and results hold well-kept identifiers only, and that no step changes or removes
  one.

Does not own: what a step does to the storage.
-/

namespace Attachments

/-! ## What a step reports -/

def Operand.identifiers : Operand → List Identifier
  | .named identifier => [identifier]
  | .plain _ => []

def Result.identifiers : Result → List Identifier
  | .identifier named => [named]
  | .batch read => read.parsed
  | .compared left right => left.identifiers ++ right.identifiers
  | .listing entries => entries.map Prod.fst
  | _ => []

def Report.identifiers (report : Report) : List Identifier :=
  match report.outcome with
  | .ok result => result.identifiers
  | .error _ => []

def Step.handlesIdentifiers : Step → Bool
  | .read .. | .readMany .. | .makeIdentifier .. | .showIdentifier .. | .assign .. | .delete ..
  | .replace .. | .compare .. | .store .. | .find .. | .listIndex => true
  | _ => false

namespace Session

variable (libraries : Libraries) (time : String) (session : Session) {step : Step}

theorem step_report_of_quiet (quiet : step.handlesIdentifiers = false) :
    (session.step libraries time step).1.identifiers = [] := by
  cases step with
  | setVariable name value =>
    rw [Session.step, setVariable]
    split <;> rfl
  | showLegacySettings =>
    rw [Session.step, showLegacySettings]
    split <;> rfl
  | showLogSettings =>
    rw [Session.step, showLogSettings]
    split <;> rfl
  | createReader name settings =>
    rw [Session.step, createReader]
    split
    · rfl
    · dsimp only
      split <;> rfl
  | configure settings =>
    rw [Session.step, configure]
    split <;> rfl
  | log name method message arguments fields handled? =>
    rw [Session.step]
    unfold log
    split
    · rfl
    · split
      · rfl
      · dsimp only
        split <;> rfl
  | bindContext fields =>
    rw [Session.step, bindContext]
    split <;> rfl
  | unsetVariable | writeFile | clearLegacySettings | clearLogSettings | makeReader | makeLogger
  | unbindContext | clearContext => rfl
  | _ => contradiction

end Session

namespace Storage

/-! ## Storage and session in step -/

def Holds (storage : Storage) (place : Nat) (identifier : Identifier) : Prop :=
  storage.records[place]? = some identifier.stored

/-- The storage represents the session: every record is the stored form of an identifier, and the
slots and the keys point to those of the session, in the same order. -/
structure Represents (storage : Storage) (session : Session) : Prop where
  records : ∀ record ∈ storage.records, ∃ identifier : Identifier, record = identifier.stored
  slots : Fields.Related storage.Holds storage.slots session.identifiers
  keys : List.Forall₂ storage.Holds storage.keys (session.index.map Prod.fst)

/-- A step keeps storage and session in step. The records are those of before, perhaps with more
behind them; what the step reports is among them; and a failed step leaves the slots and the index
as they were. -/
structure Follows (storage later : Storage) (session : Session) (ended : Report × Session) :
    Prop where
  represents : later.Represents ended.2
  kept : storage.records <+: later.records
  reported : ∀ identifier ∈ ended.1.identifiers, identifier.stored ∈ later.records
  untouched : ∀ failure, ended.1.outcome = .error failure →
    later.slots = storage.slots ∧ later.keys = storage.keys ∧
      ended.2.identifiers = session.identifiers ∧ ended.2.index = session.index

variable {storage : Storage} {session : Session}

theorem Holds.mono
    {later : Storage}
    (kept : storage.records <+: later.records)
    (place : Nat)
    (identifier : Identifier)
    (holds : storage.Holds place identifier) :
    later.Holds place identifier := by
  obtain ⟨more, extended⟩ := kept
  obtain ⟨bound, _⟩ := List.getElem?_eq_some_iff.mp holds
  rw [Holds, ← extended, List.getElem?_append_left bound]
  exact holds

theorem Holds.sameAt_eq
    {left right : Nat}
    {identifier other : Identifier}
    (holds : storage.Holds left identifier)
    (otherHolds : storage.Holds right other) :
    storage.sameAt left right = (identifier == other) := by
  rw [sameAt, holds, otherHolds]
  exact Identifier.stored_same identifier other

theorem Holds.any_sameAt
    {keys : List Nat}
    {known : List Identifier}
    (pointed : List.Forall₂ storage.Holds keys known)
    {place : Nat}
    {identifier : Identifier}
    (holds : storage.Holds place identifier) :
    (keys.any fun key => storage.sameAt key place) = known.any (· == identifier) := by
  induction pointed with
  | nil => rfl
  | cons first _ inductionHypothesis =>
    rw [List.any_cons, List.any_cons, first.sameAt_eq holds, inductionHypothesis]

namespace Represents

variable (represents : storage.Represents session)
include represents

/-- Nothing but the slots and the index is represented. -/
theorem congr
    {later : Session}
    (identifiers : later.identifiers = session.identifiers)
    (index : later.index = session.index) :
    storage.Represents later := by
  refine ⟨represents.records, ?_, ?_⟩
  · rw [identifiers]
    exact represents.slots
  · rw [index]
    exact represents.keys

/-- A slot is empty on both sides, or points to a record of its identifier. -/
theorem slot_cases (name : String) :
    (storage.slots.get? name = none ∧
        Session.slot session.identifiers name = .error (.unknownName name)) ∨
      ∃ place identifier, storage.slots.get? name = some place ∧
        Session.slot session.identifiers name = .ok identifier ∧
        storage.Holds place identifier := by
  rcases represents.slots.get?_cases name with
    ⟨noPlace, noIdentifier⟩ | ⟨place, identifier, pointed, found, holds⟩
  · exact .inl ⟨noPlace, by rw [Session.slot, noIdentifier]⟩
  · exact .inr ⟨place, identifier, pointed, by rw [Session.slot, found], holds⟩

theorem stored_of_slot
    {name : String}
    {identifier : Identifier}
    (found : Session.slot session.identifiers name = .ok identifier) :
    identifier.stored ∈ storage.records := by
  rcases represents.slot_cases name with ⟨_, missing⟩ | ⟨place, other, _, same, holds⟩
  · rw [missing] at found
    contradiction
  · rw [same] at found
    obtain rfl := Except.ok.inj found
    exact List.mem_of_getElem? holds

theorem stored_of_key
    {identifier : Identifier}
    (member : identifier ∈ session.index.map Prod.fst) :
    identifier.stored ∈ storage.records := by
  have pointed : List.Forall₂ (fun key _ => Identifier.stored key ∈ storage.records ∧ True)
      (session.index.map Prod.fst) storage.keys :=
    represents.keys.flip.imp fun _ _ holds => ⟨List.mem_of_getElem? holds, trivial⟩
  exact ((List.forall₂_and_left _ _).mp pointed).1 identifier member

/-! ## More records -/

/-- Records that nothing points to change nothing of what is represented. -/
theorem addAll (made : List Identifier) :
    (storage.addAll (made.map Identifier.stored)).Represents session := by
  have kept : storage.records <+: (storage.addAll (made.map Identifier.stored)).records :=
    List.prefix_append _ _
  refine ⟨?_, represents.slots.mono (Holds.mono kept), represents.keys.imp (Holds.mono kept)⟩
  intro record member
  rcases List.mem_append.mp member with old | new
  · exact represents.records record old
  · obtain ⟨identifier, _, rfl⟩ := List.mem_map.mp new
    exact ⟨identifier, rfl⟩

/-- A new identifier goes into the slot that points to its record. -/
theorem add (identifier : Identifier) (target : Option String) :
    (storage.add identifier.stored target).Represents
      { session with
        identifiers := match target with
          | some name => session.identifiers.put name identifier
          | none => session.identifiers } := by
  have extended : (storage.addAll [identifier.stored]).Represents session :=
    represents.addAll [identifier]
  cases target with
  | none => exact extended
  | some name =>
    have holds : (storage.addAll [identifier.stored]).Holds storage.records.length identifier :=
      List.getElem?_concat_length
    exact ⟨extended.records, extended.slots.put name holds, extended.keys⟩

/-- Storing a value under an identifier makes its record a key exactly if the index had no such
identifier. -/
theorem keep
    {name : String}
    {identifier : Identifier}
    (found : Session.slot session.identifiers name = .ok identifier)
    (value : Datum) :
    (storage.keep name).Represents
      { session with index := session.index.put identifier value } := by
  rcases represents.slot_cases name with ⟨_, missing⟩ | ⟨place, other, pointed, same, holds⟩
  · rw [missing] at found
    contradiction
  · rw [same] at found
    obtain rfl := Except.ok.inj found
    have known : (storage.keys.any fun key => storage.sameAt key place) =
        session.index.has other := by
      rw [Holds.any_sameAt represents.keys holds, List.any_map]
      rfl
    -- The index keeps the identifier it has, so the key that is there keeps its record.
    have names := Fields.names_put session.index other value
    simp only [Storage.keep, pointed, known]
    split
    next isKey =>
      rw [if_pos isKey] at names
      exact ⟨represents.records, represents.slots, names ▸ represents.keys⟩
    next isNew =>
      rw [if_neg isNew] at names
      refine ⟨represents.records, represents.slots, ?_⟩
      rw [names]
      exact List.rel_append represents.keys (.cons holds .nil)

/-! ## One step -/

/-- A step that changes neither side. -/
theorem follows_unchanged
    {ended : Report × Session}
    (identifiers : ended.2.identifiers = session.identifiers)
    (index : ended.2.index = session.index)
    (reported : ∀ identifier ∈ ended.1.identifiers, identifier.stored ∈ storage.records) :
    storage.Follows storage session ended where
  represents := represents.congr identifiers index
  kept := List.prefix_rfl
  reported := reported
  untouched := fun _ _ => ⟨rfl, rfl, identifiers, index⟩

/-- A step that makes one identifier, and reports that one or none. -/
theorem follows_add
    (identifier : Identifier)
    (target : Option String)
    {ended : Report × Session}
    {result : Result}
    (later : ended.2 = { session with
      identifiers := match target with
        | some name => session.identifiers.put name identifier
        | none => session.identifiers })
    (succeeded : ended.1.outcome = .ok result)
    (reported : result.identifiers ⊆ [identifier]) :
    storage.Follows (storage.add identifier.stored target) session ended where
  represents := later ▸ represents.add identifier target
  kept := List.prefix_append _ _
  reported := by
    intro other member
    rw [Report.identifiers, succeeded] at member
    obtain rfl := List.mem_singleton.mp (reported member)
    exact List.mem_append_right _ (List.mem_singleton_self _)
  untouched := fun failure failed => by
    rw [succeeded] at failed
    contradiction

/-- A step that makes identifiers without a slot, and reports some of them. -/
theorem follows_addAll
    (made : List Identifier)
    {report : Report}
    (reported : report.identifiers ⊆ made) :
    storage.Follows (storage.addAll (made.map Identifier.stored)) session (report, session) where
  represents := represents.addAll made
  kept := List.prefix_append _ _
  reported := fun _ member =>
    List.mem_append_right _ (List.mem_map_of_mem (reported member))
  untouched := fun _ _ => ⟨rfl, rfl, rfl, rfl⟩

/-- A step that changes neither side and reports no identifier. -/
theorem follows_silent (report : Report) (silent : report.identifiers = []) :
    storage.Follows storage session (report, session) := by
  refine represents.follows_unchanged rfl rfl fun identifier member => ?_
  rw [silent] at member
  contradiction

theorem read_follows (name : String) (value : Datum) (target : Option String) :
    storage.Follows (storage.step session (.read name value target)) session
      (session.read name value target) := by
  rw [Storage.step, Session.read, Session.slot]
  cases session.readers.get? name with
  | none => exact represents.follows_silent _ rfl
  | some reader =>
    dsimp only
    rw [StoredIdentifier.decode_eq, Reader.read]
    cases Identifier.decode reader.readsLegacy value with
    | error failure => exact represents.follows_silent _ rfl
    | ok identifier => exact represents.follows_add identifier target rfl rfl (List.Subset.refl _)

theorem readMany_follows (name : String) (values : Datum) :
    storage.Follows (storage.step session (.readMany name values)) session
      (session.readMany name values, session) := by
  rw [Storage.step, Session.readMany, Session.slot]
  cases session.readers.get? name with
  | none => exact represents.follows_silent _ rfl
  | some reader =>
    dsimp only
    rw [Reader.readMany]
    cases values.elements? with
    | none => exact represents.follows_silent _ rfl
    | some elements =>
      dsimp only
      rw [reader.readAll_eq, Reader.readAll]
      rcases outcome : reader.readFrom 0 elements with ⟨fault | batch, journal⟩
      · exact represents.follows_addAll _ (List.nil_subset _)
      · have parsed := reader.parsed_of_readFrom (congrArg Prod.fst outcome)
        exact represents.follows_addAll _ (parsed ▸ List.Subset.refl batch.parsed)

theorem makeIdentifier_follows
    (libraries : Libraries)
    (time : String)
    (name : String)
    (spelling : Spelling) :
    storage.Follows (storage.step session (.makeIdentifier name spelling)) session
      (session.step libraries time (.makeIdentifier name spelling)) := by
  rw [Storage.step, Session.step, Storage.addSpelled, StoredIdentifier.spelled_eq]
  cases spelling.operand with
  | error failure => exact represents.follows_silent _ rfl
  | ok operand =>
    cases operand with
    | plain value => exact represents.follows_silent _ rfl
    | named identifier =>
      exact represents.follows_add identifier (some name) rfl rfl (List.Subset.refl _)

theorem replace_follows
    (libraries : Libraries)
    (time : String)
    (name target : String)
    (changes : Fields String Datum) :
    storage.Follows (storage.step session (.replace name target changes)) session
      (session.step libraries time (.replace name target changes)) := by
  rw [Storage.step, Session.step, Storage.record?]
  rcases represents.slot_cases name with
    ⟨noPlace, missing⟩ | ⟨place, identifier, pointed, found, holds⟩
  · rw [noPlace, missing]
    exact represents.follows_silent _ rfl
  · rw [pointed, found, Option.bind_eq_bind, Option.bind_some, holds]
    dsimp only
    rw [StoredIdentifier.replace_eq]
    cases identifier.replace changes with
    | error failure => exact represents.follows_silent _ rfl
    | ok made => exact represents.follows_add made (some target) rfl rfl (List.Subset.refl _)

theorem find_follows (spelling : Spelling) :
    storage.Follows (storage.step session (.find spelling)) session
      (session.findSpelled spelling, session) := by
  rw [Storage.step, Session.findSpelled, Storage.addSpelled, StoredIdentifier.spelled_eq]
  cases spelling.operand with
  | error failure => exact represents.follows_silent _ rfl
  | ok operand =>
    cases operand with
    | plain value =>
      dsimp only
      cases session.find (.plain value) <;> exact represents.follows_silent _ rfl
    | named identifier =>
      exact represents.follows_add identifier none rfl rfl (List.nil_subset _)

theorem store_follows (name : String) (value : Datum) :
    storage.Follows (storage.keep name) session (session.store name value) := by
  rw [Session.store]
  rcases represents.slot_cases name with
    ⟨noPlace, missing⟩ | ⟨place, identifier, _, found, _⟩
  · rw [missing, Storage.keep, noPlace]
    exact represents.follows_silent _ rfl
  · have later := represents.keep found value
    rw [found]
    exact ⟨later, storage.keep_records name ▸ List.prefix_rfl, (fun _ member => nomatch member),
      (fun _ failed => nomatch failed)⟩

/-- An attempt to change a record is refused on both sides. -/
theorem change_follows
    (name : String)
    {write : StoredIdentifier → Except Fault StoredIdentifier}
    {refusal : Fault}
    (refused : ∀ stored, write stored = .error refusal) :
    storage.Follows (storage.change name write) session
      (session.refuseChange name refusal, session) := by
  rw [storage.change_refused name refused, Session.refuseChange]
  cases Session.slot session.identifiers name <;> exact represents.follows_silent _ rfl

theorem quiet_follows
    (libraries : Libraries)
    (time : String)
    {step : Step}
    (quiet : step.handlesIdentifiers = false) :
    storage.Follows (storage.step session step) session (session.step libraries time step) := by
  have unchanged : storage.step session step = storage := by
    cases step <;> first | rfl | contradiction
  rw [unchanged]
  apply represents.follows_unchanged
  · exact session.step_identifiers libraries time (by cases step <;> trivial)
  · exact session.step_index libraries time (by cases step <;> trivial)
  · intro identifier member
    rw [session.step_report_of_quiet libraries time quiet] at member
    contradiction

theorem step_follows (libraries : Libraries) (time : String) (step : Step) :
    storage.Follows (storage.step session step) session (session.step libraries time step) := by
  cases step with
  | read name value target => exact represents.read_follows name value target
  | readMany name values => exact represents.readMany_follows name values
  | makeIdentifier name spelling =>
    exact represents.makeIdentifier_follows libraries time name spelling
  | showIdentifier name =>
    rw [Session.step]
    split
    next => exact represents.follows_silent _ rfl
    next identifier found =>
      apply represents.follows_unchanged rfl rfl
      rintro _ (_ | ⟨_, member⟩)
      · exact represents.stored_of_slot found
      · contradiction
  | assign name field => exact represents.change_follows name fun _ => rfl
  | delete name field => exact represents.change_follows name fun _ => rfl
  | replace name target changes =>
    exact represents.replace_follows libraries time name target changes
  | compare left right =>
    rw [Session.step, Session.compare]
    split
    next leftNamed rightNamed leftFound rightFound =>
      apply represents.follows_unchanged rfl rfl
      intro identifier member
      rcases List.mem_cons.mp member with rfl | member
      · exact represents.stored_of_slot leftFound
      · obtain rfl := List.mem_singleton.mp member
        exact represents.stored_of_slot rightFound
    next => exact represents.follows_silent _ rfl
    next => exact represents.follows_silent _ rfl
  | store name value => exact represents.store_follows name value
  | find spelling => exact represents.find_follows spelling
  | listIndex =>
    apply represents.follows_unchanged rfl rfl
    intro identifier member
    apply represents.stored_of_key
    exact ((List.mergeSort_perm _ _).map Prod.fst).mem_iff.mp member
  | _ => exact represents.quiet_follows libraries time rfl

end Represents

/-! ## Runs -/

theorem start_represents (environment : Environment) (file : Option String) :
    empty.Represents (Session.start environment file) :=
  ⟨nofun, .nil, .nil⟩

/-- Storage and session stay in step through every run, and every record stays where it is. -/
theorem run_follows
    (represents : storage.Represents session)
    (libraries : Libraries)
    (time : String)
    (steps : List Step) :
    (storage.run libraries time session steps).Represents (session.run libraries time steps).2 ∧
      storage.records <+: (storage.run libraries time session steps).records := by
  -- The storage represents the session before each step, and the records only ever grow.
  induction steps generalizing storage session with
  | nil => exact ⟨represents, List.prefix_rfl⟩
  | cons step rest inductionHypothesis =>
    have follows := represents.step_follows libraries time step
    obtain ⟨later, kept⟩ := inductionHypothesis follows.represents
    exact ⟨later, follows.kept.trans kept⟩

theorem run_append
    (storage : Storage)
    (libraries : Libraries)
    (time : String)
    (session : Session)
    (steps later : List Step) :
    storage.run libraries time session (steps ++ later) =
      (storage.run libraries time session steps).run libraries time
        (session.run libraries time steps).2 later := by
  induction steps generalizing storage session with
  | nil => rfl
  | cons step rest inductionHypothesis => exact inductionHypothesis _ _

theorem Represents.wellKept (represents : storage.Represents session) :
    ∀ record ∈ storage.records, record.WellKept := by
  intro record member
  obtain ⟨identifier, rfl⟩ := represents.records record member
  exact identifier.stored_wellKept

end Storage

/-- After any run, every identifier ever made is stored with two texts without a separator and with
the encoded form that belongs to them. The slots and the index of the session point to such records,
and so do the results of any next step. More steps, failed ones and attempts to change an identifier
among them, leave every record as it is, and a failed step leaves the slots and the index, too. -/
theorem Session.identifiers_wellKept
    (libraries : Libraries)
    (time : String)
    (environment : Environment)
    (file : Option String)
    (steps : List Step) :
    let session := ((start environment file).run libraries time steps).2
    let storage := Storage.empty.run libraries time (start environment file) steps
    (∀ record ∈ storage.records, record.WellKept) ∧
    storage.Represents session ∧
    (∀ step,
      storage.Follows (storage.step session step) session (session.step libraries time step)) ∧
    (∀ more, storage.records <+:
      (Storage.empty.run libraries time (start environment file) (steps ++ more)).records) := by
  intro session storage
  have represents : storage.Represents session :=
    (Storage.run_follows (Storage.start_represents environment file) libraries time steps).1
  refine ⟨represents.wellKept, represents, represents.step_follows libraries time, fun more => ?_⟩
  rw [Storage.run_append]
  exact (Storage.run_follows represents libraries time more).2

example (libraries : Libraries) :
    Storage.empty.run libraries "" (.start [] none)
        [.makeIdentifier "a" (.encoded (.text "/x") (.bool true)), .store "a" .null,
          .assign "a" (.text "id"), .replace "a" "a" [("domain", .text "y/")]] =
      ⟨[⟨.text "", .text "x", some (.text "x")⟩], [("a", 0)], [0]⟩ := by
  rfl

end Attachments
