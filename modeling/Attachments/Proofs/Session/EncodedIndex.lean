import Attachments.Proofs.Fields
import Attachments.Proofs.Identifier.Encoding
import Attachments.Proofs.Session.Step
import Mathlib.Data.List.Forall2

/-!
Contract: the index of a session beside an index that is keyed by encoded forms.

Owns:
- what the steps of a session do to an index under encoded forms;
- that both indexes stay in step, entry by entry, and give the same answers;
- that a plain value, even an encoded form, finds nothing in the index of a session.

Does not own: the order in which the index is listed.
-/

namespace Attachments

/-- An index keyed by encoded forms. -/
abbrev EncodedIndex :=
  Fields String Datum

namespace Session

/-! ## Steps on an index under encoded forms -/

/-- What a step does to an index under encoded forms, and how it ends there. The key is the encoded
form of the identifier that the step stores or looks up; where there is none, the step fails as it
does anywhere. A look-up with a plain value has no answer, and neither has a step that leaves the
index alone. -/
def accessEncoded (session : Session) (encoded : EncodedIndex) :
    Step → Option (Except StepFailure Result) × EncodedIndex
  | .store name value =>
    match slot session.identifiers name with
    | .error fault => (some (.error (.fault fault)), encoded)
    | .ok identifier =>
      let stored := encoded.put identifier.encode value
      (some (.ok (.size stored.length)), stored)
  | .find spelling =>
    match spelling.operand with
    | .error failure => (some (.error (.ofFailure failure)), encoded)
    | .ok (.named identifier) =>
      (some (.ok (.found (encoded.get? identifier.encode))), encoded)
    | .ok (.plain _) => (none, encoded)
  | _ => (none, encoded)

def runEncoded
    (libraries : Libraries)
    (time : String)
    (session : Session)
    (encoded : EncodedIndex) :
    List Step → List (Option (Except StepFailure Result)) × EncodedIndex
  | [] => ([], encoded)
  | step :: rest =>
    let (answer, next) := session.accessEncoded encoded step
    let (answers, final) := runEncoded libraries time (session.step libraries time step).2 next rest
    (answer :: answers, final)

/-- A report agrees with an answer if the step ended as the answer says. -/
def Answered (report : Report) (answer : Option (Except StepFailure Result)) : Prop :=
  ∀ outcome, answer = some outcome → report.outcome = outcome

variable (libraries : Libraries) (time : String) (session : Session)

def encodedIndex : EncodedIndex :=
  Fields.rename Identifier.encode session.index

/-! ## One step -/

/-- Different identifiers have different encoded forms, so a step reaches the same entry in both
indexes, and both stay alike. -/
theorem accessEncoded_lockstep (step : Step) :
    Answered (session.step libraries time step).1
        (session.accessEncoded session.encodedIndex step).1 ∧
      (session.accessEncoded session.encodedIndex step).2 =
        (session.step libraries time step).2.encodedIndex := by
  cases step with
  | store name value =>
    cases found : slot session.identifiers name with
    | error fault =>
      simp only [accessEncoded, Session.step, store, found]
      exact ⟨fun _ same => Option.some.inj same, trivial⟩
    | ok identifier =>
      have stored : session.encodedIndex.put identifier.encode value =
          Fields.rename Identifier.encode (session.index.put identifier value) :=
        Fields.put_rename Identifier.encode_injective session.index identifier value
      simp only [accessEncoded, Session.step, store, found, stored]
      refine ⟨?_, rfl⟩
      intro outcome same
      rw [← Option.some.inj same, Fields.rename, List.length_map]
      rfl
  | find spelling =>
    cases spelled : spelling.operand with
    | error failure =>
      simp only [accessEncoded, Session.step, findSpelled, spelled]
      exact ⟨fun _ same => Option.some.inj same, trivial⟩
    | ok operand =>
      cases operand with
      | named identifier =>
        have found : session.encodedIndex.get? identifier.encode = session.index.get? identifier :=
          Fields.get?_rename Identifier.encode_injective session.index identifier
        simp only [accessEncoded, Session.step, findSpelled, spelled, find, found]
        exact ⟨fun _ same => Option.some.inj same, trivial⟩
      | plain value =>
        simp only [accessEncoded, spelled]
        exact ⟨fun _ same => absurd same (by simp), rfl⟩
  | _ =>
    refine ⟨fun _ same => absurd same (by simp [accessEncoded]), ?_⟩
    exact congrArg (Fields.rename Identifier.encode) (session.step_index libraries time rfl).symm

/-! ## Runs -/

theorem runEncoded_lockstep (steps : List Step) :
    List.Forall₂ Answered (session.run libraries time steps).1
        (session.runEncoded libraries time session.encodedIndex steps).1 ∧
      (session.runEncoded libraries time session.encodedIndex steps).2 =
        (session.run libraries time steps).2.encodedIndex := by
  induction steps generalizing session with
  | nil => exact ⟨.nil, rfl⟩
  | cons step rest inductionHypothesis =>
    obtain ⟨answered, alike⟩ := session.accessEncoded_lockstep libraries time step
    obtain ⟨later, final⟩ := inductionHypothesis (session.step libraries time step).2
    rw [← alike] at later final
    exact ⟨.cons answered later, final⟩

/-! ## Plain values -/

theorem get?_eq_find? (index : Fields Identifier Datum) (identifier : Identifier) :
    index.get? identifier = (index.find? fun entry => entry.1 == identifier).map Prod.snd := by
  induction index with
  | nil => rfl
  | cons entry rest inductionHypothesis =>
    obtain ⟨known, value⟩ := entry
    by_cases same : known = identifier
    · simp [Fields.get?, same]
    · simp [Fields.get?, same, inductionHypothesis]

theorem find?_same_plain (index : Fields Identifier Datum) (value : Datum) :
    index.find? (fun entry => (Operand.named entry.1).same (.plain value)) = none :=
  List.find?_eq_none.mpr fun _ _ => Bool.false_ne_true

/-- A look-up finds the value of the entry whose identifier equals what is looked up. -/
theorem find_eq_find? {operand : Operand} (isKey : operand.checkKey = .ok ()) :
    session.find operand =
      .ok ((session.index.find? fun entry =>
        (Operand.named entry.1).same operand).map Prod.snd) := by
  cases operand with
  | named identifier =>
    rw [find, get?_eq_find?]
    rfl
  | plain value =>
    have isKey : value.checkKey = .ok () := isKey
    rw [find, isKey, find?_same_plain]
    rfl

/-- The index of a session and one under the encoded forms stay in step through every run. After
each step they hold the same values in the same order under an identifier and its encoded form. A
step that stores or looks up an identifier, however it was spelled, ends alike on both, with the
same size, the same value found or none, or the same failure. The encoded form itself is no key of
the index of a session: as a plain value it equals no identifier, makes a second element beside its
own one, and is not found. -/
theorem index_lockstep (steps : List Step) :
    (∀ count, (session.runEncoded libraries time session.encodedIndex (steps.take count)).2 =
      (session.reached libraries time steps count).index.map fun entry =>
        (entry.1.encode, entry.2)) ∧
    List.Forall₂ Answered (session.run libraries time steps).1
      (session.runEncoded libraries time session.encodedIndex steps).1 ∧
    (∀ identifier other : Identifier,
      (Operand.named identifier).same (.plain (.text other.encode)) = false ∧
      (Operand.plain (.text other.encode)).same (.named identifier) = false ∧
      (Operand.named identifier).distinctCount (.plain (.text other.encode)) = .ok 2) ∧
    (∀ (count : Nat) (identifier : Identifier),
      (session.reached libraries time steps count).step libraries time
          (.find (.plain (.text identifier.encode))) =
        (.plain (.ok (.found none)), session.reached libraries time steps count)) := by
  refine ⟨fun count => ?_, (session.runEncoded_lockstep libraries time steps).1,
    fun _ _ => ⟨rfl, rfl, rfl⟩, fun count identifier => ?_⟩
  · exact (session.runEncoded_lockstep libraries time (steps.take count)).2
  · have missing :
        (session.reached libraries time steps count).find (.plain (.text identifier.encode)) =
          .ok none := by
      rw [find_eq_find? _ rfl, find?_same_plain]
      rfl
    simp only [Session.step, findSpelled, Spelling.operand, missing]

end Session

end Attachments
