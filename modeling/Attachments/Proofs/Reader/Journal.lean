import Attachments.Datum.Bytes
import Attachments.Proofs.Reader.Run

/-!
Contract: the journal that reading many values leaves.

Owns:
- the rule of the journal as a relation, which one journal meets at most;
- that a journal follows the rule up to the first fault, and what stands behind that.

Does not own: the identifiers and records of a batch.
-/

namespace Attachments

/-! ## The rule -/

/-- The journal that values call for, the first of which has the position `index`: nothing for an
identifier with a domain, an entry with the value for a legacy identifier, an entry with position,
code and message for a refusal. A value that is neither read nor refused has no rule. -/
inductive Journaled (allowLegacy : Bool) : Nat → List Datum → Journal → Prop where
  | nil (index : Nat) : Journaled allowLegacy index [] []
  | silent
      {index : Nat} {value : Datum} {values : List Datum} {journal : Journal}
      {identifier : Identifier}
      (decoded : Identifier.decode allowLegacy value = .ok identifier)
      (someDomain : identifier.domain.val ≠ "")
      (later : Journaled allowLegacy (index + 1) values journal) :
      Journaled allowLegacy index (value :: values) journal
  | legacy
      {index : Nat} {value : Datum} {values : List Datum} {journal : Journal}
      {identifier : Identifier}
      (decoded : Identifier.decode allowLegacy value = .ok identifier)
      (noDomain : identifier.domain.val = "")
      (later : Journaled allowLegacy (index + 1) values journal) :
      Journaled allowLegacy index (value :: values)
        (⟨.debug, "Decoded legacy attachment id: " ++ value.plain⟩ :: journal)
  | refused
      {index : Nat} {value : Datum} {values : List Datum} {journal : Journal}
      {rejection : Rejection}
      (refused : Identifier.decode allowLegacy value = .error (.rejected rejection))
      (later : Journaled allowLegacy (index + 1) values journal) :
      Journaled allowLegacy index (value :: values)
        (⟨.warning, "Rejected attachment id at index " ++ toString index ++ " (" ++
          rejection.problemClass.code ++ "): " ++ rejection.message⟩ :: journal)

/-- The outcome of each value decides which rule applies, and so no two journals follow. -/
theorem Journaled.unique
    {allowLegacy : Bool}
    {index : Nat}
    {values : List Datum}
    {journal other : Journal}
    (first : Journaled allowLegacy index values journal)
    (second : Journaled allowLegacy index values other) :
    journal = other := by
  induction first generalizing other with
  | nil => cases second; rfl
  | silent decoded someDomain _ inductionHypothesis =>
    cases second with
    | silent _ _ later => exact inductionHypothesis later
    | legacy decodedOther noDomain _ =>
      obtain rfl := Except.ok.inj (decoded.symm.trans decodedOther)
      exact absurd noDomain someDomain
    | refused refused _ => exact absurd (decoded.symm.trans refused) (by simp)
  | legacy decoded noDomain _ inductionHypothesis =>
    cases second with
    | silent decodedOther someDomain _ =>
      obtain rfl := Except.ok.inj (decoded.symm.trans decodedOther)
      exact absurd noDomain someDomain
    | legacy _ _ later => rw [inductionHypothesis later]
    | refused refused _ => exact absurd (decoded.symm.trans refused) (by simp)
  | refused refused _ inductionHypothesis =>
    cases second with
    | silent decoded _ _ => exact absurd (decoded.symm.trans refused) (by simp)
    | legacy decoded _ _ => exact absurd (decoded.symm.trans refused) (by simp)
    | refused refusedOther later =>
      obtain rfl := Failure.rejected.inj (Except.error.inj (refused.symm.trans refusedOther))
      rw [inductionHypothesis later]

namespace Reader

/-! ## Entries of a list -/

/-- The entries of a value that is no fault, in front of a journal for the later ones. -/
theorem journaled_entries_cons
    (reader : Reader)
    {index : Nat}
    {value : Datum}
    {values : List Datum}
    {journal : Journal}
    (survives : reader.survives value = true)
    (later : Journaled reader.readsLegacy (index + 1) values journal) :
    Journaled reader.readsLegacy index (value :: values)
      (reader.entries index value ++ journal) := by
  rcases (reader.survives_iff value).mp survives with
    ⟨identifier, decoded⟩ | ⟨rejection, refused⟩
  · by_cases noDomain : identifier.domain.val = ""
    · have legacy : identifier.isLegacy = true := by simp [Identifier.isLegacy, noDomain]
      simp only [entries, decoded, legacy, if_true]
      exact .legacy decoded noDomain later
    · have notLegacy : identifier.isLegacy = false := by simp [Identifier.isLegacy, noDomain]
      simp only [entries, decoded, notLegacy]
      exact .silent decoded noDomain later
  · simp only [entries, refused]
    exact .refused refused later

theorem journaled_entriesFrom
    (reader : Reader)
    (index : Nat)
    {values : List Datum}
    (survive : ∀ value ∈ values, reader.survives value = true) :
    Journaled reader.readsLegacy index values (reader.entriesFrom index values) := by
  induction values generalizing index with
  | nil => exact .nil index
  | cons value values inductionHypothesis =>
    rw [entriesFrom_cons]
    apply journaled_entries_cons reader (survive value (by simp))
    exact inductionHypothesis (index + 1) fun other member => survive other (by simp [member])

theorem journaled_iff
    (reader : Reader)
    {values : List Datum}
    (survive : ∀ value ∈ values, reader.survives value = true)
    (journal : Journal) :
    Journaled reader.readsLegacy 0 values journal ↔ journal = reader.entriesFrom 0 values := by
  have follows := journaled_entriesFrom reader 0 survive
  constructor
  · intro other
    exact other.unique follows
  · rintro rfl
    exact follows

/-! ## Batches -/

end Reader

end Attachments
