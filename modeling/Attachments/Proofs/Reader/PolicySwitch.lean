import Attachments.Proofs.Identifier.NormalForm
import Attachments.Proofs.Reader.Run
import Mathlib.Data.List.Basic

/-!
Contract: what turning legacy identifiers off takes away from a batch.

Owns:
- the values that the two policies read differently, which are bare tokens alone;
- how the batches of one list under the two policies stand to each other.

Does not own: the legacy identifiers that get past a policy against them.
-/

namespace Attachments

namespace Identifier

/-- Of texts and nulls, the policies differ on a bare token that holds something, and on no other
one. Such a token is a legacy identifier under the one, and malformed under the other. -/
theorem decode_forbidden_eq_or_token {value : Datum} (readable : value.isReadable = true) :
    decode false value = decode true value ∨
      ∃ token : Component, value = .text token.val ∧
        decode true value = .ok ⟨.empty, token⟩ ∧
        decode false value =
          .error (.rejected (.malformed (.text token.val) .standard)) := by
  cases value with
  | text text =>
    cases Shape.ofText text with
    | token id =>
      by_cases nothing : id.val = ""
      · left
        rw [decode_token, decode_token, if_neg (by simp [nothing]), if_neg (by simp [nothing])]
      · right
        refine ⟨id, rfl, ?_, ?_⟩
        · rw [decode_token, if_pos ⟨nothing, rfl⟩]
        · rw [decode_token, if_neg (by simp), malformed_text]
    | pair domain id =>
      left
      rw [decode_pair, decode_pair]
    | crowded many =>
      left
      rw [decode_crowded false many, decode_crowded true many]
  | null => exact .inl rfl
  | _ => contradiction

/-- An identifier with a domain is read from the same values under both policies. -/
theorem decode_forbidden_iff_of_domain
    {identifier : Identifier}
    (someDomain : identifier.domain.val ≠ "")
    (value : Datum) :
    decode false value = .ok identifier ↔ decode true value = .ok identifier := by
  have either {policy other : Bool} (decoded : decode policy value = .ok identifier) :
      decode other value = .ok identifier := by
    rcases pieces_of_decode decoded with ⟨given, something⟩ | ⟨-, -, noDomain, -⟩
    · exact decode_of_pieces other given something
    · exact absurd noDomain someDomain
  exact ⟨either, either⟩

end Identifier

/-- A selection that gives less, and where it gives something gives the same, leaves a sublist. -/
theorem filterMap_sublist_filterMap
    {Entry Result : Type}
    {fewer more : Entry → Option Result}
    {entries : List Entry}
    (less : ∀ entry ∈ entries, fewer entry = none ∨ fewer entry = more entry) :
    (entries.filterMap fewer).Sublist (entries.filterMap more) := by
  induction entries with
  | nil => exact .slnil
  | cons entry rest inductionHypothesis =>
    have inductionHypothesis := inductionHypothesis fun other member =>
      less other (List.mem_cons_of_mem _ member)
    rcases less entry List.mem_cons_self with none | same
    · rw [List.filterMap_cons_none none]
      cases given : more entry with
      | none => rwa [List.filterMap_cons_none given]
      | some result =>
        rw [List.filterMap_cons_some given]
        exact inductionHypothesis.cons result
    · rw [List.filterMap_cons, List.filterMap_cons, same]
      cases more entry with
      | none => exact inductionHypothesis
      | some result => exact inductionHypothesis.cons_cons result

/-- One batch of the values of a list is narrower than another: it has fewer identifiers, but all
of those with a domain, and more records. Each record of the other is in it as it stands. A record
at a position that the other does not reject is for a text that the other reads as a legacy
identifier, and reports it as malformed. -/
structure Batch.Narrows (narrow wide : Batch) (allowLegacy : Bool) (values : List Datum) :
    Prop where
  parsed : narrow.parsed.Sublist wide.parsed
  withDomain : narrow.parsed.filter (fun identifier => !identifier.isLegacy) =
    wide.parsed.filter fun identifier => !identifier.isLegacy
  rejected : wide.rejected.Sublist narrow.rejected
  added : ∀ record ∈ narrow.rejected, (∀ other ∈ wide.rejected, other.index ≠ record.index) →
    ∃ (position : Nat) (text : String) (identifier : Identifier),
      record = ⟨.int position, .text text, .rejected (.malformed (.text text) .standard)⟩ ∧
      values[position]? = some (.text text) ∧
      Identifier.decode allowLegacy (.text text) = .ok identifier ∧
      identifier.isLegacy = true

namespace Reader

section TwoPolicies

variable {strict permissive : Reader}

theorem parsed?_forbidden
    (forbids : strict.readsLegacy = false)
    (allows : permissive.readsLegacy = true)
    {value : Datum}
    (readable : value.isReadable = true) :
    strict.parsed? value = none ∨ strict.parsed? value = permissive.parsed? value := by
  unfold parsed?
  rw [forbids, allows]
  rcases Identifier.decode_forbidden_eq_or_token readable with same | ⟨token, -, -, forbidden⟩
  · right
    rw [same]
  · left
    rw [forbidden]
    rfl

/-- What the switch takes away has no domain. -/
theorem parsed?_withDomain
    (forbids : strict.readsLegacy = false)
    (allows : permissive.readsLegacy = true)
    {value : Datum}
    (readable : value.isReadable = true) :
    (strict.parsed? value).filter (fun identifier => !identifier.isLegacy) =
      (permissive.parsed? value).filter fun identifier => !identifier.isLegacy := by
  unfold parsed?
  rw [forbids, allows]
  rcases Identifier.decode_forbidden_eq_or_token readable with same | ⟨token, -, allowed, forbidden⟩
  · rw [same]
  · rw [allowed, forbidden]
    rfl

theorem rejected?_allowed
    (forbids : strict.readsLegacy = false)
    (allows : permissive.readsLegacy = true)
    (index : Nat)
    {value : Datum}
    (readable : value.isReadable = true) :
    permissive.rejected? index value = none ∨
      permissive.rejected? index value = strict.rejected? index value := by
  unfold rejected?
  rw [forbids, allows]
  rcases Identifier.decode_forbidden_eq_or_token readable with same | ⟨token, -, allowed, -⟩
  · right
    rw [same]
  · left
    rw [allowed]

/-- A record that only the strict reader makes is for a token. -/
theorem added_of_rejected?
    (forbids : strict.readsLegacy = false)
    (allows : permissive.readsLegacy = true)
    {index : Nat}
    {value : Datum}
    {record : RejectedValue}
    (readable : value.isReadable = true)
    (rejected : strict.rejected? index value = some record)
    (kept : permissive.rejected? index value ≠ some record) :
    ∃ (text : String) (identifier : Identifier),
      value = .text text ∧
      record = ⟨.int index, .text text, .rejected (.malformed (.text text) .standard)⟩ ∧
      Identifier.decode permissive.readsLegacy (.text text) = .ok identifier ∧
      identifier.isLegacy = true := by
  unfold rejected? at rejected kept
  rw [forbids] at rejected
  rw [allows] at kept ⊢
  rcases Identifier.decode_forbidden_eq_or_token readable with
    same | ⟨token, rfl, allowed, forbidden⟩
  · rw [same] at rejected
    exact absurd rejected kept
  · rw [forbidden] at rejected
    exact ⟨token.val, _, rfl, (Option.some.inj rejected).symm, allowed, rfl⟩

theorem mem_rejectedFrom_iff
    (reader : Reader)
    (values : List Datum)
    (record : RejectedValue) :
    record ∈ reader.rejectedFrom 0 values ↔
      ∃ (value : Datum) (position : Nat),
        values[position]? = some value ∧ reader.rejected? position value = some record := by
  simp only [rejectedFrom, List.mem_filterMap, Prod.exists, List.mem_zipIdx_iff_getElem?]

theorem batchOf_narrows
    (forbids : strict.readsLegacy = false)
    (allows : permissive.readsLegacy = true)
    {values : List Datum}
    (readable : ∀ value ∈ values, value.isReadable = true) :
    (strict.batchOf values).Narrows (permissive.batchOf values) permissive.readsLegacy values where
  parsed := filterMap_sublist_filterMap fun value member =>
    parsed?_forbidden forbids allows (readable value member)
  withDomain := by
    simp only [batchOf, List.filter_filterMap]
    exact List.filterMap_congr fun value member =>
      parsed?_withDomain forbids allows (readable value member)
  rejected := filterMap_sublist_filterMap fun entry member =>
    rejected?_allowed forbids allows entry.2 (readable entry.1 (List.fst_mem_of_mem_zipIdx member))
  added := by
    intro record member alone
    obtain ⟨value, position, found, rejected⟩ :=
      (mem_rejectedFrom_iff strict values record).mp member
    -- A record of both readers would have its position in both batches.
    have notKept : permissive.rejected? position value ≠ some record := fun kept =>
      alone record ((mem_rejectedFrom_iff permissive values record).mpr
        ⟨value, position, found, kept⟩) rfl
    obtain ⟨text, identifier, rfl, same, decoded, legacy⟩ :=
      added_of_rejected? forbids allows (readable value (List.mem_of_getElem? found)) rejected
        notKept
    exact ⟨position, text, identifier, same, found, decoded, legacy⟩

end TwoPolicies

/-- Turning legacy identifiers off only takes legacy identifiers away. Of the batches that one list
of texts and nulls gives under the two policies, the strict one is the narrower. A value that names
an identifier with a domain is read alike under both. -/
theorem readMany_narrows
    (allowing forbidding : Datum)
    (allows : allowing.truthy = true)
    (forbids : forbidding.truthy = false)
    (values : List Datum)
    (readable : ∀ value ∈ values, value.isReadable = true) :
    (∃ wide narrow : Batch,
      ((Reader.mk allowing).readMany (.list values)).1 = .ok wide ∧
      ((Reader.mk forbidding).readMany (.list values)).1 = .ok narrow ∧
      narrow.Narrows wide allowing.truthy values) ∧
    (∀ (value : Datum) (identifier : Identifier), identifier.domain.val ≠ "" →
      (Identifier.decode forbidding.truthy value = .ok identifier ↔
        Identifier.decode allowing.truthy value = .ok identifier)) := by
  constructor
  · have narrows : ((Reader.mk forbidding).batchOf values).Narrows
        ((Reader.mk allowing).batchOf values) allowing.truthy values :=
      batchOf_narrows forbids allows readable
    refine ⟨_, _, ?_, ?_, narrows⟩
    · rw [readMany_of_survive (Reader.mk allowing) (survives_of_isReadable _ readable)]
    · rw [readMany_of_survive (Reader.mk forbidding) (survives_of_isReadable _ readable)]
  · intro value identifier someDomain
    rw [allows, forbids]
    exact Identifier.decode_forbidden_iff_of_domain someDomain value

/-- The switch rejects the token, and leaves the null and the token behind a separator as they
were. -/
theorem readMany_narrows_token :
    let values : List Datum := [.text "a/x", .text "token", .null, .text "/y"]
    (Datum.int 1).truthy = true ∧ (Datum.text "").truthy = false ∧
      (∀ value ∈ values, value.isReadable = true) ∧
      ∃ wide narrow : Batch,
        ((Reader.mk (.int 1)).readMany (.list values)).1 = .ok wide ∧
        ((Reader.mk (.text "")).readMany (.list values)).1 = .ok narrow ∧
        narrow.Narrows wide (Datum.int 1).truthy values ∧
        wide.rejected.length = 1 ∧ narrow.rejected.length = 2 := by
  intro values
  have readable : ∀ value ∈ values, value.isReadable = true := by decide
  obtain ⟨wide, narrow, wideRead, narrowRead, narrows⟩ :=
    (readMany_narrows (.int 1) (.text "") (by decide) (by decide) values readable).1
  refine ⟨by decide, by decide, readable, wide, narrow, wideRead, narrowRead, narrows, ?_, ?_⟩
  · cases wideRead
    rfl
  · cases narrowRead
    rfl

end Reader

end Attachments
