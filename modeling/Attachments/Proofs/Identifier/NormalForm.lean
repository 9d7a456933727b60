import Attachments.Proofs.Identifier.Construction

/-!
Contract: all the texts that name one identifier, where legacy identifiers are allowed.

Owns:
- the pieces of a value that is read;
- the texts that name an identifier: its encoded form and, without a domain, the same behind a
  separator;
- the normal form of a text, which is the encoded form of what it names;
- how a text differs from its normal form, and that a normal form is its own.

Does not own: policies against legacy identifiers.
-/

namespace Attachments

namespace Identifier

/-- The encoded form of the identifier that a text names. -/
def normalForm (allowLegacy : Bool) (text : String) : Except Failure String :=
  (decode allowLegacy (.text text)).map encode

theorem normalForm_eq_ok_iff (allowLegacy : Bool) (text form : String) :
    normalForm allowLegacy text = .ok form ↔
      ∃ identifier,
        decode allowLegacy (.text text) = .ok identifier ∧ identifier.encode = form := by
  unfold normalForm
  cases decode allowLegacy (.text text) with
  | ok identifier => simp [Except.map]
  | error failure => simp [Except.map]

/-! ## The texts that name an identifier -/

/-- A value that is read has two pieces, the domain and the id, one of which holds something; or it
has one, an id that holds something, and the policy allows it. -/
theorem pieces_of_decode
    {allowLegacy : Bool}
    {value : Datum}
    {identifier : Identifier}
    (decoded : decode allowLegacy value = .ok identifier) :
    (cut value = .ok [.text identifier.domain.val, .text identifier.id.val] ∧
        ¬ (identifier.domain.val = "" ∧ identifier.id.val = "")) ∨
      (allowLegacy = true ∧ cut value = .ok [.text identifier.id.val] ∧
        identifier.domain.val = "" ∧ identifier.id.val ≠ "") := by
  have found : ∃ pieces, cut value = .ok pieces ∧
      decodePieces ofComponents allowLegacy value pieces = .ok identifier := by
    unfold decode decodeBy at decoded
    split at decoded
    · contradiction
    · split at decoded
      next pieces given => exact ⟨pieces, given, decoded⟩
      next => contradiction
  obtain ⟨pieces, given, decoded⟩ := found
  rw [given]
  match pieces with
  | [] => contradiction
  | [id] =>
    rw [decodePieces] at decoded
    split at decoded
    next granted =>
      obtain ⟨noDomain, rfl⟩ := (ofComponents_eq_ok_iff _ _ _).mp decoded
      rw [Bool.and_eq_true] at granted
      refine .inr ⟨granted.2, rfl, (Datum.text.inj noDomain).symm, fun noId => ?_⟩
      simp [Datum.truthy, noId] at granted
    next => contradiction
  | [domain, id] =>
    rw [decodePieces] at decoded
    split at decoded
    next granted =>
      obtain ⟨rfl, rfl⟩ := (ofComponents_eq_ok_iff _ _ _).mp decoded
      refine .inl ⟨rfl, fun nothing => ?_⟩
      simp [Datum.truthy, nothing.1, nothing.2] at granted
    next => contradiction
  | _ :: _ :: _ :: _ => contradiction

/-- Two pieces that are components are read under every policy, unless both are empty. -/
theorem decode_of_pieces
    (allowLegacy : Bool)
    {value : Datum}
    {domain id : Component}
    (given : cut value = .ok [.text domain.val, .text id.val])
    (something : ¬ (domain.val = "" ∧ id.val = "")) :
    decode allowLegacy value = .ok ⟨domain, id⟩ := by
  have read : decodePieces ofComponents allowLegacy value [.text domain.val, .text id.val] =
      .ok ⟨domain, id⟩ := by
    have held : ((Datum.text domain.val).truthy || (Datum.text id.val).truthy) = true := by
      by_cases noDomain : domain.val = ""
      · have someId : id.val ≠ "" := fun noId => something ⟨noDomain, noId⟩
        simp [Datum.truthy, someId]
      · simp [Datum.truthy, noDomain]
    rw [decodePieces, if_pos held, ofComponents_text]
  cases value with
  | null => contradiction
  | _ => simp only [decode, decodeBy, given, read]

/-- The identifier with two empty components is not read from anything. -/
theorem something_of_decode
    {allowLegacy : Bool}
    {value : Datum}
    {identifier : Identifier}
    (decoded : decode allowLegacy value = .ok identifier) :
    ¬ (identifier.domain.val = "" ∧ identifier.id.val = "") := by
  rcases pieces_of_decode decoded with ⟨-, something⟩ | ⟨-, -, -, someId⟩
  · exact something
  · exact fun nothing => someId nothing.2

/-- Only texts name identifiers, and objects that are cut as texts are. -/
theorem text_of_decode
    {allowLegacy : Bool}
    {value : Datum}
    {identifier : Identifier}
    (decoded : decode allowLegacy value = .ok identifier)
    (noObject : ∀ object, value ≠ .object object) :
    ∃ text : String, value = .text text := by
  cases value with
  | text text => exact ⟨text, rfl⟩
  | object object => exact absurd rfl (noObject object)
  | _ => contradiction

/-- Where a domain is given, the encoded form is the only name. -/
theorem decode_iff_of_domain
    {identifier : Identifier}
    (someDomain : identifier.domain.val ≠ "")
    (text : String) :
    decode true (.text text) = .ok identifier ↔ text = identifier.encode := by
  rw [decode_eq_ok_iff, encode_of_domain someDomain]
  simp [someDomain]

/-- A legacy identifier goes by its bare id, and by the pair that it makes with an empty domain. -/
theorem decode_iff_of_noDomain
    {identifier : Identifier}
    (noDomain : identifier.domain.val = "")
    (someId : identifier.id.val ≠ "")
    (text : String) :
    decode true (.text text) = .ok identifier ↔
      text = identifier.encode ∨ text = "/" ++ identifier.encode := by
  have behindSeparator : paired identifier.domain identifier.id = "/" ++ identifier.id.val := by
    rw [paired, noDomain, String.empty_append]
    rfl
  rw [decode_eq_ok_iff, encode_of_noDomain noDomain, behindSeparator]
  simp [noDomain, someId, or_comm]

/-! ## Normal forms -/

/-- What a value names under any policy is named by its encoded form where legacy identifiers are
allowed. The one identifier whose encoded form is not read is named by no text. -/
theorem decode_encode_of_decode
    {allowLegacy : Bool}
    {value : Datum}
    {identifier : Identifier}
    (decoded : decode allowLegacy value = .ok identifier) :
    decode true (.text identifier.encode) = .ok identifier := by
  have something := something_of_decode decoded
  rw [decode_encode]
  by_cases noDomain : identifier.domain.val = ""
  · rw [if_pos (.inr ⟨fun noId => something ⟨noDomain, noId⟩, rfl⟩)]
  · rw [if_pos (.inl noDomain)]

/-- No encoded form starts with the separator. -/
theorem encode_ne_leading (identifier : Identifier) (rest : String) :
    identifier.encode ≠ "/" ++ rest := by
  intro same
  have first : identifier.encode.toList.head? = some separator := by
    rw [same, String.toList_append]
    rfl
  by_cases noDomain : identifier.domain.val = ""
  · rw [encode_of_noDomain noDomain] at first
    exact identifier.id.property (List.mem_of_mem_head? first)
  · rw [encode_of_domain noDomain, toList_paired] at first
    have someLetter : identifier.domain.val.toList ≠ [] := fun none =>
      noDomain (String.toList_eq_nil_iff.mp none)
    obtain ⟨letter, letters, spelled⟩ := List.exists_cons_of_ne_nil someLetter
    rw [spelled] at first
    obtain rfl : letter = separator := Option.some.inj first
    exact identifier.domain.property (spelled ▸ List.mem_cons_self)

/-- A text that is read is its own normal form, or the same behind a separator. -/
theorem encode_or_leading_of_decode
    {text : String}
    {identifier : Identifier}
    (decoded : decode true (.text text) = .ok identifier) :
    text = identifier.encode ∨ text = "/" ++ identifier.encode := by
  by_cases noDomain : identifier.domain.val = ""
  · by_cases noId : identifier.id.val = ""
    · exact absurd ⟨noDomain, noId⟩ (something_of_decode decoded)
    · exact (decode_iff_of_noDomain noDomain noId text).mp decoded
  · exact .inl ((decode_iff_of_domain noDomain text).mp decoded)

/-- Where legacy identifiers are allowed, the encoded form is the only value that names an
identifier with a domain. A legacy identifier with an id is named by its encoded form, by the same
behind a separator, and by no other value; objects, which are cut in their own way, are left out.
Nothing at all names the identifier with two empty components.
So a text that is read is its own normal form, or starts with a separator and is the normal form
without that, and a normal form is its own. -/
theorem named_exactly (policy : Datum) (allows : policy.truthy = true) :
    (∀ identifier : Identifier,
      (identifier.domain.val ≠ "" → ∀ value : Datum, (∀ object, value ≠ .object object) →
        (decode policy.truthy value = .ok identifier ↔ value = .text identifier.encode)) ∧
      (identifier.domain.val = "" → identifier.id.val ≠ "" → ∀ value : Datum,
        (∀ object, value ≠ .object object) →
          (decode policy.truthy value = .ok identifier ↔
            value = .text identifier.encode ∨ value = .text ("/" ++ identifier.encode))) ∧
      (identifier.domain.val = "" → identifier.id.val = "" → ∀ value : Datum,
        decode policy.truthy value ≠ .ok identifier)) ∧
    (∀ (text : String) (identifier : Identifier),
      decode policy.truthy (.text text) = .ok identifier →
        ((¬ ∃ rest, text = "/" ++ rest) → identifier.encode = text) ∧
        (∀ rest, text = "/" ++ rest → identifier.encode = rest)) ∧
    (∀ text form : String, normalForm policy.truthy text = .ok form →
      normalForm policy.truthy form = .ok form) := by
  rw [allows]
  refine ⟨fun identifier => ⟨?_, ?_, ?_⟩, ?_, ?_⟩
  · intro someDomain value noObject
    constructor
    · intro decoded
      obtain ⟨text, rfl⟩ := text_of_decode decoded noObject
      rw [(decode_iff_of_domain someDomain text).mp decoded]
    · rintro rfl
      exact (decode_iff_of_domain someDomain _).mpr rfl
  · intro noDomain someId value noObject
    constructor
    · intro decoded
      obtain ⟨text, rfl⟩ := text_of_decode decoded noObject
      exact ((decode_iff_of_noDomain noDomain someId text).mp decoded).imp
        (congrArg Datum.text) (congrArg Datum.text)
    · rintro (rfl | rfl)
      · exact (decode_iff_of_noDomain noDomain someId _).mpr (.inl rfl)
      · exact (decode_iff_of_noDomain noDomain someId _).mpr (.inr rfl)
  · intro noDomain noId value decoded
    exact something_of_decode decoded ⟨noDomain, noId⟩
  · intro text identifier decoded
    rcases encode_or_leading_of_decode decoded with same | leading
    · refine ⟨fun _ => same.symm, fun rest start => ?_⟩
      exact absurd (same.symm.trans start) (encode_ne_leading identifier rest)
    · refine ⟨fun plain => absurd ⟨_, leading⟩ plain, fun rest start => ?_⟩
      have both : "/" ++ identifier.encode = "/" ++ rest := leading.symm.trans start
      exact (String.append_right_inj "/").mp both
  · intro text form formed
    obtain ⟨identifier, decoded, rfl⟩ := (normalForm_eq_ok_iff _ _ _).mp formed
    exact (normalForm_eq_ok_iff _ _ _).mpr ⟨identifier, decode_encode_of_decode decoded, rfl⟩

/-- A token behind a separator names the same legacy identifier as the bare token, which is the
normal form of both. -/
theorem named_exactly_token :
    let identifier : Identifier := ⟨.empty, ⟨"doc123", by decide⟩⟩
    (Datum.int 1).truthy = true ∧
      decode (Datum.int 1).truthy (.text "/doc123") = .ok identifier ∧
      decode (Datum.int 1).truthy (.text "doc123") = .ok identifier ∧
      identifier.encode = "doc123" ∧
      normalForm (Datum.int 1).truthy "doc123" = .ok "doc123" := by
  intro identifier
  have exact := named_exactly (.int 1) (by decide)
  have leading : decode (Datum.int 1).truthy (.text "/doc123") = .ok identifier :=
    ((exact.1 identifier).2.1 rfl (by decide) _ (by simp)).mpr (.inr rfl)
  have formed : normalForm (Datum.int 1).truthy "/doc123" = .ok "doc123" :=
    (normalForm_eq_ok_iff _ _ _).mpr ⟨identifier, leading, rfl⟩
  exact ⟨by decide, leading, ((exact.1 identifier).2.1 rfl (by decide) _ (by simp)).mpr (.inl rfl),
    (exact.2.1 _ identifier leading).2 "doc123" rfl, exact.2.2 _ _ formed⟩

end Identifier

end Attachments
