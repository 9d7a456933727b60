import Attachments.Identifier.Operand
import Attachments.Proofs.Identifier.Decoding

/-!
Contract: the encoded form of an identifier, read back and compared.

Owns:
- the encoded form with and without a domain, and the components of an identifier made of texts;
- what comes of reading the encoded form under either policy;
- that equality, the encoded form and the size of a set tell the same identifiers apart.

Does not own: other texts that name an identifier, and order.
-/

namespace Attachments

namespace Identifier

/-! ## Encoded forms -/

theorem eq_of_parts {left right : Identifier}
    (domains : left.domain.val = right.domain.val) (ids : left.id.val = right.id.val) :
    left = right := by
  obtain ⟨domain, id⟩ := left
  obtain ⟨otherDomain, otherId⟩ := right
  rw [Identifier.mk.injEq]
  exact ⟨Subtype.ext domains, Subtype.ext ids⟩

theorem encode_of_noDomain {identifier : Identifier} (noDomain : identifier.domain.val = "") :
    identifier.encode = identifier.id.val := by
  simp [encode, isLegacy, noDomain]

theorem encode_of_domain {identifier : Identifier} (someDomain : identifier.domain.val ≠ "") :
    identifier.encode = paired identifier.domain identifier.id := by
  simp [encode, isLegacy, someDomain, paired]

/-- The separator stands in the encoded form exactly if there is a domain. -/
theorem count_encode (identifier : Identifier) :
    identifier.encode.toList.count separator = if identifier.domain.val = "" then 0 else 1 := by
  by_cases noDomain : identifier.domain.val = ""
  · rw [encode_of_noDomain noDomain, count_component, if_pos noDomain]
  · rw [encode_of_domain noDomain, count_paired, if_neg noDomain]

/-- Identifiers with the same encoded form agree on whether there is a domain, because a bare id
holds no separator. -/
theorem noDomain_of_encode_eq
    {left right : Identifier}
    (same : left.encode = right.encode)
    (noDomain : left.domain.val = "") :
    right.domain.val = "" := by
  have counted := count_encode left
  rw [same, count_encode right, if_pos noDomain] at counted
  by_cases noOther : right.domain.val = ""
  · exact noOther
  · rw [if_neg noOther] at counted
    contradiction

/-- Different identifiers have different encoded forms. -/
theorem encode_injective : Function.Injective encode := by
  intro left right same
  by_cases noDomain : left.domain.val = ""
  · have noOther : right.domain.val = "" := noDomain_of_encode_eq same noDomain
    rw [encode_of_noDomain noDomain, encode_of_noDomain noOther] at same
    exact eq_of_parts (noDomain.trans noOther.symm) same
  · have someOther : right.domain.val ≠ "" := fun noOther =>
      noDomain (noDomain_of_encode_eq same.symm noOther)
    rw [encode_of_domain noDomain, encode_of_domain someOther] at same
    obtain ⟨domains, ids⟩ := paired_inj same
    exact eq_of_parts (congrArg Subtype.val domains) (congrArg Subtype.val ids)

theorem parts_of_ofComponents
    {domain id : String}
    {identifier : Identifier}
    (made : ofComponents (.text domain) (.text id) = .ok identifier) :
    identifier.domain.val = domain ∧ identifier.id.val = id := by
  by_cases inDomain : separator ∈ domain.toList
  · simp [ofComponents, Datum.isNull, screen, inDomain, bind, Except.bind] at made
  · by_cases inId : separator ∈ id.toList
    · simp [ofComponents, Datum.isNull, screen, inDomain, inId, bind, Except.bind] at made
    · rw [ofComponents_text ⟨domain, inDomain⟩ ⟨id, inId⟩] at made
      cases made
      exact ⟨rfl, rfl⟩

/-! ## Reading the encoded form -/

/-- The encoded form is read back if there is a domain, or if the policy allows a legacy identifier
whose id holds something. -/
theorem decode_encode (allowLegacy : Bool) (identifier : Identifier) :
    decode allowLegacy (.text identifier.encode) =
      if identifier.domain.val ≠ "" ∨ (identifier.id.val ≠ "" ∧ allowLegacy = true) then
        .ok identifier
      else .error (malformed (.text identifier.encode)) := by
  obtain ⟨domain, id⟩ := identifier
  by_cases noDomain : domain.val = ""
  · obtain rfl : domain = .empty := Subtype.ext noDomain
    rw [encode_of_noDomain noDomain, decode_token]
    simp [noDomain]
  · rw [encode_of_domain noDomain, decode_pair]
    simp [noDomain]

/-- The encoded form of an identifier that was made of two texts gives it back under every policy
if there is a domain, even where the id is empty. Without a domain it depends on the policy, and
with nothing at all the empty encoded form is refused. -/
theorem decode_encode_ofComponents
    (domain id : String)
    (identifier : Identifier)
    (made : ofComponents (.text domain) (.text id) = .ok identifier)
    (policy : Datum) :
    (identifier.domain.val = domain ∧ identifier.id.val = id) ∧
    (domain ≠ "" → decode policy.truthy (.text identifier.encode) = .ok identifier) ∧
    (domain = "" → id ≠ "" → policy.truthy = true →
      decode policy.truthy (.text identifier.encode) = .ok identifier) ∧
    (domain = "" → id ≠ "" → policy.truthy = false →
      decode policy.truthy (.text identifier.encode) =
        .error (.rejected (.malformed (.text id) .standard))) ∧
    (domain = "" → id = "" →
      decode policy.truthy (.text identifier.encode) =
        .error (.rejected (.malformed (.text "") .standard))) := by
  obtain ⟨rfl, rfl⟩ := parts_of_ofComponents made
  rw [decode_encode]
  refine ⟨⟨rfl, rfl⟩, ?_, ?_, ?_, ?_⟩
  · intro someDomain
    rw [if_pos (.inl someDomain)]
  · intro noDomain someId allows
    rw [if_pos (.inr ⟨someId, allows⟩)]
  · intro noDomain someId forbids
    rw [if_neg (by simp [noDomain, forbids]), encode_of_noDomain noDomain, malformed_text]
  · intro noDomain noId
    rw [if_neg (by simp [noDomain, noId]), encode_of_noDomain noDomain, noId, malformed_text]

/-- The encoded form of a domain with an empty id ends with the separator, and is read even where
legacy identifiers are not. -/
theorem decode_encode_ofComponents_trailing :
    let identifier : Identifier := ⟨⟨"example.com", by decide⟩, .empty⟩
    ofComponents (.text "example.com") (.text "") = .ok identifier ∧
      identifier.encode = "example.com/" ∧
      decode (Datum.null).truthy (.text identifier.encode) = .ok identifier := by
  intro identifier
  have made : ofComponents (.text "example.com") (.text "") = .ok identifier :=
    ofComponents_text identifier.domain .empty
  exact ⟨made, rfl,
    (decode_encode_ofComponents "example.com" "" identifier made .null).2.1 (by decide)⟩

/-! ## Equality -/

/-- Identifiers can be keys, so two of them make a set. -/
theorem distinctCount_named (left right : Identifier) :
    Operand.distinctCount (.named left) (.named right) =
      .ok (if left = right then 1 else 2) := by
  simp [Operand.distinctCount, Operand.checkKey, Operand.same, bind, Except.bind]

/-- Two identifiers are equal, have the same encoded form, and make a set of one element, all
exactly if their domains and their ids are the same. -/
theorem same_iff_encode_eq (left right : Identifier) :
    ((Operand.named left).same (.named right) = true ↔ left.encode = right.encode) ∧
    (Operand.distinctCount (.named left) (.named right) = .ok 1 ↔
      left.encode = right.encode) ∧
    (left.encode = right.encode ↔
      left.domain.val = right.domain.val ∧ left.id.val = right.id.val) := by
  have encoded : left.encode = right.encode ↔ left = right :=
    ⟨fun same => encode_injective same, congrArg encode⟩
  rw [encoded, distinctCount_named]
  refine ⟨by simp [Operand.same], ?_, ?_⟩
  · by_cases same : left = right
    · simp [same]
    · simp [same]
  · constructor
    · rintro rfl
      exact ⟨rfl, rfl⟩
    · rintro ⟨domains, ids⟩
      exact eq_of_parts domains ids

end Identifier

end Attachments
