import Attachments.Proofs.Event.SensitiveNames
import Attachments.Proofs.Text.Case

/-!
Contract: sensitive names written in another case, or within a name space.

Owns:
- that the case of ASCII letters does not change whether a name is sensitive;
- that a sensitive name stays sensitive behind an underscore, whatever stands in front of it.

Does not own: the rule for sensitive names.
-/

namespace Attachments

namespace Redaction

theorem isSensitive_eq_of_sameLetters
    {name other : String}
    (same : Text.SameLetters name.toList other.toList) :
    isSensitive other = isSensitive name := by
  rw [isSensitive, isSensitive, same.lowerCase_eq]

/-- An underscore is no letter, so what stands around it is lowered apart. -/
theorem lowerCase_spaced (space name : List Char) :
    Text.lowerCase (space ++ '_' :: name) =
      Text.lowerCase space ++ '_' :: Text.lowerCase name := by
  have isParting : Text.IsParting '_' := by decide +kernel
  have itself : Text.lowerOf '_' = ['_'] := by decide +kernel
  rw [isParting.lowerCase_parted, itself, List.append_assoc, List.singleton_append]

/-- Whichever of its parts makes a name in small letters sensitive does so within a name space
too. -/
theorem isSensitiveLower_spaced
    (space : List Char)
    {name : List Char}
    (sensitive : isSensitiveLower name = true) :
    isSensitiveLower (space ++ '_' :: name) = true := by
  have whole : name <:+ space ++ '_' :: name :=
    (List.suffix_cons '_' name).trans (List.suffix_append ..)
  rw [isSensitiveLower_iff] at sensitive ⊢
  rcases sensitive with
    ⟨known, isKnown, rfl⟩ | ⟨part, isPart, holds⟩ | ⟨known, isKnown, ends⟩
  · exact .inr (.inr ⟨known, isKnown, List.suffix_append ..⟩)
  · exact .inr (.inl ⟨part, isPart, holds.trans whole.isInfix⟩)
  · exact .inr (.inr ⟨known, isKnown, ends.trans whole⟩)

/-- Whether a name is sensitive depends neither on the case of its ASCII letters nor, if it is, on
the name space in which it stands. -/
theorem sensitive_in_any_case_and_space :
    (∀ name other : String, Text.SameLetters name.toList other.toList →
        isSensitive other = isSensitive name) ∧
      ∀ space name : String,
        isSensitive name = true → isSensitive (space ++ "_" ++ name) = true := by
  constructor
  · intro name other same
    exact isSensitive_eq_of_sameLetters same
  · intro space name sensitive
    have spaced : (space ++ "_" ++ name).toList = space.toList ++ '_' :: name.toList := by
      rw [String.toList_append, String.toList_append, List.append_assoc]
      rfl
    rw [isSensitive] at sensitive
    rw [isSensitive, spaced, lowerCase_spaced]
    exact isSensitiveLower_spaced _ sensitive

/-- A name space that ends in a capital sigma is lowered by its place, and one with a dotted capital
I is longer in small letters. -/
theorem sensitive_in_any_case_and_space_greek :
    (Text.SameLetters "Api_KEY".toList "aPI_key".toList ∧
        isSensitive "aPI_key" = isSensitive "Api_KEY") ∧
      isSensitive "Bearer" = true ∧ isSensitive ("İΟΔΟΣ" ++ "_" ++ "Bearer") = true := by
  have same : Text.SameLetters "Api_KEY".toList "aPI_key".toList := by decide
  have sensitive : isSensitive "Bearer" = true := by decide +kernel
  exact ⟨⟨same, sensitive_in_any_case_and_space.1 _ _ same⟩, sensitive,
    sensitive_in_any_case_and_space.2 _ _ sensitive⟩

end Redaction

end Attachments
