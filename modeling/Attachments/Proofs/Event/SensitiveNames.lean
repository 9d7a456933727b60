import Attachments.Proofs.Event.Masking
import Attachments.Proofs.Event.Redaction
import Mathlib.Data.List.Infix

/-!
Contract: which names are sensitive, told by the parts of a name.

Owns:
- the rule for sensitive names: a name is one, holds a telling part or ends with one;
- glued names, which end with a sensitive name right behind a character other than an underscore;
- that the mask follows the rule for all names that are not glued, and leaves the values of glued
  ones open.

Does not own: values inside values.
-/

namespace Attachments

namespace Text

theorem holds_iff_infix (part text : List Char) : holds part text = true ↔ part <:+: text := by
  induction text with
  | nil => rw [holds, List.isEmpty_iff, List.infix_nil]
  | cons character rest inductionHypothesis =>
    rw [holds, Bool.or_eq_true, List.isPrefixOf_iff_prefix, inductionHypothesis,
      List.infix_cons_iff]

theorem endsWith_iff_suffix (part text : List Char) : endsWith part text = true ↔ part <:+ text :=
  List.isSuffixOf_iff_suffix

end Text

namespace Redaction

/-! ## The rule -/

/-- The rule for a name in small letters: it is a sensitive name, holds a telling part, or ends with
a sensitive name. -/
def FollowsRule (name : List Char) : Prop :=
  (∃ known ∈ sensitiveNames, name = known.toList) ∨
    (∃ part ∈ tellingParts, part.toList <:+: name) ∨
      ∃ known ∈ sensitiveNames, known.toList <:+ name

/-- Nothing but its end makes a name in small letters sensitive, and there a sensitive name stands
right behind a character other than an underscore. -/
def IsGlued (name : List Char) : Prop :=
  (∀ part ∈ tellingParts, ¬ part.toList <:+: name) ∧
    ∃ known ∈ sensitiveNames,
      known.toList <:+ name ∧ name ≠ known.toList ∧ ¬ '_' :: known.toList <:+ name

instance (name : List Char) : Decidable (FollowsRule name) :=
  inferInstanceAs (Decidable ((∃ known ∈ sensitiveNames, name = known.toList) ∨
    (∃ part ∈ tellingParts, part.toList <:+: name) ∨
      ∃ known ∈ sensitiveNames, known.toList <:+ name))

instance (name : List Char) : Decidable (IsGlued name) :=
  inferInstanceAs (Decidable ((∀ part ∈ tellingParts, ¬ part.toList <:+: name) ∧
    ∃ known ∈ sensitiveNames,
      known.toList <:+ name ∧ name ≠ known.toList ∧ ¬ '_' :: known.toList <:+ name))

/-! ## Ends of names -/

/-- No sensitive name ends with another one. -/
theorem eq_of_suffix_of_sensitive :
    ∀ known ∈ sensitiveNames, ∀ other ∈ sensitiveNames,
      known.toList <:+ other.toList → known = other := by
  decide

theorem eq_of_suffix_suffix
    {name : List Char}
    {known other : String}
    (isKnown : known ∈ sensitiveNames)
    (isOther : other ∈ sensitiveNames)
    (ends : known.toList <:+ name)
    (endsToo : other.toList <:+ name) :
    known = other := by
  rcases List.suffix_or_suffix_of_suffix ends endsToo with shorter | longer
  · exact eq_of_suffix_of_sensitive known isKnown other isOther shorter
  · exact (eq_of_suffix_of_sensitive other isOther known isKnown longer).symm

theorem isSensitiveLower_iff (name : List Char) :
    isSensitiveLower name = true ↔
      (∃ known ∈ sensitiveNames, name = known.toList) ∨
        (∃ part ∈ tellingParts, part.toList <:+: name) ∨
          ∃ known ∈ sensitiveNames, '_' :: known.toList <:+ name := by
  simp only [isSensitiveLower, Bool.or_eq_true, List.any_eq_true, beq_iff_eq, Text.holds_iff_infix,
    Text.endsWith_iff_suffix, or_assoc]

/-- A name is sensitive if the rule says so and it is not glued. -/
theorem isSensitiveLower_iff_followsRule (name : List Char) :
    isSensitiveLower name = true ↔ FollowsRule name ∧ ¬ IsGlued name := by
  rw [isSensitiveLower_iff]
  constructor
  · rintro (⟨known, isKnown, rfl⟩ | ⟨part, isPart, holds⟩ | ⟨known, isKnown, ends⟩)
    · refine ⟨.inl ⟨known, isKnown, rfl⟩, ?_⟩
      rintro ⟨-, other, isOther, endsToo, different, -⟩
      exact different (congrArg String.toList
        (eq_of_suffix_of_sensitive other isOther known isKnown endsToo).symm)
    · refine ⟨.inr (.inl ⟨part, isPart, holds⟩), ?_⟩
      rintro ⟨noPart, -⟩
      exact noPart part isPart holds
    · have endsWithKnown := (List.suffix_cons '_' known.toList).trans ends
      refine ⟨.inr (.inr ⟨known, isKnown, endsWithKnown⟩), ?_⟩
      rintro ⟨-, other, isOther, endsToo, -, notApart⟩
      rw [eq_of_suffix_suffix isOther isKnown endsToo endsWithKnown] at notApart
      exact notApart ends
  · rintro ⟨isName | holds | ⟨known, isKnown, ends⟩, notGlued⟩
    · exact .inl isName
    · exact .inr (.inl holds)
    · by_contra none
      push Not at none
      obtain ⟨noName, noPart, notApart⟩ := none
      exact notGlued ⟨noPart, known, isKnown, ends, noName known isKnown, notApart known isKnown⟩

/-! ## Masked records -/

/-- A value as the mask leaves it if it goes by the rule and lets values under glued names stand. -/
def ruledValue {Value : Type} (mark : Value) (field : String × Value) : Value :=
  let name := Text.lowerCase field.1.toList
  if FollowsRule name ∧ ¬ IsGlued name then mark else field.2

theorem ruledValue_eq {Value : Type} (mark : Value) (field : String × Value) :
    ruledValue mark field = if isSensitive field.1 then mark else field.2 := by
  have judged := isSensitiveLower_iff_followsRule (Text.lowerCase field.1.toList)
  simp only [ruledValue, isSensitive, judged]

/-- A mask of texts as keys is the mask of the texts. -/
theorem mask_rename {Name Other Value : Type}
    (sensitive? : Other → Except Fault Bool)
    (mark : Value)
    (change : Name → Other)
    (fields : Fields Name Value) :
    mask sensitive? mark (fields.rename change) =
      ((mask (fun name => sensitive? (change name)) mark fields).1,
        Fields.rename change (mask (fun name => sensitive? (change name)) mark fields).2) := by
  induction fields with
  | nil => rfl
  | cons field rest inductionHypothesis =>
    obtain ⟨name, value⟩ := field
    rw [Fields.rename, List.map_cons, ← Fields.rename, mask, mask, inductionHypothesis]
    cases sensitive? (change name) <;> rfl

/-- A record whose keys are distinct texts is a dictionary. -/
theorem isDictionary_rename {Value : Type} {fields : Fields String Value}
    (distinct : Fields.Distinct fields) :
    IsDictionary (fields.rename .text) := by
  rw [IsDictionary, Fields.rename, List.pairwise_map]
  refine (List.pairwise_map.mp distinct).imp fun different => ?_
  rw [← Bool.not_eq_true, Datum.beq_text_iff]
  exact fun same => different (Datum.text.inj same)

/-- The mask writes the marker exactly over the values whose names follow the rule, glued names
apart: over those of a record whose keys are texts, without a fault, so that a pass over it in its
place hands on its address and leaves these values under the same keys; and over those of an
event. -/
theorem masked_by_rule (record : Fields String Datum) (event : Event) :
    let ruled : Fields String Datum :=
      record.map fun field => (field.1, ruledValue (.text marker) field)
    mask isSensitiveKey (.text marker) (record.rename .text) = (none, ruled.rename .text) ∧
      (∀ (records : Records Datum) (address : Nat),
        Fields.Distinct record → records[address]? = some (record.rename .text) →
          process (.text marker) records address =
            (.ok address, records.set address (ruled.rename .text))) ∧
      event.redacted = event.map fun field => (field.1, ruledValue (.ofText marker) field) := by
  intro ruled
  have judged (name : String) : isSensitiveKey (.text name) = .ok (isSensitive name) := rfl
  have masked : mask isSensitiveKey (.text marker) (record.rename .text) =
      (none, ruled.rename .text) := by
    simp only [mask_rename, judged, mask_of_judged, ruled, ruledValue_eq]
  refine ⟨masked, fun records address distinct held => ?_, ?_⟩
  · rw [process_eq held (isDictionary_rename distinct), masked]
  · simp only [Event.redacted_eq_map, Event.shownValue, ruledValue_eq]

/-- A sensitive name, a glued one and an open one, in the only record. -/
theorem masked_by_rule_client :
    let record : Fields String Datum :=
      [("access_token", .text "t"), ("clientSecret", .text "s"), ("user", .text "u")]
    Fields.Distinct record ∧
      process (.text marker) [record.rename .text] 0 =
        (.ok 0, [Fields.rename .text
          [("access_token", .text marker), ("clientSecret", .text "s"), ("user", .text "u")]]) := by
  intro record
  have distinct : Fields.Distinct record := by decide
  exact ⟨distinct, (masked_by_rule record []).2.1 [record.rename .text] 0 distinct rfl⟩

/-- A glued name follows the rule, but its value stays open. -/
theorem glued_name_stays_open :
    let record : Fields Datum Datum := [(.text "clientSecret", .text "s")]
    FollowsRule (Text.lowerCase "clientSecret".toList) ∧
      process (.text marker) [record] 0 = (.ok 0, [record]) := by
  constructor
  · decide
  · rfl

end Redaction

end Attachments
