import Attachments.Identifier.Operand

/-!
Contract: the order of identifiers as a strict total order.

Owns:
- the order of texts by the numbers of their code points;
- that of two identifiers either one is before the other or both are equal, and never two of
  these at once;
- the four relations and the three-way comparison, all told by the one strict order.

Does not own: lists of identifiers, and comparison with plain values.
-/

namespace Attachments

/-! ## Texts -/

def codeNumbers (text : String) : List Nat :=
  text.toList.map Char.toNat

theorem codeNumbers_lt_of_lt {left right : String} (less : left < right) :
    codeNumbers left < codeNumbers right :=
  List.map_lt (fun _ _ lessCharacter => lessCharacter) (String.lt_iff.mp less)

/-- Texts are ordered like the numbers of their code points. -/
theorem lt_iff_codeNumbers_lt (left right : String) :
    left < right ↔ codeNumbers left < codeNumbers right := by
  constructor
  · exact codeNumbers_lt_of_lt
  · intro less
    rcases Std.lt_trichotomy left right with before | same | behind
    · exact before
    · rw [same] at less
      exact absurd less (List.lt_irrefl _)
    · exact absurd less (List.lt_asymm (codeNumbers_lt_of_lt behind))

namespace Identifier

/-! ## The strict order -/

theorem lt_irrefl (identifier : Identifier) : ¬ identifier < identifier := by
  rintro (lessDomain | ⟨-, lessId⟩)
  · exact String.lt_irrefl _ lessDomain
  · exact String.lt_irrefl _ lessId

theorem lt_trans {first second third : Identifier}
    (lower : first < second) (upper : second < third) : first < third := by
  rcases lower with lowerDomain | ⟨sameLower, lowerId⟩
  · rcases upper with upperDomain | ⟨sameUpper, -⟩
    · exact .inl (String.lt_trans lowerDomain upperDomain)
    · exact .inl (sameUpper ▸ lowerDomain)
  · rcases upper with upperDomain | ⟨sameUpper, upperId⟩
    · exact .inl (sameLower ▸ upperDomain)
    · exact .inr ⟨sameLower.trans sameUpper, String.lt_trans lowerId upperId⟩

theorem lt_asymm {left right : Identifier} (before : left < right) : ¬ right < left :=
  fun behind => lt_irrefl left (lt_trans before behind)

theorem lt_trichotomy (left right : Identifier) : left < right ∨ left = right ∨ right < left := by
  obtain ⟨domain, id⟩ := left
  obtain ⟨otherDomain, otherId⟩ := right
  rcases Std.lt_trichotomy domain.val otherDomain.val with less | sameDomain | greater
  · exact .inl (.inl less)
  -- Equal domains leave the decision to the ids.
  · obtain rfl : domain = otherDomain := Subtype.ext sameDomain
    rcases Std.lt_trichotomy id.val otherId.val with less | sameId | greater
    · exact .inl (.inr ⟨rfl, less⟩)
    · exact .inr (.inl (congrArg _ (Subtype.ext sameId)))
    · exact .inr (.inr (.inr ⟨rfl, greater⟩))
  · exact .inr (.inr (.inl greater))

/-- How two identifiers stand to each other: exactly one of before, equal and behind. -/
theorem standing (left right : Identifier) :
    (left < right ∧ left ≠ right ∧ ¬ right < left) ∨
      (¬ left < right ∧ left = right ∧ ¬ right < left) ∨
      (¬ left < right ∧ left ≠ right ∧ right < left) := by
  rcases lt_trichotomy left right with before | same | behind
  · refine .inl ⟨before, ?_, lt_asymm before⟩
    rintro rfl
    exact lt_irrefl left before
  · subst same
    exact .inr (.inl ⟨lt_irrefl left, rfl, lt_irrefl left⟩)
  · refine .inr (.inr ⟨lt_asymm behind, ?_, behind⟩)
    rintro rfl
    exact lt_irrefl left behind

/-! ## Relations and the three-way comparison -/

/-- Every relation between identifiers is answered, and by the strict order alone. -/
theorem relate_named (left right : Identifier) :
    (Operand.named left).relate .less (.named right) = .ok (decide (left < right)) ∧
    (Operand.named left).relate .atMost (.named right) =
      .ok (decide (left < right ∨ left = right)) ∧
    (Operand.named left).relate .greater (.named right) = .ok (decide (right < left)) ∧
    (Operand.named left).relate .atLeast (.named right) =
      .ok (decide (right < left ∨ left = right)) := by
  simp only [Operand.relate, ordering]
  rcases standing left right with ⟨before, different, notBehind⟩ | ⟨notBefore, same, notBehind⟩ |
    ⟨notBefore, different, behind⟩
  · simp [before, different, notBehind, Relation.holds]
  · simp [same, lt_irrefl, Relation.holds]
  · simp [notBefore, different, behind, Relation.holds]

/-- The three-way comparison is turned around with its arguments. -/
theorem compareTo_swap (left right : Identifier) :
    left.compareTo right = -right.compareTo left := by
  unfold compareTo
  rcases standing left right with ⟨before, different, notBehind⟩ | ⟨-, same, -⟩ |
    ⟨notBefore, different, behind⟩
  · simp [before, different, different.symm, notBehind]
  · simp [same]
  · simp [notBefore, different, different.symm, behind]

/-- What the three-way comparison tells. -/
theorem compareTo_tells (left right : Identifier) :
    (left.compareTo right = -1 ∨ left.compareTo right = 0 ∨ left.compareTo right = 1) ∧
      (left.compareTo right = 0 ↔ left = right) ∧
      (left.compareTo right < 0 ↔ left < right) := by
  unfold compareTo
  rcases standing left right with ⟨before, different, -⟩ | ⟨notBefore, same, -⟩ |
    ⟨notBefore, different, -⟩
  · simp [before, different]
  · simp [same, lt_irrefl]
  · simp [notBefore, different]

/-- Identifiers stand in a strict total order that agrees with equality. Of two identifiers exactly
one is before the other or both are equal, and the order is transitive. The four relations follow
from it and never fail. The three-way comparison gives -1, 0 or 1, is turned around with its
arguments, is zero exactly for equal identifiers, and negative exactly if the first is before the
second. The order is by the code points of the domain, and of the id where the domains are equal. -/
theorem strict_total_order (first second third : Identifier) :
    ((first < second ∧ first ≠ second ∧ ¬ second < first) ∨
      (¬ first < second ∧ first = second ∧ ¬ second < first) ∨
      (¬ first < second ∧ first ≠ second ∧ second < first)) ∧
    (first < second → second < third → first < third) ∧
    (Operand.named first).same (.named second) = decide (first = second) ∧
    ((Operand.named first).relate .less (.named second) = .ok (decide (first < second)) ∧
      (Operand.named first).relate .atMost (.named second) =
        .ok (decide (first < second ∨ first = second)) ∧
      (Operand.named first).relate .greater (.named second) = .ok (decide (second < first)) ∧
      (Operand.named first).relate .atLeast (.named second) =
        .ok (decide (second < first ∨ first = second))) ∧
    (∃ number : Int,
      (Operand.named first).compareTo (.named second) = .ok number ∧
      (Operand.named second).compareTo (.named first) = .ok (-number) ∧
      (number = -1 ∨ number = 0 ∨ number = 1) ∧
      (number = 0 ↔ first = second) ∧
      (number < 0 ↔ first < second)) ∧
    (first < second ↔
      codeNumbers first.domain.val < codeNumbers second.domain.val ∨
        (first.domain.val = second.domain.val ∧
          codeNumbers first.id.val < codeNumbers second.id.val)) := by
  refine ⟨standing first second, lt_trans, rfl, relate_named first second,
    ⟨first.compareTo second, rfl, ?_, compareTo_tells first second⟩, ?_⟩
  · rw [← compareTo_swap]
    rfl
  · rw [← lt_iff_codeNumbers_lt, ← lt_iff_codeNumbers_lt]
    rfl

end Identifier

end Attachments
