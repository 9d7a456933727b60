import Attachments.Proofs.Fields
import Attachments.Settings.Library
import Attachments.Settings.Reference

/-!
Contract: which names decide what a settings file gives to a variable.

Owns:
- the references of a value;
- sets of names that are closed: what their variables refer to belongs to them too;
- that two files which bind the names of such a set alike, in environments which hold the same under
  these names, give the same values to them, whatever else stands in the files.

Does not own: how the text of a file is divided into bindings.
-/

namespace Attachments

namespace SettingsFile

/-! ## References -/

/-- The references among at most `count` references and characters of a text. -/
def referencesWithin : (count : Nat) → Text.Points → List Reference
  | 0, _ => []
  | _, [] => []
  | count + 1, point :: rest =>
    match reference? (point :: rest) with
    | some (reference, after) => reference :: referencesWithin count after
    | none => referencesWithin count rest

/-- The references of a value. -/
def references (value : Text.Points) : List Reference :=
  referencesWithin value.length value

section Expansion

variable {environment otherEnvironment : Environment}
variable {above otherAbove : Fields Text.Points (Option Text.Points)}

theorem expandWithin_congr
    (count : Nat)
    {value : Text.Points}
    (same : ∀ reference ∈ referencesWithin count value,
      reference.text environment above = reference.text otherEnvironment otherAbove) :
    expandWithin environment above count value =
      expandWithin otherEnvironment otherAbove count value := by
  induction count generalizing value with
  | zero => rfl
  | succ count inductionHypothesis =>
    cases value with
    | nil => rfl
    | cons point rest =>
      rw [referencesWithin] at same
      rw [expandWithin, expandWithin]
      cases found : reference? (point :: rest) with
      | none =>
        rw [found] at same
        exact congrArg (point :: ·) (inductionHypothesis same)
      | some pair =>
        rw [found] at same
        obtain ⟨sameText, sameRest⟩ := List.forall_mem_cons.mp same
        exact congrArg₂ (· ++ ·) sameText (inductionHypothesis sameRest)

/-- A value reads the same wherever its references stand for the same. -/
theorem expand_congr
    {value : Text.Points}
    (same : ∀ reference ∈ references value,
      reference.text environment above = reference.text otherEnvironment otherAbove) :
    expand environment above value = expand otherEnvironment otherAbove value :=
  expandWithin_congr value.length same

end Expansion

/-! ## Bindings with their values -/

/-- The names of bindings with what they are bound to. Each value sees the bindings above it. -/
def boundFrom (environment : Environment) (above : Fields Text.Points (Option Text.Points)) :
    List SettingsBinding → List (Text.Points × Option Text.Points)
  | [] => []
  | binding :: rest =>
    let bound := binding.value?.map (expand environment above)
    (binding.name, bound) :: boundFrom environment (above.put binding.name bound) rest

/-- Writing binding after binding leaves what they are bound to, the last of one name counting. -/
theorem foldl_eq_ofPairs (environment : Environment) (lines : List SettingsBinding) :
    lines.foldl (fun (above : Fields Text.Points (Option Text.Points)) binding =>
        above.put binding.name (binding.value?.map (expand environment above))) [] =
      Fields.ofPairs (boundFrom environment [] lines) := by
  have written (above : Fields Text.Points (Option Text.Points)) :
      lines.foldl (fun above binding =>
          above.put binding.name (binding.value?.map (expand environment above))) above =
        above.putAll (boundFrom environment above lines) := by
    induction lines generalizing above with
    | nil => rfl
    | cons binding rest inductionHypothesis => exact inductionHypothesis _
  exact written []

/-! ## Closed sets of names -/

/-- Whatever the variables of a set of names refer to belongs to the set. -/
def Closed (related : Text.Points → Bool) (lines : List SettingsBinding) : Prop :=
  ∀ binding ∈ lines, related binding.name = true →
    ∀ value ∈ binding.value?, ∀ reference ∈ references value, related reference.name = true

instance (related : Text.Points → Bool) (lines : List SettingsBinding) :
    Decidable (Closed related lines) :=
  inferInstanceAs (Decidable (∀ binding ∈ lines, related binding.name = true →
    ∀ value ∈ binding.value?, ∀ reference ∈ references value, related reference.name = true))

/-- Bindings of other names do not matter to a closed set. -/
theorem closed_filter_iff (related : Text.Points → Bool) (lines : List SettingsBinding) :
    Closed related (lines.filter fun binding => related binding.name) ↔ Closed related lines := by
  constructor
  · intro closed binding member isRelated
    exact closed binding (List.mem_filter.mpr ⟨member, isRelated⟩) isRelated
  · intro closed binding member
    exact closed binding (List.mem_of_mem_filter member)

/-- Two environments hold the same under the names of a set. -/
def SameVariables (related : Text.Points → Bool) (environment other : Environment) : Prop :=
  ∀ name : String, related (Text.points name) = true → environment.get? name = other.get? name

theorem SameVariables.refl (related : Text.Points → Bool) (environment : Environment) :
    SameVariables related environment environment :=
  fun _ _ => rfl

/-- A variable of another name may be set. -/
theorem SameVariables.put
    {related : Text.Points → Bool}
    {environment other : Environment}
    (same : SameVariables related environment other)
    {name : String}
    (unrelated : related (Text.points name) = false)
    (text : String) :
    SameVariables related environment (other.put name text) := by
  intro asked isRelated
  have different : name ≠ asked := by
    rintro rfl
    exact Bool.false_ne_true (unrelated.symm.trans isRelated)
  rw [same asked isRelated, Fields.get?_put_other other text different]

section Unrelated

variable {related : Text.Points → Bool}
variable {environment otherEnvironment : Environment}
variable (sameVariables : SameVariables related environment otherEnvironment)
include sameVariables

/-- A reference to a name of the set stands for the same. -/
theorem text_eq_of_same
    {above otherAbove : Fields Text.Points (Option Text.Points)}
    (sameAbove : ∀ name, related name = true → above.get? name = otherAbove.get? name)
    {reference : Reference}
    (isRelated : related reference.name = true) :
    reference.text environment above = reference.text otherEnvironment otherAbove := by
  have sameVariable : (Text.CodePoint.whole? reference.name).bind environment.get? =
      (Text.CodePoint.whole? reference.name).bind otherEnvironment.get? := by
    cases whole : Text.CodePoint.whole? reference.name with
    | none => rfl
    | some name =>
      have isVariable : related (Text.points name) = true := by
        rw [Text.CodePoint.points_of_whole? whole]
        exact isRelated
      exact sameVariables name isVariable
  rw [Reference.text, Reference.text, sameAbove _ isRelated, sameVariable]

/-- Bindings of other names leave no trace in what the names of a closed set are bound to. -/
theorem filter_boundFrom
    {lines : List SettingsBinding}
    (closed : Closed related lines)
    {above otherAbove : Fields Text.Points (Option Text.Points)}
    (sameAbove : ∀ name, related name = true → above.get? name = otherAbove.get? name) :
    (boundFrom environment above lines).filter (fun pair => related pair.1) =
      boundFrom otherEnvironment otherAbove
        (lines.filter fun binding => related binding.name) := by
  -- Both walks go on with what is bound above; the sets above agree on the names of the set.
  induction lines generalizing above otherAbove with
  | nil => rfl
  | cons binding rest inductionHypothesis =>
    obtain ⟨closedHere, closedRest⟩ := List.forall_mem_cons.mp closed
    cases isRelated : related binding.name with
    | false =>
      have sameAfter (name : Text.Points) (nameRelated : related name = true) :
          (above.put binding.name (binding.value?.map (expand environment above))).get? name =
            otherAbove.get? name := by
        have different : binding.name ≠ name := by
          rintro rfl
          exact Bool.false_ne_true (isRelated.symm.trans nameRelated)
        rw [Fields.get?_put_other above _ different, sameAbove name nameRelated]
      rw [boundFrom, List.filter_cons_of_neg (by simp [isRelated]),
        List.filter_cons_of_neg (by simp [isRelated])]
      exact inductionHypothesis closedRest sameAfter
    | true =>
      have sameValue : binding.value?.map (expand environment above) =
          binding.value?.map (expand otherEnvironment otherAbove) := by
        cases given : binding.value? with
        | none => rfl
        | some value =>
          have sameTexts := fun reference member =>
            text_eq_of_same sameVariables sameAbove
              (closedHere isRelated value given reference member)
          exact congrArg some (expand_congr sameTexts)
      have sameAfter (name : Text.Points) (nameRelated : related name = true) :
          (above.put binding.name (binding.value?.map (expand environment above))).get? name =
            (otherAbove.put binding.name
              (binding.value?.map (expand otherEnvironment otherAbove))).get? name := by
        rw [Fields.get?_put, Fields.get?_put, sameValue, sameAbove name nameRelated]
      rw [boundFrom, List.filter_cons_of_pos (by simp [isRelated]),
        List.filter_cons_of_pos (by simp [isRelated]), boundFrom, sameValue]
      rw [sameValue] at sameAfter
      rw [inductionHypothesis closedRest sameAfter]

end Unrelated

end SettingsFile

end Attachments
