import Attachments.Supplied.Settings.Boolean

/-!
Contract: the reader of answers to a yes-or-no question.

Owns:
- that exactly the built-in values which answer are read, each as its answer.

Does not own: objects, and how a value that does not answer is reported.
-/

namespace Attachments

namespace SettingsBoolean

/-- The small letters of a text, letter by letter. -/
theorem map_toLower_eq
    {text word : String}
    (lowered : text.toList.map Char.toLower = word.toList) :
    text.map Char.toLower = word := by
  rw [← String.toList_inj, String.toList_map, lowered]

theorem read_text_eq_ok_iff (text : String) (answer : Bool) :
    read (.text text) = .ok answer ↔ text.map Char.toLower ∈ words answer := by
  have disjoint : ∀ word ∈ yesWords, word ∉ noWords := by decide
  simp only [read, words]
  cases answer <;> grind

theorem readWhole_eq_ok_iff (value : Int) (answer : Bool) :
    readWhole value = .ok answer ↔ value = if answer then 1 else 0 := by
  unfold readWhole
  cases answer <;> grind

theorem read_int_eq_ok_iff (value : Int) (answer : Bool) :
    read (.int value) = .ok answer ↔ value = if answer then 1 else 0 := by
  rw [read]
  split
  next => exact readWhole_eq_ok_iff value answer
  next tooLong =>
    refine iff_of_false nofun fun same => tooLong ?_
    cases answer <;> simp [same]

/-- A fraction is zero or one if so many whole numbers are in its ticks, and nothing is left. -/
theorem read_real_eq_ok_iff (value : Numeral.Double) (answer : Bool) :
    read (.real value) = .ok answer ↔
      value.amount = if answer then (Numeral.wholeTicks 1 : Int) else 0 := by
  have positive : (0 : Int) < Numeral.wholeTicks 1 := by
    rw [Numeral.wholeTicks, Nat.one_mul]
    exact Int.ofNat_lt.mpr (Nat.two_pow_pos _)
  -- Only that there is at least one tick in a whole number matters.
  simp only [read]
  generalize (Numeral.wholeTicks 1 : Int) = tick at positive ⊢
  have notZero : tick ≠ 0 := Int.ne_of_gt positive
  have divided := Int.mul_ediv_add_emod value.amount tick
  split
  next whole =>
    rw [whole.1, Int.add_zero] at divided
    rw [readWhole_eq_ok_iff, ← divided, Int.mul_ediv_cancel_left _ notZero]
    cases answer with
    | false => exact (Int.mul_eq_zero.trans (or_iff_right notZero)).symm
    | true =>
      refine ⟨fun one => ?_, Int.eq_one_of_mul_eq_self_right notZero⟩
      rw [one]
      exact Int.mul_one tick
  next notWhole =>
    refine iff_of_false nofun fun same => notWhole ?_
    rw [same]
    cases answer <;> simp [Int.ediv_self notZero]

theorem readGiven_eq_ok_iff {value : GivenValue} (builtIn : value.IsBuiltIn) (answer : Bool) :
    readGiven value = .ok answer ↔ Answers value answer := by
  match value with
  | .torn _ => exact iff_of_false nofun nofun
  | .whole (.bool held) =>
    constructor
    · intro reading
      obtain rfl := Except.ok.inj reading
      exact .bool held
    · rintro ⟨⟩
      rfl
  | .whole (.text text) =>
    rw [readGiven, read_text_eq_ok_iff]
    exact ⟨.word, fun | .word known => known⟩
  | .whole (.int number) =>
    rw [readGiven, read_int_eq_ok_iff]
    constructor
    · rintro rfl
      exact .int answer
    · rintro ⟨⟩
      rfl
  | .whole (.real number) =>
    rw [readGiven, read_real_eq_ok_iff]
    exact ⟨.real, fun | .real same => same⟩
  | .whole (.object object) => exact absurd rfl (builtIn object)
  | .whole .null | .whole (.list _) | .whole (.tuple _) | .whole (.dict _) =>
    exact iff_of_false nofun nofun

end SettingsBoolean

end Attachments
