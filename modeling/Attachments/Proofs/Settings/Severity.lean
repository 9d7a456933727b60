import Attachments.Proofs.Json.Numbers
import Attachments.Proofs.Settings.Documented
import Attachments.Proofs.Text.Case

/-!
Contract: which values stand for a severity.

Owns:
- the texts that spell the name of a severity, and the number that stands under it;
- that of the built-in values exactly these texts are read as a severity, and of other objects
  those that are written as the name itself;
- what is wrong with every other value.

Does not own: where values are given.
-/

namespace Attachments

namespace Level

/-- A text spells the name of a severity: every letter stands in either case, and an I may stand as
a small letter without a dot. -/
def IsSpelledBy (level : Level) (text : String) : Prop :=
  List.Forall₂ Text.WrittenFor level.name.toList text.toList

theorem spelledByLetter_name (level : Level) : Text.SpelledByLetter level.name.toList := by
  constructor
  · cases level <;> decide
  · cases level <;> decide +kernel

theorem upper_eq_name_iff (level : Level) (text : String) :
    Text.upper text = level.name ↔ level.IsSpelledBy text := by
  rw [IsSpelledBy, ← (spelledByLetter_name level).upperCase_eq_iff, Text.upper,
    ← String.toList_inj, String.toList_ofList]

theorem ofName?_eq_some_iff (text : String) (level : Level) :
    ofName? text = some level ↔ text = level.name := by
  constructor
  · exact fun found => (name_of_ofName? found).symm
  · rintro rfl
    exact ofName?_name level

/-- Under the name of a severity its own number stands. -/
theorem numberNamed?_name (level : Level) : numberNamed? level.name = some level.number := by
  rw [numberNamed?, ofName?_name]
  rfl

theorem isSome_ofName?_iff (text : String) :
    (ofName? text).isSome = true ↔ ∃ level : Level, text = level.name := by
  simp only [Option.isSome_iff_exists, ofName?_eq_some_iff]

end Level

namespace LogSettings

/-! ## Written forms -/

/-- The characters with which the names of severities start. -/
def initials : List Char :=
  ['D', 'I', 'W', 'E', 'C']

theorem mem_initials_of_name
    {level : Level}
    {first : Char}
    {rest : List Char}
    (spelled : level.name.toList = first :: rest) :
    first ∈ initials := by
  have leads : level.name.toList.head?.all (· ∈ initials) = true := by
    cases level <;> decide
  rw [spelled] at leads
  exact of_decide_eq_true leads

theorem not_mem_initials_of_leadsNumber {first : Char} (leads : Json.LeadsNumber first) :
    first ∉ initials := by
  intro member
  have noLead : initials.all (fun letter => letter != '-' && !letter.isDigit) = true := by decide
  have noNumber := List.all_eq_true.mp noLead first member
  rw [Bool.and_eq_true, bne_iff_ne, Bool.not_eq_true'] at noNumber
  rcases leads with rfl | isDigit
  · exact noNumber.1 rfl
  · rw [noNumber.2] at isDigit
    contradiction

/-- The literal form of a built-in value that is no text starts like no name of a severity. -/
theorem literal_eq_cons
    {value : Datum}
    (noText : value.kind ≠ .text)
    (builtIn : ∀ object, value ≠ .object object) :
    ∃ first rest, value.literal.toList = first :: rest ∧ first ∉ initials := by
  cases value with
  | null => exact ⟨'N', "one".toList, rfl, by decide⟩
  | bool value =>
    cases value with
    | false => exact ⟨'F', "alse".toList, rfl, by decide⟩
    | true => exact ⟨'T', "rue".toList, rfl, by decide⟩
  | int value =>
    obtain ⟨first, rest, spelled, leads⟩ := Json.int_eq_cons value
    exact ⟨first, rest, spelled, not_mem_initials_of_leadsNumber leads⟩
  | real value =>
    obtain ⟨first, rest, spelled, leads⟩ := Json.real_eq_cons value
    exact ⟨first, rest, spelled, not_mem_initials_of_leadsNumber leads⟩
  | text value => exact absurd rfl noText
  | list items =>
    rw [Datum.literal, String.toList_append, String.toList_append]
    exact ⟨'[', _, rfl, by decide⟩
  | tuple items =>
    rw [Datum.literal]
    unfold Datum.tupleLiteral
    split
    all_goals
      rw [String.toList_append, String.toList_append]
      exact ⟨'(', _, rfl, by decide⟩
  | dict entries =>
    rw [Datum.literal, String.toList_append, String.toList_append]
    exact ⟨'\x7b', _, rfl, by decide⟩
  | object value => exact absurd rfl (builtIn value)

/-- No built-in value but a text has the name of a severity for its literal form. -/
theorem literal_ne_name
    {value : Datum}
    (noText : value.kind ≠ .text)
    (builtIn : ∀ object, value ≠ .object object)
    (level : Level) :
    value.literal ≠ level.name := by
  intro same
  obtain ⟨first, rest, spelled, noInitial⟩ := literal_eq_cons noText builtIn
  rw [same] at spelled
  exact noInitial (mem_initials_of_name spelled)

/-! ## Values that stand for a severity -/

/-- A value stands for a severity: it is a text that spells its name, or an object of a class that
is not built in and is written as exactly this name. -/
inductive StandsFor : GivenValue → Level → Prop where
  | text {text : String} {level : Level} (spelled : level.IsSpelledBy text) :
    StandsFor (.whole (.text text)) level
  | object {object : Foreign Datum} {level : Level}
      (writable : object.obstacle? = none)
      (written : object.plain = level.name) :
    StandsFor (.whole (.object object)) level

def MeansLevel (value : GivenValue) (name : String) : Prop :=
  ∃ level : Level, name = level.name ∧ StandsFor value level

/-- What is wrong with a value that stands for no severity: it cannot be written, or it is written
as no name of one. -/
def levelIssue : GivenValue → IssueKind
  | .whole value => (value.obstacle?.map .unwritable).getD .unknownLevel
  | .torn _ => .unknownLevel

/-- A value that is no text is looked for in the form in which it is written. -/
theorem levelText_eq_ok_iff_of_noText
    {value : Datum}
    (noText : value.kind ≠ .text)
    (name : String) :
    levelText value = .ok name ↔ value.obstacle? = none ∧ value.plain = name := by
  unfold levelText
  split
  · exact absurd rfl noText
  · split
    next reason obstacle => simp [obstacle]
    next noObstacle => simp [noObstacle]

/-- No built-in value but a text is written as the name of a severity. -/
theorem plain_ne_name
    {value : Datum}
    (noText : value.kind ≠ .text)
    (builtIn : (GivenValue.whole value).IsBuiltIn)
    (level : Level) :
    value.plain ≠ level.name := by
  have noObject : ∀ object, value ≠ .object object := by
    rintro object rfl
    exact builtIn object rfl
  have plain : value.plain = value.literal := by
    cases value with
    | text text => exact absurd rfl noText
    | object object => exact absurd rfl (noObject object)
    | _ => rfl
  rw [plain]
  exact literal_ne_name noText noObject level

theorem levelText_eq_name_iff (value : Datum) (level : Level) :
    levelText value = .ok level.name ↔ StandsFor (.whole value) level := by
  by_cases isText : value.kind = .text
  · cases value with
    | text text =>
      rw [levelText, Except.ok.injEq, Level.upper_eq_name_iff]
      constructor
      · exact .text
      · rintro ⟨spelled⟩
        exact spelled
    | _ => contradiction
  · rw [levelText_eq_ok_iff_of_noText isText]
    constructor
    · rintro ⟨writable, written⟩
      rcases SettingsLibrary.isBuiltIn_or_object (.whole value) with builtIn | ⟨object, isObject⟩
      · exact absurd written (plain_ne_name isText builtIn level)
      · obtain rfl := GivenValue.whole.inj isObject
        rw [Datum.obstacle?] at writable
        exact .object writable written
    · rintro (_ | ⟨writable, written⟩)
      · exact absurd rfl isText
      · rw [Datum.obstacle?]
        exact ⟨writable, written⟩

theorem levelText_eq_error
    {value : Datum}
    {kind : IssueKind}
    (refused : levelText value = .error kind) :
    kind = levelIssue (.whole value) := by
  unfold levelText at refused
  split at refused
  · contradiction
  · split at refused
    · rename_i obstacle
      rw [levelIssue, obstacle]
      exact (Except.error.inj refused).symm
    · contradiction

/-- A value that has a text to be looked for can be written. -/
theorem levelIssue_of_levelText
    {value : Datum}
    {name : String}
    (written : levelText value = .ok name) :
    levelIssue (.whole value) = .unknownLevel := by
  unfold levelText at written
  split at written
  · rw [levelIssue, Datum.obstacle?_text]
    rfl
  · split at written
    · contradiction
    · rename_i writable
      rw [levelIssue, writable]
      rfl

theorem levelOf_eq_ok_iff (value : GivenValue) (name : String) :
    levelOf value = .ok name ↔ MeansLevel value name := by
  cases value with
  | torn points =>
    constructor
    · exact fun same => by contradiction
    · rintro ⟨level, -, stands⟩
      contradiction
  | whole value =>
    simp only [MeansLevel, ← levelText_eq_name_iff, levelOf]
    cases levelText value with
    | error kind => simp
    | ok text =>
      simp only [Except.ok.injEq]
      by_cases known : (Level.ofName? text).isSome = true
      · rw [if_pos known, Except.ok.injEq]
        obtain ⟨level, rfl⟩ := (Level.isSome_ofName?_iff text).mp known
        constructor
        · rintro rfl
          exact ⟨level, rfl, rfl⟩
        · rintro ⟨other, rfl, same⟩
          exact same
      · rw [if_neg known]
        rw [Level.isSome_ofName?_iff] at known
        constructor
        · exact fun same => by contradiction
        · rintro ⟨level, -, rfl⟩
          exact absurd ⟨level, rfl⟩ known

theorem levelOf_eq_error
    {value : GivenValue}
    {kind : IssueKind}
    (refused : levelOf value = .error kind) :
    kind = levelIssue value := by
  cases value with
  | torn points => exact (Except.error.inj refused).symm
  | whole value =>
    rw [levelOf] at refused
    split at refused
    · rename_i name written
      split at refused
      · contradiction
      · rw [levelIssue_of_levelText written]
        exact (Except.error.inj refused).symm
    · rename_i other unwritten
      obtain rfl := Except.error.inj refused
      exact levelText_eq_error unwritten

end LogSettings

end Attachments
