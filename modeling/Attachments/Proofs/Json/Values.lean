import Attachments.Datum.Json
import Attachments.Proofs.Fields

/-!
Contract: the values of JSON, and which of them can be written.

Owns:
- which values are those of JSON;
- integers with too many digits inside such a value, which alone keep it from being written.

Does not own: how values are written and read.
-/

namespace Attachments

namespace Datum

/-- A value of JSON: a plain one, a list of such values, or a dictionary of such values under
distinct texts. -/
inductive IsJson : Datum → Prop where
  | null : IsJson .null
  | bool (value : Bool) : IsJson (.bool value)
  | int (value : Int) : IsJson (.int value)
  | real (value : Numeral.Double) : IsJson (.real value)
  | text (value : String) : IsJson (.text value)
  | list {items : List Datum} (each : ∀ item ∈ items, IsJson item) : IsJson (.list items)
  | dict
      {members : Fields String Datum}
      (distinct : Fields.Distinct members)
      (each : ∀ member ∈ members, IsJson member.2) :
      IsJson (.dict (members.rename .text))

/-- An integer with too many digits stands in a value: it is one, or stands in an item of a list or
in a value of a dictionary. -/
inductive HoldsLong : Datum → Prop where
  | int {value : Int} (long : mostDigits < (Nat.toDigits 10 value.natAbs).length) :
      HoldsLong (.int value)
  | list {items : List Datum} {item : Datum} (member : item ∈ items) (long : HoldsLong item) :
      HoldsLong (.list items)
  | dict
      {entries : List (Datum × Datum)} {entry : Datum × Datum}
      (member : entry ∈ entries)
      (long : HoldsLong entry.2) :
      HoldsLong (.dict entries)

theorem itemsFault?_eq (items : List Datum) :
    itemsFault? items = items.findSome? jsonFault? := by
  induction items with
  | nil => rfl
  | cons item rest inductionHypothesis =>
    rw [itemsFault?, inductionHypothesis, List.findSome?_cons]
    cases jsonFault? item <;> rfl

theorem membersFault?_rename (members : Fields String Datum) :
    membersFault? (members.rename .text) = members.findSome? fun member => jsonFault? member.2 := by
  induction members with
  | nil => rfl
  | cons member rest inductionHypothesis =>
    have unfolded : membersFault? (Fields.rename .text (member :: rest)) =
        (jsonFault? member.2 <|> membersFault? (Fields.rename .text rest)) := rfl
    rw [unfolded, inductionHypothesis, List.findSome?_cons]
    cases jsonFault? member.2 <;> rfl

/-- What keeps something from being written says that an integer has too many digits, and there is
something exactly under a condition. -/
structure Told (Long : Prop) (fault? : Option Fault) : Prop where
  long : Long → ∃ reason, fault? = some (.unwritable reason)
  short : ¬ Long → fault? = none

/-- What is told of each of some things is told of all: the first that cannot be written counts. -/
theorem Told.findSome? {Item : Type} {items : List Item} {Long : Item → Prop}
    {fault? : Item → Option Fault}
    (each : ∀ item ∈ items, Told (Long item) (fault? item)) :
    Told (∃ item ∈ items, Long item) (items.findSome? fault?) := by
  constructor
  · rintro ⟨item, member, long⟩
    obtain ⟨reason, failed⟩ := (each item member).long long
    cases found : items.findSome? fault? with
    | none => simp [List.findSome?_eq_none_iff.mp found item member] at failed
    | some fault =>
      obtain ⟨first, inItems, told⟩ := List.exists_of_findSome?_eq_some found
      by_cases longFirst : Long first
      · obtain ⟨reason, same⟩ := (each first inItems).long longFirst
        exact ⟨reason, told.symm.trans same⟩
      · simp [(each first inItems).short longFirst] at told
  · intro short
    rw [List.findSome?_eq_none_iff]
    exact fun item member => (each item member).short fun long => short ⟨item, member, long⟩

theorem Told.congr {Long Other : Prop} {fault? : Option Fault} (same : Long ↔ Other)
    (told : Told Long fault?) : Told Other fault? :=
  propext same ▸ told

theorem not_long_plain {value : Datum}
    (noInt : ∀ number, value ≠ .int number)
    (noList : ∀ items, value ≠ .list items)
    (noDict : ∀ entries, value ≠ .dict entries) : ¬ HoldsLong value
  | .int _ => noInt _ rfl
  | .list _ _ => noList _ rfl
  | .dict _ _ => noDict _ rfl

theorem not_long_text (text : String) : ¬ HoldsLong (.text text) :=
  not_long_plain nofun nofun nofun

/-- A value of JSON cannot be written exactly if an integer in it has too many digits, and then that
is what is said. -/
theorem jsonFault?_told {value : Datum} (isJson : IsJson value) :
    Told (HoldsLong value) (jsonFault? value) := by
  induction isJson with
  | int value =>
    rw [jsonFault?]
    constructor
    · rintro ⟨long⟩
      cases found : digitObstacle? value with
      | none => exact absurd ((digitObstacle?_eq_none_iff value).mp found) (Nat.not_le.mpr long)
      | some reason => exact ⟨reason, rfl⟩
    · intro short
      rw [(digitObstacle?_eq_none_iff value).mpr (Nat.not_lt.mp fun long => short (.int long))]
      rfl
  | @list items each inductionHypothesis =>
    rw [jsonFault?, itemsFault?_eq]
    refine (Told.findSome? inductionHypothesis).congr ⟨?_, ?_⟩
    · rintro ⟨item, member, long⟩
      exact .list member long
    · rintro (_ | ⟨member, long⟩)
      exact ⟨_, member, long⟩
  | @dict members distinct each inductionHypothesis =>
    rw [jsonFault?, membersFault?_rename]
    refine (Told.findSome? inductionHypothesis).congr ⟨?_, ?_⟩
    · rintro ⟨member, inMembers, long⟩
      exact .dict (List.mem_map_of_mem inMembers) long
    · rintro (_ | _ | ⟨inEntries, long⟩)
      obtain ⟨member, inMembers, rfl⟩ := List.mem_map.mp inEntries
      exact ⟨member, inMembers, long⟩
  | _ => exact ⟨fun long => absurd long (not_long_plain nofun nofun nofun), fun _ => rfl⟩

end Datum

end Attachments
