/-!
Contract: records whose fields keep the order in which their names first arrived.

Owns:
- writing, reading and removing a field;
- building a record from pairs, where a repeated name keeps its first place and takes its last
  value;
- what a read finds after a write, and which names a write leaves in which order.

Does not own: what names and values are. Names are compared by `==`.
-/

namespace Attachments

/-- A record: its fields in order of first arrival. -/
abbrev Fields (Name Value : Type) :=
  List (Name × Value)

namespace Fields

variable {Name Value : Type} [BEq Name]

def get? : Fields Name Value → Name → Option Value
  | [], _ => none
  | (known, value) :: rest, name => if known == name then some value else get? rest name

def has (fields : Fields Name Value) (name : Name) : Bool :=
  fields.any (·.1 == name)

/-- Writes a field: in its place if the name is there, else at the end. -/
def put : Fields Name Value → Name → Value → Fields Name Value
  | [], name, value => [(name, value)]
  | (known, old) :: rest, name, value =>
    if known == name then (known, value) :: rest else (known, old) :: put rest name value

/-- Writes a field only if no field of that name is there. -/
def putNew (fields : Fields Name Value) (name : Name) (value : Value) : Fields Name Value :=
  if has fields name then fields else fields ++ [(name, value)]

def erase (fields : Fields Name Value) (name : Name) : Fields Name Value :=
  fields.filter fun field => !(field.1 == name)

/-- Writes the pairs one after the other. -/
def putAll (fields : Fields Name Value) (pairs : List (Name × Value)) : Fields Name Value :=
  pairs.foldl (fun written pair => put written pair.1 pair.2) fields

def ofPairs (pairs : List (Name × Value)) : Fields Name Value :=
  putAll [] pairs

/-! ## Reading after writing -/

section Laws

variable [LawfulBEq Name]

/-- A written field is read back. -/
theorem get?_put_same (fields : Fields Name Value) (name : Name) (value : Value) :
    get? (put fields name value) name = some value := by
  induction fields with
  | nil => simp [put, get?]
  | cons field rest inductionHypothesis =>
    obtain ⟨known, old⟩ := field
    by_cases same : known = name
    · simp [put, get?, same]
    · simp [put, get?, same, inductionHypothesis]

/-- A write does not touch fields of other names. -/
theorem get?_put_other
    (fields : Fields Name Value)
    {name other : Name}
    (value : Value)
    (different : name ≠ other) :
    get? (put fields name value) other = get? fields other := by
  induction fields with
  | nil => simp [put, get?, different]
  | cons field rest inductionHypothesis =>
    obtain ⟨known, old⟩ := field
    by_cases same : known = name
    · simp [put, get?, same, different]
    · by_cases found : known = other
      · subst found
        simp [put, get?, same]
      · simp [put, get?, same, found, inductionHypothesis]

/-- A field is there exactly if it can be read. -/
theorem has_eq_isSome (fields : Fields Name Value) (name : Name) :
    has fields name = (get? fields name).isSome := by
  induction fields with
  | nil => rfl
  | cons field rest inductionHypothesis =>
    obtain ⟨known, value⟩ := field
    have step : has ((known, value) :: rest) name = (known == name || has rest name) := rfl
    rw [step, inductionHypothesis]
    by_cases same : known = name <;> simp [get?, same]

/-- A write keeps all names in their order, and a new name comes last. -/
theorem names_put (fields : Fields Name Value) (name : Name) (value : Value) :
    (put fields name value).map Prod.fst =
      if has fields name then fields.map Prod.fst else fields.map Prod.fst ++ [name] := by
  induction fields with
  | nil => rfl
  | cons field rest inductionHypothesis =>
    obtain ⟨known, old⟩ := field
    have step : has ((known, old) :: rest) name = (known == name || has rest name) := rfl
    rw [step]
    by_cases same : known = name
    · simp [put, same]
    · by_cases found : has rest name <;> simp [put, same, found, inductionHypothesis]

/-- A removed field is not read any more. -/
theorem get?_erase_same (fields : Fields Name Value) (name : Name) :
    get? (erase fields name) name = none := by
  induction fields with
  | nil => rfl
  | cons field rest inductionHypothesis =>
    obtain ⟨known, value⟩ := field
    by_cases same : known = name
    · simpa [erase, same] using inductionHypothesis
    · simpa [erase, get?, same] using inductionHypothesis

/-- A removal does not touch fields of other names. -/
theorem get?_erase_other
    (fields : Fields Name Value)
    {name other : Name}
    (different : name ≠ other) :
    get? (erase fields name) other = get? fields other := by
  induction fields with
  | nil => rfl
  | cons field rest inductionHypothesis =>
    obtain ⟨known, value⟩ := field
    by_cases same : known = name
    · simpa [erase, get?, same, different] using inductionHypothesis
    · by_cases found : known = other
      · simp [erase, get?, found, Ne.symm different]
      · simpa [erase, get?, same, found] using inductionHypothesis

end Laws

end Fields

end Attachments
