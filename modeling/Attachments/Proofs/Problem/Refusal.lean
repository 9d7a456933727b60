import Attachments.Proofs.Problem.Arguments

/-!
Contract: what refusals hand over, in agreement with the calls they were built from.

Owns:
- the agreement of attributes, context, message and text in every refusal, where its values can be
  written;
- what each class adds to field and reason;
- that hints are kept as they were given, and joined shape by shape;
- all of this for every call that is taken, and that the way of giving a parameter leaves no trace.

Does not own: which calls are taken.
-/

namespace Attachments

/-! ## Hints -/

namespace Hint

theorem textsFrom_eq_ok
    {index : Nat}
    {items : List Datum}
    {texts : List String}
    (read : textsFrom index items = .ok texts) :
    items = texts.map .text := by
  induction items generalizing index texts with
  | nil =>
    obtain rfl := Except.ok.inj read
    rfl
  | cons item rest inductionHypothesis =>
    cases item with
    | text first =>
      cases readRest : textsFrom (index + 1) rest with
      | error fault => simp [textsFrom, readRest, Except.map] at read
      | ok others =>
        simp only [textsFrom, readRest, Except.map, Except.ok.injEq] at read
        rw [← read, inductionHypothesis readRest, List.map_cons]
    | _ => simp [textsFrom] at read

/-- The shapes of a hint are the elements of the value in which they were given. -/
theorem elements_given (hint : Hint) :
    hint.given.elements? = some (hint.texts.map .text) := by
  have stands := hint.stands
  unfold textsOf at stands
  split at stands
  next elements found => rw [found, textsFrom_eq_ok stands]
  next => contradiction

/-- A hint is kept as it was given. -/
theorem given_of_ofDatum
    {shapes : Datum}
    {hint : Hint}
    (read : ofDatum shapes = .ok hint) :
    hint.given = shapes := by
  unfold ofDatum at read
  split at read
  next => exact Except.ok.inj read ▸ rfl
  next => contradiction

end Hint

/-! ## Values that can be written -/

namespace Datum

theorem firstObstacle?_eq (values : List Datum) :
    firstObstacle? values = values.findSome? obstacle? := by
  induction values with
  | nil => rfl
  | cons value rest inductionHypothesis =>
    rw [firstObstacle?, inductionHypothesis, List.findSome?_cons]
    cases obstacle? value <;> rfl

theorem written_eq_ok_iff {Value : Type} (values : List Datum) (outcome value : Value) :
    written values outcome = .ok value ↔
      firstObstacle? values = none ∧ outcome = value := by
  unfold written
  cases firstObstacle? values with
  | none => simp
  | some reason => simp

/-- Names make no difference to what keeps a context from being written. -/
theorem firstObstacle?_contextWrites (fields : Fields String Datum) (message : String) :
    firstObstacle? (Problem.contextWrites (fields.map fun field => (.text field.1, field.2)) ++
        [.text message]) =
      firstObstacle? (fields.map Prod.snd) := by
  simp only [firstObstacle?_eq]
  induction fields with
  | nil => rfl
  | cons field rest inductionHypothesis =>
    rw [List.map_cons, List.map_cons, Problem.contextWrites, List.flatMap_cons, List.append_assoc,
      List.cons_append, List.singleton_append, List.findSome?_cons, obstacle?_text,
      List.findSome?_cons, List.findSome?_cons, ← inductionHypothesis]
    rfl

end Datum

namespace Problem

/-! ## What every refusal shows -/

/-- A problem refuses a field for a reason, with further details: its attributes give field and
reason, its context holds these two and then the details, none of them in the place of the two, its
message is made of the two alone and is all that it hands on, and a component is the field. Its text
is the message and the whole context, if all values can be written, and otherwise fails with what
keeps the first of them from it. -/
structure Refuses
    (problem : Problem)
    (field reason : Datum)
    (details : Fields String Datum) : Prop where
  field_attribute : problem.attributes.get? "field" = some field
  reason_attribute : problem.attributes.get? "reason" = some reason
  context : problem.context = .dict
    ((.text "field", field) :: (.text "reason", reason) ::
      details.map fun detail => (.text detail.1, detail.2))
  kept : ∀ detail ∈ details, detail.1 ≠ "field" ∧ detail.1 ≠ "reason"
  message : problem.message = .text s!"Validation failed for '{field.plain}': {reason.plain}"
  arguments : problem.arguments = [problem.message]
  text : Datum.firstObstacle? (field :: reason :: details.map Prod.snd) = none →
    problem.text = .ok
      (s!"Validation failed for '{field.plain}': {reason.plain}" ++ " ("
        ++ ", ".intercalate ((("field", field) :: ("reason", reason) :: details).map fun entry =>
          entry.1 ++ "=" ++ entry.2.plain)
        ++ ")")
  unwritable : ∀ obstacle,
    Datum.firstObstacle? (field :: reason :: details.map Prod.snd) = some obstacle →
      problem.text = .error (.unwritable obstacle)
  component : ∀ component, problem.attributes.get? "component" = some component →
    component = field

/-- The text of a refusal is its message with its context, if the values in that can be written. -/
theorem text_rejected (rejection : Rejection) :
    (Problem.rejected rejection).text =
      Datum.written (rejection.context.map Prod.snd)
        (rejection.message ++ " ("
          ++ ", ".intercalate (rejection.context.map fun entry => entry.1 ++ "=" ++ entry.2.plain)
          ++ ")") := by
  have items : (rejection.context.map fun entry => (Datum.text entry.1, entry.2)).map
      contextItem = rejection.context.map fun entry => entry.1 ++ "=" ++ entry.2.plain := by
    rw [List.map_map]
    rfl
  have holdsSomething : (Problem.rejected rejection).context.truthy = true := rfl
  have writes := Datum.firstObstacle?_contextWrites rejection.context rejection.message
  rw [text, if_pos holdsSomething]
  simp only [context, message, items, Datum.written, writes]
  rfl

/-- A refusal shows its own field, reason and details, if no detail takes the place of the two. -/
theorem refuses_of_kept
    {rejection : Rejection}
    (kept : ∀ detail ∈ rejection.details, detail.1 ≠ "field" ∧ detail.1 ≠ "reason") :
    Refuses (.rejected rejection) rejection.field rejection.reason rejection.details where
  field_attribute := rfl
  reason_attribute := rfl
  context := rfl
  kept := kept
  message := rfl
  arguments := rfl
  text := fun writable => by
    rw [text_rejected, Datum.written_eq_ok_iff]
    exact ⟨writable, rfl⟩
  unwritable := fun obstacle found => by
    have unfolded : Datum.firstObstacle? (rejection.context.map Prod.snd) = some obstacle := found
    rw [text_rejected, Datum.written, unfolded]
  component := by
    intro component found
    cases rejection <;>
      simp_all [attributes, Fields.get?, Rejection.component?, Rejection.field, eq_comm]

/-! ## What each class adds -/

/-- What follows field and reason in the context: for a refused field the further arguments in the
order of the call, for a component its value, for a text that is no identifier the text and the
shapes as alternatives, and else nothing. -/
def Adds
    (problem : Problem)
    (named : Fields String Datum)
    (details : Fields String Datum) : Prop :=
  match problem.problemClass with
  | .validation => details = ProblemClass.validation.signature.besides named
  | .invalidComponent =>
    ∃ value, problem.attributes.get? "value" = some value ∧ details = [("value", value)]
  | .malformed =>
    ∃ (serialized shapes : Datum) (texts : List String),
      problem.attributes.get? "serialized" = some serialized ∧
      problem.attributes.get? "expected_shapes" = some shapes ∧
      shapes.elements? = some (texts.map .text) ∧
      details =
        [("serialized", serialized), ("expected_shapes", .text (" or ".intercalate texts))]
  | _ => details = []

/-- The parameters that were given can be asked for by their names, except for the separator. -/
def Keeps (problem : Problem) (given : Fields String Datum) : Prop :=
  ∀ parameter ∈ given, parameter.1 ≠ "separator" →
    problem.attributes.get? parameter.1 = some parameter.2

/-! ## Problems of bound arguments -/

/-- Of the parameters, only what each of them is bound to matters. -/
theorem ofBinding_congr
    {binding other : Binding}
    (sameBound : ∀ name, binding.bound.get? name = other.bound.get? name)
    (sameOthers : binding.others = other.others)
    (problemClass : ProblemClass) :
    ofBinding problemClass binding = ofBinding problemClass other := by
  simp only [ofBinding, sameBound, sameOthers]

theorem given_names
    {signature : Signature}
    {positional : List Datum}
    {named : Fields String Datum}
    {parameter : String × Datum}
    (member : parameter ∈ signature.given positional named) :
    parameter.1 ∈ signature.parameters := by
  rcases List.mem_append.mp member with byPosition | byName
  · exact (List.of_mem_zip byPosition).1
  · exact of_decide_eq_true (List.mem_filter.mp byName).2

/-- A refusal that can be made is the problem. -/
theorem eq_of_ofRejection
    {rejection : Rejection}
    {problem : Problem}
    (made : ofRejection rejection = .ok problem) :
    problem = .rejected rejection := by
  cases writes : rejection.made with
  | error fault => simp [ofRejection, writes, Except.map] at made
  | ok same =>
    obtain ⟨-, rfl⟩ := (Datum.written_eq_ok_iff _ _ _).mp writes
    simp only [ofRejection, writes, Except.map, Except.ok.injEq] at made
    exact made.symm

/-- A malformed value is refused with the hint that was given, or with the standard one. -/
theorem malformed_of_ofBinding
    {binding : Binding}
    {problem : Problem}
    (made : ofBinding .malformed binding = .ok problem) :
    ∃ hint : Hint,
      problem = .rejected (.malformed ((binding.bound.get? "serialized").getD .null) hint) ∧
      (∀ shapes, binding.bound.get? "expected_shapes" = some shapes → hint.given = shapes) := by
  cases given : binding.bound.get? "expected_shapes" with
  | none =>
    simp only [ofBinding, given] at made
    exact ⟨.standard, eq_of_ofRejection made, by simp⟩
  | some shapes =>
    cases read : Hint.ofDatum shapes with
    | error fault => simp [ofBinding, given, read] at made
    | ok hint =>
      simp only [ofBinding, given, read] at made
      refine ⟨hint, eq_of_ofRejection made, ?_⟩
      rintro _ ⟨⟩
      exact Hint.given_of_ofDatum read

section Bound

variable {problemClass : ProblemClass} {positional : List Datum} {named : Fields String Datum}
variable {problem : Problem}

/-- The parameters of a call that is taken can be asked for. -/
theorem ofBinding_keeps
    (refusal : problemClass ≠ .general)
    (takes : problemClass.signature.Takes positional named)
    (made : ofBinding problemClass
      ⟨problemClass.signature.given positional named, problemClass.signature.besides named⟩ =
        .ok problem) :
    problem.Keeps (problemClass.signature.given positional named) := by
  rintro ⟨name, value⟩ member notSeparator
  have parameter := given_names member
  have found := (Fields.get?_eq_some_iff takes.once name value).mpr member
  cases problemClass with
  | general => exact absurd rfl refusal
  | validation =>
    obtain rfl := eq_of_ofRejection made
    rcases List.mem_pair.mp parameter with rfl | rfl <;>
      simp [attributes, Fields.get?, Rejection.field, Rejection.reason, found]
  | missingInput => exact absurd parameter List.not_mem_nil
  | missingComponent =>
    obtain rfl := eq_of_ofRejection made
    obtain rfl := List.mem_singleton.mp parameter
    simp [attributes, Fields.get?, Rejection.component?, found]
  | missingId => exact absurd parameter List.not_mem_nil
  | invalidComponent =>
    obtain rfl := eq_of_ofRejection made
    simp only [ProblemClass.signature, Signature.parameters, List.cons_append, List.nil_append,
      List.mem_cons, List.not_mem_nil, notSeparator, or_false] at parameter
    rcases parameter with rfl | rfl <;>
      simp [attributes, Fields.get?, Rejection.component?, found]
  | malformed =>
    obtain ⟨hint, rfl, same⟩ := malformed_of_ofBinding made
    rcases List.mem_pair.mp parameter with rfl | rfl
    · simp [attributes, Fields.get?, Rejection.component?, found]
    · simp [attributes, Fields.get?, Rejection.component?, same value found]

/-- The problem of a call that is taken is a refusal that agrees with the call. -/
theorem ofBinding_refuses
    (refusal : problemClass ≠ .general)
    (made : ofBinding problemClass
      ⟨problemClass.signature.given positional named, problemClass.signature.besides named⟩ =
        .ok problem) :
    problem.problemClass = problemClass ∧
      ∃ field reason details,
        problem.Refuses field reason details ∧ problem.Adds named details := by
  cases problemClass with
  | general => exact absurd rfl refusal
  | validation =>
    obtain rfl := eq_of_ofRejection made
    refine ⟨rfl, _, _, _, refuses_of_kept ?_, rfl⟩
    intro detail member
    have foreign := (List.mem_filter.mp member).2
    simpa [Signature.isParameter, ProblemClass.signature, Signature.parameters] using foreign
  | missingInput =>
    obtain rfl := eq_of_ofRejection made
    exact ⟨rfl, _, _, _, refuses_of_kept (by simp [Rejection.details]), rfl⟩
  | missingComponent =>
    obtain rfl := eq_of_ofRejection made
    exact ⟨rfl, _, _, _, refuses_of_kept (by simp [Rejection.details]), rfl⟩
  | missingId =>
    obtain rfl := eq_of_ofRejection made
    exact ⟨rfl, _, _, _, refuses_of_kept (by simp [Rejection.details]), rfl⟩
  | invalidComponent =>
    obtain rfl := eq_of_ofRejection made
    exact ⟨rfl, _, _, _, refuses_of_kept (by simp [Rejection.details]), _, rfl, rfl⟩
  | malformed =>
    obtain ⟨hint, rfl, -⟩ := malformed_of_ofBinding made
    refine ⟨rfl, _, _, _, refuses_of_kept (by simp [Rejection.details]), ?_⟩
    exact ⟨_, _, hint.texts, rfl, rfl, hint.elements_given, rfl⟩

end Bound

/-! ## Problems of calls -/

/-- A call builds a problem exactly if its names are texts, its arguments are taken, and the problem
of what they are bound to can be made. -/
theorem build_eq_ok_iff
    (problemClass : ProblemClass)
    (positional : List Datum)
    (named : Fields Datum Datum)
    (problem : Problem) :
    build problemClass positional named = .ok problem ↔
      ∃ arguments,
        named = arguments.rename .text ∧
        problemClass.signature.Takes positional arguments ∧
        ofBinding problemClass ⟨problemClass.signature.given positional arguments,
          problemClass.signature.besides arguments⟩ = .ok problem := by
  unfold build
  rw [Sorting.bind_eq_ok]
  refine exists_congr fun arguments => ?_
  rw [Datum.namedArguments_eq_ok_iff]
  refine and_congr_right fun _ => ?_
  have bound := Signature.bind_eq_ok_iff problemClass.parameters_distinct.1 positional arguments
  constructor
  · intro made
    split at made
    next => contradiction
    next binding isBound =>
      obtain ⟨takes, rfl⟩ := (bound binding).mp isBound
      exact ⟨takes, made⟩
  · rintro ⟨takes, made⟩
    rw [(bound _).mpr ⟨takes, rfl⟩]
    exact made

end Problem

end Attachments
