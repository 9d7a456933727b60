import Attachments.Proofs.Identifier.Stored

/-!
Contract: which two values make an identifier, and what is reported of all others.

Owns:
- objections, each of which applies under a condition and has a failure of its own, and checks in a
  row that fail with the first objection that applies;
- numbers, containers and values with the separator in them, told without the checks;
- the objections to two values, and that construction raises the first that applies and fails
  in no other way.

Does not own: encoded forms.
-/

namespace Attachments

/-! ## Objections -/

/-- A reason to fail: the condition under which it applies, and the failure that it has then. -/
structure Objection where
  Applies : Prop
  failure : Failure

namespace Objection

/-- A computation that raises the objections of a list in their order: the first that applies makes
it fail, and if none does it has a value. -/
inductive Heeded {Value : Type} : List Objection → Except Failure Value → Prop where
  | raised
      {objection : Objection} {others : List Objection}
      (applies : objection.Applies) :
      Heeded (objection :: others) (.error objection.failure)
  | passed
      {objection : Objection} {others : List Objection} {outcome : Except Failure Value}
      (silent : ¬ objection.Applies)
      (later : Heeded others outcome) :
      Heeded (objection :: others) outcome
  | settled (value : Value) : Heeded [] (.ok value)

/-- The first objection of a list that applies has this failure. -/
def FirstIs (objections : List Objection) (failure : Failure) : Prop :=
  ∃ before objection after,
    objections = before ++ objection :: after ∧
    (∀ earlier ∈ before, ¬ earlier.Applies) ∧
    objection.Applies ∧
    objection.failure = failure

section Laws

variable {Value Result : Type}
variable {objections others : List Objection} {outcome : Except Failure Value}

/-- A computation goes on with another one, whose objections come behind its own. -/
theorem Heeded.bind
    {next : Value → Except Failure Result}
    (first : Heeded objections outcome)
    (second : ∀ value, outcome = .ok value → Heeded others (next value)) :
    Heeded (objections ++ others) (outcome >>= next) := by
  induction first with
  | raised applies => exact .raised applies
  | passed silent _ inductionHypothesis => exact .passed silent (inductionHypothesis second)
  | settled value => exact second value rfl

theorem FirstIs.cons_iff (objection : Objection) (failure : Failure) :
    FirstIs (objection :: others) failure ↔
      (objection.Applies ∧ objection.failure = failure) ∨
        (¬ objection.Applies ∧ FirstIs others failure) := by
  constructor
  · rintro ⟨_ | ⟨earlier, before⟩, first, after, cut, silent, applies, same⟩
    · obtain ⟨rfl, -⟩ := List.cons.inj cut
      exact .inl ⟨applies, same⟩
    · obtain ⟨rfl, rfl⟩ := List.cons.inj cut
      refine .inr ⟨silent _ (by simp), before, first, after, rfl, ?_, applies, same⟩
      exact fun other member => silent other (List.mem_cons_of_mem _ member)
  · rintro (⟨applies, same⟩ | ⟨silent, before, first, after, rfl, silentBefore, applies, same⟩)
    · exact ⟨[], objection, others, rfl, by simp, applies, same⟩
    · refine ⟨objection :: before, first, after, rfl, ?_, applies, same⟩
      exact List.forall_mem_cons.mpr ⟨silent, silentBefore⟩

/-- The failures of such a computation are those of first objections. -/
theorem Heeded.eq_error_iff (heeded : Heeded objections outcome) (failure : Failure) :
    outcome = .error failure ↔ FirstIs objections failure := by
  induction heeded with
  | raised applies => simp [FirstIs.cons_iff, applies]
  | passed silent _ inductionHypothesis => simp [FirstIs.cons_iff, silent, inductionHypothesis]
  | settled value => simp [FirstIs]

/-- No objection applies to what has a value. -/
theorem Heeded.silent_of_ok
    {value : Value}
    (heeded : Heeded objections outcome)
    (isValue : outcome = .ok value) :
    ∀ objection ∈ objections, ¬ objection.Applies := by
  induction heeded with
  | raised => contradiction
  | passed silent _ inductionHypothesis =>
    exact List.forall_mem_cons.mpr ⟨silent, inductionHypothesis isValue⟩
  | settled => simp

end Laws

end Objection

/-! ## Values -/

namespace Datum

/-- A truth value or a number, in which nothing can be searched. -/
def IsNumber (value : Datum) : Prop :=
  value.kind ∈ [Kind.bool, .int, .real]

/-- A list, a tuple or a dictionary, which hold values, or an object, which may. -/
def IsContainer (value : Datum) : Prop :=
  value.kind ∈ [Kind.list, .tuple, .dict] ∨ ∃ object, value = .object object

/-- The separator stands in a text, is an item of a list or a tuple, is a key of a dictionary, or is
found by an object. -/
def HoldsSeparator : Datum → Prop
  | .text value => '/' ∈ value.toList
  | .list items => .text "/" ∈ items
  | .tuple items => .text "/" ∈ items
  | .dict entries => .text "/" ∈ entries.map Prod.fst
  | .object value => value.holds "/" = .ok true
  | _ => False

theorem any_text_iff (items : List Datum) (text : String) :
    items.any (· == .text text) = true ↔ .text text ∈ items := by
  simp [beq_text_iff]

theorem any_key_iff (entries : List (Datum × Datum)) (text : String) :
    entries.any (·.1 == .text text) = true ↔ .text text ∈ entries.map Prod.fst := by
  rw [← any_text_iff, List.any_map]
  rfl

/-- The fault of an object that refuses to be searched for the separator. -/
def ownFault? : Datum → Option Fault
  | .object value =>
    match value.holds "/" with
    | .error fault => some fault
    | .ok _ => none
  | _ => none

/-- What is neither absent nor a number nor a container is a text. -/
theorem isText {value : Datum}
    (present : value ≠ .null)
    (noNumber : ¬ value.IsNumber)
    (noContainer : ¬ value.IsContainer) :
    ∃ text, value = .text text := by
  cases value with
  | null => contradiction
  | text text => exact ⟨text, rfl⟩
  | list _ => exact absurd (.inl (by simp [kind])) noContainer
  | tuple _ => exact absurd (.inl (by simp [kind])) noContainer
  | dict _ => exact absurd (.inl (by simp [kind])) noContainer
  | object object => exact absurd (.inr ⟨object, rfl⟩) noContainer
  | _ => exact absurd (by simp [IsNumber, kind]) noNumber

end Datum

/-! ## The checks of one part -/

section Screening

variable (part : Part) {value : Datum}

theorem separatorText : String.singleton separator = "/" :=
  rfl

theorem screen_of_number (number : value.IsNumber) :
    screen part value = .error (.fault (.notContainer value.kind)) := by
  cases value with
  | bool _ => rfl
  | int _ => rfl
  | real _ => rfl
  | _ => simp [Datum.IsNumber, Datum.kind] at number

theorem screen_of_ownFault {fault : Fault} (refuses : value.ownFault? = some fault) :
    screen part value = .error (.fault fault) := by
  cases value with
  | object object =>
    cases found : object.holds "/" with
    | error own =>
      simp only [Datum.ownFault?, found, Option.some.injEq] at refuses
      simp only [screen, Datum.holdsText, separatorText, found, refuses]
    | ok _ => simp [Datum.ownFault?, found] at refuses
  | _ => simp [Datum.ownFault?] at refuses

theorem screen_of_holds (holds : value.HoldsSeparator) :
    screen part value =
      .error (.rejected (.invalidComponent (.text part.name) value (.text "/"))) := by
  cases value with
  | text text =>
    have found : separator ∈ text.toList := holds
    simp [screen, found, separatorValue, separatorText]
  | list items =>
    have found := (Datum.any_text_iff items "/").mpr holds
    simp only [screen, Datum.holdsText, separatorValue, separatorText, found]
  | tuple items =>
    have found := (Datum.any_text_iff items "/").mpr holds
    simp only [screen, Datum.holdsText, separatorValue, separatorText, found]
  | dict entries =>
    have found := (Datum.any_key_iff entries "/").mpr holds
    simp only [screen, Datum.holdsText, separatorValue, separatorText, found]
  | object object =>
    have found : object.holds "/" = .ok true := holds
    simp only [screen, Datum.holdsText, separatorValue, separatorText, found]
  | _ => contradiction

theorem screen_of_container
    (container : value.IsContainer)
    (searched : value.ownFault? = none)
    (lacks : ¬ value.HoldsSeparator) :
    screen part value = .ok (.container value.kind) := by
  cases value with
  | list items =>
    have absent := Bool.eq_false_iff.mpr (mt (Datum.any_text_iff items "/").mp lacks)
    simp only [screen, Datum.holdsText, separatorText, absent]
  | tuple items =>
    have absent := Bool.eq_false_iff.mpr (mt (Datum.any_text_iff items "/").mp lacks)
    simp only [screen, Datum.holdsText, separatorText, absent]
  | dict entries =>
    have absent := Bool.eq_false_iff.mpr (mt (Datum.any_key_iff entries "/").mp lacks)
    simp only [screen, Datum.holdsText, separatorText, absent]
  | object object =>
    have absent : object.holds "/" ≠ .ok true := lacks
    cases found : object.holds "/" with
    | error own => simp [Datum.ownFault?, found] at searched
    | ok some =>
      cases some with
      | true => contradiction
      | false => simp only [screen, Datum.holdsText, separatorText, found]
  | _ => simp [Datum.IsContainer, Datum.kind] at container

/-- The objections of the search for the separator: nothing can be searched in a number, an object
may refuse to be searched, and the separator may be found. -/
def searchObjections (part : Part) (value : Datum) : List Objection :=
  ⟨value.IsNumber, .fault (.notContainer value.kind)⟩ ::
    (value.ownFault?.toList.map (fun fault => ⟨True, .fault fault⟩) ++
      [⟨value.HoldsSeparator,
        .rejected (.invalidComponent (.text part.name) value (.text "/"))⟩])

theorem screen_cases
    (present : value ≠ .null)
    (noNumber : ¬ value.IsNumber)
    (searched : value.ownFault? = none)
    (lacks : ¬ value.HoldsSeparator) :
    (∃ component : Component, value = .text component.val ∧
        screen part value = .ok (.component component)) ∨
      (value.IsContainer ∧ screen part value = .ok (.container value.kind)) := by
  by_cases container : value.IsContainer
  · exact .inr ⟨container, screen_of_container part container searched lacks⟩
  · obtain ⟨text, rfl⟩ := Datum.isText present noNumber container
    exact .inl ⟨⟨text, lacks⟩, rfl, screen_text part ⟨text, lacks⟩⟩

theorem screen_heeded (present : value ≠ .null) :
    Objection.Heeded (searchObjections part value) (screen part value) := by
  by_cases number : value.IsNumber
  · rw [screen_of_number part number]
    exact .raised number
  · refine .passed number ?_
    cases searched : value.ownFault? with
    | some fault =>
      rw [screen_of_ownFault part searched]
      exact .raised trivial
    | none =>
      by_cases holds : value.HoldsSeparator
      · rw [screen_of_holds part holds]
        exact .raised holds
      · refine .passed holds ?_
        rcases screen_cases part present number searched holds with
          ⟨_, -, screened⟩ | ⟨-, screened⟩
        · rw [screened]
          exact .settled _
        · rw [screened]
          exact .settled _

def containerObjection (value : Datum) : Objection :=
  ⟨value.IsContainer, .fault (.notPlainText value.kind)⟩

/-- What passed the search is no number, can be searched and lacks the separator. -/
theorem passed_search
    {screened : Screened}
    (present : value ≠ .null)
    (passed : screen part value = .ok screened) :
    ¬ value.IsNumber ∧ value.ownFault? = none ∧ ¬ value.HoldsSeparator := by
  have silent := (screen_heeded part present).silent_of_ok passed
  simp only [searchObjections, List.forall_mem_cons, List.forall_mem_append, List.mem_map,
    Option.mem_toList] at silent
  obtain ⟨noNumber, noFault, lacks, -⟩ := silent
  refine ⟨noNumber, Option.eq_none_iff_forall_not_mem.mpr fun fault refuses => ?_, lacks⟩
  exact noFault _ ⟨fault, refuses, rfl⟩ trivial

theorem toComponent_heeded
    {screened : Screened}
    (present : value ≠ .null)
    (passed : screen part value = .ok screened) :
    Objection.Heeded [containerObjection value] screened.toComponent := by
  obtain ⟨noNumber, searched, lacks⟩ := passed_search part present passed
  rcases screen_cases part present noNumber searched lacks with
    ⟨component, rfl, found⟩ | ⟨container, found⟩
  · obtain rfl := Except.ok.inj (found.symm.trans passed)
    refine .passed ?_ (.settled component)
    simp [containerObjection, Datum.IsContainer, Datum.kind]
  · obtain rfl := Except.ok.inj (found.symm.trans passed)
    exact .raised container

end Screening

namespace Identifier

/-! ## Construction -/

/-- The objections to two values as domain and id: an absent id, an absent domain, those of the
search in the domain and of that in the id, a domain that is a container, such an id. -/
def objections (domain id : Datum) : List Objection :=
  ⟨id = .null, .rejected .missingId⟩ ::
    ⟨domain = .null, .rejected (.missingComponent (.text "domain"))⟩ ::
      (searchObjections .domain domain ++ searchObjections .id id ++
        [containerObjection domain, containerObjection id])

/-- Two values that are there are searched, the domain first, and then both must be components. -/
theorem ofComponents_of_present
    {domain id : Datum}
    (presentDomain : domain ≠ .null)
    (presentId : id ≠ .null) :
    ofComponents domain id = (do
      let screenedDomain ← screen .domain domain
      let screenedId ← screen .id id
      let domain ← screenedDomain.toComponent
      let id ← screenedId.toComponent
      .ok ⟨domain, id⟩) := by
  have present {value : Datum} (isThere : value ≠ .null) : value.isNull = false := by
    cases value with
    | null => contradiction
    | _ => rfl
  simp only [ofComponents, present presentDomain, present presentId]
  rfl

theorem ofComponents_heeded (domain id : Datum) :
    Objection.Heeded (objections domain id) (ofComponents domain id) := by
  by_cases noId : id = .null
  · subst noId
    exact .raised rfl
  · refine .passed noId ?_
    by_cases noDomain : domain = .null
    · subst noDomain
      cases id with
      | null => contradiction
      | _ => exact .raised rfl
    · refine .passed noDomain ?_
      rw [ofComponents_of_present noDomain noId, List.append_assoc]
      -- Each check comes with its objections, in the order of the list.
      refine (screen_heeded .domain noDomain).bind fun screenedDomain domainPassed => ?_
      refine (screen_heeded .id noId).bind fun screenedId idPassed => ?_
      refine (toComponent_heeded .domain noDomain domainPassed).bind fun domain _ => ?_
      refine (toComponent_heeded .id noId idPassed).bind fun id _ => ?_
      exact .settled (Identifier.mk domain id)

/-- Two values make an identifier exactly if they are its components, as texts. -/
theorem ofComponents_eq_ok_iff (domain id : Datum) (identifier : Identifier) :
    ofComponents domain id = .ok identifier ↔
      domain = .text identifier.domain.val ∧ id = .text identifier.id.val := by
  constructor
  · intro made
    have silent := (ofComponents_heeded domain id).silent_of_ok made
    simp only [objections, searchObjections, List.cons_append, List.append_assoc,
      List.nil_append, List.forall_mem_cons, List.forall_mem_append] at silent
    obtain ⟨presentId, presentDomain, noNumber, -, -, noNumberId, -, -, noContainer,
      noContainerId, -⟩ := silent
    obtain ⟨domain, rfl⟩ := Datum.isText presentDomain noNumber noContainer
    obtain ⟨id, rfl⟩ := Datum.isText presentId noNumberId noContainerId
    obtain ⟨rfl, rfl⟩ := parts_of_ofComponents made
    exact ⟨rfl, rfl⟩
  · rintro ⟨rfl, rfl⟩
    exact ofComponents_text identifier.domain identifier.id

/-- Two values of any kinds make an identifier exactly if both are texts without the separator, and
then they are its components. Otherwise construction fails as the first objection to them that
applies says, and in no other way. Whatever is stored at the end of the checks are texts without
the separator. -/
theorem ofComponents_exact (domain id : Datum) :
    ((∃ identifier, ofComponents domain id = .ok identifier) ↔
      ∃ domainText idText : String,
        domain = .text domainText ∧ id = .text idText ∧
          '/' ∉ domainText.toList ∧ '/' ∉ idText.toList) ∧
    (∀ identifier, ofComponents domain id = .ok identifier →
      domain = .text identifier.domain.val ∧ id = .text identifier.id.val) ∧
    (∀ failure, ofComponents domain id = .error failure ↔
      Objection.FirstIs (objections domain id) failure) ∧
    (∀ stored, StoredIdentifier.make domain id = .ok stored → stored.WellKept) := by
  refine ⟨⟨?_, ?_⟩, fun identifier => (ofComponents_eq_ok_iff domain id identifier).mp,
    (ofComponents_heeded domain id).eq_error_iff, ?_⟩
  · rintro ⟨identifier, made⟩
    obtain ⟨rfl, rfl⟩ := (ofComponents_eq_ok_iff _ _ _).mp made
    exact ⟨_, _, rfl, rfl, identifier.domain.property, identifier.id.property⟩
  · rintro ⟨domainText, idText, rfl, rfl, absent, absentId⟩
    let identifier : Identifier := ⟨⟨domainText, absent⟩, ⟨idText, absentId⟩⟩
    exact ⟨identifier, (ofComponents_eq_ok_iff _ _ identifier).mpr ⟨rfl, rfl⟩⟩
  · intro stored made
    rw [StoredIdentifier.make_eq] at made
    cases checked : ofComponents domain id with
    | error failure =>
      rw [checked] at made
      contradiction
    | ok identifier =>
      rw [checked] at made
      obtain rfl := Except.ok.inj made
      exact stored_wellKept identifier

/-- A list without the separator passes the search, so that the bad id is reported first. -/
example :
    ofComponents (.list [.text "a/b"]) (.text "/") =
      .error (.rejected (.invalidComponent (.text "id") (.text "/") (.text "/"))) := by
  rfl

end Identifier

end Attachments
