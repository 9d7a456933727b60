import Attachments.Problem.Call
import Attachments.Proofs.Fields
import Attachments.Sorting.Run

/-!
Contract: which calls for a problem are taken, and what they hand over.

Owns:
- which names can be those of arguments;
- the parameters that a call gives, by position and by name, and its other arguments;
- when a call is taken, and what is bound then;
- that calls which give the same parameters, in whichever way, are taken alike.

Does not own: what problems say.
-/

namespace Attachments

/-! ## Names of arguments -/

namespace Datum

variable {Value : Type}

theorem namedArguments_rename (arguments : Fields String Value) :
    namedArguments (arguments.rename .text) = .ok arguments := by
  induction arguments with
  | nil => rfl
  | cons argument rest inductionHypothesis =>
    rw [Fields.rename] at inductionHypothesis ⊢
    rw [List.map_cons, namedArguments, inductionHypothesis, Except.map]

/-- The names of a dictionary can be those of arguments exactly if they are texts. -/
theorem namedArguments_eq_ok_iff
    (named : Fields Datum Value)
    (arguments : Fields String Value) :
    namedArguments named = .ok arguments ↔ named = arguments.rename .text := by
  refine ⟨fun read => ?_, fun same => same ▸ namedArguments_rename arguments⟩
  induction named generalizing arguments with
  | nil =>
    obtain rfl := Except.ok.inj read
    rfl
  | cons argument rest inductionHypothesis =>
    obtain ⟨name, value⟩ := argument
    cases name with
    | text name =>
      cases readRest : namedArguments rest with
      | error fault => simp [namedArguments, readRest, Except.map] at read
      | ok others =>
        simp only [namedArguments, readRest, Except.map, Except.ok.injEq] at read
        rw [← read, inductionHypothesis others readRest]
        rfl
    | _ => simp [namedArguments] at read

end Datum

namespace Signature

variable (signature : Signature)

def isParameter (argument : String × Datum) : Bool :=
  decide (argument.1 ∈ signature.parameters)

/-- The parameters that a call gives: those by position, then those by name. -/
def given (positional : List Datum) (named : Fields String Datum) : Fields String Datum :=
  signature.parameters.zip positional ++ named.filter signature.isParameter

/-- The arguments of a call that are for no parameter, in the order of the call. -/
def besides (named : Fields String Datum) : Fields String Datum :=
  named.filter fun argument => !signature.isParameter argument

/-- A call that is taken names no argument `self`, gives nothing that is not kept, no parameter
twice, not too many by position, and all that are required. -/
structure Takes (positional : List Datum) (named : Fields String Datum) : Prop where
  noSelf : "self" ∉ named.map Prod.fst
  kept : signature.keepsOthers = true ∨ signature.besides named = []
  once : Fields.Distinct (signature.given positional named)
  fits : positional.length ≤ signature.parameters.length
  complete : ∀ name ∈ signature.required, (signature.given positional named).has name = true

variable {signature}

/-! ## Arguments by name -/

theorem filter_isParameter_cons_of_mem
    {name : String}
    (member : name ∈ signature.parameters)
    (value : Datum)
    (rest : Fields String Datum) :
    ((name, value) :: rest).filter signature.isParameter =
        (name, value) :: rest.filter signature.isParameter ∧
      signature.besides ((name, value) :: rest) = signature.besides rest := by
  simp [isParameter, besides, member]

theorem filter_isParameter_cons_of_not_mem
    {name : String}
    (foreign : name ∉ signature.parameters)
    (value : Datum)
    (rest : Fields String Datum) :
    ((name, value) :: rest).filter signature.isParameter = rest.filter signature.isParameter ∧
      signature.besides ((name, value) :: rest) = (name, value) :: signature.besides rest := by
  simp [isParameter, besides, foreign]

variable (signature) in
/-- Named arguments are bound behind those that are bound already, each as a parameter or kept
besides, unless one of them stops the walk. -/
theorem bindNamed_eq_ok_iff
    (binding : Binding)
    (distinct : Fields.Distinct binding.bound)
    (named : Fields String Datum)
    (result : Binding) :
    signature.bindNamed binding named = .ok result ↔
      ("self" ∉ named.map Prod.fst ∧
        (signature.keepsOthers = true ∨ signature.besides named = []) ∧
        Fields.Distinct (binding.bound ++ named.filter signature.isParameter)) ∧
      result = ⟨binding.bound ++ named.filter signature.isParameter,
        binding.others ++ signature.besides named⟩ := by
  induction named generalizing binding with
  | nil =>
    have bound : signature.bindNamed binding [] = .ok result ↔ result = binding := by
      rw [bindNamed, Except.ok.injEq, eq_comm]
    simp [bound, besides, distinct]
  | cons argument rest inductionHypothesis =>
    obtain ⟨name, value⟩ := argument
    by_cases isSelf : name = "self"
    · simp [bindNamed, isSelf]
    have noSelf : "self" ∉ ((name, value) :: rest).map Prod.fst ↔ "self" ∉ rest.map Prod.fst := by
      simp [Ne.symm isSelf]
    by_cases member : name ∈ signature.parameters
    · obtain ⟨ofParameters, ofOthers⟩ := filter_isParameter_cons_of_mem member value rest
      rw [ofParameters, ofOthers, noSelf]
      by_cases bound : binding.bound.has name = true
      · simp [bindNamed, isSelf, member, bound, Fields.not_distinct_of_has bound]
      · have step : signature.bindNamed binding ((name, value) :: rest) =
            signature.bindNamed { binding with bound := binding.bound ++ [(name, value)] }
              rest := by
          simp [bindNamed, isSelf, member, bound]
        rw [step, inductionHypothesis ⟨binding.bound ++ [(name, value)], binding.others⟩
          (distinct.concat bound value)]
        simp only [List.append_assoc, List.singleton_append]
    · obtain ⟨ofParameters, ofOthers⟩ := filter_isParameter_cons_of_not_mem member value rest
      rw [ofParameters, ofOthers, noSelf]
      cases keeps : signature.keepsOthers with
      | false => simp [bindNamed, isSelf, member, keeps]
      | true =>
        have step : signature.bindNamed binding ((name, value) :: rest) =
            signature.bindNamed { binding with others := binding.others ++ [(name, value)] }
              rest := by
          simp [bindNamed, isSelf, member, keeps]
        rw [step, inductionHypothesis ⟨binding.bound, binding.others ++ [(name, value)]⟩ distinct]
        simp only [keeps, true_or, List.append_assoc, List.singleton_append]

/-! ## Whole calls -/

theorem distinct_zip
    (parameters : signature.parameters.Nodup)
    (positional : List Datum) :
    Fields.Distinct (signature.parameters.zip positional) := by
  have names (parameters : List String) (values : List Datum) :
      ((parameters.zip values).map Prod.fst).Sublist parameters := by
    induction parameters generalizing values with
    | nil => simp
    | cons parameter rest inductionHypothesis =>
      cases values with
      | nil => simp
      | cons value values => exact (inductionHypothesis values).cons_cons parameter
  exact (names signature.parameters positional).nodup parameters

/-- A call is bound exactly if it is taken, and then to the parameters that it gives and to what it
gives besides. -/
theorem bind_eq_ok_iff
    (parameters : signature.parameters.Nodup)
    (positional : List Datum)
    (named : Fields String Datum)
    (binding : Binding) :
    signature.bind positional named = .ok binding ↔
      signature.Takes positional named ∧
        binding = ⟨signature.given positional named, signature.besides named⟩ := by
  have byName (result : Binding) := signature.bindNamed_eq_ok_iff
    ⟨signature.parameters.zip positional, []⟩ (distinct_zip parameters positional) named result
  simp only [List.nil_append] at byName
  unfold bind
  rw [Sorting.bind_eq_ok]
  constructor
  · rintro ⟨made, bound, checked⟩
    obtain ⟨⟨noSelf, kept, once⟩, rfl⟩ := (byName made).mp bound
    by_cases tooMany : signature.parameters.length < positional.length
    · simp [tooMany] at checked
    · simp only [tooMany, if_false] at checked
      split at checked
      next noneMissing =>
        obtain rfl := Except.ok.inj checked
        refine ⟨⟨noSelf, kept, once, by omega, ?_⟩, rfl⟩
        intro name required
        have found := (List.filter_eq_nil_iff.mp noneMissing) name required
        simpa [given] using found
      next => contradiction
  · rintro ⟨takes, rfl⟩
    refine ⟨_, (byName _).mpr ⟨⟨takes.noSelf, takes.kept, takes.once⟩, rfl⟩, ?_⟩
    have noneMissing : signature.required.filter
        (fun name => !(signature.given positional named).has name) = [] := by
      rw [List.filter_eq_nil_iff]
      intro name required
      simp [takes.complete name required]
    have fits : ¬ signature.parameters.length < positional.length := by
      have most := takes.fits
      omega
    simp only [given] at noneMissing ⊢
    simp only [fits, if_false, noneMissing]

/-- Two calls give the same: the same parameters with the same values, in whichever order and way,
and the same other arguments in the same order. -/
structure GiveAlike
    (signature : Signature)
    (positional : List Datum)
    (named : Fields String Datum)
    (otherPositional : List Datum)
    (otherNamed : Fields String Datum) : Prop where
  parameters : (signature.given positional named).Perm (signature.given otherPositional otherNamed)
  others : signature.besides named = signature.besides otherNamed

/-- Where one of two calls that give the same is taken, the other one is taken too, unless it has
too many arguments by position. -/
theorem Takes.alike
    {positional otherPositional : List Datum}
    {named otherNamed : Fields String Datum}
    (noSelf : "self" ∉ signature.parameters)
    (takes : signature.Takes positional named)
    (alike : signature.GiveAlike positional named otherPositional otherNamed)
    (fits : otherPositional.length ≤ signature.parameters.length) :
    signature.Takes otherPositional otherNamed where
  noSelf := by
    intro member
    obtain ⟨argument, argumentMember, isSelf⟩ := List.mem_map.mp member
    -- Such an argument is for no parameter, so the first call has it as well.
    have besidesOther : argument ∈ signature.besides otherNamed := by
      refine List.mem_filter.mpr ⟨argumentMember, ?_⟩
      simpa [isParameter, isSelf] using noSelf
    rw [← alike.others] at besidesOther
    exact takes.noSelf (List.mem_map.mpr ⟨argument, (List.mem_filter.mp besidesOther).1, isSelf⟩)
  kept := by
    rw [← alike.others]
    exact takes.kept
  once := (alike.parameters.map Prod.fst).nodup_iff.mp takes.once
  fits := fits
  complete := by
    intro name required
    have found := takes.complete name required
    rw [Fields.has_iff_mem] at found ⊢
    exact (alike.parameters.map Prod.fst).mem_iff.mp found

end Signature

/-- No class has a parameter twice, or one under the name of the object under construction. -/
theorem ProblemClass.parameters_distinct (problemClass : ProblemClass) :
    problemClass.signature.parameters.Nodup ∧
      "self" ∉ problemClass.signature.parameters := by
  cases problemClass <;> decide

end Attachments
