import Attachments.Event.Logger

/-!
Contract: the configuration that a logger follows, told by what happened moment by moment.

Owns:
- the configuration in force at a moment, of which there is exactly one;
- the first call through a logger that meets a configuration;
- the configuration that governs a call, and that it goes on governing later calls;
- how a logger stands after each moment, and that its calls follow what governs them.

Does not own: what brings a configuration, and which calls go through a logger.
-/

namespace Attachments

/-! ## Loggers apart from their history -/

/-- The values that are bound to a logger when it is got. -/
def Logger.boundBy : Datum → Event
  | .null => []
  | name => [("logger", .value name)]

/-- What comes of a call under a configuration: what its profile makes of it, or an event for the
usual steps of the library. -/
def Call.emissionUnder
    (library : LogLibrary)
    (call : Call)
    (configuration : Configuration)
    (context : Event)
    (time : String)
    (bound : Event) :
    Except Fault Emission :=
  match configuration with
  | .made profile => profile.emit library context time bound call
  | .usual => (call.event bound).map (.passedOn call.method.level)

theorem Logger.emit_eq_emissionUnder
    (library : LogLibrary)
    (logger : Logger)
    (current : Configuration)
    (context : Event)
    (time : String)
    (call : Call) :
    logger.emit library current context time call =
      call.emissionUnder library (logger.followed library current) context time logger.bound :=
  rfl

def Configuration.profile? : Configuration → Option Profile
  | .usual => none
  | .made profile => some profile

/-! ## What a history says -/

section Histories

variable (brought : Nat → Option Profile) (called : Nat → Prop)

/-- The configuration in force at a moment: the last one that was brought before, or the usual one
if none was. -/
inductive InForce (last : Nat) : Configuration → Prop where
  | absent (nothing : ∀ moment < last, brought moment = none) : InForce last .usual
  | latest
      {origin : Nat}
      {profile : Profile}
      (before : origin < last)
      (brings : brought origin = some profile)
      (kept : ∀ moment, origin < moment → moment < last → brought moment = none) :
      InForce last (.made profile)

/-- The first call behind a moment that meets a configuration that was made, and its profile. -/
structure FirstUse (first use : Nat) (profile : Profile) : Prop where
  after : first < use
  calls : called use
  meets : InForce brought use (.made profile)
  earlier : ∀ moment, first < moment → moment < use → called moment → InForce brought moment .usual

/-- The profile that was met first by the calls between two moments, if any was. -/
inductive MetBetween (first last : Nat) : Option Profile → Prop where
  | absent
      (unmet : ∀ moment, first < moment → moment < last → called moment →
        InForce brought moment .usual) :
      MetBetween first last none
  | met
      {use : Nat}
      {profile : Profile}
      (before : use < last)
      (firstUse : FirstUse brought called first use profile) :
      MetBetween first last (some profile)

/-- The configuration that governs a call at `last` through a logger that was got at `first`. With a
name it is the one in force when the logger was got, without a name the one that its calls met first
of those that were made. Before logging is configured the usual one governs. -/
inductive Governs (name : Datum) (first last : Nat) : Configuration → Prop where
  | named
      {configuration : Configuration}
      (isNamed : name ≠ .null)
      (inForce : InForce brought first configuration) :
      Governs name first last configuration
  | unnamed
      {use : Nat}
      {profile : Profile}
      (isUnnamed : name = .null)
      (firstUse : FirstUse brought called first use profile)
      (before : use ≤ last) :
      Governs name first last (.made profile)
  | unconfigured
      (isUnnamed : name = .null)
      (nothing : InForce brought last .usual) :
      Governs name first last .usual

end Histories

variable {brought : Nat → Option Profile} {called : Nat → Prop}
variable {first last : Nat} {current other : Configuration} {met? other? : Option Profile}

/-! ## The configuration in force -/

namespace InForce

theorem zero : InForce brought 0 .usual :=
  .absent fun moment impossible => absurd impossible (Nat.not_lt_zero moment)

/-- What a moment brings is in force behind it. A moment that brings nothing changes nothing. -/
theorem succ (inForce : InForce brought last current) :
    InForce brought (last + 1) (((brought last).map .made).getD current) := by
  cases brings : brought last with
  | some profile =>
    refine .latest (Nat.lt_succ_self last) brings fun moment after before => ?_
    omega
  | none =>
    have quiet (moment : Nat) (before : moment < last + 1)
        (earlier : moment < last → brought moment = none) :
        brought moment = none := by
      rcases Nat.lt_succ_iff_lt_or_eq.mp before with sooner | rfl
      · exact earlier sooner
      · exact brings
    cases inForce with
    | absent nothing => exact .absent fun moment before => quiet moment before (nothing moment)
    | latest before brought kept =>
      exact .latest (Nat.lt_succ_of_lt before) brought fun moment after before =>
        quiet moment before (kept moment after)

theorem unique
    (inForce : InForce brought last current)
    (otherInForce : InForce brought last other) :
    current = other := by
  cases inForce with
  | absent nothing =>
    cases otherInForce with
    | absent _ => rfl
    | latest before brings _ => exact absurd brings (by simp [nothing _ before])
  | @latest origin profile before brings kept =>
    cases otherInForce with
    | absent nothing => exact absurd brings (by simp [nothing _ before])
    | @latest otherOrigin otherProfile otherBefore otherBrings otherKept =>
      rcases Nat.lt_trichotomy origin otherOrigin with sooner | rfl | later
      · exact absurd otherBrings (by simp [kept _ sooner otherBefore])
      · rw [Option.some.inj (brings.symm.trans otherBrings)]
      · exact absurd brings (by simp [otherKept _ later before])

/-- Where the usual configuration is in force, it always was. -/
theorem usual_of_le
    (nothing : InForce brought last .usual)
    (ordered : first ≤ last) :
    InForce brought first .usual := by
  cases nothing with
  | absent nothing =>
    exact .absent fun moment before => nothing moment (Nat.lt_of_lt_of_le before ordered)

end InForce

/-! ## The configuration met first -/

namespace MetBetween

theorem start : MetBetween brought called first (first + 1) none := by
  refine .absent fun moment after before => ?_
  omega

/-- Without a call nothing is met. -/
theorem succ_of_not_called
    (met : MetBetween brought called first last met?)
    (idle : ¬ called last) :
    MetBetween brought called first (last + 1) met? := by
  cases met with
  | absent unmet =>
    refine .absent fun moment after before calls => ?_
    have different : moment ≠ last := by
      rintro rfl
      exact idle calls
    exact unmet moment after (by omega) calls
  | met before firstUse => exact .met (Nat.lt_succ_of_lt before) firstUse

/-- A call meets what is in force, unless something was met before. -/
theorem succ_of_called
    (met : MetBetween brought called first last met?)
    (after : first < last)
    (calls : called last)
    (inForce : InForce brought last current) :
    MetBetween brought called first (last + 1) (met? <|> current.profile?) := by
  cases met with
  | met before firstUse => exact .met (Nat.lt_succ_of_lt before) firstUse
  | absent unmet =>
    cases current with
    | made profile => exact .met (Nat.lt_succ_self last) ⟨after, calls, inForce, unmet⟩
    | usual =>
      refine .absent fun moment behind before called => ?_
      rcases Nat.lt_succ_iff_lt_or_eq.mp before with sooner | rfl
      · exact unmet moment behind sooner called
      · exact inForce

end MetBetween

/-- There is at most one first call that meets a configuration. -/
theorem FirstUse.unique
    {use otherUse : Nat}
    {profile otherProfile : Profile}
    (firstUse : FirstUse brought called first use profile)
    (otherFirst : FirstUse brought called first otherUse otherProfile) :
    profile = otherProfile := by
  rcases Nat.lt_trichotomy use otherUse with sooner | rfl | later
  · have nothing := otherFirst.earlier use firstUse.after sooner firstUse.calls
    exact absurd (firstUse.meets.unique nothing) (by simp)
  · exact Configuration.made.inj (firstUse.meets.unique otherFirst.meets)
  · have nothing := firstUse.earlier otherUse otherFirst.after later otherFirst.calls
    exact absurd (otherFirst.meets.unique nothing) (by simp)

theorem MetBetween.unique
    (met : MetBetween brought called first last met?)
    (otherMet : MetBetween brought called first last other?) :
    met? = other? := by
  cases met with
  | absent unmet =>
    cases otherMet with
    | absent _ => rfl
    | met before firstUse =>
      have nothing := unmet _ firstUse.after before firstUse.calls
      exact absurd (firstUse.meets.unique nothing) (by simp)
  | met before firstUse =>
    cases otherMet with
    | absent unmet =>
      have nothing := unmet _ firstUse.after before firstUse.calls
      exact absurd (firstUse.meets.unique nothing) (by simp)
    | met _ otherFirst => rw [firstUse.unique otherFirst]

/-! ## What governs a call -/

section Governing

variable {name : Datum}

/-- A configuration that was made goes on governing calls, whatever is brought later. -/
theorem Governs.lasting
    {profile : Profile}
    {later : Nat}
    (governs : Governs brought called name first last (.made profile))
    (ordered : last ≤ later) :
    Governs brought called name first later (.made profile) := by
  cases governs with
  | named isNamed inForce => exact .named isNamed inForce
  | unnamed isUnnamed firstUse before =>
    exact .unnamed isUnnamed firstUse (Nat.le_trans before ordered)

/-- How a logger that was got at `first` stands before the moment `last`. -/
inductive Stands (brought : Nat → Option Profile) (called : Nat → Prop) (name : Datum)
    (first last : Nat) : Logger → Prop where
  | named
      {configuration : Configuration}
      (isNamed : name ≠ .null)
      (inForce : InForce brought first configuration) :
      Stands brought called name first last ⟨Logger.boundBy name, some configuration⟩
  | unnamed
      {met? : Option Profile}
      (isUnnamed : name = .null)
      (met : MetBetween brought called first last met?) :
      Stands brought called name first last ⟨[], met?.map .made⟩

namespace Stands

variable {logger : Logger}

theorem bound_eq (stands : Stands brought called name first last logger) :
    logger.bound = Logger.boundBy name := by
  cases stands with
  | named _ _ => rfl
  | unnamed isUnnamed _ =>
    rw [isUnnamed]
    rfl

/-- A moment without a call leaves a logger as it stands. -/
theorem idle
    (stands : Stands brought called name first last logger)
    (idle : ¬ called last) :
    Stands brought called name first (last + 1) logger := by
  cases stands with
  | named isNamed inForce => exact .named isNamed inForce
  | unnamed isUnnamed met => exact .unnamed isUnnamed (met.succ_of_not_called idle)

section Library

variable {library : LogLibrary} (documented : library.Documented)
include documented

theorem create (inForce : InForce brought first current) :
    Stands brought called name first (first + 1) (Logger.create library current name) := by
  by_cases isUnnamed : name = .null
  · rw [isUnnamed]
    exact .unnamed rfl .start
  · have named : Logger.create library current name =
        ⟨Logger.boundBy name, some (library.bindsTo current)⟩ := by
      cases name with
      | null => contradiction
      | _ => rfl
    rw [named, documented.binds]
    exact .named isUnnamed inForce

/-- A call without a name follows what was met first, and what is in force if nothing was. -/
theorem followed_unnamed (met? : Option Profile) (current : Configuration) :
    Logger.followed library ⟨[], met?.map .made⟩ current = (met?.map .made).getD current := by
  rw [Logger.followed, documented.binds]

theorem settled
    (stands : Stands brought called name first last logger)
    (after : first < last)
    (calls : called last)
    (inForce : InForce brought last current) :
    Stands brought called name first (last + 1) (logger.settled library current) := by
  cases stands with
  | @named configuration isNamed inForceThen =>
    have same : Logger.settled library ⟨Logger.boundBy name, some configuration⟩ current =
        ⟨Logger.boundBy name, some configuration⟩ := by
      unfold Logger.settled
      split <;> rfl
    rw [same]
    exact .named isNamed inForceThen
  | @unnamed met? isUnnamed met =>
    have later : Logger.settled library ⟨[], met?.map .made⟩ current =
        ⟨[], (met? <|> current.profile?).map .made⟩ := by
      rw [Logger.settled, documented.keeps, followed_unnamed documented]
      cases current <;> cases met? <;> rfl
    rw [later]
    exact .unnamed isUnnamed (met.succ_of_called after calls inForce)

theorem followed_eq
    (stands : Stands brought called name first last logger)
    (after : first < last)
    (calls : called last)
    (inForce : InForce brought last current)
    {configuration : Configuration}
    (governs : Governs brought called name first last configuration) :
    logger.followed library current = configuration := by
  cases stands with
  | named isNamed keptInForce =>
    cases governs with
    | named _ inForceThen => exact keptInForce.unique inForceThen
    | unnamed isUnnamed _ _ => contradiction
    | unconfigured isUnnamed _ => contradiction
  | @unnamed met? isUnnamed met =>
    have metHere := met.succ_of_called after calls inForce
    rw [followed_unnamed documented]
    cases governs with
    | named isNamed _ => contradiction
    | unnamed _ firstUse before =>
      have first := metHere.unique (.met (Nat.lt_succ_of_le before) firstUse)
      cases current <;> cases met? <;> simp_all [Configuration.profile?]
    | unconfigured _ nothing =>
      have unmet := metHere.unique (.absent fun moment _ before _ =>
        nothing.usual_of_le (Nat.le_of_lt_succ before))
      cases current <;> cases met? <;> simp_all [Configuration.profile?]

theorem governed
    (stands : Stands brought called name first last logger)
    (after : first < last)
    (calls : called last)
    (inForce : InForce brought last current) :
    Governs brought called name first last (logger.followed library current) := by
  cases stands with
  | named isNamed keptInForce => exact .named isNamed keptInForce
  | @unnamed met? isUnnamed met =>
    have metHere := met.succ_of_called after calls inForce
    rw [followed_unnamed documented]
    cases met? with
    | some profile =>
      cases metHere with
      | met before firstUse => exact .unnamed isUnnamed firstUse (Nat.le_of_lt_succ before)
    | none =>
      cases current with
      | usual => exact .unconfigured isUnnamed inForce
      | made profile =>
        cases metHere with
        | met before firstUse => exact .unnamed isUnnamed firstUse (Nat.le_of_lt_succ before)

end Library

end Stands

end Governing

end Attachments
