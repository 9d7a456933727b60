import Attachments.Proofs.Settings.History
import Attachments.Settings.Cache

/-!
Contract: a cache of settings in step with its history.

Owns:
- the mark that tells whether given settings are the ones shown last;
- that a cache keeps and gives the settings of the first successful load since the last clear, and
  a failure only if there is none;
- that settings are marked as shown exactly if they were shown since the last clear.

Does not own: which steps use a cache, and what a load finds.
-/

namespace Attachments

/-- The mark of the settings shown last, after settings were asked for. A failure leaves it. -/
def Cache.markShown {Settings Issues : Type} (shown : Option Nat) :
    Except Issues (Loaded Settings) → Option Nat
  | .ok loaded => some loaded.serial
  | .error _ => shown

/-- A cache, and the serial number of the settings shown last. -/
structure CacheView (Settings : Type) where
  cache : Cache Settings
  shown : Option Nat

/-- What one moment leaves, if a load at that moment would end in the given way. -/
def CacheView.after {Settings Issues : Type}
    (load : Except Issues Settings)
    (view : CacheView Settings) :
    CacheUse → CacheView Settings
  | .untouched => view
  | .taken => { view with cache := (view.cache.get load).2 }
  | .shown =>
    ⟨(view.cache.get load).2, Cache.markShown view.shown (view.cache.get load).1⟩
  | .cleared => { view with cache := view.cache.clear }

theorem CacheView.after_cache {Settings Issues : Type}
    {load : Except Issues Settings}
    {view : CacheView Settings}
    {use : CacheUse}
    (asks : use.asks = true) :
    (view.after load use).cache = (view.cache.get load).2 := by
  cases use with
  | taken => rfl
  | shown => rfl
  | untouched => contradiction
  | cleared => contradiction

/-- If nothing could be given, nothing changed. -/
theorem CacheView.after_of_failure {Settings Issues : Type}
    {load : Except Issues Settings}
    {view : CacheView Settings}
    {issues : Issues}
    {after : Cache Settings}
    (failed : view.cache.get load = (.error issues, after))
    {use : CacheUse}
    (asks : use.asks = true) :
    view.after load use = view := by
  have same := Cache.get_of_error failed
  cases use with
  | taken => rw [CacheView.after, failed, same]
  | shown => rw [CacheView.after, failed, same, Cache.markShown]
  | untouched => contradiction
  | cleared => contradiction

/-- A cache from its beginning on, moment by moment. -/
structure Timeline {Settings Issues : Type}
    (use : Nat → CacheUse)
    (load : Nat → Except Issues Settings)
    (view : Nat → CacheView Settings) :
    Prop where
  start : view 0 = ⟨.empty, none⟩
  next : ∀ moment, view (moment + 1) = (view moment).after (load moment) (use moment)

/-! ## What a cache holds -/

section Held

variable {Settings Issues : Type}

/-- A cache gives what it keeps, else what a load brings, which it keeps from then on. A load that
fails leaves it as it was. -/
theorem Cache.get_cases (cache : Cache Settings) (load : Except Issues Settings) :
    (∃ loaded, cache.kept = some loaded ∧ cache.get load = (.ok loaded, cache)) ∨
    (∃ settings, cache.kept = none ∧ load = .ok settings ∧
      cache.get load =
        (.ok ⟨settings, cache.loads⟩, ⟨some ⟨settings, cache.loads⟩, cache.loads + 1⟩)) ∨
    (∃ issues, cache.kept = none ∧ load = .error issues ∧
      cache.get load = (.error issues, cache)) := by
  cases kept : cache.kept with
  | some loaded => exact .inl ⟨loaded, rfl, get_of_kept kept load⟩
  | none =>
    cases load with
    | ok settings => exact .inr (.inl ⟨settings, rfl, rfl, by simp [get, kept]⟩)
    | error issues => exact .inr (.inr ⟨issues, rfl, rfl, by simp [get, kept]⟩)

/-- A failure means that nothing was kept and that the load failed. -/
theorem Cache.free_of_get
    {cache after : Cache Settings}
    {load : Except Issues Settings}
    {issues : Issues}
    (failed : cache.get load = (.error issues, after)) :
    cache.kept = none ∧ load = .error issues := by
  rcases cache.get_cases load with
    ⟨loaded, _, given⟩ | ⟨settings, _, _, given⟩ | ⟨other, free, fails, given⟩
  · rw [given] at failed
    exact nomatch congrArg Prod.fst failed
  · rw [given] at failed
    exact nomatch congrArg Prod.fst failed
  · rw [given] at failed
    exact ⟨free, fails.trans (congrArg Except.error (Except.error.inj (Prod.mk.inj failed).1))⟩

/-- A cache holds what its history says. Serial numbers are given out one after the other. -/
structure Tells
    (use : Nat → CacheUse)
    (load : Nat → Except Issues Settings)
    (last : Nat)
    (cache : Cache Settings) :
    Prop where
  held : ∀ loaded, cache.kept = some loaded →
    ∃ origin, FirstLoad use load last origin loaded.settings
  free : cache.kept = none → NothingLoaded use load last
  numbered : ∀ loaded, cache.kept = some loaded → loaded.serial < cache.loads

/-- The settings that a cache holds are those shown last exactly if they were shown since the last
clear. A mark from before a clear fits no later load. -/
structure Marks
    (use : Nat → CacheUse)
    (load : Nat → Except Issues Settings)
    (last : Nat)
    (view : CacheView Settings) :
    Prop where
  marked : ∀ mark, view.shown = some mark → mark < view.cache.loads
  shown : (∃ loaded, view.cache.kept = some loaded ∧ view.shown = some loaded.serial) ↔
    ShownSince use load last

variable {use : Nat → CacheUse} {load : Nat → Except Issues Settings}
variable {last : Nat}

theorem Tells.start : Tells use load 0 (.empty : Cache Settings) where
  held := nofun
  free := fun _ earlier before => absurd before (Nat.not_lt_zero earlier)
  numbered := nofun

theorem Tells.clear
    {cache : Cache Settings}
    (clears : use last = .cleared) :
    Tells use load (last + 1) cache.clear where
  held := nofun
  free := fun _ => nothingLoaded_of_cleared clears
  numbered := nofun

theorem Marks.start : Marks use load 0 (⟨.empty, none⟩ : CacheView Settings) where
  marked := nofun
  shown := by
    refine iff_of_false ?_ ?_
    · rintro ⟨loaded, kept, _⟩
      contradiction
    · rintro ⟨moment, before, _⟩
      exact absurd before (Nat.not_lt_zero moment)

section Told

variable {cache : Cache Settings} (tells : Tells use load last cache)
include tells

theorem Tells.succ
    (keeps : use last ≠ .cleared)
    (loadsNothing : cache.kept = none → ∀ settings, ¬ LoadsAt use load last settings) :
    Tells use load (last + 1) cache where
  held := fun loaded kept =>
    (tells.held loaded kept).imp fun _ firstLoad => firstLoad.succ keeps
  free := fun free => (tells.free free).succ (loadsNothing free)
  numbered := tells.numbered

theorem Tells.get (asks : (use last).asks = true) :
    Tells use load (last + 1) (cache.get (load last)).2 := by
  have keeps : use last ≠ .cleared := by
    intro clears
    rw [clears] at asks
    contradiction
  rcases cache.get_cases (load last) with
    ⟨loaded, kept, given⟩ | ⟨settings, free, loads, given⟩ | ⟨issues, free, fails, given⟩
  · rw [given]
    refine tells.succ keeps fun free => ?_
    rw [kept] at free
    contradiction
  · rw [given]
    have firstLoad := (tells.free free).firstLoad ⟨asks, loads⟩
    refine ⟨fun loaded kept => ?_, fun free => absurd free (Option.some_ne_none _),
      fun loaded kept => ?_⟩
    · obtain rfl := Option.some.inj kept
      exact ⟨last, firstLoad⟩
    · obtain rfl := Option.some.inj kept
      exact Nat.lt_succ_self cache.loads
  · rw [given]
    refine tells.succ keeps fun _ settings loads => ?_
    have succeeds : load last = .ok settings := loads.2
    rw [fails] at succeeds
    contradiction

/-- What is given is what the history calls for. -/
theorem Tells.given (asks : (use last).asks = true) :
    GivenAt use load last ((cache.get (load last)).1.map Loaded.settings) := by
  rcases outcome : cache.get (load last) with ⟨issues | loaded, after⟩
  · obtain ⟨free, fails⟩ := Cache.free_of_get outcome
    exact ⟨tells.free free, fails⟩
  · have later := tells.get asks
    rw [outcome] at later
    exact later.held loaded (Cache.kept_of_get outcome)

end Told

section Marked

variable {view : CacheView Settings} (marks : Marks use load last view)
include marks

/-- Given settings are those shown last exactly if they were shown since the last clear. -/
theorem Marks.same_iff
    {loaded : Loaded Settings}
    (given : (view.cache.get (load last)).1 = .ok loaded) :
    view.shown = some loaded.serial ↔ ShownSince use load last := by
  rw [← marks.shown]
  rcases view.cache.get_cases (load last) with
    ⟨held, kept, outcome⟩ | ⟨settings, free, _, outcome⟩ | ⟨issues, _, _, outcome⟩
  · rw [outcome] at given
    obtain rfl := Except.ok.inj given
    constructor
    · exact fun same => ⟨held, kept, same⟩
    · rintro ⟨other, keptOther, same⟩
      rw [kept] at keptOther
      rw [same, Option.some.inj keptOther]
  · rw [outcome] at given
    obtain rfl := Except.ok.inj given
    constructor
    · exact fun same => absurd (marks.marked _ same) (Nat.lt_irrefl _)
    · rintro ⟨other, kept, _⟩
      rw [free] at kept
      contradiction
  · rw [outcome] at given
    contradiction

theorem Marks.succ
    (showsNothing : use last ≠ .shown)
    (keeps : use last ≠ .cleared) :
    Marks use load (last + 1) view where
  marked := marks.marked
  shown := marks.shown.trans (shownSince_succ showsNothing keeps).symm

/-- New settings have not been shown yet, even if they look like old ones. -/
theorem Marks.take (takes : use last = .taken) :
    Marks use load (last + 1) { view with cache := (view.cache.get (load last)).2 } := by
  have showsNothing : use last ≠ .shown := by simp [takes]
  have keeps : use last ≠ .cleared := by simp [takes]
  rcases view.cache.get_cases (load last) with
    ⟨_, _, given⟩ | ⟨settings, free, _, given⟩ | ⟨_, _, _, given⟩
  · rw [given]
    exact marks.succ showsNothing keeps
  · rw [given]
    refine ⟨fun mark same => Nat.lt_succ_of_lt (marks.marked mark same), ?_⟩
    rw [shownSince_succ showsNothing keeps, ← marks.shown]
    constructor
    · rintro ⟨loaded, kept, same⟩
      obtain rfl := Option.some.inj kept
      exact absurd (marks.marked _ same) (Nat.lt_irrefl _)
    · rintro ⟨loaded, kept, _⟩
      rw [free] at kept
      contradiction
  · rw [given]
    exact marks.succ showsNothing keeps

theorem Marks.clear (clears : use last = .cleared) :
    Marks use load (last + 1) { view with cache := view.cache.clear } where
  marked := marks.marked
  shown := by
    refine iff_of_false ?_ (not_shownSince_succ_of_cleared clears)
    rintro ⟨loaded, kept, _⟩
    contradiction

/-- Given settings are marked, so they count as shown; without any, nothing was shown. -/
theorem Marks.show
    (tells : Tells use load last view.cache)
    (shows : use last = .shown) :
    Marks use load (last + 1)
      ⟨(view.cache.get (load last)).2,
        Cache.markShown view.shown (view.cache.get (load last)).1⟩ := by
  have later := tells.get (by rw [shows]; rfl)
  rcases outcome : view.cache.get (load last) with ⟨issues | loaded, after⟩
  · rw [outcome] at later
    have free := (Cache.free_of_get outcome).1
    obtain rfl := Cache.get_of_error outcome
    refine ⟨marks.marked, iff_of_false ?_ fun shown => ?_⟩
    · rintro ⟨loaded, kept, _⟩
      rw [free] at kept
      contradiction
    · obtain ⟨origin, settings, firstLoad⟩ := shown.firstLoad
      exact (later.free free).not_firstLoad firstLoad
  · rw [outcome] at later
    have kept : after.kept = some loaded := Cache.kept_of_get outcome
    refine ⟨fun mark same => ?_, iff_of_true ⟨loaded, kept, rfl⟩ ?_⟩
    · obtain rfl := Option.some.inj same
      exact later.numbered loaded kept
    · rw [shownSince_succ_of_shown shows]
      obtain ⟨origin, firstLoad⟩ := later.held loaded kept
      exact ⟨origin, loaded.settings, firstLoad⟩

end Marked

/-! ## Timelines -/

/-- One moment keeps both in line with the history. -/
theorem CacheView.after_tells
    {view : CacheView Settings}
    (tells : Tells use load last view.cache)
    (marks : Marks use load last view) :
    Tells use load (last + 1) (view.after (load last) (use last)).cache ∧
      Marks use load (last + 1) (view.after (load last) (use last)) := by
  cases used : use last with
  | untouched =>
    refine ⟨tells.succ ?_ fun _ _ loads => ?_, marks.succ ?_ ?_⟩
    · simp [used]
    · rw [LoadsAt, used] at loads
      exact Bool.false_ne_true loads.1
    · simp [used]
    · simp [used]
  | taken => exact ⟨tells.get (by rw [used]; rfl), marks.take used⟩
  | shown => exact ⟨tells.get (by rw [used]; rfl), marks.show tells used⟩
  | cleared => exact ⟨.clear used, marks.clear used⟩

theorem Timeline.tells
    {view : Nat → CacheView Settings}
    (timeline : Timeline use load view)
    (moment : Nat) :
    Tells use load moment (view moment).cache ∧ Marks use load moment (view moment) := by
  -- What is marked rests on what is kept, so both are carried through the moments together.
  induction moment with
  | zero =>
    rw [timeline.start]
    exact ⟨.start, .start⟩
  | succ moment inductionHypothesis =>
    rw [timeline.next]
    exact CacheView.after_tells inductionHypothesis.1 inductionHypothesis.2

/-- Kept settings stay the very same until the cache is cleared. -/
theorem Timeline.kept_stays
    {view : Nat → CacheView Settings}
    (timeline : Timeline use load view)
    {first last : Nat}
    (ordered : first ≤ last)
    {loaded : Loaded Settings}
    (kept : (view first).cache.kept = some loaded)
    (keeps : ∀ moment, first ≤ moment → moment < last → use moment ≠ .cleared) :
    (view last).cache.kept = some loaded := by
  induction ordered with
  | refl => exact kept
  | @step last ordered inductionHypothesis =>
    have before := inductionHypothesis fun moment after sooner =>
      keeps moment after (Nat.lt_succ_of_lt sooner)
    have given := Cache.get_of_kept before (load last)
    rw [timeline.next]
    cases used : use last with
    | untouched => exact before
    | taken => rw [CacheView.after, given, before]
    | shown => rw [CacheView.after, given, before]
    | cleared => exact absurd used (keeps last ordered (Nat.lt_succ_self last))

/-- What becomes of a cache when settings are asked for: it gives what its history calls for, keeps
it from then on, and stays as it was if that is a failure. -/
structure Asked
    (use : Nat → CacheUse)
    (load : Nat → Except Issues Settings)
    (view : Nat → CacheView Settings)
    (moment : Nat)
    (outcome : Except Issues Settings) :
    Prop where
  given : GivenAt use load moment outcome
  filled : ∀ settings, outcome = .ok settings →
    (view (moment + 1)).cache.kept.map Loaded.settings = some settings
  failed : ∀ issues, outcome = .error issues → view (moment + 1) = view moment

theorem Timeline.asked
    {view : Nat → CacheView Settings}
    (timeline : Timeline use load view)
    {moment : Nat}
    (asks : (use moment).asks = true) :
    Asked use load view moment
      (((view moment).cache.get (load moment)).1.map Loaded.settings) := by
  refine ⟨(timeline.tells moment).1.given asks, fun settings given => ?_, fun issues failed => ?_⟩
  · rw [timeline.next, CacheView.after_cache asks]
    rcases outcome : (view moment).cache.get (load moment) with ⟨other | loaded, after⟩
    · rw [outcome] at given
      contradiction
    · rw [outcome] at given
      obtain rfl := Except.ok.inj given
      rw [Cache.kept_of_get outcome]
      rfl
  · rw [timeline.next]
    rcases outcome : (view moment).cache.get (load moment) with ⟨other | loaded, after⟩
    · exact CacheView.after_of_failure outcome asks
    · rw [outcome] at failed
      contradiction

end Held

end Attachments
