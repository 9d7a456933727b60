/-!
Contract: the history of a cache, moment by moment.

Owns:
- the uses of a cache;
- the first successful load since the last clear, of which there is at most one, and the moments
  before which nothing was loaded;
- what has to be given to one who asks, and whether it was shown before;
- how each of these goes on from one moment to the next.

Does not own: what a cache does.
-/

namespace Attachments

/-- What a moment does with a cache: nothing, take the settings, take them and show them, or clear
the cache. -/
inductive CacheUse where
  | untouched
  | taken
  | shown
  | cleared
  deriving DecidableEq

/-- Whether settings are asked for. -/
def CacheUse.asks : CacheUse → Bool
  | .taken | .shown => true
  | .untouched | .cleared => false

/-! ## What a history says -/

section Histories

variable {Settings Issues : Type}
variable (use : Nat → CacheUse) (load : Nat → Except Issues Settings)

/-- Settings are asked for at a moment at which a load brings them. -/
def LoadsAt (moment : Nat) (settings : Settings) : Prop :=
  (use moment).asks = true ∧ load moment = .ok settings

/-- The cache is cleared after one moment and before another. -/
def ClearedBetween (first last : Nat) : Prop :=
  ∃ moment, first < moment ∧ moment < last ∧ use moment = .cleared

/-- The settings come from the first successful load, among the moments before `last`, since the
cache was cleared for the last time. -/
structure FirstLoad (last origin : Nat) (settings : Settings) : Prop where
  before : origin < last
  loads : LoadsAt use load origin settings
  kept : ¬ ClearedBetween use origin last
  first : ∀ earlier < origin, ∀ other,
    LoadsAt use load earlier other → ClearedBetween use earlier origin

/-- No load, among the moments before `last`, succeeded since the cache was cleared for the last
time. -/
def NothingLoaded (last : Nat) : Prop :=
  ∀ earlier < last, ∀ settings,
    LoadsAt use load earlier settings → ClearedBetween use earlier last

/-- What has to be given at a moment: the settings of the first successful load since the last
clear, which may be the present one, or else the failure of the present load. -/
def GivenAt (moment : Nat) : Except Issues Settings → Prop
  | .ok settings => ∃ origin, FirstLoad use load (moment + 1) origin settings
  | .error issues => NothingLoaded use load moment ∧ load moment = .error issues

/-- Settings were shown before `last`, and the cache was not cleared since. -/
def ShownSince (last : Nat) : Prop :=
  ∃ moment < last, use moment = .shown ∧
    (∃ origin settings, FirstLoad use load (moment + 1) origin settings) ∧
    ¬ ClearedBetween use moment last

variable {use load}
variable {first last moment origin : Nat} {settings other : Settings} {issues : Issues}

theorem ClearedBetween.mono
    {later : Nat}
    (cleared : ClearedBetween use first last)
    (longer : last ≤ later) :
    ClearedBetween use first later := by
  obtain ⟨moment, after, before, clears⟩ := cleared
  exact ⟨moment, after, Nat.lt_of_lt_of_le before longer, clears⟩

/-- A moment that does not clear adds nothing in between. -/
theorem clearedBetween_succ (keeps : use last ≠ .cleared) :
    ClearedBetween use first (last + 1) ↔ ClearedBetween use first last := by
  constructor
  · rintro ⟨moment, after, before, clears⟩
    have different : moment ≠ last := by
      rintro rfl
      exact keeps clears
    exact ⟨moment, after, by omega, clears⟩
  · exact fun cleared => cleared.mono (Nat.le_succ last)

theorem not_clearedBetween_self : ¬ ClearedBetween use last (last + 1) := by
  rintro ⟨moment, after, before, _⟩
  omega

/-- There is at most one first load. -/
theorem FirstLoad.unique
    {otherOrigin : Nat}
    (firstLoad : FirstLoad use load last origin settings)
    (otherLoad : FirstLoad use load last otherOrigin other) :
    origin = otherOrigin ∧ settings = other := by
  rcases Nat.lt_trichotomy origin otherOrigin with sooner | rfl | later
  · have cleared := otherLoad.first origin sooner settings firstLoad.loads
    exact absurd (cleared.mono (Nat.le_of_lt otherLoad.before)) firstLoad.kept
  · have same := firstLoad.loads.2.symm.trans otherLoad.loads.2
    exact ⟨rfl, Except.ok.inj same⟩
  · have cleared := firstLoad.first otherOrigin later other otherLoad.loads
    exact absurd (cleared.mono (Nat.le_of_lt firstLoad.before)) otherLoad.kept

theorem NothingLoaded.not_firstLoad
    (nothing : NothingLoaded use load last) :
    ¬ FirstLoad use load last origin settings :=
  fun firstLoad =>
    firstLoad.kept (nothing origin firstLoad.before settings firstLoad.loads)

theorem FirstLoad.succ
    (firstLoad : FirstLoad use load last origin settings)
    (keeps : use last ≠ .cleared) :
    FirstLoad use load (last + 1) origin settings where
  before := Nat.lt_succ_of_lt firstLoad.before
  loads := firstLoad.loads
  kept := fun cleared => firstLoad.kept ((clearedBetween_succ keeps).mp cleared)
  first := firstLoad.first

theorem NothingLoaded.succ
    (nothing : NothingLoaded use load last)
    (loadsNothing : ∀ settings, ¬ LoadsAt use load last settings) :
    NothingLoaded use load (last + 1) := by
  intro earlier before settings loads
  rcases Nat.lt_succ_iff_lt_or_eq.mp before with sooner | rfl
  · exact (nothing earlier sooner settings loads).mono (Nat.le_succ last)
  · exact absurd loads (loadsNothing settings)

/-- There is one thing that has to be given. -/
theorem GivenAt.unique
    {outcome otherOutcome : Except Issues Settings}
    (given : GivenAt use load moment outcome)
    (otherGiven : GivenAt use load moment otherOutcome) :
    outcome = otherOutcome := by
  -- Where the load fails, the first load lies before the present moment.
  have apart {settings : Settings} {issues : Issues}
      (given : GivenAt use load moment (.ok settings))
      (failed : GivenAt use load moment (.error issues : Except Issues Settings)) : False := by
    obtain ⟨origin, firstLoad⟩ := given
    refine (failed.1.succ fun settings loads => ?_).not_firstLoad firstLoad
    exact nomatch loads.2.symm.trans failed.2
  cases outcome with
  | ok settings =>
    cases otherOutcome with
    | ok other =>
      obtain ⟨origin, firstLoad⟩ := given
      obtain ⟨otherOrigin, otherLoad⟩ := otherGiven
      exact congrArg Except.ok (firstLoad.unique otherLoad).2
    | error issues => exact (apart given otherGiven).elim
  | error issues =>
    cases otherOutcome with
    | ok settings => exact (apart otherGiven given).elim
    | error other => exact given.2.symm.trans otherGiven.2

theorem nothingLoaded_of_cleared (clears : use last = .cleared) :
    NothingLoaded use load (last + 1) := by
  intro earlier before settings loads
  have different : earlier ≠ last := by
    rintro rfl
    rw [LoadsAt, clears] at loads
    exact Bool.false_ne_true loads.1
  exact ⟨last, by omega, Nat.lt_succ_self last, clears⟩

/-- A load that succeeds where nothing was loaded is a first load. -/
theorem NothingLoaded.firstLoad
    (nothing : NothingLoaded use load last)
    (loads : LoadsAt use load last settings) :
    FirstLoad use load (last + 1) last settings :=
  ⟨Nat.lt_succ_self last, loads, not_clearedBetween_self, nothing⟩

/-- A first load stays the first one as long as the cache is not cleared. -/
theorem FirstLoad.extend
    (firstLoad : FirstLoad use load (moment + 1) origin settings)
    (before : moment < last)
    (keeps : ¬ ClearedBetween use moment last) :
    FirstLoad use load last origin settings where
  before := Nat.lt_of_lt_of_le firstLoad.before before
  loads := firstLoad.loads
  kept := by
    rintro ⟨clear, after, beforeLast, clears⟩
    rcases Nat.lt_or_ge moment clear with later | sooner
    · exact keeps ⟨clear, later, beforeLast, clears⟩
    · exact firstLoad.kept ⟨clear, after, Nat.lt_succ_of_le sooner, clears⟩
  first := firstLoad.first

theorem ShownSince.firstLoad (shown : ShownSince use load last) :
    ∃ origin settings, FirstLoad use load last origin settings := by
  obtain ⟨moment, before, _, ⟨origin, settings, firstLoad⟩, keeps⟩ := shown
  exact ⟨origin, settings, firstLoad.extend before keeps⟩

theorem shownSince_succ_of_shown (shows : use last = .shown) :
    ShownSince use load (last + 1) ↔
      ∃ origin settings, FirstLoad use load (last + 1) origin settings :=
  ⟨ShownSince.firstLoad, fun firstLoad =>
    ⟨last, Nat.lt_succ_self last, shows, firstLoad, not_clearedBetween_self⟩⟩

theorem not_shownSince_succ_of_cleared (clears : use last = .cleared) :
    ¬ ShownSince use load (last + 1) := by
  intro shown
  obtain ⟨origin, settings, firstLoad⟩ := shown.firstLoad
  exact (nothingLoaded_of_cleared clears).not_firstLoad firstLoad

/-- What was shown is not changed by a moment that shows nothing and clears nothing. -/
theorem shownSince_succ
    (showsNothing : use last ≠ .shown)
    (keeps : use last ≠ .cleared) :
    ShownSince use load (last + 1) ↔ ShownSince use load last := by
  constructor
  · rintro ⟨moment, before, shows, firstLoad, keepsSince⟩
    rcases Nat.lt_succ_iff_lt_or_eq.mp before with sooner | rfl
    · exact ⟨moment, sooner, shows, firstLoad, fun cleared =>
        keepsSince (cleared.mono (Nat.le_succ last))⟩
    · exact absurd shows showsNothing
  · rintro ⟨moment, before, shows, firstLoad, keepsSince⟩
    exact ⟨moment, Nat.lt_succ_of_lt before, shows, firstLoad, fun cleared =>
      keepsSince ((clearedBetween_succ keeps).mp cleared)⟩

end Histories

end Attachments
