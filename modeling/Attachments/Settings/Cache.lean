/-!
Contract: settings that are loaded once and then kept.

Owns:
- the kept settings, and a serial number that tells one load from another;
- loading on demand and forgetting.

Does not own: how settings are loaded.
-/

namespace Attachments

/-- Settings with the number of the load they came from. -/
structure Loaded (Settings : Type) where
  settings : Settings
  serial : Nat
  deriving DecidableEq, Repr

/-- The settings kept, if any, and the number of loads so far. -/
structure Cache (Settings : Type) where
  kept : Option (Loaded Settings)
  loads : Nat
  deriving DecidableEq, Repr

namespace Cache

variable {Settings Issues : Type}

/-- A cache that never held anything. -/
def empty : Cache Settings :=
  ⟨none, 0⟩

/-- The kept settings, or newly loaded ones, which are then kept. A load that fails changes
nothing. -/
def get (load : Except Issues Settings) (cache : Cache Settings) :
    Except Issues (Loaded Settings) × Cache Settings :=
  match cache.kept with
  | some loaded => (.ok loaded, cache)
  | none =>
    match load with
    | .ok settings =>
      let loaded : Loaded Settings := ⟨settings, cache.loads⟩
      (.ok loaded, ⟨some loaded, cache.loads + 1⟩)
    | .error issues => (.error issues, cache)

def clear (cache : Cache Settings) : Cache Settings :=
  { cache with kept := none }

/-- Kept settings are given as they are, whatever a load would bring now. -/
theorem get_of_kept
    {cache : Cache Settings}
    {loaded : Loaded Settings}
    (kept : cache.kept = some loaded)
    (load : Except Issues Settings) :
    cache.get load = (.ok loaded, cache) := by
  simp [get, kept]

theorem kept_of_get
    {cache after : Cache Settings}
    {load : Except Issues Settings}
    {loaded : Loaded Settings}
    (given : cache.get load = (.ok loaded, after)) :
    after.kept = some loaded := by
  unfold get at given
  split at given
  · next kept =>
    obtain ⟨same, rfl⟩ := Prod.mk.inj given
    rw [kept, Except.ok.inj same]
  · split at given
    · obtain ⟨same, rfl⟩ := Prod.mk.inj given
      rw [← Except.ok.inj same]
    · cases (Prod.mk.inj given).1

theorem get_of_error
    {cache after : Cache Settings}
    {load : Except Issues Settings}
    {issues : Issues}
    (failed : cache.get load = (.error issues, after)) :
    after = cache := by
  unfold get at failed
  split at failed
  · cases (Prod.mk.inj failed).1
  · split at failed
    · cases (Prod.mk.inj failed).1
    · exact (Prod.mk.inj failed).2.symm

end Cache

end Attachments
