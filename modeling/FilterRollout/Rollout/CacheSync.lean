import FilterRollout.Cache.Registry
import FilterRollout.Rollout.Program

/-! Bringing an image into the cache: register it, wait until the replicas have it, and clear their reports away. -/

namespace FilterRollout.CacheSync

open Program

/-- Register an image, and say whether it is new. The registry itself is never created here. -/
def publish (cache : CacheLocation) (image : String) : Program Bool := do
  let registry ← perform (.readRegistry cache)
  match Registry.register? registry image with
  | none => return false
  | some updated =>
    perform (.writeRegistry updated)
    return true

/-- Look once whether the replicas have an image: nothing if as many hosts reported success as replicas are ready,
otherwise what was seen instead. The replicas are counted anew each time, since some may still be starting. -/
def poll (cache : CacheLocation) (image : String) : Program (Option String) := do
  let events ← perform (.listImageEvents cache image)
  let ready : Int ← perform (.readyReplicas cache)
  return if CacheEvent.acknowledged events ready then none else some (CacheEvent.mismatch image events ready)

/-- The longest time that passes between two polls: thirty years of 365 days, the limit of the runtime's timer, which
cuts longer intervals short. -/
def longestPause : Duration := .ofSeconds (30 * 365 * 24 * 60 * 60)

/-- Poll now and up to `more` times again, `step` apart. After the last poll `rest` passes, and the wait has failed. -/
def pollUpTo (cache : CacheLocation) (image : String) (timeout step rest : Duration) : Nat → Program Unit
  | 0 => do
    match ← poll cache image with
    | none => return ()
    | some mismatch => pause rest (fail (.syncTimeout image timeout mismatch))
  | more + 1 => do
    match ← poll cache image with
    | none => return ()
    | some _ => pause step (pollUpTo cache image timeout step rest more)

/-- Wait until the replicas have an image. Polls happen at multiples of the interval, or of the longest pause if that
is shorter, up to the timeout, which a poll may meet exactly. A timeout of zero skips the wait. -/
def awaitAcknowledgment (cache : CacheLocation) (image : String) (timeout interval : Duration) : Program Unit :=
  if timeout.isZero then return ()
  else
    let step := interval.atMost longestPause
    let more := timeout.quotient step
    pollUpTo cache image timeout step (timeout.minusTimes more step) more

/-- Delete reports one after another. -/
def deleteEvents : List CacheEvent → Program Unit
  | [] => return ()
  | event :: rest => do
    perform (.deleteEvent event.namespaceName event.name)
    deleteEvents rest

/-- Delete all reports about an image, whatever they say. -/
def cleanup (cache : CacheLocation) (image : String) : Program Unit := do
  deleteEvents (← perform (.listImageEvents cache image))

/-- Register an image and, if it is new, wait for the replicas. The reports are cleared away even if the wait fails,
and then its error is the one that counts. -/
def sync (cache : CacheLocation) (image : String) (timeout interval : Duration) : Program Unit := do
  if ← publish cache image then
    let waited ← ((awaitAcknowledgment cache image timeout interval).stage
      "waiting for cache to publish event for image").attempt
    let cleaned ← ((cleanup cache image).stage "cleaning up cache events for image").attempt
    match waited with
    | .error e => fail e
    | .ok () => ofExcept cleaned

/-- The interval between two polls, which must not be zero. -/
def checkInterval (interval : Duration) : Except Error Unit :=
  if interval.isZero then invalid "cachePollInterval" "cache poll interval must be greater than zero" else .ok ()

end FilterRollout.CacheSync
