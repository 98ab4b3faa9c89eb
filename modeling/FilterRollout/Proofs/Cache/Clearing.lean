import FilterRollout.Proofs.Cache.Course

/-! Clearing reports away. It follows every new registration, however the wait for the replicas ends, and no other one.
If it succeeds, all reports that it listed are gone, and reports about other images are still there. Main statement:
`sync_clears`. -/

namespace FilterRollout

open Program

/-- What tells reports apart: their namespace and name. -/
def CacheEvent.address (event : CacheEvent) : String × String := (event.namespaceName, event.name)

/-- An answerer that keeps reports: it lists some of those about an image, and a deletion that it accepts takes away
what has the given namespace and name. -/
structure KeepsEvents {State : Type} (answer : Answerer State) (cache : CacheLocation) (image : String)
    (stored : State → List CacheEvent) : Prop where
  listed : ∀ {state} {reports : List CacheEvent}, (answer (.listImageEvents cache image) state).1 = .ok reports →
    ∀ event ∈ reports, event ∈ stored state ∧ event.image = image
  listing : ∀ state, stored (answer (.listImageEvents cache image) state).2 = stored state
  deleted : ∀ {state namespaceName name}, (answer (.deleteEvent namespaceName name) state).1 = .ok () →
    stored (answer (.deleteEvent namespaceName name) state).2 =
      (stored state).filter fun event => event.address ≠ (namespaceName, name)

/-- A cluster in memory keeps reports, also those that do not show yet. -/
theorem World.keepsEvents (cache : CacheLocation) (image : String) :
    KeepsEvents World.answer cache image fun world => world.events.map (·.event) where
  listed := by
    intro world reports listed event member
    simp only [World.answer] at listed
    split at listed
    · cases listed
    · obtain rfl := Except.ok.inj listed
      obtain ⟨delayed, shown, rfl⟩ := List.mem_map.mp member
      obtain ⟨here, fits⟩ := List.mem_filter.mp shown
      simp only [Bool.and_eq_true, decide_eq_true_eq] at fits
      exact ⟨List.mem_map_of_mem here, fits.1⟩
  listing := by
    intro world
    simp only [World.answer]
    split <;> rfl
  deleted := by
    intro world namespaceName name deleted
    simp only [World.answer] at deleted ⊢
    split at deleted
    · cases deleted
    · simp only [World.serve, List.filter_map]
      refine congrArg _ (List.filter_congr fun delayed _ => ?_)
      rw [Bool.eq_iff_iff]
      simp [CacheEvent.address]

namespace CacheSync

variable {State : Type} {answer : Answerer State} {cache : CacheLocation} {image : String}

section

variable {stored : State → List CacheEvent} (keeps : KeepsEvents answer cache image stored)

include keeps

/-- Deletions that are all accepted take away what they name and nothing else. -/
theorem stored_deleteEvents {reports : List CacheEvent} {state after : State}
    (success : (deleteEvents reports).outcome answer state = (.ok (), after)) :
    stored after = (stored state).filter fun event => event.address ∉ reports.map CacheEvent.address := by
  induction reports generalizing state with
  | nil =>
    obtain rfl : state = after := congrArg Prod.snd success
    simp
  | cons report rest ih =>
    obtain ⟨value, middle, deleting, later⟩ := exists_of_bind_ok success
    have one := keeps.deleted (congrArg Prod.fst deleting)
    rw [show (answer (.deleteEvent report.namespaceName report.name) state).2 = middle from
      congrArg Prod.snd deleting] at one
    rw [ih later, one, List.filter_filter]
    refine List.filter_congr fun event _ => ?_
    have address : report.address = (report.namespaceName, report.name) := rfl
    rw [Bool.eq_iff_iff, List.map_cons, address]
    simp [and_comm]

/-- Where no two reports have one address, clearing away that succeeds leaves the reports that it did not list. -/
theorem stored_cleanup {state after : State} (distinct : ((stored state).map CacheEvent.address).Nodup)
    (success : (cleanup cache image).outcome answer state = (.ok (), after)) :
    ∃ reports, (cleanup cache image).exchanges answer state =
        ⟨.listImageEvents cache image, .ok reports⟩ :: deletions reports ∧
      (∀ event ∈ reports, event.image = image) ∧ stored after = (stored state).filter (· ∉ reports) := by
  obtain ⟨(reports : List CacheEvent), middle, listed, later⟩ := exists_of_bind_ok success
  have found := keeps.listed (congrArg Prod.fst listed)
  have same : stored middle = stored state := by
    rw [← keeps.listing state]
    exact congrArg stored (congrArg Prod.snd listed).symm
  have first : (perform (.listImageEvents cache image)).exchanges answer state =
      [⟨.listImageEvents cache image, .ok reports⟩] := exchanges_perform_of (congrArg Prod.fst listed)
  refine ⟨reports, ?_, fun event member => (found event member).2, ?_⟩
  · rcases deleteEvents_ends answer reports middle with ⟨-, calls⟩ | ⟨-, -, -, e, -, failed, -⟩
    · exact (exchanges_bind_ok listed).trans (congrArg₂ (· ++ ·) first calls)
    · rw [later] at failed
      cases failed
  · rw [stored_deleteEvents keeps later, same]
    refine List.filter_congr fun event member => ?_
    rw [Bool.eq_iff_iff, decide_eq_true_iff, decide_eq_true_iff]
    refine not_congr ⟨fun named => ?_, List.mem_map_of_mem⟩
    obtain ⟨other, listed, alike⟩ := List.mem_map.mp named
    exact List.inj_on_of_nodup_map distinct (found other listed).1 member alike ▸ listed

end

/-- How a new image is settled: the wait ends in some way, the reports are cleared away all the same, and the result is
that of the clearing only if the wait did not fail. Given are the exchanges, the result and the state that is left. -/
structure Settles (answer : Answerer State) (cache : CacheLocation) (image : String) (timeout interval : Duration)
    (middle : State) (exchanges : List Exchange) (result : Except Error Unit) (last : State) (waited : State)
    (run : List Exchange) (cleaned : Except Error Unit) : Prop where
  waited_eq : waited = ((awaitAcknowledgment cache image timeout interval).outcome answer middle).2
  exchanges_eq : exchanges = (awaitAcknowledgment cache image timeout interval).exchanges answer middle ++ run
  cleaned_eq : cleaned = ((cleanup cache image).outcome answer waited).1
  clears : Clears cache image run cleaned
  result_eq : result = (inStage "waiting for cache to publish event for image"
    ((awaitAcknowledgment cache image timeout interval).outcome answer middle).1).bind fun _ =>
      inStage "cleaning up cache events for image" cleaned
  /-- The wait deletes nothing. -/
  spares : ∀ exchange ∈ (awaitAcknowledgment cache image timeout interval).exchanges answer middle,
    exchange.request.name ≠ .deleteEvent
  /-- Clearing away that succeeds leaves the reports that it did not list, and thus those about other images. -/
  leaves : cleaned = .ok () → ∀ stored, KeepsEvents answer cache image stored →
    ((stored waited).map CacheEvent.address).Nodup →
      ∃ reports, run = ⟨.listImageEvents cache image, .ok reports⟩ :: deletions reports ∧
        stored last = (stored waited).filter (· ∉ reports) ∧
        (∀ event ∈ reports, event ∉ stored last) ∧
        ∀ event ∈ stored waited, event.image ≠ image → event ∈ stored last

theorem settle_settles (answer : Answerer State) (cache : CacheLocation) (image : String) (timeout interval : Duration)
    (middle : State) :
    ∃ waited run cleaned, Settles answer cache image timeout interval middle
      ((settle cache image timeout interval).exchanges answer middle)
      ((settle cache image timeout interval).outcome answer middle).1
      ((settle cache image timeout interval).outcome answer middle).2 waited run cleaned := by
  obtain ⟨calls, ends⟩ := settle_ends answer cache image timeout interval middle
  rw [exchanges_stage, exchanges_stage, outcome_stage] at calls
  simp only [outcome_stage] at ends
  let waited := ((awaitAcknowledgment cache image timeout interval).outcome answer middle).2
  refine ⟨waited, _, ((cleanup cache image).outcome answer waited).1, rfl, calls, rfl,
    cleanup_clears answer cache image waited, ?_, ?_, ?_⟩
  · exact congrArg Prod.fst ends
  · intro exchange member
    have named := (awaitAcknowledgment_callsOnly cache image timeout interval).name_mem member
    intro same
    simp [same] at named
  · intro success stored keeps distinct
    obtain ⟨reports, run, about, left⟩ := stored_cleanup keeps distinct (Prod.ext success rfl)
    have last : ((settle cache image timeout interval).outcome answer middle).2 =
        ((cleanup cache image).outcome answer waited).2 := by rw [ends]
    rw [last, left]
    refine ⟨reports, run, rfl, ?_, ?_⟩
    · intro event listed kept
      simpa [listed] using (List.mem_filter.mp kept).2
    · intro event kept other
      refine List.mem_filter.mpr ⟨kept, ?_⟩
      simpa using fun listed => other (about event listed)

/-- Bringing an image into the cache makes no calls about reports unless it registered the image; and if it did, the
reports are cleared away however the wait for the replicas ends. -/
theorem sync_clears (answer : Answerer State) (cache : CacheLocation) (image : String) (timeout interval : Duration)
    (state : State) :
    let published := (publish cache image).outcome answer state
    let calls := (publish cache image).exchanges answer state
    let exchanges := (sync cache image timeout interval).exchanges answer state
    let ending := (sync cache image timeout interval).outcome answer state
    (∀ exchange ∈ calls, exchange.request.name ∉ [.listImageEvents, .deleteEvent]) ∧
      (∀ e after, published = (.error e, after) → exchanges = calls ∧ ending = (.error e, after)) ∧
      (∀ after, published = (.ok false, after) → exchanges = calls ∧ ending = (.ok (), after)) ∧
      ∀ middle, published = (.ok true, middle) →
        ∃ settled waited run cleaned, exchanges = calls ++ settled ∧
          Settles answer cache image timeout interval middle settled ending.1 ending.2 waited run cleaned := by
  intro published calls exchanges ending
  refine ⟨?_, ?_, ?_, ?_⟩
  · intro exchange member clears
    have named := (publish_callsOnly cache image).name_mem member
    simp only [List.mem_cons, List.not_mem_nil, or_false] at named clears
    rcases named with named | named <;> simp [named] at clears
  · intro e after failed
    exact ⟨exchanges_bind_error failed, outcome_bind_error failed⟩
  · intro after listed
    exact ⟨(exchanges_bind_ok listed).trans (List.append_nil _), outcome_bind_ok listed⟩
  · intro middle new
    have ends : ending = (settle cache image timeout interval).outcome answer middle := outcome_bind_ok new
    obtain ⟨waited, run, cleaned, settles⟩ := settle_settles answer cache image timeout interval middle
    rw [ends]
    exact ⟨_, waited, run, cleaned, exchanges_bind_ok new, settles⟩

/-- A cluster with three ready replicas, of which two have reported about an image, one of them a failure. A report
about another image has the name of one of these. -/
def reported : World where
  version := "1.8.0"
  digest := "sha256:ab"
  abiVersions := []
  registry := some ⟨.empty, none, none, none⟩
  events := [
    ⟨⟨"e0", "wasm-cache", .success, "node-0", "filters/auth:1"⟩, 0⟩,
    ⟨⟨"e1", "wasm-cache", .failure, "node-1", "filters/auth:1"⟩, 0⟩,
    ⟨⟨"e1", "default", .success, "node-2", "filters/trace:1"⟩, 0⟩]
  ready := [3]
  workloads := []
  filters := .empty
  faults := []
  counted := []

/-- That cluster once the image is registered. -/
def registered : World := ((publish Settings.default.cache "filters/auth:1").outcome World.answer reported).2

/-- And once a wait of a second is over. -/
def waitedOut : World :=
  ((awaitAcknowledgment Settings.default.cache "filters/auth:1" (.ofSeconds 1) (.ofSeconds 1)).outcome World.answer
    registered).2

/-- And once the image was to be brought into the cache. -/
def cleared : World :=
  ((sync Settings.default.cache "filters/auth:1" (.ofSeconds 1) (.ofSeconds 1)).outcome World.answer reported).2

/-- The wait is given up there, and the reports about the image are gone all the same. -/
theorem sync_clears_reported :
    (publish Settings.default.cache "filters/auth:1").outcome World.answer reported = (.ok true, registered) ∧
      (sync Settings.default.cache "filters/auth:1" (.ofSeconds 1) (.ofSeconds 1)).outcome World.answer reported =
        (.error (.context "waiting for cache to publish event for image" (.syncTimeout "filters/auth:1" (.ofSeconds 1)
          "expected 3 image-ready events for image filters/auth:1, only found \x7b\"node-0\"\x7d")), cleared) ∧
      ((waitedOut.events.map (·.event)).map CacheEvent.address).Nodup ∧
      ∃ reports : List CacheEvent,
        cleared.events.map (·.event) = (waitedOut.events.map (·.event)).filter (· ∉ reports) ∧
        (∀ event ∈ reports, event ∉ cleared.events.map (·.event)) ∧
        cleared.events.map (·.event) = [⟨"e1", "default", .success, "node-2", "filters/trace:1"⟩] := by
  have new : ((publish Settings.default.cache "filters/auth:1").outcome World.answer reported).1 = .ok true := by
    decide +kernel
  have published : (publish Settings.default.cache "filters/auth:1").outcome World.answer reported =
      (.ok true, registered) := Prod.ext new rfl
  have late : ((sync Settings.default.cache "filters/auth:1" (.ofSeconds 1) (.ofSeconds 1)).outcome World.answer
      reported).1 = .error (.context "waiting for cache to publish event for image" (.syncTimeout "filters/auth:1"
        (.ofSeconds 1)
        "expected 3 image-ready events for image filters/auth:1, only found \x7b\"node-0\"\x7d")) := by
    decide +kernel
  have distinct : ((waitedOut.events.map (·.event)).map CacheEvent.address).Nodup := by decide +kernel
  have clean : ((cleanup Settings.default.cache "filters/auth:1").outcome World.answer waitedOut).1 = .ok () := by
    decide +kernel
  obtain ⟨-, -, -, settles⟩ :=
    sync_clears World.answer Settings.default.cache "filters/auth:1" (.ofSeconds 1) (.ofSeconds 1) reported
  obtain ⟨_, waited, run, cleaned, -, settled⟩ := settles registered published
  have elapsed : waited = waitedOut := settled.waited_eq
  subst elapsed
  obtain ⟨reports, -, left, gone, -⟩ := settled.leaves (settled.cleaned_eq.trans clean) _
    (World.keepsEvents Settings.default.cache "filters/auth:1") distinct
  exact ⟨published, Prod.ext late rfl, distinct, reports, left, gone, by decide +kernel⟩

end CacheSync

end FilterRollout
