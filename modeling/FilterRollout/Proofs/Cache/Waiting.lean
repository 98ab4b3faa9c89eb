import FilterRollout.Cluster.World
import FilterRollout.Proofs.Cache.Failure
import FilterRollout.Proofs.Program.Timeline
import Mathlib.Data.List.Range

/-! How the wait for the replicas is decided: by the first poll that is complete or that fails, and otherwise by the
clock. Only the hosts of reports of success and the ready counts matter. Main statement:
`awaitAcknowledgment_decides`. -/

namespace FilterRollout

namespace Duration

theorem nanoseconds_atMost (d limit : Duration) :
    (d.atMost limit).nanoseconds = min d.nanoseconds limit.nanoseconds := by
  rw [atMost, apply_ite nanoseconds, Nat.min_def]

theorem nanoseconds_minusTimes_quotient (d interval : Duration) :
    (d.minusTimes (d.quotient interval) interval).nanoseconds = d.nanoseconds % interval.nanoseconds := by
  rw [Nat.mod_eq_sub, Nat.mul_comm]
  rfl

end Duration

namespace CacheEvent

/-- The reports about an image are complete: there are as many hosts with a report of success as ready replicas. -/
def Complete (events : List CacheEvent) (ready : Int) : Prop :=
  0 ≤ ready ∧ (successHosts events).toFinset.card = ready.toNat

theorem complete_iff {events : List CacheEvent} {ready : Int} :
    acknowledged events ready = true ↔ Complete events ready := by
  rw [acknowledged_iff, Complete]
  omega

/-- What an incomplete poll saw, with the hosts of the reports of success in order. -/
theorem mismatch_eq (image : String) (events : List CacheEvent) (ready : Int) :
    ∃ hosts : List String, hosts.Pairwise (· < ·) ∧ (∀ host, host ∈ hosts ↔ host ∈ successHosts events) ∧
      mismatch image events ready =
        s!"expected {ready} image-ready events for image {image}, only found {Text.quotedSet hosts}" :=
  ⟨(readyHosts events).keys, List.pairwise_map.mpr (readyHosts events).sorted, fun _ => mem_keys_readyHosts, rfl⟩

theorem mismatch_ne_unobserved (image : String) (events : List CacheEvent) (ready : Int) :
    mismatch image events ready ≠ "no events observed" := by
  intro same
  have first := congrArg (fun text : String => text.toList.head?) same
  have shown (text : String) : toString text = text := rfl
  simp [mismatch, shown] at first

/-- Reports from the same hosts are worth the same. -/
theorem readyHosts_congr {events others : List CacheEvent}
    (same : ∀ host, host ∈ successHosts events ↔ host ∈ successHosts others) :
    readyHosts events = readyHosts others := by
  have bound {map : SortedMap Unit} {host : String} : map.get? host = some () ↔ host ∈ map.keys :=
    ⟨fun found => SortedMap.mem_keys_iff.mpr ⟨(), found⟩, fun member => (SortedMap.mem_keys_iff.mp member).choose_spec⟩
  refine SortedMap.ext_get? fun host => Option.ext fun value => ?_
  rw [bound, bound, mem_keys_readyHosts, mem_keys_readyHosts, same]

theorem complete_congr {events others : List CacheEvent} {ready : Int}
    (same : ∀ host, host ∈ successHosts events ↔ host ∈ successHosts others) :
    Complete events ready ↔ Complete others ready := by
  rw [← complete_iff, ← complete_iff, acknowledged, acknowledged, readyHosts_congr same]

theorem mismatch_congr {events others : List CacheEvent} (image : String) (ready : Int)
    (same : ∀ host, host ∈ successHosts events ↔ host ∈ successHosts others) :
    mismatch image events ready = mismatch image others ready := by
  rw [mismatch, mismatch, readyHosts_congr same]

end CacheEvent

namespace CacheSync

open CacheEvent (Complete successHosts)
open Program

variable {State Other : Type} (answer : Answerer State) (cache : CacheLocation) (image : String)

/-- The two calls of a poll: the reports are listed, and then the ready replicas are counted. -/
def look : Program (List CacheEvent × Int) :=
  (perform (.listImageEvents cache image)).bind fun events =>
    (perform (.readyReplicas cache)).bind fun ready => done (.ok (events, ready))

/-- The state before the poll of this number, counted from zero. -/
def beforePoll (state : State) (number : Nat) : State :=
  (fun now => ((look cache image).outcome answer now).2)^[number] state

/-- What the poll of this number sees: the reports and the ready count, or the error of the call that failed. -/
def sight (state : State) (number : Nat) : Except Error (List CacheEvent × Int) :=
  ((look cache image).outcome answer (beforePoll answer cache image state number)).1

/-- The calls of the poll of this number, made at one moment. -/
def pollAt (state : State) (number moment : Nat) : List (Nat × Exchange) :=
  ((look cache image).exchanges answer (beforePoll answer cache image state number)).map (moment, ·)

/-- A poll that was answered and is not complete. -/
def Incomplete (seen : Except Error (List CacheEvent × Int)) : Prop :=
  ∃ events ready, seen = .ok (events, ready) ∧ ¬ Complete events ready

/-- How the last poll, made at a moment, decides a wait: by what it saw, or because the next one would be too late.
Given are the result and the moment at which the wait ends. -/
inductive Decides (image : String) (timeout step : Duration) (moment : Nat) :
    Except Error (List CacheEvent × Int) → Except Error Unit → Nat → Prop
  | complete {events : List CacheEvent} {ready : Int} (complete : Complete events ready) :
      Decides image timeout step moment (.ok (events, ready)) (.ok ()) moment
  | failed (e : Error) : Decides image timeout step moment (.error e) (.error e) moment
  | gaveUp {events : List CacheEvent} {ready : Int} {hosts : List String} {mismatch : String}
      (incomplete : ¬ Complete events ready) (late : timeout.nanoseconds < moment + step.nanoseconds)
      (ascending : hosts.Pairwise (· < ·)) (reported : ∀ host, host ∈ hosts ↔ host ∈ successHosts events)
      (text : mismatch = s!"expected {ready} image-ready events for image {image}, only found {Text.quotedSet hosts}")
      (observed : mismatch ≠ "no events observed") :
      Decides image timeout step moment (.ok (events, ready)) (.error (.syncTimeout image timeout mismatch))
        timeout.nanoseconds

/-- The wait of a program that begins `now` is decided by the poll of this number. -/
structure DecidedBy {State : Type} (answer : Answerer State) (cache : CacheLocation) (image : String)
    (timeout step : Duration) (program : Program Unit) (state : State) (now last : Nat) : Prop where
  /-- The poll is made in time. -/
  inTime : now + last * step.nanoseconds ≤ timeout.nanoseconds
  /-- The calls are those of this poll and the ones before it, made one step after another. -/
  timeline : program.timeline answer state now = (List.range (last + 1)).flatMap fun number =>
    pollAt answer cache image state number (now + number * step.nanoseconds)
  /-- No poll before it was complete or failed. -/
  earlier : ∀ number < last, Incomplete (sight answer cache image state number)
  decides : Decides image timeout step (now + last * step.nanoseconds) (sight answer cache image state last)
    (program.outcome answer state).1 (now + program.elapsed answer state)

/-- Two polls that see the same: the same error, or the same ready count and reports of success from the same hosts. -/
inductive Alike : Except Error (List CacheEvent × Int) → Except Error (List CacheEvent × Int) → Prop
  | failed (e : Error) : Alike (.error e) (.error e)
  | answered {events others : List CacheEvent} (ready : Int)
      (same : ∀ host, host ∈ successHosts events ↔ host ∈ successHosts others) :
      Alike (.ok (events, ready)) (.ok (others, ready))

theorem look_prompt : Prompt (look cache image) :=
  (Prompt.perform _).bind fun _ => (Prompt.perform _).bind fun _ => .done _

/-- What follows a poll, by what it saw. -/
def heed (timeout step rest : Duration) (more : Nat) : Except Error (List CacheEvent × Int) → Program Unit
  | .error e => fail e
  | .ok (events, ready) =>
    if CacheEvent.acknowledged events ready then done (.ok ())
    else afterPoll cache image timeout step rest more (CacheEvent.mismatch image events ready)

theorem pollUpTo_eq_look (timeout step rest : Duration) (more : Nat) :
    pollUpTo cache image timeout step rest more =
      (look cache image).bind fun seen => heed cache image timeout step rest more (.ok seen) := by
  have parts : poll cache image = (look cache image).bind fun seen =>
      done (.ok (if CacheEvent.acknowledged seen.1 seen.2 then none
        else some (CacheEvent.mismatch image seen.1 seen.2))) := by
    simp only [look, bind_assoc, bind_done_ok]
    rfl
  rw [pollUpTo_eq, parts, bind_assoc]
  congr 1
  funext seen
  rw [bind_done_ok, heed]
  split <;> rfl

variable {answer cache image} {timeout step rest : Duration} {more : Nat} {state : State}

theorem heed_complete {events : List CacheEvent} {ready : Int} (complete : Complete events ready) :
    heed cache image timeout step rest more (.ok (events, ready)) = done (.ok ()) :=
  if_pos (CacheEvent.complete_iff.mpr complete)

theorem heed_incomplete {events : List CacheEvent} {ready : Int} (incomplete : ¬ Complete events ready) :
    heed cache image timeout step rest more (.ok (events, ready)) =
      afterPoll cache image timeout step rest more (CacheEvent.mismatch image events ready) :=
  if_neg (mt CacheEvent.complete_iff.mp incomplete)

/-- Polls that see alike are followed by the same. -/
theorem heed_congr {here there : Except Error (List CacheEvent × Int)} (alike : Alike here there) :
    heed cache image timeout step rest more here = heed cache image timeout step rest more there := by
  cases alike with
  | failed e => rfl
  | @answered events others ready same =>
    by_cases complete : Complete events ready
    · rw [heed_complete complete, heed_complete ((CacheEvent.complete_congr same).mp complete)]
    · rw [heed_incomplete complete, heed_incomplete (mt (CacheEvent.complete_congr same).mpr complete),
        CacheEvent.mismatch_congr image ready same]

variable (answer cache image timeout step rest more state)

/-- A wait is its first poll and what follows that. -/
theorem pollUpTo_heed (now : Nat) :
    let program := pollUpTo cache image timeout step rest more
    let next := heed cache image timeout step rest more (sight answer cache image state 0)
    let after := beforePoll answer cache image state 1
    (program.outcome answer state).1 = (next.outcome answer after).1 ∧
      program.elapsed answer state = next.elapsed answer after ∧
      program.timeline answer state now = pollAt answer cache image state 0 now ++ next.timeline answer after now := by
  have ended : (look cache image).outcome answer state =
      (sight answer cache image state 0, beforePoll answer cache image state 1) := rfl
  intro program next after
  rw [show program = _ from pollUpTo_eq_look cache image timeout step rest more, outcome_bind, elapsed_bind,
    timeline_bind, (look_prompt cache image).elapsed_eq_zero, (look_prompt cache image).timeline_eq, ended]
  cases seen : sight answer cache image state 0 with
  | error e =>
    rw [show next = fail e from congrArg (heed cache image timeout step rest more) seen]
    exact ⟨rfl, rfl, rfl⟩
  | ok poll =>
    rw [show next = _ from congrArg (heed cache image timeout step rest more) seen]
    exact ⟨rfl, Nat.zero_add _, rfl⟩

variable {answer cache image timeout step rest more state}

/-- The first poll decides a wait that makes no other. -/
theorem DecidedBy.first {program : Program Unit} {now : Nat} (inTime : now ≤ timeout.nanoseconds)
    (timeline : program.timeline answer state now = pollAt answer cache image state 0 now)
    (decides : Decides image timeout step now (sight answer cache image state 0) (program.outcome answer state).1
      (now + program.elapsed answer state)) :
    DecidedBy answer cache image timeout step program state now 0 where
  inTime := by rwa [Nat.zero_mul, Nat.add_zero]
  timeline := by simp [timeline]
  earlier := nofun
  decides := by rwa [Nat.zero_mul, Nat.add_zero]

/-- A first poll that is not complete leaves the decision to the wait that goes on a step later. -/
theorem DecidedBy.later {program next : Program Unit} {now last : Nat}
    (incomplete : Incomplete (sight answer cache image state 0))
    (outcome : (program.outcome answer state).1 = (next.outcome answer (beforePoll answer cache image state 1)).1)
    (elapsed : program.elapsed answer state =
      step.nanoseconds + next.elapsed answer (beforePoll answer cache image state 1))
    (timeline : program.timeline answer state now = pollAt answer cache image state 0 now ++
      next.timeline answer (beforePoll answer cache image state 1) (now + step.nanoseconds))
    (decided : DecidedBy answer cache image timeout step next (beforePoll answer cache image state 1)
      (now + step.nanoseconds) last) :
    DecidedBy answer cache image timeout step program state now (last + 1) := by
  -- The polls of the wait that goes on are those of the whole one, with numbers smaller by one.
  have moment (number : Nat) :
      now + step.nanoseconds + number * step.nanoseconds = now + (number + 1) * step.nanoseconds := by
    rw [Nat.succ_mul]
    omega
  constructor
  case inTime => exact moment last ▸ decided.inTime
  case timeline =>
    rw [timeline, decided.timeline, List.range_succ_eq_map (n := last + 1), List.flatMap_cons, List.flatMap_map,
      Nat.zero_mul, Nat.add_zero]
    congr 1
    refine List.flatMap_congr fun number _ => ?_
    rw [moment]
    rfl
  case earlier =>
    intro number earlier
    cases number with
    | zero => exact incomplete
    | succ number => exact decided.earlier number (Nat.lt_of_succ_lt_succ earlier)
  case decides =>
    rw [outcome, elapsed, ← Nat.add_assoc, ← moment last]
    exact decided.decides

/-- A first poll that is complete or fails decides. -/
theorem pollUpTo_settled {now : Nat} (inTime : now ≤ timeout.nanoseconds)
    (settled : ¬ Incomplete (sight answer cache image state 0)) :
    DecidedBy answer cache image timeout step (pollUpTo cache image timeout step rest more) state now 0 := by
  obtain ⟨result, elapsed, timeline⟩ := pollUpTo_heed answer cache image timeout step rest more state now
  cases seen : sight answer cache image state 0 with
  | error e =>
    rw [seen] at result elapsed timeline
    refine .first inTime (timeline.trans (List.append_nil _)) ?_
    rw [seen, result, elapsed]
    exact .failed e
  | ok poll =>
    have complete : Complete poll.1 poll.2 := by
      by_contra incomplete
      exact settled ⟨poll.1, poll.2, seen, incomplete⟩
    rw [seen, heed_complete complete] at result elapsed timeline
    refine .first inTime (timeline.trans (List.append_nil _)) ?_
    rw [seen, result, elapsed]
    exact .complete complete

/-- Polls, `step` apart until the timeout, end with the first one that decides the wait. -/
theorem pollUpTo_decides {now : Nat}
    (due : now + more * step.nanoseconds + rest.nanoseconds = timeout.nanoseconds)
    (short : rest.nanoseconds < step.nanoseconds) :
    ∃ last, DecidedBy answer cache image timeout step (pollUpTo cache image timeout step rest more) state now last := by
  have inTime : now ≤ timeout.nanoseconds := by omega
  induction more generalizing state now with
  | zero =>
    rw [Nat.zero_mul, Nat.add_zero] at due
    refine ⟨0, ?_⟩
    by_cases incomplete : Incomplete (sight answer cache image state 0)
    · obtain ⟨result, elapsed, timeline⟩ := pollUpTo_heed answer cache image timeout step rest 0 state now
      obtain ⟨events, ready, seen, unseen⟩ := incomplete
      rw [seen, heed_incomplete unseen] at result elapsed timeline
      obtain ⟨hosts, ascending, reported, text⟩ := CacheEvent.mismatch_eq image events ready
      have ended : now + (rest.nanoseconds + 0) = timeout.nanoseconds := due
      refine .first inTime (timeline.trans (List.append_nil _)) ?_
      rw [seen, result, elapsed]
      have observed := CacheEvent.mismatch_ne_unobserved image events ready
      exact ended ▸ .gaveUp unseen (by omega) ascending reported text observed
    · exact pollUpTo_settled inTime incomplete
  | succ more ih =>
    by_cases incomplete : Incomplete (sight answer cache image state 0)
    · obtain ⟨result, elapsed, timeline⟩ := pollUpTo_heed answer cache image timeout step rest (more + 1) state now
      obtain ⟨events, ready, seen, unseen⟩ := incomplete
      rw [seen, heed_incomplete unseen] at result elapsed timeline
      have later : now + step.nanoseconds + more * step.nanoseconds + rest.nanoseconds = timeout.nanoseconds := by
        rw [Nat.succ_mul] at due
        omega
      obtain ⟨last, decided⟩ : ∃ last, DecidedBy answer cache image timeout step
          (pollUpTo cache image timeout step rest more) (beforePoll answer cache image state 1)
          (now + step.nanoseconds) last := ih later (by omega)
      refine ⟨last + 1, .later ⟨events, ready, seen, unseen⟩ ?_ ?_ ?_ decided⟩
      · exact result
      · exact elapsed
      · exact timeline
    · exact ⟨0, pollUpTo_settled inTime incomplete⟩

variable {other : Answerer Other} {start : Other}

/-- First polls that see alike decide alike, if what may follow them does. -/
theorem pollUpTo_alike_of_first (first : Alike (sight answer cache image state 0) (sight other cache image start 0))
    (after : ∀ mismatch, let goOn := afterPoll cache image timeout step rest more mismatch
      (goOn.outcome answer (beforePoll answer cache image state 1)).1 =
          (goOn.outcome other (beforePoll other cache image start 1)).1 ∧
        goOn.elapsed answer (beforePoll answer cache image state 1) =
          goOn.elapsed other (beforePoll other cache image start 1)) :
    let program := pollUpTo cache image timeout step rest more
    (program.outcome answer state).1 = (program.outcome other start).1 ∧
      program.elapsed answer state = program.elapsed other start := by
  obtain ⟨result, elapsed, -⟩ := pollUpTo_heed answer cache image timeout step rest more state 0
  obtain ⟨resultOther, elapsedOther, -⟩ := pollUpTo_heed other cache image timeout step rest more start 0
  intro program
  rw [result, elapsed, resultOther, elapsedOther, ← heed_congr first]
  cases sight answer cache image state 0 with
  | error e => exact ⟨rfl, rfl⟩
  | ok poll =>
    by_cases complete : Complete poll.1 poll.2
    · rw [heed_complete complete]
      exact ⟨rfl, rfl⟩
    · rw [heed_incomplete complete]
      exact after _

/-- What two waits see alike decides them alike. -/
theorem pollUpTo_alike
    (alike : ∀ number, Alike (sight answer cache image state number) (sight other cache image start number)) :
    let program := pollUpTo cache image timeout step rest more
    (program.outcome answer state).1 = (program.outcome other start).1 ∧
      program.elapsed answer state = program.elapsed other start := by
  induction more generalizing state start with
  | zero => exact pollUpTo_alike_of_first (alike 0) fun mismatch => ⟨rfl, rfl⟩
  | succ more ih =>
    refine pollUpTo_alike_of_first (alike 0) fun mismatch => ?_
    obtain ⟨sameResult, sameElapsed⟩ := ih fun number => alike (number + 1)
    exact ⟨sameResult, congrArg (step.nanoseconds + ·) sameElapsed⟩

/-- The wait for the replicas. With no time to wait it is skipped. Otherwise a poll decides it, out of polls that are
the interval apart, or the longest pause if that is shorter. Whatever answers the calls, all that counts is the ready
counts, the hosts with reports of success and the errors of the polls. -/
theorem awaitAcknowledgment_decides (answer : Answerer State) (cache : CacheLocation) (image : String)
    (timeout interval : Duration) (state : State) (positive : interval.isZero = false) :
    let step := interval.atMost longestPause
    let wait := awaitAcknowledgment cache image timeout interval
    (timeout.isZero = true → wait.timeline answer state 0 = [] ∧ wait.outcome answer state = (.ok (), state) ∧
        wait.elapsed answer state = 0) ∧
      (timeout.isZero = false → ∃ last, DecidedBy answer cache image timeout step wait state 0 last) ∧
      ∀ {Other : Type} (other : Answerer Other) (start : Other),
        (∀ number, Alike (sight answer cache image state number) (sight other cache image start number)) →
        (wait.outcome answer state).1 = (wait.outcome other start).1 ∧
          wait.elapsed answer state = wait.elapsed other start := by
  intro step wait
  by_cases skipped : timeout.isZero = true
  · have nothing : wait = done (.ok ()) := if_pos skipped
    rw [nothing]
    exact ⟨fun _ => ⟨rfl, rfl, rfl⟩, fun waits => by simp [skipped] at waits, fun other start _ => ⟨rfl, rfl⟩⟩
  · let more := timeout.quotient step
    let rest := timeout.minusTimes more step
    have polls : wait = pollUpTo cache image timeout step rest more := if_neg skipped
    have apart : 0 < step.nanoseconds := by
      rw [Duration.nanoseconds_atMost, Nat.lt_min]
      exact ⟨Nat.pos_of_ne_zero (by simpa [Duration.isZero] using positive), by decide⟩
    have remains : rest.nanoseconds = timeout.nanoseconds % step.nanoseconds :=
      Duration.nanoseconds_minusTimes_quotient timeout step
    have due : 0 + more * step.nanoseconds + rest.nanoseconds = timeout.nanoseconds := by
      rw [remains, Nat.zero_add]
      exact Nat.div_add_mod' ..
    have short : rest.nanoseconds < step.nanoseconds := remains ▸ Nat.mod_lt _ apart
    rw [polls]
    exact ⟨fun none => absurd none skipped, fun _ => pollUpTo_decides due short,
      fun other start alike => pollUpTo_alike alike⟩

/-- A cluster with one report of success, whose second replica is counted only once. -/
def scaledDown : World where
  version := "1.8.0"
  digest := "sha256:ab"
  abiVersions := []
  registry := none
  events := [⟨⟨"e0", "wasm-cache", .success, "node-0", "filters/auth:1"⟩, 0⟩]
  ready := [2, 1]
  workloads := []
  filters := .empty
  faults := []
  counted := []

/-- There the second poll decides, also if it meets the timeout exactly. -/
theorem awaitAcknowledgment_decides_scaledDown :
    let interval := Duration.ofMilliseconds 10
    let wait := awaitAcknowledgment Settings.default.cache "filters/auth:1" interval interval
    interval.isZero = false ∧
      (∃ last, DecidedBy World.answer Settings.default.cache "filters/auth:1" interval (interval.atMost longestPause)
        wait scaledDown 0 last) ∧
      (wait.outcome World.answer scaledDown).1 = .ok () ∧ wait.elapsed World.answer scaledDown = 10_000_000 :=
  ⟨by decide, (awaitAcknowledgment_decides World.answer _ _ _ _ scaledDown (by decide)).2.1 (by decide),
    by decide +kernel, by decide +kernel⟩

/-- Polls further than the longest pause apart are asked for in vain: the second one is made before the interval is
over. -/
theorem awaitAcknowledgment_polls_early :
    let interval := Duration.ofMilliseconds 946_080_000_001
    ¬ ∃ last, DecidedBy World.answer Settings.default.cache "filters/auth:1" interval interval
      (awaitAcknowledgment Settings.default.cache "filters/auth:1" interval interval) scaledDown 0 last := by
  rintro interval ⟨last, decided⟩
  have early : longestPause.nanoseconds ∈
      ((awaitAcknowledgment Settings.default.cache "filters/auth:1" interval interval).timeline World.answer scaledDown
        0).map (·.1) := by decide +kernel
  rw [decided.timeline, List.map_flatMap] at early
  obtain ⟨number, -, here⟩ := List.mem_flatMap.mp early
  obtain ⟨exchange, member, moment⟩ := List.mem_map.mp here
  obtain ⟨_, _, rfl⟩ := List.mem_map.mp member
  -- The pause is not a multiple of the interval.
  have multiple : 0 + number * 946_080_000_001_000_000 = 946_080_000_000_000_000 := moment
  omega

end CacheSync

end FilterRollout
