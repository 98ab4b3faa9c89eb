import FilterRollout.Proofs.Cache.Course
import FilterRollout.Proofs.Program.Failure

/-! How bringing an image into the cache fails. Reports are cleared away even after a wait that failed, whose error is
the one that counts then. Main statement: `sync_fails`. -/

namespace FilterRollout

open Program

variable {State : Type} {answer : Answerer State}

/-- How many calls of a name a run has made. -/
def callsOf (name : CallName) (run : List Exchange) : Nat := run.countP fun exchange => exchange.request.name = name

@[simp] theorem callsOf_nil (name : CallName) : callsOf name [] = 0 := rfl

@[simp] theorem callsOf_cons (name : CallName) (exchange : Exchange) (run : List Exchange) :
    callsOf name (exchange :: run) = callsOf name run + if exchange.request.name = name then 1 else 0 := by
  simp [callsOf, List.countP_cons]

@[simp] theorem callsOf_append (name : CallName) (earlier later : List Exchange) :
    callsOf name (earlier ++ later) = callsOf name earlier + callsOf name later := List.countP_append

theorem callsOf_eq_zero {name : CallName} {run : List Exchange}
    (absent : ∀ exchange ∈ run, exchange.request.name ≠ name) : callsOf name run = 0 :=
  List.countP_eq_zero.mpr fun exchange member => by simpa using absent exchange member

theorem callsOf_exchanges_eq_zero {Value : Type} {names : List CallName} {program : Program Value} {name : CallName}
    (only : CallsOnly names program) (absent : name ∉ names) (state : State) :
    callsOf name (program.exchanges answer state) = 0 :=
  callsOf_eq_zero fun _ member same => absent (same ▸ only.name_mem member)

/-- What lists no reports adds no complete poll before a run. -/
theorem acknowledged_append_of_unlisted {cache : CacheLocation} {image : String} {before run : List Exchange}
    (unlisted : ∀ exchange ∈ before, exchange.request.name ≠ .listImageEvents) :
    Acknowledged cache image (before ++ run) ↔ Acknowledged cache image run := by
  constructor
  · rintro ⟨front, events, ready, back, split, complete⟩
    rcases Exchange.append_cases split with ⟨between, -, inside⟩ | ⟨rest, inside⟩
    · exact ⟨between, events, ready, back, inside, complete⟩
    · exact absurd rfl (unlisted ⟨.listImageEvents cache image, .ok events⟩ (by simp [inside]))
  · intro seen
    simpa using seen.mono before []

/-- What counts no replicas adds no complete poll behind a run. -/
theorem acknowledged_append_of_uncounted {cache : CacheLocation} {image : String} {run after : List Exchange}
    (uncounted : ∀ exchange ∈ after, exchange.request.name ≠ .readyReplicas) :
    Acknowledged cache image (run ++ after) ↔ Acknowledged cache image run := by
  constructor
  · rintro ⟨front, events, ready, back, split, complete⟩
    rw [List.append_cons front] at split
    rcases Exchange.append_cases split with ⟨between, -, inside⟩ | ⟨rest, inside⟩
    · exact absurd rfl (uncounted ⟨.readyReplicas cache, .ok ready⟩ (by simp [inside]))
    · exact ⟨front, events, ready, rest, by simp [inside], complete⟩
  · intro seen
    simpa using seen.mono [] after

namespace CacheSync

/-- Whether the cache may be polled after a run: polls are not skipped, none so far was complete, and there is time for
one more. -/
def StillWaits (cache : CacheLocation) (image : String) (timeout interval : Duration) (run : List Exchange) : Prop :=
  timeout.isZero = false ∧ ¬ Acknowledged cache image run ∧
    callsOf .readyReplicas run ≤ timeout.quotient (interval.atMost longestPause)

/-- Whether the wait for an image has failed in a run without a complete poll. -/
def GaveUp (cache : CacheLocation) (image : String) (timeout interval : Duration) (run : List Exchange) : Prop :=
  timeout.isZero = false ∧ ¬ Acknowledged cache image run ∧
    timeout.quotient (interval.atMost longestPause) < callsOf .readyReplicas run

instance (cache : CacheLocation) (image : String) (timeout interval : Duration) (run : List Exchange) :
    Decidable (StillWaits cache image timeout interval run) :=
  inferInstanceAs (Decidable (_ ∧ _ ∧ _))

instance (cache : CacheLocation) (image : String) (timeout interval : Duration) (run : List Exchange) :
    Decidable (GaveUp cache image timeout interval run) :=
  inferInstanceAs (Decidable (_ ∧ _ ∧ _))

variable (cache : CacheLocation) (image : String)

theorem publish_raises : Raises (fun _ => []) (publish cache image) := by
  rw [publish_eq]
  refine .bind (.perform rfl) fun registry => ?_
  split
  · exact .done _
  · exact .bind (.perform rfl) fun _ => .done _

theorem poll_raises : Raises (fun _ => []) (poll cache image) :=
  .bind (.perform rfl) fun _ => .bind (.perform rfl) fun _ => .done _

theorem pollUpTo_raises (timeout step rest : Duration) (more : Nat) :
    Raises (fun _ => []) (pollUpTo cache image timeout step rest more) := by
  induction more with
  | zero =>
    rw [pollUpTo_zero]
    refine .bind (poll_raises cache image) fun seen => ?_
    cases seen with
    | none => exact .done _
    | some mismatch => exact .pause rest (.done _)
  | succ more ih =>
    rw [pollUpTo_succ]
    refine .bind (poll_raises cache image) fun seen => ?_
    cases seen with
    | none => exact .done _
    | some mismatch => exact .pause step ih

theorem awaitAcknowledgment_raises (timeout interval : Duration) :
    Raises (fun _ => []) (awaitAcknowledgment cache image timeout interval) := by
  unfold awaitAcknowledgment
  split
  · exact .done _
  · exact pollUpTo_raises cache image timeout _ _ _

theorem deleteEvents_raises (events : List CacheEvent) : Raises (fun _ => []) (deleteEvents events) := by
  induction events with
  | nil => exact .done _
  | cons event rest ih => exact .bind (.perform rfl) fun _ => ih

theorem cleanup_raises : Raises (fun _ => []) (cleanup cache image) :=
  .bind (.perform rfl) deleteEvents_raises

variable {cache image}

theorem isOk_of_mem_waiting {polls : List (List CacheEvent × Int)} :
    ∀ exchange ∈ waiting cache image polls, exchange.outcome.isOk = true := by
  intro exchange member
  obtain ⟨poll, -, here⟩ := List.mem_flatMap.mp member
  rcases List.mem_cons.mp here with rfl | last
  · rfl
  · rw [List.mem_singleton.mp last]
    rfl

/-- What follows a poll that is not complete, with so many more to come. -/
def afterPoll (cache : CacheLocation) (image : String) (timeout step rest : Duration) : Nat → String → Program Unit
  | 0, mismatch => pause rest (fail (.syncTimeout image timeout mismatch))
  | more + 1, _ => pause step (pollUpTo cache image timeout step rest more)

theorem pollUpTo_eq (cache : CacheLocation) (image : String) (timeout step rest : Duration) (more : Nat) :
    pollUpTo cache image timeout step rest more =
      (poll cache image).bind (unlessComplete (afterPoll cache image timeout step rest more)) := by
  cases more with
  | zero => exact pollUpTo_zero cache image timeout step rest
  | succ more => exact pollUpTo_succ cache image timeout step rest more

/-- A poll and what follows it: a call of it failed, it was complete, or it goes on. -/
theorem pollUpTo_cases (answer : Answerer State) (cache : CacheLocation) (image : String)
    (timeout step rest : Duration) (more : Nat) (state : State) :
    let program := pollUpTo cache image timeout step rest more
    let goOn := afterPoll cache image timeout step rest more
    (∃ e before request, program.exchanges answer state = before ++ [⟨request, .error e⟩] ∧
        callsOf .readyReplicas before = 0) ∨
      (∃ events ready, (program.outcome answer state).1 = .ok () ∧
        program.exchanges answer state = waiting cache image [(events, ready)]) ∨
      ∃ events ready mismatch after, program.outcome answer state = (goOn mismatch).outcome answer after ∧
        program.exchanges answer state =
          waiting cache image [(events, ready)] ++ (goOn mismatch).exchanges answer after := by
  intro program goOn
  have shape : program = (poll cache image).bind (unlessComplete goOn) :=
    pollUpTo_eq cache image timeout step rest more
  rw [shape]
  rcases poll_cases answer cache image state with ⟨e, after, failed, calls⟩ | ⟨events, ready, after, ended, calls⟩
  · rw [exchanges_bind_error failed]
    rcases calls with calls | ⟨events, calls⟩
    · exact .inl ⟨e, [], _, calls, rfl⟩
    · exact .inl ⟨e, [⟨.listImageEvents cache image, .ok events⟩], _, calls, rfl⟩
  · rw [outcome_bind_ok ended, exchanges_bind_ok ended, calls]
    by_cases complete : CacheEvent.acknowledged events ready = true
    · rw [if_pos complete]
      exact .inr (.inl ⟨events, ready, rfl, List.append_nil _⟩)
    · rw [if_neg complete]
      exact .inr (.inr ⟨events, ready, CacheEvent.mismatch image events ready, after, rfl, rfl⟩)

/-- Polls of which no call fails end in failure only after the last one, for want of time. -/
theorem pollUpTo_ends {timeout step rest : Duration} {more : Nat} {state : State} {e : Error}
    (sound : ∀ exchange ∈ (pollUpTo cache image timeout step rest more).exchanges answer state,
      exchange.outcome.isOk = true)
    (failed : ((pollUpTo cache image timeout step rest more).outcome answer state).1 = .error e) :
    (∃ mismatch, e = .syncTimeout image timeout mismatch) ∧
      callsOf .readyReplicas ((pollUpTo cache image timeout step rest more).exchanges answer state) = more + 1 := by
  induction more generalizing state with
  | zero =>
    rcases pollUpTo_cases answer cache image timeout step rest 0 state with
      ⟨other, before, request, calls, -⟩ | ⟨events, ready, ended, -⟩ | ⟨events, ready, mismatch, after, ended, calls⟩
    · have broken := sound ⟨request, .error other⟩ (by simp [calls])
      cases broken
    · rw [ended] at failed
      cases failed
    · rw [ended] at failed
      rw [calls]
      exact ⟨⟨mismatch, (Except.error.inj failed).symm⟩, rfl⟩
  | succ more ih =>
    rcases pollUpTo_cases answer cache image timeout step rest (more + 1) state with
      ⟨other, before, request, calls, -⟩ | ⟨events, ready, ended, -⟩ | ⟨events, ready, mismatch, after, ended, calls⟩
    · have broken := sound ⟨request, .error other⟩ (by simp [calls])
      cases broken
    · rw [ended] at failed
      cases failed
    · rw [ended] at failed
      rw [calls] at sound ⊢
      obtain ⟨timedOut, polls⟩ := ih (fun exchange member => sound exchange (List.mem_append_right _ member)) failed
      refine ⟨timedOut, ?_⟩
      rw [callsOf_append, Nat.add_comm]
      exact congrArg (· + 1) polls

/-- Before a call of a poll that fails there were no more polls than are allowed after the first. -/
theorem pollUpTo_fails {timeout step rest : Duration} {more : Nat} {state : State} {earlier later : List Exchange}
    {request : Call} {e : Error} (place : (pollUpTo cache image timeout step rest more).exchanges answer state =
      earlier ++ ⟨request, .error e⟩ :: later) : callsOf .readyReplicas earlier ≤ more := by
  -- The call is none of a poll that was answered, which leaves the first poll and the ones after it.
  have sound {polls : List (List CacheEvent × Int)} {before others : List Exchange} :
      waiting cache image polls ≠ before ++ ⟨request, .error e⟩ :: others := by
    intro split
    have member : ⟨request, .error e⟩ ∈ waiting cache image polls := by simp [split]
    cases isOk_of_mem_waiting _ member
  induction more generalizing state earlier with
  | zero =>
    obtain ⟨rfl, -⟩ := (pollUpTo_raises cache image timeout step rest 0).ends_of_exchanges place
    rcases pollUpTo_cases answer cache image timeout step rest 0 state with
      ⟨other, before, made, calls, none⟩ | ⟨events, ready, -, calls⟩ | ⟨events, ready, mismatch, after, -, calls⟩
    · obtain ⟨rfl, -⟩ := List.append_inj' (calls.symm.trans place) rfl
      exact none.le
    · exact absurd (calls.symm.trans place) sound
    · exact absurd ((List.append_nil _).symm.trans (calls.symm.trans place)) sound
  | succ more ih =>
    obtain ⟨rfl, -⟩ := (pollUpTo_raises cache image timeout step rest (more + 1)).ends_of_exchanges place
    rcases pollUpTo_cases answer cache image timeout step rest (more + 1) state with
      ⟨other, before, made, calls, none⟩ | ⟨events, ready, -, calls⟩ | ⟨events, ready, mismatch, after, -, calls⟩
    · obtain ⟨rfl, -⟩ := List.append_inj' (calls.symm.trans place) rfl
      omega
    · exact absurd (calls.symm.trans place) sound
    · rcases Exchange.append_cases (calls.symm.trans place) with ⟨between, rfl, behind⟩ | ⟨others, inside⟩
      · have polls := ih behind
        rw [callsOf_append, Nat.add_comm]
        exact Nat.succ_le_succ polls
      · exact absurd inside sound

variable {timeout interval : Duration} {state : State}

/-- A wait that fails saw no complete poll. -/
theorem awaitAcknowledgment_incomplete {e : Error}
    (failed : ((awaitAcknowledgment cache image timeout interval).outcome answer state).1 = .error e) :
    ¬ Acknowledged cache image ((awaitAcknowledgment cache image timeout interval).exchanges answer state) := by
  intro seen
  have passed := (awaitAcknowledgment_waits answer cache image timeout interval state).passed_iff.mpr (.inr seen)
  rw [failed] at passed
  cases passed

/-- A call of the wait that fails is made while the cache may still be polled. -/
theorem awaitAcknowledgment_fails {earlier later : List Exchange} {request : Call} {e : Error}
    (place : (awaitAcknowledgment cache image timeout interval).exchanges answer state =
      earlier ++ ⟨request, .error e⟩ :: later) : StillWaits cache image timeout interval earlier := by
  have raised := (awaitAcknowledgment_raises cache image timeout interval).ends_of_exchanges place
  have unseen : ¬ Acknowledged cache image earlier := by
    intro seen
    refine awaitAcknowledgment_incomplete raised.2 ?_
    rw [place]
    simpa using seen.mono [] (⟨request, .error e⟩ :: later)
  unfold awaitAcknowledgment at place
  split at place
  · simp at place
  · rename_i waits
    exact ⟨Bool.eq_false_iff.mpr waits, unseen, pollUpTo_fails place⟩

/-- A wait of which no call fails fails only after the last poll. -/
theorem awaitAcknowledgment_ends {e : Error}
    (sound : ∀ exchange ∈ (awaitAcknowledgment cache image timeout interval).exchanges answer state,
      exchange.outcome.isOk = true)
    (failed : ((awaitAcknowledgment cache image timeout interval).outcome answer state).1 = .error e) :
    (∃ mismatch, e = .syncTimeout image timeout mismatch) ∧
      GaveUp cache image timeout interval
        ((awaitAcknowledgment cache image timeout interval).exchanges answer state) := by
  have unseen := awaitAcknowledgment_incomplete failed
  unfold awaitAcknowledgment at sound failed unseen ⊢
  split at failed
  · cases failed
  · rename_i waits
    rw [if_neg waits] at sound unseen ⊢
    obtain ⟨timedOut, polls⟩ := pollUpTo_ends sound failed
    exact ⟨timedOut, Bool.eq_false_iff.mpr waits, unseen, lt_of_lt_of_eq (Nat.lt_succ_self _) polls.symm⟩

/-- A wait that goes well was skipped, or saw a complete poll. -/
theorem awaitAcknowledgment_passes
    (passed : ((awaitAcknowledgment cache image timeout interval).outcome answer state).1 = .ok ()) :
    timeout.isZero = true ∨
      Acknowledged cache image ((awaitAcknowledgment cache image timeout interval).exchanges answer state) :=
  (awaitAcknowledgment_waits answer cache image timeout interval state).passed_iff.mp (congrArg Except.isOk passed)

/-- How the first call that fails after a run ends the wait for an image and the clearing away of its reports. The
error of a poll counts. That of clearing away counts unless the wait has failed before. -/
inductive Unsettled (cache : CacheLocation) (image : String) (timeout interval : Duration) (run : List Exchange)
    (request : Call) (e : Error) : Except Error Unit → Prop
  | polling (named : request.name ∈ [.listImageEvents, .readyReplicas])
      (still : StillWaits cache image timeout interval run) :
      Unsettled cache image timeout interval run request e
        (.error (.context "waiting for cache to publish event for image" e))
  | clearing (named : request.name ∈ [.listImageEvents, .deleteEvent])
      (past : ¬ StillWaits cache image timeout interval run) (passed : ¬ GaveUp cache image timeout interval run) :
      Unsettled cache image timeout interval run request e
        (.error (.context "cleaning up cache events for image" e))
  | gaveUp (named : request.name ∈ [.listImageEvents, .deleteEvent]) (failed : GaveUp cache image timeout interval run)
      (mismatch : String) :
      Unsettled cache image timeout interval run request e
        (.error (.context "waiting for cache to publish event for image" (.syncTimeout image timeout mismatch)))

theorem GaveUp.not_stillWaits {run : List Exchange} (gaveUp : GaveUp cache image timeout interval run) :
    ¬ StillWaits cache image timeout interval run := fun still => absurd still.2.2 (Nat.not_le.mpr gaveUp.2.2)

/-- The first call that fails after a new registration. -/
theorem settle_fails {earlier later : List Exchange} {request : Call} {e : Error}
    (place : (settle cache image timeout interval).exchanges answer state = earlier ++ ⟨request, .error e⟩ :: later)
    (sound : ∀ exchange ∈ earlier, exchange.outcome.isOk = true) :
    Unsettled cache image timeout interval earlier request e
      ((settle cache image timeout interval).outcome answer state).1 := by
  let wait := awaitAcknowledgment cache image timeout interval
  let clear := cleanup cache image
  let middle := (wait.outcome answer state).2
  obtain ⟨calls, ends⟩ := settle_ends answer cache image timeout interval state
  rw [exchanges_stage, exchanges_stage, outcome_stage] at calls
  rw [outcome_stage, outcome_stage] at ends
  rw [calls] at place
  have verdict : ((settle cache image timeout interval).outcome answer state).1 =
      (inStage "waiting for cache to publish event for image" (wait.outcome answer state).1).bind fun _ =>
        inStage "cleaning up cache events for image" (clear.outcome answer middle).1 := congrArg Prod.fst ends
  rw [verdict]
  rcases Exchange.append_cases place with ⟨between, rfl, behind⟩ | ⟨rest, inside⟩
  · have named := (cleanup_callsOnly cache image).name_mem (behind ▸ List.mem_append_right _ List.mem_cons_self)
    obtain ⟨rfl, cleared⟩ := (cleanup_raises cache image).ends_of_exchanges behind
    have uncounted : ∀ exchange ∈ between, exchange.request.name ≠ .readyReplicas := by
      intro exchange member same
      have listed := (cleanup_callsOnly cache image).name_mem (behind ▸ List.mem_append_left _ member)
      simp [same] at listed
    have reaches : Acknowledged cache image (wait.exchanges answer state ++ between) ↔
        Acknowledged cache image (wait.exchanges answer state) := acknowledged_append_of_uncounted uncounted
    have counted : callsOf .readyReplicas (wait.exchanges answer state ++ between) =
        callsOf .readyReplicas (wait.exchanges answer state) := by
      rw [callsOf_append, callsOf_eq_zero uncounted, Nat.add_zero]
    -- No call of the wait failed before this one, so that the wait timed out or went well.
    cases waited : (wait.outcome answer state).1 with
    | error other =>
      obtain ⟨⟨mismatch, rfl⟩, waits, unseen, exhausted⟩ :=
        awaitAcknowledgment_ends (fun exchange member => sound exchange (List.mem_append_left _ member)) waited
      exact .gaveUp named ⟨waits, mt reaches.mp unseen, counted ▸ exhausted⟩ mismatch
    | ok value =>
      have passed := awaitAcknowledgment_passes waited
      rw [← reaches] at passed
      have past : ¬ (timeout.isZero = false ∧
          ¬ Acknowledged cache image (wait.exchanges answer state ++ between)) := by
        rintro ⟨waits, unseen⟩
        rcases passed with skipped | seen
        · rw [waits] at skipped
          cases skipped
        · exact unseen seen
      rw [cleared]
      exact .clearing named (fun still => past ⟨still.1, still.2.1⟩) fun gaveUp => past ⟨gaveUp.1, gaveUp.2.1⟩
  · have named := (awaitAcknowledgment_callsOnly cache image timeout interval).name_mem
      (inside ▸ List.mem_append_right _ List.mem_cons_self)
    obtain ⟨-, waited⟩ := (awaitAcknowledgment_raises cache image timeout interval).ends_of_exchanges inside
    rw [show (wait.outcome answer state).1 = _ from waited]
    exact .polling named (awaitAcknowledgment_fails inside)

/-- Calls before the wait are nothing to it. -/
theorem Unsettled.prepend {before run : List Exchange} {request : Call} {e : Error} {result : Except Error Unit}
    (unsettled : Unsettled cache image timeout interval run request e result)
    (elsewhere : ∀ exchange ∈ before, exchange.request.name ∉ [CallName.listImageEvents, .readyReplicas]) :
    Unsettled cache image timeout interval (before ++ run) request e result := by
  have seen : Acknowledged cache image (before ++ run) ↔ Acknowledged cache image run :=
    acknowledged_append_of_unlisted fun exchange member same => elsewhere exchange member (by simp [same])
  have counted : callsOf .readyReplicas (before ++ run) = callsOf .readyReplicas run := by
    rw [callsOf_append, callsOf_eq_zero fun exchange member same => elsewhere exchange member (by simp [same]),
      Nat.zero_add]
  have still : StillWaits cache image timeout interval (before ++ run) ↔
      StillWaits cache image timeout interval run := by
    simp only [StillWaits, seen, counted]
  have gaveUp : GaveUp cache image timeout interval (before ++ run) ↔ GaveUp cache image timeout interval run := by
    simp only [GaveUp, seen, counted]
  cases unsettled with
  | polling named waits => exact .polling named (still.mpr waits)
  | clearing named past passed => exact .clearing named (mt still.mp past) (mt gaveUp.mp passed)
  | gaveUp named failed mismatch => exact .gaveUp named (gaveUp.mpr failed) mismatch

/-- The first call that fails on the way of an image into the cache. -/
theorem sync_fails {earlier later : List Exchange} {request : Call} {e : Error}
    (place : (sync cache image timeout interval).exchanges answer state = earlier ++ ⟨request, .error e⟩ :: later)
    (sound : ∀ exchange ∈ earlier, exchange.outcome.isOk = true) :
    request.name ∈ [.readRegistry, .writeRegistry] ∧
        ((sync cache image timeout interval).outcome answer state).1 = .error e ∨
      Unsettled cache image timeout interval earlier request e
        ((sync cache image timeout interval).outcome answer state).1 := by
  have names {earlier later : List Exchange} {exchange : Exchange}
      (place : (publish cache image).exchanges answer state = earlier ++ exchange :: later) :
      exchange.request.name ∈ [.readRegistry, .writeRegistry] :=
    (publish_callsOnly cache image).name_mem (place ▸ List.mem_append_right _ List.mem_cons_self)
  rw [sync_eq] at place ⊢
  cases published : (publish cache image).outcome answer state with
  | mk result middle =>
    cases result with
    | error other =>
      rw [exchanges_bind_error published] at place
      obtain ⟨-, raised⟩ := (publish_raises cache image).ends_of_exchanges place
      rw [published] at raised
      obtain rfl : other = e := Except.error.inj raised
      rw [outcome_bind_error published]
      exact .inl ⟨names place, rfl⟩
    | ok isNew =>
      rw [exchanges_bind_ok published] at place
      rw [outcome_bind_ok published]
      rcases Exchange.append_cases place with ⟨between, rfl, behind⟩ | ⟨rest, inside⟩
      · cases isNew with
        | false => simp at behind
        | true =>
          have settled := settle_fails behind fun exchange member => sound exchange (List.mem_append_right _ member)
          refine .inr (settled.prepend fun exchange member => ?_)
          have named := (publish_callsOnly cache image).name_mem member
          rcases List.mem_cons.mp named with read | written
          · simp [read]
          · simp [List.mem_singleton.mp written]
      · obtain ⟨-, raised⟩ := (publish_raises cache image).ends_of_exchanges inside
        rw [published] at raised
        cases raised

theorem settle_reports (cache : CacheLocation) (image : String) (timeout interval : Duration) (state : State) :
    (settle cache image timeout interval).reports answer state = [] := by
  let wait := (awaitAcknowledgment cache image timeout interval).stage "waiting for cache to publish event for image"
  let clear := (cleanup cache image).stage "cleaning up cache events for image"
  let middle := (wait.outcome answer state).2
  have waited : wait.attempt.outcome answer state = (.ok (wait.outcome answer state).1, middle) :=
    outcome_attempt answer wait state
  have cleared : clear.attempt.outcome answer middle = (.ok (clear.outcome answer middle).1, _) :=
    outcome_attempt answer clear middle
  rw [settle_eq, reports_bind_ok waited, reports_bind_ok cleared, reports_attempt, reports_attempt, reports_stage,
    reports_stage, (awaitAcknowledgment_raises cache image timeout interval).reports_eq_nil,
    (cleanup_raises cache image).reports_eq_nil]
  cases (wait.outcome answer state).1 <;> rfl

theorem sync_reports (cache : CacheLocation) (image : String) (timeout interval : Duration) (state : State) :
    (sync cache image timeout interval).reports answer state = [] := by
  rw [sync_eq, reports_bind, (publish_raises cache image).reports_eq_nil]
  split
  · rename_i isNew after _
    cases isNew with
    | false => rfl
    | true => exact settle_reports cache image timeout interval after
  · rfl

end CacheSync

end FilterRollout
