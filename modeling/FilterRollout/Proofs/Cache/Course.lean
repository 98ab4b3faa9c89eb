import FilterRollout.Proofs.Program.Course
import FilterRollout.Proofs.Rollout.Barrier

/-! The course of bringing an image into the cache: the registry, the polls and the clearing away of reports. Main
statements: `publish_keeps` for the registry, `awaitAcknowledgment_waits` for the polls, `cleanup_clears` for the
reports, and `sync_syncs` by which a wait is followed by the clearing however it ends. -/

namespace FilterRollout

open Program

/-- A complete poll is at the front of a run, or behind its first exchange. -/
theorem acknowledged_cons_iff {cache : CacheLocation} {image : String} {first : Exchange} {rest : List Exchange} :
    Acknowledged cache image (first :: rest) ↔
      (∃ second ∈ rest.head?, first.completes cache image second = true) ∨ Acknowledged cache image rest := by
  simp only [acknowledged_iff_completes]
  constructor
  · rintro ⟨before, head, next, after, split, poll⟩
    cases before with
    | nil =>
      obtain ⟨rfl, rfl⟩ := List.cons.inj split
      exact .inl ⟨next, rfl, poll⟩
    | cons other before => exact .inr ⟨before, head, next, after, (List.cons.inj split).2, poll⟩
  · rintro (⟨second, here, poll⟩ | ⟨before, head, next, after, rfl, poll⟩)
    · obtain ⟨after, rfl⟩ := List.head?_eq_some_iff.mp here
      exact ⟨[], first, second, after, rfl, poll⟩
    · exact ⟨first :: before, head, next, after, rfl, poll⟩

/-- Nothing that failed is a part of a complete poll. -/
theorem acknowledged_failed_cons_iff {cache : CacheLocation} {image : String} {request : Call} {e : Error}
    {rest : List Exchange} :
    Acknowledged cache image (⟨request, .error e⟩ :: rest) ↔ Acknowledged cache image rest := by
  refine acknowledged_cons_iff.trans (or_iff_right ?_)
  rintro ⟨second, -, complete⟩
  obtain ⟨events, ready, failed, -⟩ := Exchange.completes_iff.mp complete
  cases failed

theorem not_acknowledged_nil {cache : CacheLocation} {image : String} : ¬ Acknowledged cache image [] := by
  rintro ⟨before, events, ready, after, none, -⟩
  simp at none

namespace CacheSync

/-- The exchanges of a publication: the registry is read, and written unless it lists the image. -/
def publishing (cache : CacheLocation) (image : String) (registry : ConfigMap) : List Exchange :=
  [⟨.readRegistry cache, .ok registry⟩] ++
    match Registry.register? registry image with
    | none => []
    | some updated => [⟨.writeRegistry updated, .ok ()⟩]

/-- The exchanges of polls: each lists the reports and then counts the ready replicas. -/
def waiting (cache : CacheLocation) (image : String) (polls : List (List CacheEvent × Int)) : List Exchange :=
  polls.flatMap fun poll => [⟨.listImageEvents cache image, .ok poll.1⟩, ⟨.readyReplicas cache, .ok poll.2⟩]

/-- Polls up to a complete one, of which so many may come after the first. Given are the exchanges, and whether there
was a complete one. -/
inductive Polls (cache : CacheLocation) (image : String) : Nat → List Exchange → Bool → Prop
  | complete {events : List CacheEvent} {ready : Int} (more : Nat)
      (seen : CacheEvent.acknowledged events ready = true) :
      Polls cache image more (waiting cache image [(events, ready)]) true
  | unlisted (more : Nat) (e : Error) : Polls cache image more [⟨.listImageEvents cache image, .error e⟩] false
  | uncounted (more : Nat) (events : List CacheEvent) (e : Error) :
      Polls cache image more [⟨.listImageEvents cache image, .ok events⟩, ⟨.readyReplicas cache, .error e⟩] false
  | late {events : List CacheEvent} {ready : Int} (missed : CacheEvent.acknowledged events ready = false) :
      Polls cache image 0 (waiting cache image [(events, ready)]) false
  | again {events : List CacheEvent} {ready : Int} {more : Nat} {run : List Exchange} {passed : Bool}
      (missed : CacheEvent.acknowledged events ready = false) (later : Polls cache image more run passed) :
      Polls cache image (more + 1) (waiting cache image [(events, ready)] ++ run) passed

/-- How the wait for an image goes. A timeout of zero skips it, and any other one allows for a number of polls. Given
are the exchanges, and whether the wait went well. -/
inductive Waits (cache : CacheLocation) (image : String) (timeout interval : Duration) : List Exchange → Bool → Prop
  | skipped (none : timeout.isZero = true) : Waits cache image timeout interval [] true
  | polled {run : List Exchange} {passed : Bool} (takesTime : timeout.isZero = false)
      (polls : Polls cache image (timeout.quotient (interval.atMost longestPause)) run passed) :
      Waits cache image timeout interval run passed

/-- Deletions that were accepted. -/
def deletions (reports : List CacheEvent) : List Exchange :=
  reports.map fun report => ⟨.deleteEvent report.namespaceName report.name, .ok ()⟩

/-- How reports about an image are cleared away: they are listed once, and deleted in their order up to the first
deletion that fails. Given are the exchanges and the result. -/
inductive Clears (cache : CacheLocation) (image : String) : List Exchange → Except Error Unit → Prop
  | unlisted (e : Error) : Clears cache image [⟨.listImageEvents cache image, .error e⟩] (.error e)
  | stopped {reports gone left : List CacheEvent} {report : CacheEvent} (e : Error)
      (split : reports = gone ++ report :: left) :
      Clears cache image (⟨.listImageEvents cache image, .ok reports⟩ ::
        (deletions gone ++ [⟨.deleteEvent report.namespaceName report.name, .error e⟩])) (.error e)
  | cleared (reports : List CacheEvent) :
      Clears cache image (⟨.listImageEvents cache image, .ok reports⟩ :: deletions reports) (.ok ())

/-- How an image is brought into the cache. The registry is not to be had, or it lists the image, or the image is
registered: then the wait ends in some way, and whether it went well or not, the reports are cleared away after it.
Given are the exchanges, and whether all went well. -/
inductive Syncs (cache : CacheLocation) (image : String) (timeout interval : Duration) (registry : ConfigMap) :
    List Exchange → Bool → Prop
  | unpublished {run : List Exchange} (breaks : Breaks run (publishing cache image registry)) :
      Syncs cache image timeout interval registry run false
  | known (listed : Registry.lists registry image = true) :
      Syncs cache image timeout interval registry (publishing cache image registry) true
  | settled {waited cleaned : List Exchange} {passed : Bool} {verdict : Except Error Unit}
      (unlisted : Registry.lists registry image = false) (waits : Waits cache image timeout interval waited passed)
      (clears : Clears cache image cleaned verdict) :
      Syncs cache image timeout interval registry (publishing cache image registry ++ (waited ++ cleaned))
        (passed && verdict.isOk)

/-- The exchanges of clearing away that goes well: the reports are listed and then deleted one by one. -/
def cleaning (cache : CacheLocation) (image : String) (reports : List CacheEvent) : List Exchange :=
  ⟨.listImageEvents cache image, .ok reports⟩ :: deletions reports

/-- The exchanges of bringing an image into the cache if all goes well: those of its publication, and of a new image the
polls and the clearing away of its reports. -/
def syncing (cache : CacheLocation) (image : String) (registry : ConfigMap) (polls : List (List CacheEvent × Int))
    (reports : List CacheEvent) : List Exchange :=
  publishing cache image registry ++
    if Registry.lists registry image then [] else waiting cache image polls ++ cleaning cache image reports

section

variable {cache : CacheLocation} {image : String} {timeout interval : Duration} {registry : ConfigMap}
  {run : List Exchange} {passed : Bool}

/-- A course of polls has a complete one if its first is complete or those behind it have one. -/
theorem acknowledged_waiting_append_iff {events : List CacheEvent} {ready : Int} {rest : List Exchange} :
    Acknowledged cache image (waiting cache image [(events, ready)] ++ rest) ↔
      CacheEvent.acknowledged events ready = true ∨ Acknowledged cache image rest := by
  have counts : Acknowledged cache image (⟨.readyReplicas cache, .ok ready⟩ :: rest) ↔
      Acknowledged cache image rest := by
    refine acknowledged_cons_iff.trans (or_iff_right ?_)
    rintro ⟨second, -, complete⟩
    obtain ⟨events, ready, listing, -⟩ := Exchange.completes_iff.mp complete
    cases listing
  have here : (∃ second ∈ (⟨.readyReplicas cache, .ok ready⟩ :: rest : List Exchange).head?,
      Exchange.completes cache image ⟨.listImageEvents cache image, .ok events⟩ second = true) ↔
        CacheEvent.acknowledged events ready = true := by
    simp [Exchange.completes]
  exact acknowledged_cons_iff.trans (or_congr here counts)

theorem Polls.acknowledged_iff {more : Nat} (polls : Polls cache image more run passed) :
    Acknowledged cache image run ↔ passed = true := by
  have alone (events : List CacheEvent) (ready : Int) :
      Acknowledged cache image (waiting cache image [(events, ready)]) ↔
        CacheEvent.acknowledged events ready = true := by
    rw [← List.append_nil (waiting cache image _), acknowledged_waiting_append_iff, or_iff_left not_acknowledged_nil]
  induction polls with
  | complete more seen => simp [alone, seen]
  | unlisted more e => simp [acknowledged_failed_cons_iff, not_acknowledged_nil]
  | uncounted more events e =>
    simp [acknowledged_cons_iff, not_acknowledged_nil, Exchange.completes]
  | late missed => simp [alone, missed]
  | again missed later ih => simp [acknowledged_waiting_append_iff, missed, ih]

theorem eq_of_waiting_append {events listed : List CacheEvent} {ready counted : Int} {rest tail : List Exchange}
    (same : waiting cache image [(events, ready)] ++ rest = waiting cache image [(listed, counted)] ++ tail) :
    events = listed ∧ ready = counted ∧ rest = tail := by
  obtain ⟨polled, behind⟩ := List.append_inj same rfl
  cases polled
  exact ⟨rfl, rfl, behind⟩

/-- Where polls end, and how, is told by the run that they begin. -/
theorem Polls.unique {more : Nat} {other rest tail : List Exchange} {verdict : Bool}
    (polls : Polls cache image more run passed) (others : Polls cache image more other verdict)
    (same : run ++ rest = other ++ tail) : run = other ∧ passed = verdict := by
  induction polls generalizing other with
  | complete more seen =>
    cases others with
    | complete _ _ =>
      obtain ⟨rfl, rfl, -⟩ := eq_of_waiting_append same
      exact ⟨rfl, rfl⟩
    | late missed =>
      obtain ⟨rfl, rfl, -⟩ := eq_of_waiting_append same
      cases seen.symm.trans missed
    | again missed later =>
      obtain ⟨rfl, rfl, -⟩ := eq_of_waiting_append (same.trans (List.append_assoc ..))
      cases seen.symm.trans missed
    | unlisted | uncounted => simp [waiting] at same
  | unlisted more e => cases others <;> simp_all [waiting]
  | uncounted more events e => cases others <;> simp_all [waiting]
  | late missed =>
    cases others with
    | complete _ seen =>
      obtain ⟨rfl, rfl, -⟩ := eq_of_waiting_append same
      cases seen.symm.trans missed
    | late _ =>
      obtain ⟨rfl, rfl, -⟩ := eq_of_waiting_append same
      exact ⟨rfl, rfl⟩
    | unlisted | uncounted => simp [waiting] at same
  | again missed later ih =>
    rw [List.append_assoc] at same
    cases others with
    | complete _ seen =>
      obtain ⟨rfl, rfl, -⟩ := eq_of_waiting_append same
      cases seen.symm.trans missed
    | again _ later =>
      obtain ⟨rfl, rfl, behind⟩ := eq_of_waiting_append (same.trans (List.append_assoc ..))
      obtain ⟨rfl, rfl⟩ := ih later behind
      exact ⟨rfl, rfl⟩
    | unlisted | uncounted => simp [waiting] at same

/-- A wait went well exactly if it was skipped or saw a complete poll. -/
theorem Waits.passed_iff (waits : Waits cache image timeout interval run passed) :
    passed = true ↔ timeout.isZero = true ∨ Acknowledged cache image run := by
  cases waits with
  | skipped none => simp [none]
  | polled takesTime polls => simp [takesTime, polls.acknowledged_iff]

theorem Polls.exists_waiting {more : Nat}
    (polls : Polls cache image more run passed) (success : passed = true) : ∃ seen, run = waiting cache image seen := by
  induction polls with
  | complete more seen => exact ⟨_, rfl⟩
  | unlisted | uncounted | late => cases success
  | again missed later ih =>
    obtain ⟨seen, rfl⟩ := ih success
    exact ⟨_ :: seen, rfl⟩

theorem Waits.exists_waiting (waits : Waits cache image timeout interval run true) :
    ∃ polls, run = waiting cache image polls := by
  cases waits with
  | skipped none => exact ⟨[], rfl⟩
  | polled takesTime polls => exact polls.exists_waiting rfl

theorem Waits.unique {other rest tail : List Exchange} {verdict : Bool}
    (waits : Waits cache image timeout interval run passed) (others : Waits cache image timeout interval other verdict)
    (same : run ++ rest = other ++ tail) : run = other ∧ passed = verdict := by
  cases waits with
  | skipped none =>
    cases others with
    | skipped _ => exact ⟨rfl, rfl⟩
    | polled takesTime _ => cases none.symm.trans takesTime
  | polled takesTime polls =>
    cases others with
    | skipped none => cases none.symm.trans takesTime
    | polled _ others => exact polls.unique others same

/-- Polls begin with a listing of reports. -/
theorem Polls.exists_listing {more : Nat} (polls : Polls cache image more run passed) :
    ∃ answered behind, run = ⟨.listImageEvents cache image, answered⟩ :: behind := by
  cases polls <;> exact ⟨_, _, rfl⟩

theorem Waits.exists_listing (waits : Waits cache image timeout interval run false) :
    ∃ answered behind, run = ⟨.listImageEvents cache image, answered⟩ :: behind := by
  cases waits with
  | polled takesTime polls => exact polls.exists_listing

/-- Reports that are cleared away follow a course, and to its end if that goes well. -/
theorem Clears.exists_cleaning {verdict : Except Error Unit} (clears : Clears cache image run verdict) :
    ∃ reports, if verdict.isOk then run = cleaning cache image reports
      else Breaks run (cleaning cache image reports) := by
  cases clears with
  | unlisted e => exact ⟨[], .here (.listImageEvents cache image) e ([] : List CacheEvent) []⟩
  | @stopped reports gone left report e split =>
    have parts : deletions reports =
        deletions gone ++ ⟨.deleteEvent report.namespaceName report.name, .ok ()⟩ :: deletions left := by
      rw [split]
      exact List.map_append
    refine ⟨reports, .later _ ?_⟩
    rw [parts]
    exact Breaks.prepend (.here (.deleteEvent report.namespaceName report.name) e () _) _
  | cleared reports => exact ⟨reports, rfl⟩

theorem Syncs.exists_syncing
    (syncs : Syncs cache image timeout interval registry run passed) (success : passed = true) :
    ∃ polls reports, run = syncing cache image registry polls reports := by
  cases syncs with
  | unpublished breaks => cases success
  | known listed => exact ⟨[], [], by simp [syncing, listed]⟩
  | @settled waited cleaned passed verdict unlisted waits clears =>
    obtain ⟨rfl, cleared⟩ := Bool.and_eq_true_iff.mp success
    obtain ⟨polls, rfl⟩ := waits.exists_waiting
    obtain ⟨reports, all⟩ := clears.exists_cleaning
    rw [if_pos cleared] at all
    exact ⟨polls, reports, by simp [syncing, unlisted, all]⟩

/-- A new image is in the cache only after a complete poll, unless the wait is skipped. -/
theorem Syncs.acknowledged
    (syncs : Syncs cache image timeout interval registry run passed) (success : passed = true) :
    Registry.lists registry image = true ∨ timeout.isZero = true ∨ Acknowledged cache image run := by
  cases syncs with
  | unpublished breaks => cases success
  | known listed => exact .inl listed
  | settled unlisted waits clears =>
    obtain ⟨rfl, -⟩ := Bool.and_eq_true_iff.mp success
    refine .inr ((waits.passed_iff.mp rfl).imp_right fun seen => ?_)
    simpa using seen.mono (publishing cache image registry) _

/-- Behind a wait that failed reports are cleared away. If all went well, what may look like such a wait is no part of
bringing the image into the cache. -/
theorem Syncs.clears {waited later rest : List Exchange}
    (syncs : Syncs cache image timeout interval registry run passed)
    (split : run ++ rest = publishing cache image registry ++ (waited ++ later))
    (waits : Waits cache image timeout interval waited false) :
    (passed = false ∧ ∃ cleaned verdict, later = cleaned ++ rest ∧ Clears cache image cleaned verdict) ∨
      passed = true ∧ rest = waited ++ later := by
  cases syncs with
  | unpublished breaks => exact absurd split (breaks.append_ne _ _)
  | known listed => exact .inr ⟨rfl, List.append_cancel_left split⟩
  | @settled waited' cleaned passed verdict unlisted waits' clears =>
    rw [List.append_assoc, List.append_assoc] at split
    have behind := List.append_cancel_left split
    obtain ⟨rfl, rfl⟩ := waits'.unique waits behind
    exact .inl ⟨rfl, cleaned, verdict, (List.append_cancel_left behind).symm, clears⟩

/-- An image that cannot be brought into the cache breaks the course off, or its wait has failed. -/
theorem Syncs.exists_breaks
    (syncs : Syncs cache image timeout interval registry run passed) (failed : passed = false) :
    (∃ polls reports, Breaks run (syncing cache image registry polls reports)) ∨
      Registry.lists registry image = false ∧ ∃ waited cleaned verdict,
        run = publishing cache image registry ++ (waited ++ cleaned) ∧
          Waits cache image timeout interval waited false ∧ Clears cache image cleaned verdict := by
  cases syncs with
  | unpublished breaks => exact .inl ⟨[], [], breaks.extend _⟩
  | known listed => cases failed
  | @settled waited cleaned passed verdict unlisted waits clears =>
    cases passed with
    | false => exact .inr ⟨unlisted, waited, cleaned, verdict, rfl, waits, clears⟩
    | true =>
      have failed : verdict.isOk = false := by simpa using failed
      obtain ⟨polls, rfl⟩ := waits.exists_waiting
      obtain ⟨reports, breaks⟩ := clears.exists_cleaning
      rw [failed, if_neg Bool.false_ne_true] at breaks
      refine .inl ⟨polls, reports, ?_⟩
      rw [syncing, unlisted, if_neg Bool.false_ne_true]
      exact (breaks.prepend _).prepend _

end

variable {State : Type} (answer : Answerer State) (cache : CacheLocation) (image : String)

theorem publish_keeps (state : State) :
    ∃ registry, (publish cache image).Keeps answer state (publishing cache image registry) ∧
      ∀ {isNew after}, (publish cache image).outcome answer state = (.ok isNew, after) →
        isNew = !Registry.lists registry image := by
  obtain ⟨registry, reads, same⟩ : ∃ registry : ConfigMap,
    Keeps answer (perform (.readRegistry cache)) state [⟨.readRegistry cache, .ok registry⟩] ∧ _ :=
      Keeps.perform (.readRegistry cache) answer state
  refine ⟨registry, reads.bind fun found after success => ?_, ?_⟩
  · obtain rfl := (same success).symm
    cases Registry.register? registry image with
    | none => exact .done false
    | some updated =>
      have writes := Keeps.perform_unit (.writeRegistry updated) () (fun _ => rfl) answer after
      exact writes.map fun _ => true
  · intro isNew after success
    obtain ⟨found, middle, read, later⟩ := exists_of_bind_ok success
    obtain rfl := (same read).symm
    cases registered : Registry.register? registry image with
    | none =>
      simp only [registered, pure_eq, outcome_done, Prod.mk.injEq, Except.ok.injEq] at later
      rw [← later.1, Registry.register?_eq_none_iff.mp registered]
      rfl
    | some updated =>
      have unlisted : Registry.lists registry image = false := by
        rw [Bool.eq_false_iff, Ne, ← Registry.register?_eq_none_iff, registered]
        simp
      simp only [registered] at later
      obtain ⟨value, last, -, verdict⟩ := exists_of_bind_ok later
      simp only [pure_eq, outcome_done, Prod.mk.injEq, Except.ok.injEq] at verdict
      rw [← verdict.1, unlisted]
      rfl

/-- How a poll ends: one of its two calls failed, or both were answered. -/
theorem poll_cases (state : State) :
    (∃ e after, (poll cache image).outcome answer state = (.error e, after) ∧
      ((poll cache image).exchanges answer state = [⟨.listImageEvents cache image, .error e⟩] ∨
        ∃ events, (poll cache image).exchanges answer state =
          [⟨.listImageEvents cache image, .ok events⟩, ⟨.readyReplicas cache, .error e⟩])) ∨
    ∃ events ready after, (poll cache image).outcome answer state =
        (.ok (if CacheEvent.acknowledged events ready then none else some (CacheEvent.mismatch image events ready)),
          after) ∧
      (poll cache image).exchanges answer state = waiting cache image [(events, ready)] := by
  let listing : Program (List CacheEvent) := perform (.listImageEvents cache image)
  let counting : Program Int := perform (.readyReplicas cache)
  have parts : poll cache image = listing.bind fun events => counting.bind fun ready =>
    done (.ok (if CacheEvent.acknowledged events ready then none
      else some (CacheEvent.mismatch image events ready))) := rfl
  rw [parts]
  cases listed : (answer (.listImageEvents cache image) state).1 with
  | error e =>
    have failed : listing.outcome answer state = (.error e, _) := Prod.ext listed rfl
    refine .inl ⟨e, _, outcome_bind_error failed, .inl ?_⟩
    exact (exchanges_bind_error failed).trans (exchanges_perform_of listed)
  | ok events =>
    have found : listing.outcome answer state = (.ok events, _) := Prod.ext listed rfl
    have first : listing.exchanges answer state = [⟨.listImageEvents cache image, .ok events⟩] :=
      exchanges_perform_of listed
    rw [outcome_bind_ok found, exchanges_bind_ok found, first]
    cases counted : (answer (.readyReplicas cache) (listing.outcome answer state).2).1 with
    | error e =>
      have failed : counting.outcome answer (listing.outcome answer state).2 = (.error e, _) := Prod.ext counted rfl
      refine .inl ⟨e, _, outcome_bind_error failed, .inr ⟨events, ?_⟩⟩
      rw [exchanges_bind_error failed]
      exact congrArg ([_] ++ ·) (exchanges_perform_of counted)
    | ok ready =>
      have found : counting.outcome answer (listing.outcome answer state).2 = (.ok ready, _) := Prod.ext counted rfl
      refine .inr ⟨events, ready, _, outcome_bind_ok found, ?_⟩
      have second : counting.exchanges answer (listing.outcome answer state).2 = [⟨.readyReplicas cache, .ok ready⟩] :=
        exchanges_perform_of counted
      rw [exchanges_bind_ok found, second]
      rfl

/-- What follows a poll: nothing if it is complete. -/
def unlessComplete (goOn : String → Program Unit) : Option String → Program Unit
  | none => done (.ok ())
  | some mismatch => goOn mismatch

theorem pollUpTo_zero (timeout step rest : Duration) :
    pollUpTo cache image timeout step rest 0 = (poll cache image).bind (unlessComplete fun mismatch =>
      pause rest (fail (.syncTimeout image timeout mismatch))) := by
  rw [pollUpTo, bind_eq]
  congr 1

theorem pollUpTo_succ (timeout step rest : Duration) (more : Nat) :
    pollUpTo cache image timeout step rest (more + 1) = (poll cache image).bind (unlessComplete fun _ =>
      pause step (pollUpTo cache image timeout step rest more)) := by
  rw [pollUpTo, bind_eq]
  congr 1

/-- A poll is all of the polls, unless it is answered and not complete. -/
theorem polls_bind {more : Nat} {goOn : String → Program Unit}
    (missed : ∀ events ready mismatch after, CacheEvent.acknowledged events ready = false →
      Polls cache image more (waiting cache image [(events, ready)] ++ (goOn mismatch).exchanges answer after)
        ((goOn mismatch).outcome answer after).1.isOk) (state : State) :
    Polls cache image more (((poll cache image).bind (unlessComplete goOn)).exchanges answer state)
      (((poll cache image).bind (unlessComplete goOn)).outcome answer state).1.isOk := by
  rcases poll_cases answer cache image state with ⟨e, after, failed, calls⟩ | ⟨events, ready, after, ended, calls⟩
  · rw [exchanges_bind_error failed, outcome_bind_error failed]
    rcases calls with calls | ⟨events, calls⟩
    · rw [calls]
      exact .unlisted more e
    · rw [calls]
      exact .uncounted more events e
  · rw [exchanges_bind_ok ended, outcome_bind_ok ended, calls]
    cases seen : CacheEvent.acknowledged events ready with
    | true =>
      rw [if_pos rfl, unlessComplete, exchanges_done, List.append_nil]
      exact .complete more seen
    | false => exact missed events ready _ after seen

theorem pollUpTo_polls (timeout step rest : Duration) (more : Nat) (state : State) :
    Polls cache image more ((pollUpTo cache image timeout step rest more).exchanges answer state)
      ((pollUpTo cache image timeout step rest more).outcome answer state).1.isOk := by
  induction more generalizing state with
  | zero =>
    rw [pollUpTo_zero]
    refine polls_bind answer cache image (fun events ready mismatch after missed => ?_) state
    exact .late missed
  | succ more ih =>
    rw [pollUpTo_succ]
    refine polls_bind answer cache image (fun events ready mismatch after missed => ?_) state
    exact .again missed (ih after)

theorem awaitAcknowledgment_waits (timeout interval : Duration) (state : State) :
    Waits cache image timeout interval ((awaitAcknowledgment cache image timeout interval).exchanges answer state)
      ((awaitAcknowledgment cache image timeout interval).outcome answer state).1.isOk := by
  unfold awaitAcknowledgment
  split
  · rename_i none
    exact .skipped none
  · rename_i takesTime
    exact .polled (Bool.eq_false_iff.mpr takesTime) (pollUpTo_polls answer cache image timeout _ _ _ state)

theorem deleteEvents_cons (report : CacheEvent) (rest : List CacheEvent) :
    deleteEvents (report :: rest) =
      (perform (.deleteEvent report.namespaceName report.name)).bind fun _ => deleteEvents rest := rfl

/-- Deletions go on up to the first that fails. -/
theorem deleteEvents_ends (reports : List CacheEvent) (state : State) :
    (((deleteEvents reports).outcome answer state).1 = .ok () ∧
        (deleteEvents reports).exchanges answer state = deletions reports) ∨
      ∃ gone report left e, reports = gone ++ report :: left ∧
        ((deleteEvents reports).outcome answer state).1 = .error e ∧
        (deleteEvents reports).exchanges answer state =
          deletions gone ++ [⟨.deleteEvent report.namespaceName report.name, .error e⟩] := by
  induction reports generalizing state with
  | nil => exact .inl ⟨rfl, rfl⟩
  | cons report rest ih =>
    rw [deleteEvents_cons]
    let deletion : Call := .deleteEvent report.namespaceName report.name
    cases deleting : (perform deletion).outcome answer state with
    | mk result middle =>
      have first : (perform deletion).exchanges answer state = [⟨deletion, result⟩] :=
        exchanges_perform_of (congrArg Prod.fst deleting)
      cases result with
      | error e =>
        rw [outcome_bind_error deleting, exchanges_bind_error deleting]
        exact .inr ⟨[], report, rest, e, rfl, rfl, first⟩
      | ok value =>
        rw [outcome_bind_ok deleting, exchanges_bind_ok deleting, first]
        rcases ih middle with ⟨ended, calls⟩ | ⟨gone, next, left, e, split, ended, calls⟩
        · exact .inl ⟨ended, congrArg (_ :: ·) calls⟩
        · exact .inr ⟨report :: gone, next, left, e, congrArg (report :: ·) split, ended, congrArg (_ :: ·) calls⟩

theorem cleanup_clears (state : State) :
    Clears cache image ((cleanup cache image).exchanges answer state)
      ((cleanup cache image).outcome answer state).1 := by
  let listing : Program (List CacheEvent) := perform (.listImageEvents cache image)
  have parts : cleanup cache image = listing.bind deleteEvents := rfl
  rw [parts]
  cases listed : listing.outcome answer state with
  | mk result middle =>
    have first : listing.exchanges answer state = [⟨.listImageEvents cache image, result⟩] :=
      exchanges_perform_of (congrArg Prod.fst listed)
    cases result with
    | error e =>
      rw [outcome_bind_error listed, exchanges_bind_error listed, first]
      exact .unlisted e
    | ok reports =>
      rw [outcome_bind_ok listed, exchanges_bind_ok listed, first]
      rcases deleteEvents_ends answer reports middle with
        ⟨ended, calls⟩ | ⟨gone, report, left, e, split, ended, calls⟩
      · rw [ended, calls]
        exact .cleared reports
      · rw [ended, calls]
        exact .stopped e split

/-- The reports are cleared away whether the wait went well or not, but a wait that failed is what counts. -/
theorem settle_ends (timeout interval : Duration) (state : State) :
    let wait := (awaitAcknowledgment cache image timeout interval).stage
      "waiting for cache to publish event for image"
    let clear := (cleanup cache image).stage "cleaning up cache events for image"
    let middle := (wait.outcome answer state).2
    (settle cache image timeout interval).exchanges answer state =
        wait.exchanges answer state ++ clear.exchanges answer middle ∧
      (settle cache image timeout interval).outcome answer state =
        ((wait.outcome answer state).1.bind fun _ => (clear.outcome answer middle).1,
          (clear.outcome answer middle).2) := by
  intro wait clear middle
  have waited : wait.attempt.outcome answer state = (.ok (wait.outcome answer state).1, middle) :=
    outcome_attempt answer wait state
  have cleared : clear.attempt.outcome answer middle = (.ok (clear.outcome answer middle).1, _) :=
    outcome_attempt answer clear middle
  constructor
  · rw [settle, bind_eq, exchanges_bind_ok waited, exchanges_attempt, bind_eq, exchanges_bind_ok cleared,
      exchanges_attempt]
    cases (wait.outcome answer state).1 <;> exact congrArg (_ ++ ·) (List.append_nil _)
  · rw [settle, bind_eq, outcome_bind_ok waited, bind_eq, outcome_bind_ok cleared]
    cases (wait.outcome answer state).1 <;> rfl

/-- An image is brought into the cache as it should be: if the wait for a new one fails, its reports are cleared away
all the same. -/
theorem sync_syncs (timeout interval : Duration) (state : State) :
    ∃ registry, Syncs cache image timeout interval registry
      ((sync cache image timeout interval).exchanges answer state)
      ((sync cache image timeout interval).outcome answer state).1.isOk := by
  obtain ⟨registry, publishes, isNew⟩ := publish_keeps answer cache image state
  refine ⟨registry, ?_⟩
  rw [sync_eq]
  cases published : (publish cache image).outcome answer state with
  | mk result middle =>
    cases result with
    | error e =>
      rw [exchanges_bind_error published, outcome_bind_error published]
      exact .unpublished (publishes.breaks published)
    | ok fresh =>
      have verdict := isNew published
      rw [exchanges_bind_ok published, outcome_bind_ok published, publishes.complete published]
      cases listed : Registry.lists registry image with
      | true =>
        obtain rfl : fresh = false := by rw [verdict, listed]; rfl
        rw [if_neg Bool.false_ne_true, exchanges_done, List.append_nil]
        exact .known listed
      | false =>
        obtain rfl : fresh = true := by rw [verdict, listed]; rfl
        let wait := awaitAcknowledgment cache image timeout interval
        let waited := wait.outcome answer middle
        obtain ⟨calls, ends⟩ := settle_ends answer cache image timeout interval middle
        rw [exchanges_stage, exchanges_stage, outcome_stage] at calls
        rw [outcome_stage, outcome_stage] at ends
        have both : ((settle cache image timeout interval).outcome answer middle).1.isOk =
            (waited.1.isOk && ((cleanup cache image).outcome answer waited.2).1.isOk) := by
          rw [ends]
          cases waited.1 <;> cases ((cleanup cache image).outcome answer waited.2).1 <;> rfl
        rw [if_pos rfl, both, calls]
        exact .settled listed (awaitAcknowledgment_waits answer cache image timeout interval middle)
          (cleanup_clears answer cache image waited.2)

end CacheSync

end FilterRollout
