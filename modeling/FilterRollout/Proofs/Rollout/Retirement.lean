import FilterRollout.Api.Collaborators
import FilterRollout.Api.Script
import FilterRollout.Proofs.Rollout.Withdrawal

/-! The last part of a withdrawal. Once every listed workload is restored, their Envoy filters are deleted through the
API, one after another. One that is gone already is as good as deleted, and the first other failure ends the withdrawal.
Main statement: `remove_retires`. -/

namespace FilterRollout

open Program

namespace Api

variable {State : Type} {server : Server State}

/-- Answers that leave no object behind: it was deleted, or there was none. -/
def Gone (answered : Except ApiError Unit) : Prop :=
  answered = .ok () ∨ ∃ status, answered = .error (.refused status) ∧ status.code = 404

theorem lift_of_gone {answered : Except ApiError Unit} (gone : Gone answered) :
    lift ((ignoreNotFound answered).map fun _ => ()) = .ok () := by
  rcases gone with rfl | ⟨status, rfl, absent⟩
  · rfl
  · rw [ignoreNotFound, if_pos absent]
    rfl

/-- What does not count as gone is passed on as it was answered. -/
theorem lift_of_not_gone {answered : Except ApiError Unit} (left : ¬Gone answered) :
    ∃ e, answered = .error e ∧ lift ((ignoreNotFound answered).map fun _ => ()) = .error (.kubernetes e) := by
  rcases answered with (status | _ | _) | value
  · have present : status.code ≠ 404 := fun absent => left (.inr ⟨status, rfl, absent⟩)
    refine ⟨.refused status, rfl, ?_⟩
    rw [ignoreNotFound, if_neg present]
    rfl
  · exact ⟨_, rfl, rfl⟩
  · exact ⟨_, rfl, rfl⟩
  · exact absurd (.inl rfl) left

/-- The target of an Envoy filter, unless its name cannot be written down. -/
def filterTarget? (namespaceName name : String) : Option RequestTarget :=
  RequestTarget.read? (RequestTarget.text (Collection.envoyFilters.path namespaceName ++ "/" ++ name) (some []))

/-- The request to delete what a target is about. -/
def deletion (target : RequestTarget) : Request where
  toRequestTarget := target
  method := .delete
  body := some (.object [])
  contentType := some jsonType

/-- How the deletion of one Envoy filter is answered: the server gets a single request, and its response holds the
answer. A name that cannot be written down is refused before anything is sent. -/
inductive Deletes (server : Server State) (namespaceName name : String) (before : State) :
    Except ApiError Unit → State → Prop
  | sent {target : RequestTarget} {response : Response} {after : State}
      (written : filterTarget? namespaceName name = some target)
      (responded : server (deletion target) before = (response, after)) :
      Deletes server namespaceName name before (content (readDeletion? readAnyObject?) response) after
  | unsendable (unwritten : filterTarget? namespaceName name = none) :
      Deletes server namespaceName name before (.error .unsendableRequest) before

/-- Deletions of Envoy filters with what answered them, each in the state that the one before it left. -/
inductive DeletesEach (server : Server State) (namespaceName : String) :
    List String → State → List (Except ApiError Unit) → State → Prop
  | nil (state : State) : DeletesEach server namespaceName [] state [] state
  | cons {name : String} {rest : List String} {before middle after : State} {answered : Except ApiError Unit}
      {answers : List (Except ApiError Unit)} (one : Deletes server namespaceName name before answered middle)
      (others : DeletesEach server namespaceName rest middle answers after) :
      DeletesEach server namespaceName (name :: rest) before (answered :: answers) after

theorem delete_eq {name : String} (named : name ≠ "") (namespaceName : String) (before : State) :
    delete server .envoyFilters namespaceName name readAnyObject? before =
      match filterTarget? namespaceName name with
      | none => (.error .unsendableRequest, before)
      | some target =>
        (content (readDeletion? readAnyObject?) (server (deletion target) before).1,
          (server (deletion target) before).2) := by
  simp only [delete, sendNamed, if_neg named, send, filterTarget?]
  generalize RequestTarget.read? _ = target
  cases target with
  | none => rfl
  | some target => rfl

theorem deletes_delete {name : String} (named : name ≠ "") (namespaceName : String) (before : State) :
    Deletes server namespaceName name before
      (delete server .envoyFilters namespaceName name readAnyObject? before).1
      (delete server .envoyFilters namespaceName name readAnyObject? before).2 := by
  rw [delete_eq named]
  cases written : filterTarget? namespaceName name with
  | none => exact .unsendable written
  | some target => exact .sent written rfl

/-- An answerer that deletes Envoy filters through the API. Whatever else it answers is its own affair. -/
def DeletesThrough (server : Server State) (answer : Answerer State) : Prop :=
  ∀ namespaceName name state, answer (.deleteFilter namespaceName name) state =
    deleteAny server .envoyFilters namespaceName name readAnyObject? state

theorem deletesThrough_answer (server : Server State) (images : ImageSource) (manager : String) :
    DeletesThrough server (answer server images manager) := fun _ _ _ => rfl

/-- A deletion through the API succeeds if the Envoy filter is gone, and otherwise fails as it was answered. -/
theorem DeletesThrough.cases {answer : Answerer State} (through : DeletesThrough server answer) {name : String}
    (named : name ≠ "") (namespaceName : String) (before : State) :
    ∃ answered after, Deletes server namespaceName name before answered after ∧
      (Gone answered ∧ answer (.deleteFilter namespaceName name) before = (.ok (), after) ∨
        ∃ e, answered = .error e ∧ ¬Gone (.error e) ∧
          answer (.deleteFilter namespaceName name) before = (.error (.kubernetes e), after)) := by
  refine ⟨_, _, deletes_delete named namespaceName before, ?_⟩
  rw [through namespaceName name before]
  by_cases gone : Gone (delete server .envoyFilters namespaceName name readAnyObject? before).1
  · exact .inl ⟨gone, Prod.ext (lift_of_gone gone) rfl⟩
  · obtain ⟨e, failed, passed⟩ := lift_of_not_gone gone
    exact .inr ⟨e, failed, failed ▸ gone, Prod.ext passed rfl⟩

end Api

theorem EnvoyFilter.nameFor_ne_empty (workload filterId : String) : nameFor workload filterId ≠ "" := by
  intro empty
  have characters := congrArg String.toList empty
  simp [nameFor, toString] at characters

namespace Rollout

variable {State : Type} {answer : Answerer State}

/-- The name of the Envoy filter of a workload. -/
def filterName (filter : FilterSpec) (metadata : ObjectMeta) : String :=
  EnvoyFilter.nameFor (metadata.name.getD "") filter.id

/-- A workload is stored without the annotations of a filter. -/
def restored (workload : Workload) : Exchange := ⟨.updateWorkload (removal.update workload), .ok ()⟩

/-- These workloads are listed, and every one of them is restored. -/
def restoredAll (rollout : Rollout) (workloads : List Workload) : List Exchange :=
  ⟨.listWorkloads rollout.settings.target.kind rollout.settings.target.namespaceName
    (LabelSelector.ofLabels rollout.settings.target.labels), .ok workloads⟩ :: workloads.map restored

theorem restoredAll_ok {rollout : Rollout} {workloads : List Workload} {exchange : Exchange}
    (member : exchange ∈ rollout.restoredAll workloads) :
    exchange.request.name ≠ .deleteFilter ∧ exchange.outcome.isOk = true := by
  rcases List.mem_cons.mp member with rfl | stored
  · exact ⟨by simp [Call.name], rfl⟩
  · obtain ⟨workload, -, rfl⟩ := List.mem_map.mp stored
    exact ⟨by simp [restored, Call.name], rfl⟩

/-- How Envoy filters are deleted in turn: all of them are gone in the end, or the last one that was reached is not, and
the answer about it is the result. Given are the names of all and of those that were reached, the answers about these
and the result. -/
inductive Retires (names : List String) : List String → List (Except ApiError Unit) → Except Error Unit → Prop
  | all {answers : List (Except ApiError Unit)} (gone : ∀ answered ∈ answers, Api.Gone answered) :
      Retires names names answers (.ok ())
  | stopped {earlier later : List String} {name : String} {answers : List (Except ApiError Unit)} {e : ApiError}
      (split : names = earlier ++ name :: later) (gone : ∀ answered ∈ answers, Api.Gone answered)
      (left : ¬Api.Gone (.error e)) :
      Retires names (earlier ++ [name]) (answers ++ [.error e])
        (.error (.context s!"deleting EnvoyFilter {name}" (.kubernetes e)))

section

variable {names reached : List String} {answers : List (Except ApiError Unit)} {result : Except Error Unit}

theorem Retires.ok_iff (retires : Retires names reached answers result) :
    result = .ok () ↔ ∀ answered ∈ answers, Api.Gone answered := by
  cases retires with
  | all gone => exact iff_of_true rfl gone
  | stopped split gone left => exact iff_of_false nofun fun all => left (all _ (by simp))

/-- One more Envoy filter that is gone in front of the others. -/
theorem Retires.cons (retires : Retires names reached answers result) {answered : Except ApiError Unit}
    (gone : Api.Gone answered) (name : String) :
    Retires (name :: names) (name :: reached) (answered :: answers) result := by
  cases retires with
  | all others => exact .all (List.forall_mem_cons.mpr ⟨gone, others⟩)
  | @stopped earlier later last answers e split others left =>
    have longer : name :: names = (name :: earlier) ++ last :: later := congrArg (name :: ·) split
    have all : ∀ one ∈ answered :: answers, Api.Gone one := List.forall_mem_cons.mpr ⟨gone, others⟩
    exact (Retires.stopped longer all left :)

end

/-- Deletions through the API go on up to the first Envoy filter that is not gone. -/
theorem deleteFilters_retires {server : Api.Server State} (through : Api.DeletesThrough server answer)
    (namespaceName : String) (filter : FilterSpec) (workloads : List ObjectMeta) (state : State) :
    ∃ reached answers result after,
      (deleteFilters namespaceName filter.id workloads).outcome answer state = (result, after) ∧
      ((deleteFilters namespaceName filter.id workloads).exchanges answer state).map (·.request) =
        reached.map (.deleteFilter namespaceName) ∧
      Api.DeletesEach server namespaceName reached state answers after ∧
      Retires (workloads.map (filterName filter)) reached answers result := by
  induction workloads generalizing state with
  | nil => exact ⟨[], [], .ok (), state, rfl, rfl, .nil state, .all nofun⟩
  | cons metadata rest ih =>
    let name := filterName filter metadata
    let deletion : Program Unit := perform (.deleteFilter namespaceName name)
    have parts : deleteFilters namespaceName filter.id (metadata :: rest) =
        (deletion.stage s!"deleting EnvoyFilter {name}").bind fun _ => deleteFilters namespaceName filter.id rest := rfl
    obtain ⟨answered, middle, deleted, verdict⟩ :=
      through.cases (EnvoyFilter.nameFor_ne_empty (metadata.name.getD "") filter.id) namespaceName state
    rcases verdict with ⟨gone, ended⟩ | ⟨e, rfl, left, ended⟩
    · replace ended : deletion.outcome answer state = (.ok (), middle) := ended
      have success := outcome_stage_ok ended s!"deleting EnvoyFilter {name}"
      obtain ⟨reached, answers, result, after, later, calls, others, retires⟩ := ih middle
      rw [parts, outcome_bind_ok success, exchanges_bind_ok success, exchanges_stage]
      exact ⟨name :: reached, answered :: answers, result, after, later, congrArg (_ :: ·) calls,
        .cons deleted others, retires.cons gone name⟩
    · replace ended : deletion.outcome answer state = (.error (.kubernetes e), middle) := ended
      have failure := outcome_stage_error ended s!"deleting EnvoyFilter {name}"
      have stopped : Retires (name :: rest.map (filterName filter)) ([] ++ [name]) ([] ++ [.error e])
        (.error (.context s!"deleting EnvoyFilter {name}" (.kubernetes e))) := .stopped rfl nofun left
      rw [parts, outcome_bind_error failure, exchanges_bind_error failure, exchanges_stage]
      exact ⟨[name], [.error e], _, middle, rfl, rfl, .cons deleted (.nil middle), stopped⟩

/-- The first part of a withdrawal, which restores the selected workloads. -/
def restore (rollout : Rollout) : Program (List ObjectMeta) :=
  Enumeration.mutateSelected rollout.settings.target.kind rollout.settings.target.namespaceName
    rollout.settings.target.labels removeFromWorkload Enumeration.silent

theorem remove_of_valid (rollout : Rollout) {filter : FilterSpec} (valid : filter.validate = .ok ()) :
    rollout.remove filter =
      (rollout.restore.stage "removing annotations from workload").bind (rollout.retire filter) := by
  rw [remove_eq, valid]
  rfl

theorem restore_callsOnly (rollout : Rollout) : CallsOnly [.listWorkloads, .updateWorkload] rollout.restore :=
  Enumeration.mutateSelected_callsOnly (by simp) (by simp) (fun _ _ => .done _) (fun _ _ => .done _) ..

/-- Restoring in turn stops at the first workload that cannot be stored. -/
theorem restoreEach_ends (answer : Answerer State) (workloads : List Workload) (state : State) :
    let restoration := Enumeration.mutateEach removeFromWorkload Enumeration.silent workloads
    (∃ last, restoration.outcome answer state = (.ok (workloads.map (·.metadata)), last) ∧
        restoration.exchanges answer state = workloads.map restored) ∨
      ∃ before workload behind e last, workloads = before ++ workload :: behind ∧
        restoration.outcome answer state = (.error e, last) ∧
        restoration.exchanges answer state =
          before.map restored ++ [⟨.updateWorkload (removal.update workload), .error e⟩] := by
  induction workloads generalizing state with
  | nil => exact .inl ⟨state, rfl, rfl⟩
  | cons workload rest ih =>
    let storing : Program Unit := perform (.updateWorkload (removal.update workload))
    have calls : (Enumeration.mutateOne removeFromWorkload workload).exchanges answer state =
      storing.exchanges answer state := rfl
    cases ended : storing.outcome answer state with
    | mk stored middle =>
      have one : (Enumeration.mutateOne removeFromWorkload workload).outcome answer state = (stored, middle) := ended
      have first : storing.exchanges answer state = [⟨.updateWorkload (removal.update workload), stored⟩] :=
        exchanges_perform_of (congrArg Prod.fst ended)
      cases stored with
      | error e =>
        obtain ⟨outcome, exchanges⟩ := Enumeration.mutateEach_cons_error Enumeration.watches_silent rest one
        exact .inr ⟨[], workload, rest, e, middle, rfl, outcome, exchanges.trans (calls.trans first)⟩
      | ok value =>
        obtain ⟨outcome, exchanges⟩ := Enumeration.mutateEach_cons_ok Enumeration.watches_silent rest one
        intro restoration
        rw [outcome, exchanges, calls, first]
        rcases ih middle with ⟨last, later, others⟩ | ⟨before, failed, behind, e, last, split, later, others⟩
        · exact .inl ⟨last, outcome_bind_ok later, congrArg (_ :: ·) others⟩
        · exact .inr ⟨workload :: before, failed, behind, e, last, congrArg (workload :: ·) split,
            outcome_bind_error later, congrArg (_ :: ·) others⟩

/-- What restoring comes to: all listed workloads are restored, or it fails, and then not all that were listed are
restored. -/
theorem restore_ends (rollout : Rollout) (answer : Answerer State) (state : State) :
    (∃ workloads, rollout.restore.outcome answer state =
          (.ok (workloads.map (·.metadata)), after answer state (rollout.restoredAll workloads)) ∧
        rollout.restore.exchanges answer state = rollout.restoredAll workloads) ∨
      ∃ e last, rollout.restore.outcome answer state = (.error e, last) ∧
        ∀ workloads, ¬rollout.restoredAll workloads <+: rollout.restore.exchanges answer state := by
  let listed : Call := .listWorkloads rollout.settings.target.kind rollout.settings.target.namespaceName
    (LabelSelector.ofLabels rollout.settings.target.labels)
  let listing : Program (List Workload) := perform listed
  have parts : rollout.restore =
    listing.bind (Enumeration.mutateEach removeFromWorkload Enumeration.silent) := rfl
  cases ended : listing.outcome answer state with
  | mk found start =>
    have first : listing.exchanges answer state = [⟨listed, found⟩] := exchanges_perform_of (congrArg Prod.fst ended)
    cases found with
    | error e =>
      refine .inr ⟨e, start, outcome_bind_error ended, fun workloads begins => ?_⟩
      rw [parts, exchanges_bind_error ended, first] at begins
      have same := (List.cons_prefix_cons.mp begins).1
      cases same
    | ok workloads =>
      rcases restoreEach_ends answer workloads start with
        ⟨last, later, others⟩ | ⟨before, workload, behind, e, last, rfl, later, others⟩
      · have outcome := (outcome_bind_ok ended).trans later
        have calls : rollout.restore.exchanges answer state = rollout.restoredAll workloads := by
          rw [parts, exchanges_bind_ok ended, first, others]
          rfl
        have left := outcome_snd_eq_after answer rollout.restore state
        rw [calls] at left
        exact .inl ⟨workloads, outcome.trans (Prod.ext rfl ((congrArg Prod.snd outcome).symm.trans left)), calls⟩
      · refine .inr ⟨e, last, (outcome_bind_ok ended).trans later, fun listedAll begins => ?_⟩
        rw [parts, exchanges_bind_ok ended, first, others] at begins
        obtain ⟨same, stored⟩ := List.cons_prefix_cons.mp begins
        cases same
        -- The failure stands where this workload would have been restored.
        rw [List.map_append, List.map_cons] at stored
        have same := (List.cons_prefix_cons.mp ((List.prefix_append_right_inj _).mp stored)).1
        cases same

/-- What a withdrawal comes to: it deletes nothing, and not all that were listed are restored, or all listed workloads
are restored and it goes on with their Envoy filters. -/
theorem remove_inversion (rollout : Rollout) (filter : FilterSpec) (answer : Answerer State) (state : State) :
    let run := (rollout.remove filter).exchanges answer state
    ((∀ exchange ∈ run, exchange.request.name ≠ .deleteFilter) ∧ ∀ workloads, ¬rollout.restoredAll workloads <+: run) ∨
      ∃ workloads : List Workload,
        let retirement := rollout.retire filter (workloads.map (·.metadata))
        let middle := after answer state (rollout.restoredAll workloads)
        run = rollout.restoredAll workloads ++ retirement.exchanges answer middle ∧
          (rollout.remove filter).outcome answer state = retirement.outcome answer middle := by
  intro run
  cases valid : filter.validate with
  | error e =>
    have refused : run = [] := by
      change (rollout.remove filter).exchanges answer state = []
      rw [remove_eq, valid]
      rfl
    rw [refused]
    exact .inl ⟨fun exchange member => absurd member List.not_mem_nil, fun workloads => by simp [restoredAll]⟩
  | ok accepted =>
    have parts := rollout.remove_of_valid valid
    rcases rollout.restore_ends answer state with ⟨workloads, ended, calls⟩ | ⟨e, last, failed, short⟩
    · have staged := outcome_stage_ok ended "removing annotations from workload"
      refine .inr ⟨workloads, ?_, ?_⟩
      · change (rollout.remove filter).exchanges answer state = _
        rw [parts, exchanges_bind_ok staged, exchanges_stage, calls]
      · rw [parts, outcome_bind_ok staged]
    · have only : run = rollout.restore.exchanges answer state := by
        change (rollout.remove filter).exchanges answer state = _
        rw [parts, exchanges_bind_error (outcome_stage_error failed _), exchanges_stage]
      rw [only]
      refine .inl ⟨fun exchange member deletes => ?_, short⟩
      have named := rollout.restore_callsOnly.name_mem member
      simp [deletes] at named

/-- The deletions of a withdrawal. With an owner there are none, and there are none either if an update failed. Without
an owner, restoring all listed workloads is followed by one deletion for each of them, in their order, up to the first
that the API answers with an error other than 404. The withdrawal ends with this error, and it succeeds exactly if there
is none. -/
theorem remove_retires {server : Api.Server State} (through : Api.DeletesThrough server answer) (rollout : Rollout)
    (filter : FilterSpec) (state : State) :
    let namespaceName := rollout.settings.target.namespaceName
    let run := (rollout.remove filter).exchanges answer state
    let deletesNothing := ∀ exchange ∈ run, exchange.request.name ≠ .deleteFilter
    (rollout.owner ≠ none → deletesNothing) ∧
      ((∃ updated e, (⟨.updateWorkload updated, .error e⟩ : Exchange) ∈ run) → deletesNothing) ∧
      ∀ workloads, rollout.restoredAll workloads <+: run → rollout.owner = none →
        ∃ deletions reached answers result left,
          run = rollout.restoredAll workloads ++ deletions ∧
          (rollout.remove filter).outcome answer state = (result, left) ∧
          deletions.map (·.request) = reached.map (.deleteFilter namespaceName) ∧
          Api.DeletesEach server namespaceName reached (after answer state (rollout.restoredAll workloads)) answers
            left ∧
          Retires (workloads.map fun workload => filterName filter workload.metadata) reached answers result ∧
          (result = .ok () ↔ ∀ answered ∈ answers, Api.Gone answered) := by
  intro namespaceName run deletesNothing
  rcases rollout.remove_inversion filter answer state with ⟨nothing, unfinished⟩ | ⟨workloads, calls, ended⟩
  · exact ⟨fun _ => nothing, fun _ => nothing, fun workloads begins => absurd begins (unfinished workloads)⟩
  · replace calls : run = _ := calls
    refine ⟨fun owned exchange member => ?_, fun failed => ?_, fun listed begins unowned => ?_⟩
    · have nothing : rollout.retire filter (workloads.map (·.metadata)) = .done (.ok ()) := by
        obtain ⟨owner, given⟩ := Option.ne_none_iff_exists'.mp owned
        rw [retire, given]
      rw [calls, nothing, exchanges_done, List.append_nil] at member
      exact (restoredAll_ok member).1
    · obtain ⟨updated, e, member⟩ := failed
      rw [calls] at member
      rcases List.mem_append.mp member with restored | deleted
      · have success := (restoredAll_ok restored).2
        cases success
      · have named := (rollout.retire_callsOnly filter _).name_mem deleted
        simp [Call.name] at named
    · rw [calls] at begins
      -- A run has one listing, so the workloads are those that were restored.
      have same := (List.cons_prefix_cons.mp begins).1
      cases same
      have parts : rollout.retire filter (workloads.map (·.metadata)) =
          deleteFilters namespaceName filter.id (workloads.map (·.metadata)) := by
        rw [retire, unowned]
      rw [parts] at calls ended
      obtain ⟨reached, answers, result, left, outcome, requests, deleted, retires⟩ := deleteFilters_retires through
        namespaceName filter (workloads.map (·.metadata)) (after answer state (rollout.restoredAll workloads))
      rw [List.map_map] at retires
      exact ⟨_, reached, answers, result, left, calls, ended.trans outcome, requests, deleted, retires, retires.ok_iff⟩

/-- Workloads are listed as given and stored without fail, and Envoy filters are deleted through the API. -/
def serving {State : Type} (server : Api.Server State) (workloads : List Workload) : Answerer State
  | .listWorkloads .., state => (.ok workloads, state)
  | .updateWorkload _, state => (.ok (), state)
  | .deleteFilter namespaceName name, state =>
    Api.deleteAny server .envoyFilters namespaceName name Api.readAnyObject? state
  | _, state => (.error (.collaborator "cluster" "not available"), state)

/-- Three Deployments. -/
def threeDeployments : List Workload :=
  ["api", "jobs", "web"].map fun name =>
    ⟨.deployment, { ObjectMeta.empty with name := some name, namespaceName := some "default" }, none, none⟩

/-- The API finds no Envoy filter of the first Deployment, and fails at that of the second one. -/
def secondFails : Api.Script where
  entries := [("api-auth", 404), ("jobs-auth", 503)].map fun answer =>
    ⟨"DELETE", "/apis/networking.istio.io/v1alpha3/namespaces/default/envoyfilters/" ++ answer.1, none, none, answer.2,
      .text ""⟩
  requests := []

/-- The third deletion is not made there. -/
theorem remove_retires_until_failure :
    Api.DeletesThrough Api.Script.server (serving Api.Script.server threeDeployments) ∧
      let answer := serving Api.Script.server threeDeployments
      let run := (toDeployments.remove .auth).exchanges answer secondFails
      toDeployments.restoredAll threeDeployments <+: run ∧ toDeployments.owner = none ∧
        ((toDeployments.remove .auth).outcome answer secondFails).1 =
          .error (.context "deleting EnvoyFilter jobs-auth" (.kubernetes (.refused
            ⟨"503 Service Unavailable", "\"\"", "Failed to parse error data", 503⟩))) ∧
        ∃ deletions reached answers result left,
          run = toDeployments.restoredAll threeDeployments ++ deletions ∧
          (toDeployments.remove .auth).outcome answer secondFails = (result, left) ∧
          deletions.map (·.request) = reached.map (.deleteFilter "default") ∧
          Api.DeletesEach Api.Script.server "default" reached
            (after answer secondFails (toDeployments.restoredAll threeDeployments)) answers left ∧
          Retires ["api-auth", "jobs-auth", "web-auth"] reached answers result ∧
          (result = .ok () ↔ ∀ answered ∈ answers, Api.Gone answered) := by
  have through : Api.DeletesThrough Api.Script.server (serving Api.Script.server threeDeployments) :=
    fun _ _ _ => rfl
  have restored : toDeployments.restoredAll threeDeployments <+:
      (toDeployments.remove .auth).exchanges (serving Api.Script.server threeDeployments) secondFails := ⟨_, rfl⟩
  have failed : ((toDeployments.remove .auth).outcome (serving Api.Script.server threeDeployments) secondFails).1 =
      .error (.context "deleting EnvoyFilter jobs-auth" (.kubernetes (.refused
        ⟨"503 Service Unavailable", "\"\"", "Failed to parse error data", 503⟩))) := by
    decide +kernel
  obtain ⟨-, -, retires⟩ := remove_retires through toDeployments .auth secondFails
  exact ⟨through, restored, rfl, failed, retires threeDeployments restored rfl⟩

end Rollout

end FilterRollout
