import FilterRollout.Proofs.Cluster.Stores
import FilterRollout.Proofs.Rollout.Visiting
import FilterRollout.Proofs.Text.Pieces
import Mathlib.Data.List.Forall2

/-! Which workloads an enumeration reaches. Labels that are written as a selector are read out of it again, so that a
store that goes by selectors lists the workloads that have the labels and no others. Main statement:
`mutateSelected_exact`. -/

namespace FilterRollout

namespace LabelSelector

/-- Labels that a selector can tell apart: nothing in them reads as the end of a label, nor in a key as the end of the
key. -/
structure Separable (labels : SortedMap String) : Prop where
  keys : ∀ label ∈ labels.toList, ',' ∉ label.1.toList ∧ '=' ∉ label.1.toList
  values : ∀ label ∈ labels.toList, ',' ∉ label.2.toList

/-- A key ends at the first equality sign, whatever the value is. -/
theorem cut?_label {key : String} (plain : '=' ∉ key.toList) (value : String) :
    Text.cut? '=' (key ++ "=" ++ value) = some (key, value) :=
  Text.cut?_of_toList (by simp) plain

theorem requirements_ofLabels {labels : SortedMap String} (separable : Separable labels) :
    requirements (ofLabels labels) = labels.toList := by
  by_cases none : labels.toList = []
  · rw [ofLabels, none]
    rfl
  · let part (label : String × String) := label.1 ++ "=" ++ label.2
    have parts : Text.split ',' (ofLabels labels) = labels.toList.map part := by
      refine Text.split_join (by simpa using none) fun piece member => ?_
      obtain ⟨label, listed, rfl⟩ := List.mem_map.mp member
      simp [(separable.keys label listed).1, separable.values label listed]
    have read : ∀ label ∈ labels.toList, (Text.cut? '=' ∘ part) label = some label :=
      fun label listed => cut?_label (separable.keys label listed).2 label.2
    rw [requirements, parts, List.filterMap_map, List.filterMap_congr read, List.filterMap_some]

theorem admits_ofLabels_iff {labels given : SortedMap String} (separable : Separable labels) :
    admits (ofLabels labels) given = true ↔ ∀ label ∈ labels.toList, given.get? label.1 = some label.2 := by
  simp [admits, requirements_ofLabels separable]

end LabelSelector

/-- The workload that a call stores, if it is to store one. -/
def Call.updated? : Call → Option Workload
  | .updateWorkload workload => some workload
  | _ => none

namespace Enumeration

open Program

/-- The workloads of a kind and a namespace that have all of these labels, and maybe others. -/
def matching (kind : WorkloadKind) (namespaceName : String) (labels : SortedMap String) (workloads : List Workload) :
    List Workload :=
  workloads.filter fun workload => workload.kind = kind ∧ workload.metadata.namespaceName = some namespaceName ∧
    ∀ label ∈ labels.toList, (workload.metadata.labels.getD .empty).get? label.1 = some label.2

theorem filter_selects_ofLabels {labels : SortedMap String} (separable : LabelSelector.Separable labels)
    (kind : WorkloadKind) (namespaceName : String) (workloads : List Workload) :
    workloads.filter (World.selects kind namespaceName (LabelSelector.ofLabels labels)) =
      matching kind namespaceName labels workloads := by
  refine List.filter_congr fun workload _ => ?_
  rw [Bool.eq_iff_iff, World.selects]
  simp only [Bool.and_eq_true, decide_eq_true_eq, LabelSelector.admits_ofLabels_iff separable, and_assoc]

variable {State : Type}

/-- A store that goes by selectors. A listing that does not fail gives, in their order, the workloads of the kind and
the namespace that have what the selector asks for. -/
def Evaluates (answer : Answerer State) (stored : State → List Workload) : Prop :=
  ∀ (kind : WorkloadKind) (namespaceName selector : String) (state after : State) (workloads : List Workload),
    answer (.listWorkloads kind namespaceName selector) state = (.ok workloads, after) →
      workloads = (stored state).filter (World.selects kind namespaceName selector)

theorem evaluates_world : Evaluates World.answer World.workloads := by
  intro kind namespaceName selector world after workloads answered
  rcases World.answer_cases (.listWorkloads kind namespaceName selector) world with ⟨e, failed, -⟩ | served
  · rw [failed] at answered
    cases answered
  · have listed := (congrArg Prod.fst served).symm.trans (congrArg Prod.fst answered)
    exact (Except.ok.inj listed).symm

/-- A mutation and an observer that leave the storing of workloads to the enumeration. -/
structure LeavesStoring (mutate : Mutation) (observe : Observer) (names : List CallName) : Prop where
  mutates : ∀ metadata template, CallsOnly names (mutate metadata template)
  observes : ∀ metadata error, CallsOnly names (observe metadata error)
  others : .updateWorkload ∉ names

/-- The workloads that are stored, or were to be stored. -/
def storings (log : List Happening) : List Workload :=
  (log.filterMap Happening.exchange?).filterMap fun exchange => exchange.request.updated?

/-- The workload with nothing but the pod template replaced. -/
def Retemplated (workload updated : Workload) : Prop := ∃ template, updated = workload.withTemplate template

theorem storings_append (log more : List Happening) : storings (log ++ more) = storings log ++ storings more := by
  simp [storings]

theorem storings_range_succ (number : Nat) (logs : Nat → List Happening) :
    storings ((List.range (number + 1)).flatMap logs) =
      storings ((List.range number).flatMap logs) ++ storings (logs number) := by
  rw [List.range_succ, List.flatMap_append, List.flatMap_singleton, storings_append]

variable {answer : Answerer State} {mutate : Mutation} {observe : Observer}

theorem storings_log_eq_nil {Value : Type} {names : List CallName} {program : Program Value}
    (only : CallsOnly names program) (others : .updateWorkload ∉ names) (state : State) :
    storings (program.log answer state) = [] := by
  rw [storings, filterMap_exchange?_log, List.filterMap_eq_nil_iff]
  intro exchange member
  have named := only.name_mem member
  cases request : exchange.request with
  | updateWorkload workload =>
    rw [request] at named
    exact absurd named others
  | _ => rfl

/-- A visit stores its workload, unless the mutation refuses it. -/
theorem Visit.storings_eq {names : List CallName} (leaves : LeavesStoring mutate observe names) {workload : Workload}
    {before after : State} {log : List Happening} {error : Option Error}
    (visit : Visit answer mutate observe workload before log error after) :
    (∃ updated, storings log = [updated] ∧ Retemplated workload updated) ∨ storings log = [] ∧ error ≠ none := by
  have mutates (state : State) : storings ((mutate workload.metadata workload.template).log answer state) = [] :=
    storings_log_eq_nil (leaves.mutates workload.metadata workload.template) leaves.others state
  have observes (error : Option Error) (state : State) :
      storings ((observe workload.metadata error).log answer state) = [] :=
    storings_log_eq_nil (leaves.observes workload.metadata error) leaves.others state
  cases visit with
  | refused mutated observed =>
    refine .inr ⟨?_, Option.some_ne_none _⟩
    rw [storings_append, mutates, observes]
    rfl
  | @stored template updated outcome middle last _ mutated replaced answered observed =>
    refine .inl ⟨updated, ?_, template, replaced⟩
    rw [storings_append, mutates]
    exact congrArg (updated :: ·) (observes _ _)

section

variable {workloads : List Workload} {start last : State} {log : List Happening}
  {result : Except Error (List ObjectMeta)} {count : Nat} {states : Nat → State} {logs : Nat → List Happening}
  {errors : Nat → Option Error} {names : List CallName}

/-- One more visit stores the next workload, unless it fails before that. -/
theorem GoesThrough.storings_next (leaves : LeavesStoring mutate observe names)
    (goes : GoesThrough answer mutate observe workloads start log result last count states logs errors) {number : Nat}
    (below : number < count)
    (earlier : List.Forall₂ Retemplated (workloads.take number) (storings ((List.range number).flatMap logs))) :
    List.Forall₂ Retemplated (workloads.take (number + 1)) (storings ((List.range (number + 1)).flatMap logs)) ∨
      storings (logs number) = [] ∧ errors number ≠ none := by
  have listed : number < workloads.length := Nat.lt_of_lt_of_le below goes.inside
  have found : workloads[number]? = some workloads[number] := List.getElem?_eq_getElem listed
  rcases (goes.visits number _ below found).storings_eq leaves with ⟨updated, stored, same⟩ | refused
  · left
    rw [List.take_add_one, found, storings_range_succ, stored]
    exact List.rel_append earlier (.cons same .nil)
  · exact .inr refused

/-- As long as nothing fails, every visit stores the workload whose turn it is. -/
theorem GoesThrough.storings_take (leaves : LeavesStoring mutate observe names)
    (goes : GoesThrough answer mutate observe workloads start log result last count states logs errors) {sound : Nat}
    (inside : sound ≤ count) (unfailed : ∀ number < sound, errors number = none) :
    List.Forall₂ Retemplated (workloads.take sound) (storings ((List.range sound).flatMap logs)) := by
  induction sound with
  | zero => exact .nil
  | succ number ih =>
    have earlier := ih (Nat.le_of_succ_le inside) fun other below => unfailed other (Nat.lt_succ_of_lt below)
    exact (goes.storings_next leaves inside earlier).resolve_right fun refused =>
      refused.2 (unfailed number (Nat.lt_succ_self number))

/-- What is stored are the workloads from the first one on, and all of them if nothing fails. -/
theorem GoesThrough.exists_reached (leaves : LeavesStoring mutate observe names)
    (goes : GoesThrough answer mutate observe workloads start log result last count states logs errors) :
    ∃ reached, reached <+: workloads ∧ List.Forall₂ Retemplated reached (storings log) ∧
      (result.isOk = true → reached = workloads) := by
  rw [goes.log_eq]
  rcases goes.ends with ⟨all, unfailed, ended⟩ | ⟨number, e, here, failed, ended⟩
  · refine ⟨workloads.take count, List.take_prefix _ _, goes.storings_take leaves (Nat.le_refl _) unfailed, fun _ => ?_⟩
    rw [all, List.take_length]
  · subst here ended
    have earlier := goes.storings_take leaves (Nat.le_succ number) fun other below =>
      goes.unfailed other (Nat.succ_lt_succ below)
    rcases goes.storings_next leaves (Nat.lt_succ_self number) earlier with stored | ⟨none, -⟩
    · exact ⟨workloads.take (number + 1), List.take_prefix _ _, stored, nofun⟩
    · refine ⟨workloads.take number, List.take_prefix _ _, ?_, nofun⟩
      rwa [storings_range_succ, none, List.append_nil]

end

section

variable {kind : WorkloadKind} {namespaceName : String} {labels : SortedMap String} {state after : State}

/-- Where the listing fails, nothing else happens. -/
theorem mutateSelected_unlisted (mutate : Mutation) (observe : Observer) {e : Error}
    (failed : answer (.listWorkloads kind namespaceName (LabelSelector.ofLabels labels)) state = (.error e, after)) :
    ((mutateSelected kind namespaceName labels mutate observe).run answer state).result = .error e ∧
      (mutateSelected kind namespaceName labels mutate observe).log answer state =
        [.exchanged ⟨.listWorkloads kind namespaceName (LabelSelector.ofLabels labels), .error e⟩] := by
  have listing : (perform (.listWorkloads kind namespaceName (LabelSelector.ofLabels labels))).outcome answer state =
      (.error e, after) := failed
  exact ⟨congrArg Prod.fst (outcome_bind_error listing), (log_bind_error listing).trans (log_perform_of failed)⟩

/-- What is listed is gone through. -/
theorem mutateSelected_listed (mutate : Mutation) (unfailing : Unfailing observe) {workloads : List Workload}
    (found : answer (.listWorkloads kind namespaceName (LabelSelector.ofLabels labels)) state =
      (.ok workloads, after)) :
    let ending := (mutateSelected kind namespaceName labels mutate observe).run answer state
    ∃ visits count states logs errors,
      (mutateSelected kind namespaceName labels mutate observe).log answer state =
          .exchanged ⟨.listWorkloads kind namespaceName (LabelSelector.ofLabels labels), .ok workloads⟩ :: visits ∧
        GoesThrough answer mutate observe workloads after visits ending.result ending.state count states logs
          errors := by
  intro ending
  have listing : (perform (.listWorkloads kind namespaceName (LabelSelector.ofLabels labels))).outcome answer state =
      (.ok workloads, after) := found
  have ended : (ending.result, ending.state) = (mutateEach mutate observe workloads).outcome answer after :=
    outcome_bind_ok listing
  have happened := (log_bind_ok listing).trans (congrArg (· ++ (mutateEach mutate observe workloads).log answer after)
    (log_perform_of found))
  rw [show ending.result = _ from congrArg Prod.fst ended, show ending.state = _ from congrArg Prod.snd ended]
  obtain ⟨count, states, logs, errors, goes⟩ := mutateEach_goesThrough unfailing workloads after
  exact ⟨_, count, states, logs, errors, happened, goes⟩

end

theorem unfailing_silent : Unfailing silent := fun _ _ _ _ state => ⟨state, rfl⟩

/-- Labels are read out of their selector as they are. So, with a store that goes by selectors, an enumeration fails to
list anything, or goes through the workloads of its kind and namespace that have all the labels, one after another, up
to the first that fails. If storing is left to it, it stores these workloads from the first one on, and, if it succeeds,
all of them. -/
theorem mutateSelected_exact {labels : SortedMap String} (separable : LabelSelector.Separable labels) :
    LabelSelector.requirements (LabelSelector.ofLabels labels) = labels.toList ∧
      ∀ {State : Type} {answer : Answerer State} {stored : State → List Workload}, Evaluates answer stored →
        ∀ (mutate : Mutation) {observe : Observer}, Unfailing observe →
          ∀ (kind : WorkloadKind) (namespaceName : String) (state : State),
            let listing : Call := .listWorkloads kind namespaceName (LabelSelector.ofLabels labels)
            let enumeration := mutateSelected kind namespaceName labels mutate observe
            let ending := enumeration.run answer state
            let log := enumeration.log answer state
            let chosen := matching kind namespaceName labels (stored state)
            ((∃ e, ending.result = .error e ∧ log = [.exchanged ⟨listing, .error e⟩]) ∨
                ∃ start visits count states logs errors, log = .exchanged ⟨listing, .ok chosen⟩ :: visits ∧
                  GoesThrough answer mutate observe chosen start visits ending.result ending.state count states logs
                    errors) ∧
              ∀ names, LeavesStoring mutate observe names →
                ∃ reached, reached <+: chosen ∧ List.Forall₂ Retemplated reached (storings log) ∧
                  (ending.result.isOk = true → reached = chosen) := by
  refine ⟨LabelSelector.requirements_ofLabels separable, ?_⟩
  intro State answer stored evaluates mutate observe unfailing kind namespaceName state listing enumeration ending log
    chosen
  cases listed : answer listing state with
  | mk outcome start =>
    cases outcome with
    | error e =>
      obtain ⟨failed, happened⟩ := mutateSelected_unlisted mutate observe listed
      refine ⟨.inl ⟨e, failed, happened⟩, fun names leaves => ⟨[], List.nil_prefix, ?_, ?_⟩⟩
      · rw [show log = _ from happened]
        exact .nil
      · rw [show ending.result = _ from failed]
        exact nofun
    | ok workloads =>
      have found : workloads = chosen :=
        (evaluates _ _ _ _ _ _ listed).trans (filter_selects_ofLabels separable kind namespaceName _)
      rw [found] at listed
      obtain ⟨visits, count, states, logs, errors, happened, goes⟩ := mutateSelected_listed mutate unfailing listed
      refine ⟨.inr ⟨start, visits, count, states, logs, errors, happened, goes⟩, fun names leaves => ?_⟩
      have reached := goes.exists_reached leaves
      -- The listing itself stores nothing.
      rw [show log = _ from happened]
      exact reached

/-- Labels with an equality sign in one value and nothing in another. -/
def versionLabels : SortedMap String := .ofList [("track", ""), ("version", "tag=1.8")]

/-- A workload with labels of its own. -/
def labelled (kind : WorkloadKind) (namespaceName name : String) (labels : SortedMap String) : Workload :=
  ⟨kind, { ObjectMeta.empty with name := some name, namespaceName := some namespaceName, labels := some labels },
    none, none⟩

/-- Two Deployments that have the labels, and four workloads that differ from them in a label, in the kind or in the
namespace. -/
def crowded : World where
  version := "1.8.0"
  digest := "sha256:ab"
  abiVersions := []
  registry := none
  events := []
  ready := [1]
  workloads := [
    labelled .deployment "shop" "cart" (versionLabels.insert "team" "front"),
    labelled .deployment "shop" "plain" (.ofList [("version", "tag=1.8")]),
    labelled .deployment "shop" "older" (versionLabels.insert "version" "tag=1.7"),
    labelled .statefulSet "shop" "store" versionLabels,
    labelled .deployment "default" "cart" versionLabels,
    labelled .deployment "shop" "search" versionLabels]
  filters := .empty
  faults := []
  counted := []

theorem mutateSelected_exact_crowded :
    let enumeration := mutateSelected .deployment "shop" versionLabels noteReadiness silent
    let ending := enumeration.run World.answer crowded
    LabelSelector.Separable versionLabels ∧ Evaluates World.answer World.workloads ∧ Unfailing silent ∧
      LabelSelector.requirements (LabelSelector.ofLabels versionLabels) = [("track", ""), ("version", "tag=1.8")] ∧
      ending.result.isOk = true ∧
      List.Forall₂ Retemplated
        (matching .deployment "shop" versionLabels crowded.workloads)
        (storings (enumeration.log World.answer crowded)) ∧
      (matching .deployment "shop" versionLabels crowded.workloads).map Workload.name = ["cart", "search"] ∧
      ending.state.workloads.map (·.template.annotations) =
        [.ofList [("ready", "1")], .empty, .empty, .empty, .empty, .ofList [("ready", "1")]] := by
  intro enumeration ending
  have separable : LabelSelector.Separable versionLabels := ⟨by decide, by decide⟩
  have leaves : LeavesStoring noteReadiness silent [.readyReplicas] :=
    ⟨fun _ _ => .bind (.perform (by decide)) fun _ => .done _, fun _ _ => .done _, by decide⟩
  obtain ⟨requirements, exact⟩ := mutateSelected_exact separable
  obtain ⟨-, reaches⟩ := exact evaluates_world noteReadiness unfailing_silent .deployment "shop" crowded
  obtain ⟨reached, -, stored, complete⟩ := reaches _ leaves
  have success : ending.result.isOk = true := by decide +kernel
  obtain rfl := complete success
  exact ⟨separable, evaluates_world, unfailing_silent, requirements, success, stored, by decide +kernel,
    by decide +kernel⟩

end Enumeration

end FilterRollout
