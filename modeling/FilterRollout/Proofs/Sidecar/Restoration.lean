import FilterRollout.Proofs.Sidecar.Merging
import Mathlib.Algebra.Order.BigOperators.Group.List
import Mathlib.Algebra.Order.Group.Nat
import Mathlib.Data.List.Nodup

/-! Withdrawing the required annotations. Where no backup holds another backup, a key gets the value of its backup, and
a required key without one is gone. Main statements: `get?_withdraw_of_recoverable`, by which any number of merges is taken
back, and `withdraw_eq_self_iff`, by which a withdrawal leaves only maps as they are that none was made for. -/

namespace FilterRollout

namespace SortedMap

universe u

variable {Value : Type u}

theorem get?_foldl_erase (keys : List String) (map : SortedMap Value) (key : String) :
    (keys.foldl erase map).get? key = if key ∈ keys then none else map.get? key := by
  induction keys generalizing map with
  | nil => simp
  | cons head rest ih =>
    rw [List.foldl_cons, ih, get?_erase]
    by_cases later : key ∈ rest
    · simp [later]
    · by_cases same : head = key
      · simp [same]
      · simp [later, same, Ne.symm same]

theorem get?_eq_none_iff {map : SortedMap Value} {key : String} : map.get? key = none ↔ key ∉ map.keys := by
  rw [mem_keys_iff]
  cases map.get? key <;> simp

end SortedMap

namespace SidecarAnnotations

theorem isBackupKey_iff {key : String} : isBackupKey key = true ↔ ∃ original, key = backupKey original := by
  rw [isBackupKey, List.isPrefixOf_iff_prefix]
  constructor
  · rintro ⟨rest, split⟩
    refine ⟨String.ofList rest, String.toList_inj.mp ?_⟩
    rw [toList_backupKey, String.toList_ofList, split]
  · rintro ⟨original, rfl⟩
    rw [toList_backupKey]
    exact List.prefix_append _ _

@[simp] theorem isBackupKey_backupKey (key : String) : isBackupKey (backupKey key) = true :=
  isBackupKey_iff.mpr ⟨key, rfl⟩

@[simp] theorem restoredKey_backupKey (key : String) : restoredKey (backupKey key) = key := by
  rw [restoredKey, toList_backupKey, List.drop_left, String.ofList_toList]

theorem get?_restoreOne (annotations : SortedMap String) (original key : String) :
    (restoreOne annotations (backupKey original)).get? key =
      if key = original then (annotations.get? (backupKey original)).or (annotations.get? key)
      else if key = backupKey original then none else annotations.get? key := by
  unfold restoreOne
  cases found : annotations.get? (backupKey original) with
  | none =>
    by_cases same : key = original
    · simp [same]
    · by_cases saved : key = backupKey original
      · simp [saved, found]
      · simp [same, saved]
  | some value =>
    by_cases same : key = original
    · simp [same]
    · simp [same, Ne.symm same, eq_comm]

/-- A key that is not restored loses its value exactly if it is one of the backups. -/
theorem get?_restoreEach {backups : List String} (marked : ∀ backup ∈ backups, isBackupKey backup = true) {key : String}
    (unsaved : backupKey key ∉ backups) (annotations : SortedMap String) :
    (backups.foldl restoreOne annotations).get? key = if key ∈ backups then none else annotations.get? key := by
  induction backups generalizing annotations with
  | nil => simp
  | cons backup rest ih =>
    obtain ⟨original, rfl⟩ := isBackupKey_iff.mp (marked backup List.mem_cons_self)
    obtain ⟨different, later⟩ := not_or.mp (mt List.mem_cons.mpr unsaved)
    have other : key ≠ original := fun same => different (congrArg backupKey same)
    rw [List.foldl_cons, ih (fun backup member => marked backup (List.mem_cons_of_mem _ member)) later,
      get?_restoreOne, if_neg other]
    by_cases behind : key ∈ rest
    · simp [behind]
    · by_cases same : key = backupKey original
      · simp [same]
      · simp [behind, same]

/-- A key gets the value that its backup has by then, unless the key is itself a backup that is restored later. -/
theorem get?_restoreEach_middle {before after : List String} {key : String}
    (marked : ∀ backup ∈ after, isBackupKey backup = true) (once : backupKey key ∉ after)
    (annotations : SortedMap String) :
    ((before ++ backupKey key :: after).foldl restoreOne annotations).get? key =
      if key ∈ after then none
      else ((before.foldl restoreOne annotations).get? (backupKey key)).or
        ((before.foldl restoreOne annotations).get? key) := by
  rw [List.foldl_append, List.foldl_cons, get?_restoreEach marked once, get?_restoreOne, if_pos rfl]

/-- A key is restored from its backup, unless the backup is itself one that is restored. -/
theorem get?_restoreEach_of_saved {backups : List String} (marked : ∀ backup ∈ backups, isBackupKey backup = true)
    (distinct : backups.Nodup) {key : String} (plain : isBackupKey key = false)
    (unnested : backupKey (backupKey key) ∉ backups) (saved : backupKey key ∈ backups) (annotations : SortedMap String) :
    (backups.foldl restoreOne annotations).get? key =
      (annotations.get? (backupKey key)).or (annotations.get? key) := by
  obtain ⟨before, after, rfl⟩ := List.append_of_mem saved
  simp only [List.mem_append, List.mem_cons, not_or] at unnested
  have apart := List.nodup_middle.mp distinct
  obtain ⟨once, -⟩ := List.nodup_cons.mp apart
  obtain ⟨notBefore, notAfter⟩ := not_or.mp (mt List.mem_append.mpr once)
  have unmarked (backups : List String) (marked : ∀ backup ∈ backups, isBackupKey backup = true) : key ∉ backups :=
    fun member => by simp [marked key member] at plain
  have markedBefore : ∀ backup ∈ before, isBackupKey backup = true :=
    fun backup member => marked backup (by simp [member])
  have markedAfter : ∀ backup ∈ after, isBackupKey backup = true :=
    fun backup member => marked backup (by simp [member])
  rw [get?_restoreEach_middle markedAfter notAfter, if_neg (unmarked after markedAfter),
    get?_restoreEach markedBefore unnested.1, if_neg notBefore, get?_restoreEach markedBefore notBefore,
    if_neg (unmarked before markedBefore)]

/-- The annotations without the required ones, before any backup is put back. -/
def dropped (required annotations : SortedMap String) : SortedMap String :=
  required.keys.foldl SortedMap.erase annotations

theorem get?_dropped (required annotations : SortedMap String) (key : String) :
    (dropped required annotations).get? key = if key ∈ required.keys then none else annotations.get? key :=
  SortedMap.get?_foldl_erase required.keys annotations key

/-- The backups that a withdrawal puts back. -/
def backups (required annotations : SortedMap String) : List String :=
  (dropped required annotations).keys.filter isBackupKey

theorem withdraw_eq (required annotations : SortedMap String) :
    withdraw required annotations = (backups required annotations).foldl restoreOne (dropped required annotations) := rfl

theorem isBackupKey_of_mem_backups {required annotations : SortedMap String} :
    ∀ backup ∈ backups required annotations, isBackupKey backup = true :=
  fun _ member => (List.mem_filter.mp member).2

theorem backupKey_mem_backups_iff {required annotations : SortedMap String} {key : String} :
    backupKey key ∈ backups required annotations ↔ (dropped required annotations).get? (backupKey key) ≠ none := by
  rw [backups, List.mem_filter, Ne, SortedMap.get?_eq_none_iff, not_not]
  simp

/-- A key without a backup is withdrawn if it is required or a backup itself. -/
theorem get?_withdraw_of_unsaved {required annotations : SortedMap String} {key : String}
    (unsaved : (dropped required annotations).get? (backupKey key) = none) :
    (withdraw required annotations).get? key =
      if isBackupKey key then none else (dropped required annotations).get? key := by
  have absent : backupKey key ∉ backups required annotations := by
    intro member
    exact backupKey_mem_backups_iff.mp member unsaved
  rw [withdraw_eq, get?_restoreEach isBackupKey_of_mem_backups absent]
  by_cases backup : isBackupKey key = true
  · rw [if_pos backup]
    split
    · rfl
    · rename_i unlisted
      obtain ⟨original, rfl⟩ := isBackupKey_iff.mp backup
      exact not_not.mp (mt backupKey_mem_backups_iff.mpr unlisted)
  · rw [if_neg backup, if_neg fun member => backup (isBackupKey_of_mem_backups key member)]

theorem get?_withdraw_of_saved {required annotations : SortedMap String} {key value : String}
    (plain : isBackupKey key = false)
    (unnested : (dropped required annotations).get? (backupKey (backupKey key)) = none)
    (saved : (dropped required annotations).get? (backupKey key) = some value) :
    (withdraw required annotations).get? key = some value := by
  have distinct : (backups required annotations).Nodup := (SortedMap.nodup_keys _).filter _
  have listed : backupKey key ∈ backups required annotations := backupKey_mem_backups_iff.mpr (by simp [saved])
  rw [withdraw_eq, get?_restoreEach_of_saved isBackupKey_of_mem_backups distinct plain
    (fun member => backupKey_mem_backups_iff.mp member unnested) listed, saved, Option.some_or]

/-- A withdrawal changes every map that has a required key or a backup, and no other one. -/
theorem withdraw_eq_self_iff {required annotations : SortedMap String} :
    withdraw required annotations = annotations ↔
      ∀ key ∈ annotations.keys, key ∉ required.keys ∧ isBackupKey key = false := by
  constructor
  · intro fixed
    -- A backup in a fixed map has a backup of its own, which is longer; this would never end.
    have longer (key : String) (member : backupKey key ∈ annotations.keys) :
        backupKey (backupKey key) ∈ annotations.keys := by
      by_contra unsaved
      have absent : (dropped required annotations).get? (backupKey (backupKey key)) = none := by
        rw [get?_dropped, SortedMap.get?_eq_none_iff.mpr unsaved, ite_self]
      have withdrawn := get?_withdraw_of_unsaved absent
      rw [fixed, if_pos (isBackupKey_backupKey key)] at withdrawn
      exact SortedMap.get?_eq_none_iff.mp withdrawn member
    have bounded (steps : Nat) : ∀ key, backupKey key ∈ annotations.keys →
        key.toList.length + steps ≤ (annotations.keys.map fun key => key.toList.length).sum := by
      induction steps with
      | zero =>
        intro key member
        have below := List.le_sum_of_mem (List.mem_map_of_mem (f := fun key : String => key.toList.length) member)
        rw [toList_backupKey, List.length_append] at below
        omega
      | succ steps ih =>
        intro key member
        have below := ih (backupKey key) (longer key member)
        have mark : backupMark.toList.length = 17 := by decide
        rw [toList_backupKey, List.length_append, mark] at below
        omega
    have plain : ∀ key ∈ annotations.keys, isBackupKey key = false := by
      intro key member
      by_contra backup
      obtain ⟨original, rfl⟩ := isBackupKey_iff.mp (Bool.eq_true_of_not_eq_false backup)
      have below := bounded ((annotations.keys.map fun key => key.toList.length).sum + 1) original member
      omega
    intro key member
    refine ⟨fun wanted => ?_, plain key member⟩
    have unsaved : (dropped required annotations).get? (backupKey key) = none := by
      rw [get?_dropped]
      split
      · rfl
      · exact SortedMap.get?_eq_none_iff.mpr fun saved => by simpa using plain _ saved
    have withdrawn := get?_withdraw_of_unsaved unsaved
    rw [fixed, get?_dropped, if_pos wanted, ite_self] at withdrawn
    exact SortedMap.get?_eq_none_iff.mp withdrawn member
  · intro clean
    have same : dropped required annotations = annotations := by
      refine SortedMap.ext_get? fun key => ?_
      rw [get?_dropped]
      split
      · rename_i wanted
        exact (SortedMap.get?_eq_none_iff.mpr fun member => (clean key member).1 wanted).symm
      · rfl
    have none : backups required annotations = [] := by
      refine List.filter_eq_nil_iff.mpr fun key member => ?_
      rw [same] at member
      simp [(clean key member).2]
    rw [withdraw_eq, none, same]
    rfl

theorem withdraw_empty (required : SortedMap String) : withdraw required .empty = .empty :=
  withdraw_eq_self_iff.mpr (by simp [SortedMap.keys, SortedMap.empty])

theorem annotations_remove (required : SortedMap String) (template : PodTemplate) :
    (remove required template).annotations = withdraw required template.annotations := by
  unfold remove PodTemplate.annotations
  cases found : template.annotations? with
  | none =>
    simp only [found, Option.getD_none]
    exact (withdraw_empty required).symm
  | some annotations =>
    simp only [Option.getD_some, PodTemplate.annotations?_withAnnotations]
    split
    · rename_i blank
      have entries : (withdraw required annotations).entries = [] := List.isEmpty_iff.mp blank
      exact (SortedMap.ext_get? fun key => by simp [SortedMap.get?, entries, SortedMap.empty]).symm
    · rfl

/-- Where nothing is left to withdraw, withdrawing again leaves the whole template as it is. -/
theorem remove_remove {required : SortedMap String} {template : PodTemplate}
    (fixed : withdraw required (remove required template).annotations = (remove required template).annotations) :
    remove required (remove required template) = remove required template := by
  cases found : template.annotations? with
  | none => simp [remove, found]
  | some annotations =>
    have once : remove required template = template.withAnnotations
        (if (withdraw required annotations).isEmpty then none else some (withdraw required annotations)) := by
      simp [remove, found]
    rw [once] at fixed ⊢
    by_cases blank : (withdraw required annotations).isEmpty = true
    · simp [remove, blank]
    · rw [if_neg blank] at fixed ⊢
      have again : withdraw required (withdraw required annotations) = withdraw required annotations := fixed
      simp [remove, again, blank]

/-- No required key is a backup. -/
def Plain (required : SortedMap String) : Prop := ∀ key ∈ required.keys, isBackupKey key = false

theorem plain_required : Plain required := by
  unfold Plain
  decide +kernel

/-- What a withdrawal gives back for a value that was replaced: the value, unless it was empty or the wanted one. -/
def formerValue (wanted : String) (value : Option String) : Option String :=
  value.filter fun text => text ≠ "" && text ≠ wanted

@[simp] theorem formerValue_none (wanted : String) : formerValue wanted none = none := rfl

@[simp] theorem formerValue_some (wanted text : String) :
    formerValue wanted (some text) = if text = "" ∨ text = wanted then none else some text := by
  by_cases blank : text = "" <;> by_cases same : text = wanted <;> simp_all [formerValue, Option.filter]

/-- How the original annotations are kept in those in which some keys were merged: values that are worth it as backups,
all others of no required key in their places. -/
structure Recoverable (required original : SortedMap String) (merged : List String) (current : SortedMap String) :
    Prop where
  inside : merged ⊆ required.keys
  untouched : ∀ key, isBackupKey key = false → key ∉ merged →
    current.get? key = original.get? key ∧ current.get? (backupKey key) = none
  backup : ∀ key ∈ merged, ∀ wanted, required.get? key = some wanted →
    current.get? (backupKey key) = formerValue wanted (original.get? key)
  wanted : ∀ key ∈ merged, ∀ wanted, required.get? key = some wanted →
    formerValue wanted (original.get? key) = none → current.get? key = some wanted
  unnested : ∀ key, isBackupKey key = true → current.get? (backupKey key) = none

/-- Merging at one key leaves all others but its backup alone. -/
theorem get?_of_mergeOne_of_ne {annotations merged : SortedMap String} {key wanted other : String}
    (success : mergeOne annotations key wanted = .ok merged) (notKey : key ≠ other) (notBackup : backupKey key ≠ other) :
    merged.get? other = annotations.get? other := by
  rcases mergeOne_cases success with ⟨-, rfl⟩ | ⟨-, rfl⟩ | ⟨current, joined, -, -, -, -, rfl⟩
  · rfl
  · rw [SortedMap.get?_insert, if_neg notKey]
  · rw [SortedMap.get?_insert, if_neg notKey]
    split
    · rfl
    · rw [SortedMap.get?_insert, if_neg notBackup]

variable {required original : SortedMap String}

/-- Before anything is merged the annotations are the original ones. -/
theorem Recoverable.start (unmarked : ∀ key ∈ original.keys, isBackupKey key = false) :
    Recoverable required original [] original where
  inside := by simp
  untouched := fun key _ _ => ⟨rfl, SortedMap.get?_eq_none_iff.mpr fun member => by simpa using unmarked _ member⟩
  backup := by simp
  wanted := by simp
  unnested := fun key _ => SortedMap.get?_eq_none_iff.mpr fun member => by simpa using unmarked _ member

/-- At the key itself: its value is saved the first time, if it is worth it, and never again. -/
theorem Recoverable.mergeOne_key {merged : List String} {current next : SortedMap String} {key wanted : String}
    (recoverable : Recoverable required original merged current) (plain : isBackupKey key = false)
    (wish : required.get? key = some wanted) (success : mergeOne current key wanted = .ok next) :
    next.get? (backupKey key) = formerValue wanted (original.get? key) ∧
      (formerValue wanted (original.get? key) = none → next.get? key = some wanted) := by
  have other : key ≠ backupKey key := (backupKey_ne_self key).symm
  rcases mergeOne_cases success with ⟨found, rfl⟩ | ⟨missing, rfl⟩ | ⟨value, joined, found, different, filled, -, rfl⟩
  · refine ⟨?_, fun _ => found⟩
    by_cases before : key ∈ merged
    · exact recoverable.backup key before wanted wish
    · obtain ⟨same, unsaved⟩ := recoverable.untouched key plain before
      rw [unsaved, ← same, found]
      simp
  · rw [SortedMap.get?_insert, if_neg other]
    refine ⟨?_, fun _ => by simp⟩
    by_cases before : key ∈ merged
    · exact recoverable.backup key before wanted wish
    · obtain ⟨same, unsaved⟩ := recoverable.untouched key plain before
      rw [unsaved, ← same]
      rcases missing with missing | missing <;> simp [missing]
  · rw [SortedMap.get?_insert, if_neg other]
    by_cases before : key ∈ merged
    · have backup := recoverable.backup key before wanted wish
      cases former : formerValue wanted (original.get? key) with
      | none =>
        have kept := recoverable.wanted key before wanted wish former
        rw [found] at kept
        exact absurd (Option.some.inj kept) different
      | some text =>
        rw [former] at backup
        have saved : current.contains (backupKey key) = true := by simp [SortedMap.contains, backup]
        rw [if_pos saved, backup]
        simp
    · obtain ⟨same, unsaved⟩ := recoverable.untouched key plain before
      have unsavedYet : ¬ current.contains (backupKey key) = true := by simp [SortedMap.contains, unsaved]
      rw [if_neg unsavedYet, SortedMap.get?_insert, if_pos rfl, ← same, found]
      simp [different, filled]

theorem Recoverable.mergeOne {merged : List String} {current next : SortedMap String} {key wanted : String}
    (recoverable : Recoverable required original merged current) (plain : Plain required)
    (wish : required.get? key = some wanted) (success : mergeOne current key wanted = .ok next) :
    Recoverable required original (key :: merged) next := by
  have member : key ∈ required.keys := SortedMap.mem_keys_iff.mpr ⟨wanted, wish⟩
  have plainKey := plain key member
  have values (other : String) (different : other ≠ key) (plainOther : isBackupKey other = false) :
      next.get? other = current.get? other := by
    refine get?_of_mergeOne_of_ne success different.symm ?_
    rintro rfl
    simp at plainOther
  have backups (other : String) (different : other ≠ key) :
      next.get? (backupKey other) = current.get? (backupKey other) := by
    refine get?_of_mergeOne_of_ne success ?_ fun same => different (backupKey_injective same).symm
    rintro rfl
    simp at plainKey
  obtain ⟨backup, set⟩ := recoverable.mergeOne_key plainKey wish success
  constructor
  · exact List.cons_subset.mpr ⟨member, recoverable.inside⟩
  · intro other plainOther absent
    obtain ⟨different, notBefore⟩ := not_or.mp (mt List.mem_cons.mpr absent)
    rw [values other different plainOther, backups other different]
    exact recoverable.untouched other plainOther notBefore
  · intro other listed wantedOther wishOther
    by_cases same : other = key
    · subst same
      obtain rfl := Option.some.inj (wish.symm.trans wishOther)
      exact backup
    · rw [backups other same]
      exact recoverable.backup other ((List.mem_cons.mp listed).resolve_left same) wantedOther wishOther
  · intro other listed wantedOther wishOther former
    by_cases same : other = key
    · subst same
      obtain rfl := Option.some.inj (wish.symm.trans wishOther)
      exact set former
    · have before := (List.mem_cons.mp listed).resolve_left same
      rw [values other same (plain other (recoverable.inside before))]
      exact recoverable.wanted other before wantedOther wishOther former
  · intro other nested
    have different : other ≠ key := by
      rintro rfl
      simp [plainKey] at nested
    rw [backups other different]
    exact recoverable.unnested other nested

theorem Recoverable.mergeEach {entries : List (String × String)} {merged : List String} {current next : SortedMap String}
    (recoverable : Recoverable required original merged current) (plain : Plain required)
    (wishes : ∀ entry ∈ entries, required.get? entry.1 = some entry.2)
    (success : mergeEach current entries = (next, .ok ())) :
    Recoverable required original ((entries.map (·.1)).reverse ++ merged) next := by
  induction entries generalizing current merged with
  | nil =>
    obtain ⟨rfl, -⟩ := Prod.mk.inj success
    exact recoverable
  | cons entry rest ih =>
    obtain ⟨middle, first, later⟩ := mergeEach_ok_iff.mp success
    have step := recoverable.mergeOne plain (wishes entry List.mem_cons_self) first
    have whole := ih step (fun other member => wishes other (List.mem_cons_of_mem _ member)) later
    simpa using whole

/-- A withdrawal after any number of merges: what was worth saving is back, all else of a required key is gone, and no
other key has changed. -/
theorem get?_withdraw_of_recoverable {merged : List String} {current : SortedMap String} (plain : Plain required)
    (unmarked : ∀ key ∈ original.keys, isBackupKey key = false)
    (recoverable : Recoverable required original merged current) (all : required.keys ⊆ merged) (key : String) :
    (withdraw required current).get? key =
      match required.get? key with
      | some wanted => formerValue wanted (original.get? key)
      | none => original.get? key := by
  have unrequired (key : String) (backup : isBackupKey key = true) : key ∉ required.keys := fun member => by
    simp [plain key member] at backup
  have keptBackups (key : String) : (dropped required current).get? (backupKey key) = current.get? (backupKey key) := by
    rw [get?_dropped, if_neg (unrequired _ (isBackupKey_backupKey key))]
  by_cases backup : isBackupKey key = true
  · have unsaved := (keptBackups key).trans (recoverable.unnested key backup)
    rw [get?_withdraw_of_unsaved unsaved, if_pos backup, SortedMap.get?_eq_none_iff.mpr (unrequired key backup)]
    exact (SortedMap.get?_eq_none_iff.mpr fun member => by simp [unmarked key member] at backup).symm
  · have plainKey := Bool.eq_false_of_not_eq_true backup
    cases wish : required.get? key with
    | none =>
      have absent : key ∉ required.keys := SortedMap.get?_eq_none_iff.mp wish
      obtain ⟨same, unsaved⟩ := recoverable.untouched key plainKey fun member => absent (recoverable.inside member)
      rw [get?_withdraw_of_unsaved ((keptBackups key).trans unsaved), if_neg backup, get?_dropped, if_neg absent]
      exact same
    | some wanted =>
      have member : key ∈ required.keys := SortedMap.mem_keys_iff.mpr ⟨wanted, wish⟩
      have saved := (keptBackups key).trans (recoverable.backup key (all member) wanted wish)
      cases former : formerValue wanted (original.get? key) with
      | none =>
        rw [former] at saved
        rw [get?_withdraw_of_unsaved saved, get?_dropped, if_pos member, ite_self]
        exact former.symm
      | some text =>
        rw [former] at saved
        have unnested := (keptBackups (backupKey key)).trans (recoverable.unnested _ (isBackupKey_backupKey key))
        rw [get?_withdraw_of_saved plainKey unnested saved]
        exact former.symm

end SidecarAnnotations

end FilterRollout
