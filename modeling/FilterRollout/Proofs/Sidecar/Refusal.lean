import FilterRollout.Proofs.Sidecar.Restoration

/-! Merges of required annotations that fail. The first required key that cannot be merged ends the merge, with all keys
before it merged and all else as it was. Main statement: `apply_refuses`. -/

namespace FilterRollout

namespace SortedMap

universe u

variable {Value : Type u} {map : SortedMap Value} {key : String} {value : Value} {before after : List (String × Value)}

/-- The bindings of the keys before a key. -/
def below (map : SortedMap Value) (key : String) : SortedMap Value :=
  ⟨map.entries.filter (·.1 < key), map.sorted.filter _⟩

theorem toList_below (split : map.toList = before ++ (key, value) :: after) : (map.below key).toList = before := by
  have sorted := map.sorted
  change (map.toList.filter fun entry => entry.1 < key) = before
  rw [show map.entries = map.toList from rfl, split, List.pairwise_append] at sorted
  obtain ⟨-, behind, apart⟩ := sorted
  have kept : (before.filter fun entry => entry.1 < key) = before :=
    List.filter_eq_self.mpr fun entry member => by simpa using apart entry member _ List.mem_cons_self
  have dropped : (((key, value) :: after).filter fun entry => entry.1 < key) = [] := by
    refine List.filter_eq_nil_iff.mpr fun entry member => ?_
    rw [decide_eq_true_eq]
    rcases List.mem_cons.mp member with rfl | later
    · exact String.lt_irrefl _
    · exact fun low => String.lt_irrefl _ (String.lt_trans low ((List.pairwise_cons.mp behind).1 entry later))
  rw [split, List.filter_append, kept, dropped, List.append_nil]

theorem mem_keys_below_iff {other : String} : other ∈ (map.below key).keys ↔ other ∈ map.keys ∧ other < key := by
  simp [keys, below, and_comm]

end SortedMap

namespace SidecarAnnotations

/-- A required text cannot be merged with the value of its key: there is one to merge with, and one of the two is no
list of volumes. -/
def Unmergeable (wanted : String) (value : Option String) : Prop :=
  ∃ current ∈ value, current ≠ "" ∧ current ≠ wanted ∧
    (VolumeList.read? current = none ∨ VolumeList.read? wanted = none)

/-- A required key that cannot be merged into annotations. -/
def Refused (required annotations : SortedMap String) (key : String) : Prop :=
  ∃ wanted ∈ required.get? key, Unmergeable wanted (annotations.get? key)

theorem mergeOne_error {annotations : SortedMap String} {key wanted : String} {e : Error}
    (failed : mergeOne annotations key wanted = .error e) :
    Unmergeable wanted (annotations.get? key) ∧ ∃ message, e = .validation message (some key) := by
  unfold mergeOne at failed
  cases found : annotations.get? key with
  | none =>
    rw [found] at failed
    cases failed
  | some current =>
    simp only [found] at failed
    by_cases same : current = wanted
    · rw [if_pos same] at failed
      cases failed
    · rw [if_neg same] at failed
      by_cases blank : current = ""
      · rw [if_pos blank] at failed
        cases failed
      · rw [if_neg blank] at failed
        cases joined : VolumeList.merge key current wanted with
        | ok merged =>
          rw [joined] at failed
          cases failed
        | error other =>
          rw [joined] at failed
          obtain rfl : other = e := Except.error.inj failed
          obtain ⟨unreadable, blamed⟩ := VolumeList.merge_error joined
          exact ⟨⟨current, rfl, blank, same, unreadable⟩, blamed⟩

/-- A merge at one key that succeeds had something to set, nothing to do or two lists. -/
theorem not_unmergeable_of_mergeOne {annotations merged : SortedMap String} {key wanted : String}
    (success : mergeOne annotations key wanted = .ok merged) : ¬ Unmergeable wanted (annotations.get? key) := by
  rintro ⟨current, found, filled, different, unreadable⟩
  rcases mergeOne_cases success with ⟨same, -⟩ | ⟨none | blank, -⟩ | ⟨other, joined, there, -, -, merges, -⟩
  · exact different (Option.some.inj (found.symm.trans same))
  · exact Option.some_ne_none _ (found.symm.trans none)
  · exact filled (Option.some.inj (found.symm.trans blank))
  · obtain rfl : current = other := Option.some.inj (found.symm.trans there)
    obtain ⟨e, failed⟩ := VolumeList.merge_error_iff.mpr unreadable
    rw [failed] at merges
    cases merges

/-- A merge that fails has merged the entries before the one at which it fails. -/
theorem mergeEach_error {annotations : SortedMap String} {entries : List (String × String)} {e : Error}
    (failed : (mergeEach annotations entries).2 = .error e) :
    ∃ before entry after merged, entries = before ++ entry :: after ∧
      mergeEach annotations before = (merged, .ok ()) ∧ mergeOne merged entry.1 entry.2 = .error e ∧
        (mergeEach annotations entries).1 = merged := by
  induction entries generalizing annotations with
  | nil => cases failed
  | cons entry rest ih =>
    rw [mergeEach] at failed ⊢
    cases first : mergeOne annotations entry.1 entry.2 with
    | error other =>
      rw [first] at failed
      obtain rfl : other = e := Except.error.inj failed
      exact ⟨[], entry, rest, annotations, rfl, rfl, first, rfl⟩
    | ok next =>
      rw [first] at failed
      obtain ⟨before, blocked, after, merged, rfl, success, refused, left⟩ := ih failed
      exact ⟨entry :: before, blocked, after, merged, rfl, mergeEach_ok_iff.mpr ⟨next, first, success⟩, refused, left⟩

/-- Merging leaves every key alone that it was not asked for and that is no backup of one. -/
theorem get?_of_mergeEach_of_ne {annotations merged : SortedMap String} {entries : List (String × String)}
    {key : String} (apart : ∀ entry ∈ entries, entry.1 ≠ key ∧ backupKey entry.1 ≠ key)
    (success : mergeEach annotations entries = (merged, .ok ())) : merged.get? key = annotations.get? key := by
  induction entries generalizing annotations with
  | nil =>
    obtain ⟨rfl, -⟩ := Prod.mk.inj success
    rfl
  | cons entry rest ih =>
    obtain ⟨next, first, later⟩ := mergeEach_ok_iff.mp success
    obtain ⟨here, others⟩ := List.forall_mem_cons.mp apart
    rw [ih others later, get?_of_mergeOne_of_ne first here.1 here.2]

/-- Where no key is the backup of another one, a merge that succeeds could merge every entry from the start. -/
theorem not_unmergeable_of_mergeEach {annotations merged : SortedMap String} {entries : List (String × String)}
    (distinct : (entries.map (·.1)).Nodup) (plain : ∀ entry ∈ entries, isBackupKey entry.1 = false)
    (success : mergeEach annotations entries = (merged, .ok ())) :
    ∀ entry ∈ entries, ¬ Unmergeable entry.2 (annotations.get? entry.1) := by
  induction entries generalizing annotations with
  | nil => simp
  | cons entry rest ih =>
    obtain ⟨next, first, later⟩ := mergeEach_ok_iff.mp success
    obtain ⟨absent, distinctRest⟩ := List.nodup_cons.mp distinct
    intro other member
    rcases List.mem_cons.mp member with rfl | behind
    · exact not_unmergeable_of_mergeOne first
    · have notKey : entry.1 ≠ other.1 := fun same => absent (List.mem_map.mpr ⟨other, behind, same.symm⟩)
      have notBackup : backupKey entry.1 ≠ other.1 := fun same => by
        simpa [← same] using plain other (List.mem_cons_of_mem _ behind)
      rw [← get?_of_mergeOne_of_ne first notKey notBackup]
      exact ih distinctRest (fun entry member => plain entry (List.mem_cons_of_mem _ member)) later other behind

variable {required : SortedMap String} {key : String}

theorem Plain.entry (plain : Plain required) : ∀ entry ∈ required.toList, isBackupKey entry.1 = false :=
  fun _ member => plain _ (List.mem_map_of_mem member)

/-- Merging the keys before a key leaves the key itself, all required keys behind it and their backups alone. -/
theorem Plain.apart_of_le (plain : Plain required) {later earlier : String} (member : later ∈ required.keys)
    (behind : key ≤ later) (listed : earlier ∈ required.keys) (below : earlier < key) :
    (earlier ≠ later ∧ backupKey earlier ≠ later) ∧
      earlier ≠ backupKey later ∧ backupKey earlier ≠ backupKey later := by
  have different : earlier ≠ later := by
    rintro rfl
    exact String.not_lt.mpr behind below
  refine ⟨⟨different, ?_⟩, ?_, fun same => different (backupKey_injective same)⟩
  · rintro rfl
    simpa using plain _ member
  · rintro rfl
    simpa using plain _ listed

/-- The keys before a key, merged, leave all alone that is neither one of them nor a backup of one. -/
theorem get?_of_mergeEach_below {annotations merged : SortedMap String} {other : String}
    (success : mergeEach annotations (required.below key).toList = (merged, .ok ()))
    (apart : ∀ earlier ∈ required.keys, earlier < key → earlier ≠ other ∧ backupKey earlier ≠ other) :
    merged.get? other = annotations.get? other := by
  refine get?_of_mergeEach_of_ne (fun entry member => ?_) success
  obtain ⟨listed, below⟩ := SortedMap.mem_keys_below_iff.mp (List.mem_map_of_mem (f := Prod.fst) member)
  exact apart entry.1 listed below

/-- Required annotations that cannot all be merged are merged up to the first that cannot. -/
theorem mergeEach_refuses {annotations : SortedMap String} {e : Error} (plain : Plain required)
    (failed : (mergeEach annotations required.toList).2 = .error e) :
    ∃ key message, e = .validation message (some key) ∧ Refused required annotations key ∧
      (∀ other, Refused required annotations other → key ≤ other) ∧
      mergeEach annotations (required.below key).toList = ((mergeEach annotations required.toList).1, .ok ()) := by
  obtain ⟨before, ⟨key, wanted⟩, after, merged, split, success, refused, left⟩ := mergeEach_error failed
  obtain ⟨unmergeable, message, blamed⟩ := mergeOne_error refused
  have listed : (key, wanted) ∈ required.toList := by simp [split]
  have wish : required.get? key = some wanted := SortedMap.mem_toList_iff.mp listed
  rw [← SortedMap.toList_below split] at success
  have same : merged.get? key = annotations.get? key := by
    refine get?_of_mergeEach_below success fun earlier member below => ?_
    exact (plain.apart_of_le (List.mem_map_of_mem listed) (String.le_refl key) member below).1
  rw [same] at unmergeable
  refine ⟨key, message, blamed, ⟨wanted, wish, unmergeable⟩, ?_, left ▸ success⟩
  rintro other ⟨wantedOther, wishOther, blocked⟩
  by_contra notBehind
  have below : other < key := String.not_le.mp notBehind
  -- A key before the one that failed was merged, so that it is no refused one.
  have entry : (other, wantedOther) ∈ (required.below key).toList :=
    List.mem_filter.mpr ⟨SortedMap.mem_toList_iff.mpr wishOther, by simpa using below⟩
  have plainBelow : ∀ entry ∈ (required.below key).toList, isBackupKey entry.1 = false :=
    fun entry member => plain.entry entry (List.mem_filter.mp member).1
  exact not_unmergeable_of_mergeEach (SortedMap.nodup_keys _) plainBelow success _ entry blocked

/-- A merge into a pod template fails exactly if a required key cannot be merged. The first such key is the one that is
blamed; the keys before it are merged as they are without it and those behind it, and nothing else is changed. -/
theorem apply_refuses (plain : Plain required) (template : PodTemplate) :
    ((∃ e, (apply required template).2 = .error e) ↔ ∃ key, Refused required template.annotations key) ∧
    ∀ e, (apply required template).2 = .error e → ∃ key message annotations,
      e = .validation message (some key) ∧ Refused required template.annotations key ∧
      (∀ other, Refused required template.annotations other → key ≤ other) ∧
      (apply required template).1 = template.withAnnotations (some annotations) ∧
      apply (required.below key) template = (template.withAnnotations (some annotations), .ok ()) ∧
      (∀ other, (∀ earlier ∈ required.keys, earlier < key → earlier ≠ other ∧ backupKey earlier ≠ other) →
        annotations.get? other = template.annotations.get? other) ∧
      ∀ later ∈ required.keys, key ≤ later → annotations.get? later = template.annotations.get? later ∧
        annotations.get? (backupKey later) = template.annotations.get? (backupKey later) := by
  refine ⟨⟨?_, ?_⟩, fun e failed => ?_⟩
  · rintro ⟨e, failed⟩
    obtain ⟨key, -, -, refused, -⟩ := mergeEach_refuses plain failed
    exact ⟨key, refused⟩
  · rintro ⟨key, wanted, wish, blocked⟩
    cases ended : (apply required template).2 with
    | error e => exact ⟨e, rfl⟩
    | ok =>
      have success : mergeEach template.annotations required.toList =
          ((mergeEach template.annotations required.toList).1, .ok ()) := Prod.ext rfl ended
      have merges := not_unmergeable_of_mergeEach (SortedMap.nodup_keys required) plain.entry success
      exact absurd blocked (merges (key, wanted) (SortedMap.mem_toList_iff.mpr wish))
  · obtain ⟨key, message, blamed, refused, first, success⟩ := mergeEach_refuses plain failed
    have frame {other : String}
        (apart : ∀ earlier ∈ required.keys, earlier < key → earlier ≠ other ∧ backupKey earlier ≠ other) :
        (mergeEach template.annotations required.toList).1.get? other = template.annotations.get? other :=
      get?_of_mergeEach_below success apart
    refine ⟨key, message, _, blamed, refused, first, rfl, ?_, fun other => frame, fun later member behind => ?_⟩
    · unfold apply
      rw [success]
    · exact ⟨frame fun earlier listed below => (plain.apart_of_le member behind listed below).1,
        frame fun earlier listed below => (plain.apart_of_le member behind listed below).2⟩

/-- Three required lists. -/
def demanded : SortedMap String := .ofList
  [("mounts", "[\x7b\"name\":\"cache\"\x7d]"), ("ports", "[\x7b\"port\":80\x7d]"), ("volumes", "[]")]

/-- A pod template with a list of mounts and with two texts that are no lists of volumes. -/
def misfilled : PodTemplate :=
  ((PodTemplate.empty.annotate "mounts" "[\x7b\"name\":\"data\"\x7d]").annotate "ports" "[80]")
    |>.annotate "volumes" "none"

/-- The first of the two is blamed; the mounts are merged and saved by then, and the other text is as it was. -/
theorem apply_refuses_misfilled : Plain demanded ∧ ∃ message annotations,
    (apply demanded misfilled).2 = .error (.validation message (some "ports")) ∧
    (apply demanded misfilled).1 = misfilled.withAnnotations (some annotations) ∧
    apply (demanded.below "ports") misfilled = (misfilled.withAnnotations (some annotations), .ok ()) ∧
    annotations.get? (backupKey "mounts") = some "[\x7b\"name\":\"data\"\x7d]" ∧
    annotations.get? "ports" = some "[80]" ∧ annotations.get? "volumes" = some "none" := by
  have plain : Plain demanded := by
    unfold Plain
    decide +kernel
  have blames : (apply demanded misfilled).2.mapError Error.field? = .error (some "ports") := by decide +kernel
  have saves : (apply demanded misfilled).1.annotations.get? (backupKey "mounts") =
      some "[\x7b\"name\":\"data\"\x7d]" := by decide +kernel
  cases ended : (apply demanded misfilled).2 with
  | ok =>
    rw [ended] at blames
    cases blames
  | error e =>
    obtain ⟨key, message, annotations, rfl, -, -, stored, merges, -, kept⟩ :=
      (apply_refuses plain misfilled).2 e ended
    rw [ended] at blames
    obtain rfl : key = "ports" := Option.some.inj (Except.error.inj blames)
    rw [stored] at saves
    refine ⟨plain, message, annotations, rfl, stored, merges, saves, ?_, ?_⟩
    · exact (kept "ports" (by decide +kernel) (by decide +kernel)).1.trans (by decide +kernel)
    · exact (kept "volumes" (by decide +kernel) (by decide +kernel)).1.trans (by decide +kernel)

end SidecarAnnotations

end FilterRollout
