import FilterRollout.Proofs.Sidecar.Restoration

/-! Backups of backups. Backups are restored in the order of their keys into the map that they are taken from. A backup
that is found before the backup of itself gives its value back, and gets that of its own backup afterwards. One that is
found after it has been overwritten by then. Main statement: `remove_restores_each_iff`. -/

namespace FilterRollout.SidecarAnnotations

theorem backupKey_lt_backupKey {key other : String} (below : key < other) : backupKey key < backupKey other := by
  rw [String.lt_iff, toList_backupKey, toList_backupKey]
  exact List.append_left_lt (String.lt_iff.mp below)

/-- The backups of a key, the backups of these and so on are in one order all the way. -/
theorem iterate_backupKey_lt {key : String} (descends : backupKey key < key) (number : Nat) :
    backupKey^[number + 1] key < key := by
  induction number with
  | zero => exact descends
  | succ number ih =>
    rw [Function.iterate_succ_apply']
    exact String.lt_trans (backupKey_lt_backupKey ih) descends

theorem lt_backupKey_of_not_lt {key : String} (notBelow : ¬ backupKey key < key) : key < backupKey key := by
  by_contra notAbove
  exact backupKey_ne_self key (String.le_antisymm (String.not_lt.mp notAbove) (String.not_lt.mp notBelow))

/-- Keys in ascending order, cut at one of them. -/
structure Cut (keys before : List String) (key : String) (after : List String) : Prop where
  whole : keys = before ++ key :: after
  ascending : before.Pairwise (· < ·)
  below : ∀ other ∈ before, other < key
  above : ∀ other ∈ after, key < other

namespace Cut

variable {keys before after : List String} {key : String}

theorem exists_of_mem (ascending : keys.Pairwise (· < ·)) (member : key ∈ keys) :
    ∃ before after, Cut keys before key after := by
  obtain ⟨before, after, rfl⟩ := List.append_of_mem member
  obtain ⟨first, second, across⟩ := List.pairwise_append.mp ascending
  refine ⟨before, after, rfl, first, ?_, (List.pairwise_cons.mp second).1⟩
  intro other front
  exact across other front key List.mem_cons_self

variable (cut : Cut keys before key after)

include cut

theorem mem_of_before {other : String} (member : other ∈ before) : other ∈ keys := by simp [cut.whole, member]

theorem mem_of_after {other : String} (member : other ∈ after) : other ∈ keys := by simp [cut.whole, member]

theorem not_mem_before : key ∉ before := fun member => String.lt_irrefl _ (cut.below _ member)

theorem not_mem_after : key ∉ after := fun member => String.lt_irrefl _ (cut.above _ member)

/-- The keys below the one at which the list is cut are those in front of it. -/
theorem mem_iff_of_lt {other : String} (below : other < key) : other ∈ keys ↔ other ∈ before := by
  have apart : ¬ other ∈ key :: after := by
    intro member
    rcases List.mem_cons.mp member with rfl | behind
    · exact String.lt_irrefl _ below
    · exact String.lt_irrefl _ (String.lt_trans (cut.above _ behind) below)
  rw [cut.whole, List.mem_append]
  exact or_iff_left apart

theorem mem_iff_of_gt {other : String} (above : key < other) : other ∈ keys ↔ other ∈ after := by
  have apart : ¬ other ∈ before := by
    intro member
    exact String.lt_irrefl _ (String.lt_trans (cut.below _ member) above)
  have different : other ≠ key := fun same => String.lt_irrefl _ (same ▸ above)
  rw [cut.whole, List.mem_append, List.mem_cons, or_iff_right apart]
  exact or_iff_right different

end Cut

/-- What a key has after backups of which one is its own. -/
theorem get?_restoreEach_of_cut {backups before after : List String} {key : String}
    (marked : ∀ backup ∈ backups, isBackupKey backup = true) (cut : Cut backups before (backupKey key) after)
    (annotations : SortedMap String) :
    (backups.foldl restoreOne annotations).get? key =
      if key ∈ after then none
      else ((before.foldl restoreOne annotations).get? (backupKey key)).or
        ((before.foldl restoreOne annotations).get? key) := by
  have markedAfter : ∀ backup ∈ after, isBackupKey backup = true :=
    fun backup member => marked backup (cut.mem_of_after member)
  rw [cut.whole, get?_restoreEach_middle markedAfter cut.not_mem_after]

/-- Where backups come before what they are backups of, a key that is none of them has in the end the value of the
outermost one in an unbroken row of them. -/
theorem get?_restoreEach_of_descending {backups : List String} (marked : ∀ backup ∈ backups, isBackupKey backup = true)
    (ascending : backups.Pairwise (· < ·)) {annotations : SortedMap String}
    (present : ∀ backup ∈ backups, backup ∈ annotations.keys) {key : String} (descends : backupKey key < key)
    (absent : key ∉ backups) :
    ∃ depth, (∀ number < depth, backupKey^[number + 1] key ∈ backups) ∧ backupKey^[depth + 1] key ∉ backups ∧
      (backups.foldl restoreOne annotations).get? key = annotations.get? (backupKey^[depth] key) := by
  -- The row goes on in front of the backup of the key, in a shorter list.
  induction length : backups.length using Nat.strong_induction_on generalizing backups key with
  | _ size ih =>
    by_cases saved : backupKey key ∈ backups
    · obtain ⟨before, after, cut⟩ := Cut.exists_of_mem ascending saved
      have nested := backupKey_lt_backupKey descends
      have shorter : before.length < size := by
        rw [← length, cut.whole, List.length_append, List.length_cons]
        omega
      obtain ⟨depth, unbroken, ends, value⟩ := ih before.length shorter
        (fun backup member => marked backup (cut.mem_of_before member)) cut.ascending
        (fun backup member => present backup (cut.mem_of_before member)) nested cut.not_mem_before rfl
      have row (number : Nat) :
          backupKey^[number + 1 + 1] key ∈ backups ↔ backupKey^[number + 1] (backupKey key) ∈ before :=
        cut.mem_iff_of_lt (iterate_backupKey_lt nested number)
      refine ⟨depth + 1, ?_, mt (row depth).mp ends, ?_⟩
      · intro number below
        cases number with
        | zero => exact saved
        | succ number => exact (row number).mpr (unbroken number (Nat.lt_of_succ_lt_succ below))
      · have held : backupKey^[depth] (backupKey key) ∈ annotations.keys := by
          cases depth with
          | zero => exact present _ saved
          | succ depth => exact present _ (cut.mem_of_before (unbroken depth (Nat.lt_succ_self depth)))
        obtain ⟨text, found⟩ := SortedMap.mem_keys_iff.mp held
        have stays : key ∉ after := fun member => absent (cut.mem_of_after member)
        rw [get?_restoreEach_of_cut marked cut, if_neg stays, value, Function.iterate_succ_apply, found,
          Option.some_or]
    · refine ⟨0, ?_, saved, ?_⟩
      · intro number none
        exact absurd none (Nat.not_lt_zero number)
      · rw [get?_restoreEach marked saved, if_neg absent]
        rfl

section

variable {required annotations : SortedMap String}

theorem ascending_backups : (backups required annotations).Pairwise (· < ·) :=
  (List.pairwise_map.mpr (dropped required annotations).sorted).filter _

theorem mem_backups_iff {key : String} :
    key ∈ backups required annotations ↔ key ∈ (dropped required annotations).keys ∧ isBackupKey key = true :=
  List.mem_filter

theorem iterate_mem_backups_iff {key : String} {number : Nat} :
    backupKey^[number + 1] key ∈ backups required annotations ↔
      backupKey^[number + 1] key ∈ (dropped required annotations).keys := by
  rw [mem_backups_iff, Function.iterate_succ_apply', isBackupKey_backupKey]
  exact and_iff_left rfl

/-- What a key has after a withdrawal that loses no backup: the value of its backup, and without one its own value,
unless the key is required or a backup itself. -/
def restoration (required annotations : SortedMap String) (key : String) : Option String :=
  match (dropped required annotations).get? (backupKey key) with
  | some value => some value
  | none => if key ∈ required.keys ∨ isBackupKey key = true then none else annotations.get? key

theorem restoration_of_saved {key : String} (saved : backupKey key ∈ (dropped required annotations).keys) :
    restoration required annotations key = (dropped required annotations).get? (backupKey key) := by
  obtain ⟨value, found⟩ := SortedMap.mem_keys_iff.mp saved
  rw [restoration, found]

/-- A key that has no backup, or comes before it. -/
theorem get?_withdraw_of_ascending {key : String}
    (ascends : backupKey key ∈ (dropped required annotations).keys → key < backupKey key) :
    (withdraw required annotations).get? key = restoration required annotations key := by
  cases found : (dropped required annotations).get? (backupKey key) with
  | none =>
    rw [get?_withdraw_of_unsaved found, restoration, found, get?_dropped]
    by_cases wanted : key ∈ required.keys <;> by_cases marked : isBackupKey key = true <;> simp [wanted, marked]
  | some value =>
    have saved : backupKey key ∈ (dropped required annotations).keys := SortedMap.mem_keys_iff.mpr ⟨value, found⟩
    have above := ascends saved
    obtain ⟨before, after, cut⟩ :=
      Cut.exists_of_mem ascending_backups (mem_backups_iff.mpr ⟨saved, isBackupKey_backupKey key⟩)
    have markedBefore : ∀ backup ∈ before, isBackupKey backup = true :=
      fun backup member => isBackupKey_of_mem_backups backup (cut.mem_of_before member)
    -- The key comes before its backup, and the backup before the backup of itself.
    have keyAfter : key ∉ after := fun member => String.lt_irrefl _ (String.lt_trans (cut.above _ member) above)
    have unnested : backupKey (backupKey key) ∉ before := by
      intro member
      exact String.lt_irrefl _ (String.lt_trans (cut.below _ member) (backupKey_lt_backupKey above))
    rw [restoration_of_saved saved, withdraw_eq, get?_restoreEach_of_cut isBackupKey_of_mem_backups cut,
      if_neg keyAfter, get?_restoreEach markedBefore unnested, if_neg cut.not_mem_before, found, Option.some_or]

/-- A backup that comes after the backup of itself is lost. -/
theorem get?_withdraw_of_overwritten {key : String} (saved : backupKey key ∈ (dropped required annotations).keys)
    (descends : backupKey key < key) (overwritten : key ∈ backups required annotations) :
    (withdraw required annotations).get? key = none := by
  obtain ⟨before, after, cut⟩ :=
    Cut.exists_of_mem ascending_backups (mem_backups_iff.mpr ⟨saved, isBackupKey_backupKey key⟩)
  rw [withdraw_eq, get?_restoreEach_of_cut isBackupKey_of_mem_backups cut,
    if_pos ((cut.mem_iff_of_gt descends).mp overwritten)]

/-- Any other key that comes after its backup gets the value of the outermost one in an unbroken row. -/
theorem get?_withdraw_of_descending {key : String} (saved : backupKey key ∈ (dropped required annotations).keys)
    (descends : backupKey key < key) (kept : key ∉ backups required annotations) :
    ∃ depth, (∀ number ≤ depth, backupKey^[number + 1] key ∈ (dropped required annotations).keys) ∧
      backupKey^[depth + 2] key ∉ (dropped required annotations).keys ∧
      (withdraw required annotations).get? key =
        (dropped required annotations).get? (backupKey^[depth + 1] key) := by
  obtain ⟨depth, unbroken, ends, value⟩ := get?_restoreEach_of_descending isBackupKey_of_mem_backups ascending_backups
    (fun backup member => (mem_backups_iff.mp member).1) descends kept
  cases depth with
  | zero => exact absurd (iterate_mem_backups_iff.mpr saved) ends
  | succ depth =>
    refine ⟨depth, ?_, mt iterate_mem_backups_iff.mpr ends, value⟩
    intro number inside
    exact iterate_mem_backups_iff.mp (unbroken number (Nat.lt_succ_of_le inside))

end

/-- A removal restores every backup exactly if none is found after the backup of itself. Of the keys that come after
their backups, those that are backups lose their values, and the others get the outermost ones. -/
theorem remove_restores_each_iff (required : SortedMap String) (template : PodTemplate) :
    let kept := dropped required template.annotations
    let left := (remove required template).annotations
    ((∀ key, left.get? key = restoration required template.annotations key) ↔
      ∀ key, backupKey key ∈ kept.keys → backupKey (backupKey key) ∈ kept.keys → key < backupKey key) ∧
    ∀ key,
      ((backupKey key ∈ kept.keys → key < backupKey key) →
        left.get? key = restoration required template.annotations key) ∧
      (backupKey key ∈ kept.keys → backupKey key < key → isBackupKey key = true → key ∈ kept.keys →
        left.get? key = none) ∧
      (backupKey key ∈ kept.keys → backupKey key < key → ¬ (isBackupKey key = true ∧ key ∈ kept.keys) →
        ∃ depth, (∀ number ≤ depth, backupKey^[number + 1] key ∈ kept.keys) ∧
          backupKey^[depth + 2] key ∉ kept.keys ∧ left.get? key = kept.get? (backupKey^[depth + 1] key)) := by
  intro kept left
  have withdrawn (key : String) : left.get? key = (withdraw required template.annotations).get? key :=
    congrArg (SortedMap.get? · key) (annotations_remove required template)
  have ascending {key : String} (ascends : backupKey key ∈ kept.keys → key < backupKey key) :
      left.get? key = restoration required template.annotations key :=
    (withdrawn key).trans (get?_withdraw_of_ascending ascends)
  have overwritten {key : String} (saved : backupKey key ∈ kept.keys) (descends : backupKey key < key)
      (marked : isBackupKey key = true) (own : key ∈ kept.keys) : left.get? key = none :=
    (withdrawn key).trans (get?_withdraw_of_overwritten saved descends (mem_backups_iff.mpr ⟨own, marked⟩))
  have outermost {key : String} (saved : backupKey key ∈ kept.keys) (descends : backupKey key < key)
      (stays : ¬ (isBackupKey key = true ∧ key ∈ kept.keys)) :
      ∃ depth, (∀ number ≤ depth, backupKey^[number + 1] key ∈ kept.keys) ∧
        backupKey^[depth + 2] key ∉ kept.keys ∧ left.get? key = kept.get? (backupKey^[depth + 1] key) := by
    rw [withdrawn]
    exact get?_withdraw_of_descending saved descends fun member => stays (mem_backups_iff.mp member).symm
  refine ⟨⟨?_, ?_⟩, fun key => ⟨ascending, overwritten, outermost⟩⟩
  · intro restored key saved nested
    by_contra notBelow
    have descends : backupKey key < key := Decidable.not_not.mp (mt lt_backupKey_of_not_lt notBelow)
    have lost := overwritten nested (backupKey_lt_backupKey descends) (isBackupKey_backupKey key) saved
    rw [restored, restoration_of_saved nested] at lost
    exact SortedMap.get?_eq_none_iff.mp lost nested
  · intro ordered key
    by_cases descends : backupKey key ∈ kept.keys ∧ backupKey key < key
    · obtain ⟨saved, below⟩ := descends
      -- A backup before its key is in no row with others, neither further out nor further in.
      have single : backupKey (backupKey key) ∉ kept.keys := by
        intro nested
        exact String.lt_irrefl _ (String.lt_trans below (ordered key saved nested))
      have stays : ¬ (isBackupKey key = true ∧ key ∈ kept.keys) := by
        rintro ⟨marked, own⟩
        obtain ⟨original, rfl⟩ := isBackupKey_iff.mp marked
        exact String.lt_irrefl _ (String.lt_trans below (backupKey_lt_backupKey (ordered original own saved)))
      obtain ⟨depth, unbroken, -, value⟩ := outermost saved below stays
      cases depth with
      | zero => rw [value, restoration_of_saved saved, Function.iterate_one]
      | succ depth => exact absurd (unbroken 1 (Nat.le_add_left 1 depth)) single
    · exact ascending fun saved => lt_backupKey_of_not_lt fun below => descends ⟨saved, below⟩

/-- A template with a backup for `x` and a backup of that backup. -/
def nested : PodTemplate :=
  (PodTemplate.empty.annotate (backupKey "x") "one").annotate (backupKey (backupKey "x")) "two"

/-- The backup of `x` is lost: `x` gets the value of the other one. -/
theorem remove_loses_backup :
    (remove required nested).annotations = .ofList [("x", "two")] ∧
      restoration required nested.annotations "x" = some "one" ∧
      ¬ ∀ key, (remove required nested).annotations.get? key = restoration required nested.annotations key := by
  have left : (remove required nested).annotations = .ofList [("x", "two")] := by decide +kernel
  have former : restoration required nested.annotations "x" = some "one" := by decide +kernel
  refine ⟨left, former, ?_⟩
  intro restored
  have wrong := restored "x"
  rw [left, former] at wrong
  exact absurd wrong (by decide +kernel)

end FilterRollout.SidecarAnnotations
