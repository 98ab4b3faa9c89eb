import FilterRollout.Json.Record
import FilterRollout.Proofs.Json.Places
import FilterRollout.Proofs.Json.Rereading

/-! Records that are written and read again. What is written for a record shows each field that is set, in whatever order
its members are; so a reader with a fitting entry for every field reads the record as it was. `Recovers` says so of a
writer and a reader, and has one lemma for each kind of field. -/

namespace FilterRollout.SortedMap

universe u

variable {Value : Type u} {entries : List (String × Value)}

theorem lookupEntry_eq_some_iff (distinct : (entries.map (·.1)).Nodup) {key : String} {value : Value} :
    lookupEntry key entries = some value ↔ (key, value) ∈ entries := by
  refine ⟨mem_of_lookupEntry, fun member => ?_⟩
  induction entries with
  | nil => simp at member
  | cons head rest ih =>
    obtain ⟨fresh, others⟩ := List.nodup_cons.mp distinct
    rcases List.mem_cons.mp member with rfl | later
    · simp [lookupEntry]
    · have different : ¬ head.1 = key := fun same => fresh (List.mem_map.mpr ⟨_, later, same.symm⟩)
      rw [lookupEntry, if_neg different, ih others later]

/-- Where no key is repeated, the first binding of a key is the last one. -/
theorem lookupEntry_reverse (distinct : (entries.map (·.1)).Nodup) (key : String) :
    lookupEntry key entries.reverse = lookupEntry key entries := by
  have reversed : (entries.reverse.map (·.1)).Nodup := by rwa [List.map_reverse, List.nodup_reverse]
  ext value
  rw [lookupEntry_eq_some_iff reversed, lookupEntry_eq_some_iff distinct, List.mem_reverse]

/-- Where no key is repeated, a key has one binding at most. -/
theorem filter_key (distinct : (entries.map (·.1)).Nodup) (key : String) :
    entries.filter (·.1 = key) = (lookupEntry key entries).toList.map (key, ·) := by
  induction entries with
  | nil => rfl
  | cons head rest ih =>
    obtain ⟨fresh, others⟩ := List.nodup_cons.mp distinct
    by_cases same : head.1 = key
    · have absent : ∀ entry ∈ rest, ¬ entry.1 = key :=
        fun entry member other => fresh (List.mem_map.mpr ⟨entry, member, other.trans same.symm⟩)
      rw [List.filter_cons_of_pos (by simpa using same), List.filter_eq_nil_iff.mpr (by simpa using absent), lookupEntry,
        if_pos same, ← same]
      rfl
    · rw [List.filter_cons_of_neg (by simpa using same), ih others, lookupEntry, if_neg same]

theorem get?_ofList (bindings : List (String × Value)) (key : String) :
    (ofList bindings).get? key = lookupEntry key bindings.reverse := by
  induction bindings using List.reverseRecOn with
  | nil => rfl
  | append_singleton earlier last ih =>
    have whole : ofList (earlier ++ [last]) = (ofList earlier).insert last.1 last.2 := List.foldl_concat ..
    rw [whole, get?_insert, ih, List.reverse_concat, lookupEntry]

@[simp] theorem ofList_toList (map : SortedMap Value) : ofList map.toList = map := by
  refine ext_get? fun key => ?_
  rw [get?_ofList, toList, lookupEntry_reverse map.nodup_keys]
  rfl

end FilterRollout.SortedMap

namespace FilterRollout.Json

/-- In which order the members of a written value stand: as they were put there, or by key. -/
inductive Layout
  | asPut
  | byKey

/-- A value with the members of its objects in an order. -/
def laidOut (json : Json) : Layout → Json
  | .asPut => json
  | .byKey => json.normalize

namespace Document

theorem ofItems_eq_map (items : List Json) : ofItems items = items.map ofJson := by
  induction items with
  | nil => rfl
  | cons item rest ih => exact congrArg (ofJson item :: ·) ih

theorem members?_ofMembers (members : List (String × Json)) :
    members? (ofMembers members) = some (members.map fun member => (member.1, ofJson member.2)) := by
  induction members with
  | nil => rfl
  | cons member rest ih => simp [ofMembers, members?, ih]

end Document

/-- The members of a record, one for each field that is set. -/
def setFields (fields : List (String × Option Json)) : List (String × Json) :=
  fields.filterMap fun field => field.2.map (field.1, ·)

theorem keys_setFields_sublist (fields : List (String × Option Json)) :
    ((setFields fields).map (·.1)).Sublist (fields.map (·.1)) := by
  induction fields with
  | nil => exact .slnil
  | cons field rest ih =>
    obtain ⟨name, value⟩ := field
    cases value with
    | none => exact ih.cons name
    | some json => exact ih.cons_cons name

theorem lookupEntry_setFields {fields : List (String × Option Json)} (distinct : (fields.map (·.1)).Nodup)
    (key : String) : SortedMap.lookupEntry key (setFields fields) = (SortedMap.lookupEntry key fields).join := by
  have members := (keys_setFields_sublist fields).nodup distinct
  ext json
  rw [SortedMap.lookupEntry_eq_some_iff members, Option.join_eq_some_iff, SortedMap.lookupEntry_eq_some_iff distinct]
  simp [setFields]

/-- The members that a layout makes of members without repeated keys: the same keys, each with its value laid out. -/
theorem exists_members_laidOut (layout : Layout) {members : List (String × Json)}
    (distinct : (members.map (·.1)).Nodup) :
    ∃ others, (object members).laidOut layout = object others ∧ (others.map (·.1)).Nodup ∧
      ∀ key, SortedMap.lookupEntry key others = (SortedMap.lookupEntry key members).map (laidOut · layout) := by
  cases layout with
  | asPut => exact ⟨members, rfl, distinct, fun key => by simp [laidOut]⟩
  | byKey =>
    refine ⟨normalizeMembers members, rfl, SortedMap.nodup_of_sorted (sorted_normalizeMembers members), fun key => ?_⟩
    rw [lookupEntry_normalizeMembers, member?, SortedMap.lookupEntry_reverse distinct]
    rfl

section

variable {layout : Layout} {fields : List (String × Option Json)} {given : List (String × Document)}

/-- The given members show fields in a layout: under each name what is set there, and nothing if nothing is. -/
def Shows (layout : Layout) (fields : List (String × Option Json)) (given : List (String × Document)) : Prop :=
  ∀ name, SortedMap.lookupEntry name given =
    (SortedMap.lookupEntry name fields).join.map fun json => .ofJson (json.laidOut layout)

/-- A record that was written is read, by a loose and by a strict reader, as members that show its fields. -/
theorem exists_shows (layout : Layout) (names : List String) {json : Json} {fields : List (String × Option Json)}
    (written : json = record fields) (named : fields.map (·.1) = names) (distinct : names.Nodup) :
    ∃ given, (Document.ofJson (json.laidOut layout)).strict? names = some given ∧
      (Document.ofJson (json.laidOut layout)).loose? = some given ∧ (given.map (·.1)).Nodup ∧
      Shows layout fields given := by
  subst written named
  have members := (keys_setFields_sublist fields).nodup distinct
  obtain ⟨others, whole, unrepeated, same⟩ := exists_members_laidOut layout members
  let given := others.map fun member => (member.1, Document.ofJson member.2)
  have read : Document.members? (Document.ofMembers others) = some given := Document.members?_ofMembers others
  have keys : given.map (·.1) = others.map (·.1) := by simp [given]
  have known : ∀ member ∈ given, (fields.map (·.1)).contains member.1 = true := by
    intro member present
    obtain ⟨other, listed, rfl⟩ := List.mem_map.mp present
    have found := same other.1
    rw [(SortedMap.lookupEntry_eq_some_iff unrepeated).mpr listed] at found
    obtain ⟨value, before, -⟩ := Option.map_eq_some_iff.mp found.symm
    have inside : other.1 ∈ (setFields fields).map (·.1) :=
      List.mem_map.mpr ⟨_, SortedMap.mem_of_lookupEntry before, rfl⟩
    exact List.contains_iff_mem.mpr ((keys_setFields_sublist fields).subset inside)
  have document : Document.ofJson ((record fields).laidOut layout) = .object (Document.ofMembers others) :=
    congrArg Document.ofJson whole
  refine ⟨given, ?_, ?_, keys ▸ unrepeated, fun name => ?_⟩
  · rw [document, Document.strict?, read]
    simp only [Option.bind_eq_bind, Option.bind_some, List.filter_eq_self.mpr known, keys, unrepeated, if_true]
  · rw [document, Document.loose?, read]
  · rw [SortedMap.lookupEntry_map, same, lookupEntry_setFields distinct, Option.map_map]
    rfl

end

/-- A written value is read, in either layout, as something. -/
def ReadAs {Value : Type} (decode : Document → Option Value) (json : Json) (value : Value) : Prop :=
  ∀ layout, decode (.ofJson (json.laidOut layout)) = some value

/-- What is written for a value is read as that value. -/
def Recovers {Value : Type} (encode : Value → Json) (decode : Document → Option Value) : Prop :=
  ∀ value, ReadAs decode (encode value) value

theorem recovers_text : Recovers .string Document.text? := by
  intro text layout
  cases layout <;> rfl

theorem recovers_bool : Recovers .bool Document.bool? := by
  intro value layout
  cases layout <;> rfl

/-- The tokens of an enumeration are read back if each stands for its own member. -/
theorem recovers_token {Member : Type} {token : Member → String} {ofToken? : String → Option Member}
    (named : ∀ member, ofToken? (token member) = some member) :
    Recovers (fun member => .string (token member)) fun document => document.token?.bind ofToken? := by
  intro member layout
  cases layout <;> exact named member

/-- What is read of a JSON value is that value in normal form, whatever the order of its members. -/
theorem readAs_value (json : Json) : ReadAs Document.value? json json.normalize := by
  intro layout
  rw [Document.value?, plain?_ofJson]
  cases layout with
  | asPut => rfl
  | byKey => exact congrArg some json.normalize_normalize

theorem laidOut_array (items : List Json) (layout : Layout) :
    (array items).laidOut layout = array (items.map (laidOut · layout)) := by
  cases layout with
  | asPut => simp [laidOut]
  | byKey => simp [laidOut, normalize, normalizeItems_eq_map]

/-- An array that is left out when it is empty. -/
theorem array_unless_empty {Value : Type} (encode : Value → Json) (values : List Value) :
    (if values.isEmpty then none else some (array (values.map encode))) =
        some (array (values.map encode)) ∨
      (if values.isEmpty then none else some (array (values.map encode))) = none ∧ values = [] := by
  cases values with
  | nil => exact .inr ⟨rfl, rfl⟩
  | cons value rest => exact .inl rfl

/-- The members of a map stand by key already. -/
theorem laidOut_textMap (map : SortedMap String) (layout : Layout) : (textMap map).laidOut layout = textMap map := by
  cases layout with
  | asPut => rfl
  | byKey =>
    refine congrArg object (normalizeMembers_eq_self (List.pairwise_map.mpr map.sorted) fun entry member => ?_)
    obtain ⟨binding, -, rfl⟩ := List.mem_map.mp member
    rfl

theorem recovers_textMap : Recovers textMap (Document.map? Document.text?) := by
  intro map layout
  have entries (bindings : List (String × String)) :
      (bindings.map fun entry => (entry.1, Document.ofJson (.string entry.2))).mapM
        (fun entry => (Document.text? entry.2).map (entry.1, ·)) = some bindings := by
    induction bindings with
    | nil => rfl
    | cons binding rest ih =>
      rw [List.map_cons, List.mapM_cons, ih]
      rfl
  have members := Document.members?_ofMembers (map.toList.map fun entry => (entry.1, string entry.2))
  rw [List.map_map] at members
  rw [laidOut_textMap, textMap, ofMap, Document.ofJson, Document.map?, members]
  simp only [Option.bind_eq_bind, Option.bind_some, Function.comp_def, entries, SortedMap.ofList_toList,
    Option.pure_def]

section

variable {Value : Type} {encode : Value → Json} {decode : Document → Option Value}

theorem Recovers.list (recovers : Recovers encode decode) :
    Recovers (fun values => .array (values.map encode)) (Document.list? decode) := by
  intro values layout
  rw [laidOut_array, Document.ofJson, Document.ofItems_eq_map, Document.list?, List.map_map, List.map_map]
  induction values with
  | nil => rfl
  | cons value rest ih => simp [recovers value layout, ih]

variable {layout : Layout} {fields : List (String × Option Json)} {given : List (String × Document)} {name : String}

theorem ReadAs.required? {json : Json} {value : Value} (read : ReadAs decode json value)
    (shows : Shows layout fields given) (put : SortedMap.lookupEntry name fields = some (some json)) :
    Document.required? decode given name = some value := by
  rw [Document.required?, shows name, put]
  exact read layout

/-- A field that is left out only where it has its default. -/
theorem ReadAs.defaulted? {json : Json} {value default : Value} (read : ReadAs decode json value)
    (shows : Shows layout fields given) {put : Option Json} (found : SortedMap.lookupEntry name fields = some put)
    (fits : put = some json ∨ put = none ∧ value = default) :
    Document.defaulted? default decode given name = some value := by
  rw [Document.defaulted?, shows name, found]
  rcases fits with rfl | ⟨rfl, rfl⟩
  · exact read layout
  · rfl

/-- A field that is left out where it has no value. Its reader refuses `null`, which stands for no value as well. -/
theorem Recovers.optional? (recovers : Recovers encode decode) (refuses : decode .null = none)
    (shows : Shows layout fields given) {value : Option Value}
    (put : SortedMap.lookupEntry name fields = some (value.map encode)) :
    Document.optional? decode given name = some value := by
  rw [Document.optional?, Document.defaulted?, shows name, put]
  cases value with
  | none => rfl
  | some value =>
    have read := recovers value layout
    simp only [Option.map_some, Option.join_some]
    cases document : Document.ofJson ((encode value).laidOut layout) with
    | null => simp [document, refuses] at read
    | _ => simp [Document.nullable?, ← document, read]

/-- A loose reader takes a field that is not repeated as a strict reader takes one that may be left out. -/
theorem Document.last?_eq_optional? (decode : Document → Option Value) {given : List (String × Document)}
    (distinct : (given.map (·.1)).Nodup) (name : String) :
    Document.last? decode given name = Document.optional? decode given name := by
  rw [Document.last?, Document.optional?, Document.defaulted?, SortedMap.filter_key distinct]
  cases SortedMap.lookupEntry name given with
  | none => rfl
  | some document => cases read : Document.nullable? decode document <;> simp [read]

end

end FilterRollout.Json
