import FilterRollout.Proofs.Json.Records

/-! The forms in which records are saved: as texts and as JSON values. A value that does not lie deep and has no doubles
in it is read from each form as it is, so that what is read of a saved record follows from its members alone. Main
statement: `Form.reload?_eq`. -/

namespace FilterRollout.Json

/-- A value is saved as a text, with its members in some order, or as a JSON value, with its members by key. -/
inductive Form
  | text (layout : Layout)
  | value

/-- A value that lies no deeper than a bound and has no doubles in it. -/
structure Plain (height : Nat) (json : Json) : Prop where
  shallow : json.depth ≤ height
  exact : json.doubles = []

section

variable {height : Nat}

@[simp] theorem plain_string (text : String) : Plain height (.string text) := ⟨Nat.zero_le height, rfl⟩

@[simp] theorem plain_bool (value : Bool) : Plain height (.bool value) := ⟨Nat.zero_le height, rfl⟩

@[simp] theorem plain_natural (value : Nat) : Plain height (.natural value) := ⟨Nat.zero_le height, rfl⟩

theorem doublesOfItems_eq_nil {items : List Json} (exact : ∀ item ∈ items, item.doubles = []) :
    doublesOfItems items = [] := by
  induction items with
  | nil => rfl
  | cons item rest ih =>
    rw [doublesOfItems, exact item List.mem_cons_self,
      ih fun other member => exact other (List.mem_cons_of_mem _ member)]
    rfl

theorem doublesOfMembers_eq_nil {members : List (String × Json)} (exact : ∀ member ∈ members, member.2.doubles = []) :
    doublesOfMembers members = [] := by
  induction members with
  | nil => rfl
  | cons member rest ih =>
    rw [doublesOfMembers, exact member List.mem_cons_self,
      ih fun other later => exact other (List.mem_cons_of_mem _ later)]
    rfl

theorem Plain.array {items : List Json} (plain : ∀ item ∈ items, Plain height item) :
    Plain (height + 1) (.array items) where
  shallow := Nat.succ_le_succ (depthOfItems_le_iff.mpr fun item member => (plain item member).shallow)
  exact := doublesOfItems_eq_nil fun item member => (plain item member).exact

theorem Plain.object {members : List (String × Json)} (plain : ∀ member ∈ members, Plain height member.2) :
    Plain (height + 1) (.object members) where
  shallow := Nat.succ_le_succ (depthOfMembers_le_iff.mpr fun member listed => (plain member listed).shallow)
  exact := doublesOfMembers_eq_nil fun member listed => (plain member listed).exact

theorem Plain.record {fields : List (String × Option Json)}
    (plain : ∀ field ∈ fields, ∀ json ∈ field.2, Plain height json) : Plain (height + 1) (record fields) := by
  refine .object fun member listed => ?_
  obtain ⟨field, inside, put⟩ := List.mem_filterMap.mp listed
  obtain ⟨json, value, rfl⟩ := Option.map_eq_some_iff.mp put
  exact plain field inside json value

theorem Plain.textMap (map : SortedMap String) : Plain (height + 1) (textMap map) := by
  refine .object fun member listed => ?_
  obtain ⟨binding, -, rfl⟩ := List.mem_map.mp listed
  exact plain_string binding.2

theorem Plain.laidOut {json : Json} (plain : Plain height json) (layout : Layout) :
    (json.laidOut layout).depth ≤ height ∧ (json.laidOut layout).reread = json.laidOut layout := by
  have same : json.reread = json := reread_eq_self json (by simp [plain.exact, Faithful])
  cases layout with
  | asPut => exact ⟨plain.shallow, same⟩
  | byKey =>
    refine ⟨Nat.le_trans (depth_normalize json) plain.shallow, ?_⟩
    rw [Json.laidOut, ← normalize_reread, same]

end

namespace Form

/-- What a value is saved in. -/
def Carrier : Form → Type
  | text _ => String
  | value => Json

def write : (form : Form) → Json → form.Carrier
  | text layout, json => (json.laidOut layout).text
  | value, json => json.laidOut .byKey

def read? : (form : Form) → form.Carrier → Option Document
  | text _, written => Document.read? written
  | value, json => some (.ofJson json)

/-- The order in which the members stand. -/
def layout : Form → Layout
  | text layout => layout
  | value => .byKey

theorem read?_write {json : Json} (plain : Plain Document.maxDepth json) (form : Form) :
    form.read? (form.write json) = some (.ofJson (json.laidOut form.layout)) := by
  cases form with
  | text layout =>
    obtain ⟨shallow, same⟩ := plain.laidOut layout
    exact (document_text_eq_reread shallow).trans (by rw [same, Form.layout])
  | value => rfl

section

variable {Value : Type} (form : Form) (encode : Value → Json) (decode : Document → Option Value)

/-- Save a value and read it again. -/
def reload? (value : Value) : Option Value := (form.read? (form.write (encode value))).bind decode

/-- Read what was saved and save what is read. -/
def resave? (saved : form.Carrier) : Option form.Carrier :=
  ((form.read? saved).bind decode).map fun value => form.write (encode value)

end

section

variable {Value : Type} {encode : Value → Json} {decode : Document → Option Value}

theorem reload?_eq {value again : Value} (plain : Plain Document.maxDepth (encode value))
    (read : ReadAs decode (encode value) again) (form : Form) : form.reload? encode decode value = some again := by
  rw [reload?, read?_write plain]
  exact read form.layout

end

end Form

section

variable {Value : Type} {encode : Value → Json} {decode : Document → Option Value}

/-- Saving what was read loses nothing: in whatever form a value is read and in whatever form it is saved, it is read
again as it is, and what was saved once is saved in the same way again. -/
structure Stable (encode : Value → Json) (decode : Document → Option Value) : Prop where
  reloaded : ∀ (source target : Form) (saved : source.Carrier) (value : Value),
    (source.read? saved).bind decode = some value → target.reload? encode decode value = some value
  resaved : ∀ (form : Form) (saved again : form.Carrier),
    form.resave? encode decode saved = some again → form.resave? encode decode again = some again

/-- Every value is recovered from what is saved for it, in whatever form. -/
def Reloads (encode : Value → Json) (decode : Document → Option Value) : Prop :=
  ∀ (form : Form) (value : Value), form.reload? encode decode value = some value

theorem stable_of_reload? (reloads : ∀ (document : Document) (value : Value), decode document = some value →
    ∀ form : Form, form.reload? encode decode value = some value) : Stable encode decode where
  reloaded := by
    intro source target saved value read
    obtain ⟨document, -, decoded⟩ := Option.bind_eq_some_iff.mp read
    exact reloads document value decoded target
  resaved := by
    intro form saved again written
    obtain ⟨value, read, rfl⟩ := Option.map_eq_some_iff.mp written
    obtain ⟨document, -, decoded⟩ := Option.bind_eq_some_iff.mp read
    have reloaded := reloads document value decoded form
    rw [Form.reload?] at reloaded
    rw [Form.resave?, reloaded]
    rfl

theorem Reloads.stable (reloads : Reloads encode decode) : Stable encode decode :=
  stable_of_reload? fun _ value _ form => reloads form value

end

end FilterRollout.Json
