import FilterRollout.Json.Equality
import FilterRollout.Json.Normal
import FilterRollout.Proofs.Json.Numerals

/-! A value that is normal and does not lie too deep is read from its text, with each number as that number's own text
is read. If its doubles are read as they are printed, it is read as it is. Main statements: `read?_text_eq_reread` and
`read?_text`. -/

namespace FilterRollout.SortedMap

universe u v

variable {Value : Type u} {Other : Type v}

theorem lookupEntry_map (change : Value → Other) (key : String) (entries : List (String × Value)) :
    lookupEntry key (entries.map fun entry => (entry.1, change entry.2)) = (lookupEntry key entries).map change := by
  induction entries with
  | nil => rfl
  | cons entry rest ih =>
    simp only [List.map_cons, lookupEntry, ih]
    split <;> rfl

theorem insertEntry_map (change : Value → Other) (key : String) (value : Value) (entries : List (String × Value)) :
    insertEntry key (change value) (entries.map fun entry => (entry.1, change entry.2)) =
      (insertEntry key value entries).map fun entry => (entry.1, change entry.2) := by
  induction entries with
  | nil => rfl
  | cons entry rest ih =>
    simp only [List.map_cons, insertEntry, ih]
    split
    · rfl
    · split <;> rfl

end FilterRollout.SortedMap

namespace FilterRollout.Json

mutual

/-- How many arrays and objects a value has one within another. -/
def depth : Json → Nat
  | .array items => depthOfItems items + 1
  | .object members => depthOfMembers members + 1
  | _ => 0
  termination_by structural json => json

def depthOfItems : List Json → Nat
  | [] => 0
  | item :: rest => max item.depth (depthOfItems rest)
  termination_by structural items => items

def depthOfMembers : List (String × Json) → Nat
  | [] => 0
  | (_, value) :: rest => max value.depth (depthOfMembers rest)
  termination_by structural members => members

end

mutual

/-- The doubles among the numbers of a value. -/
def doubles : Json → List Decimal.Binary64
  | .number (.float value) => [value]
  | .array items => doublesOfItems items
  | .object members => doublesOfMembers members
  | _ => []
  termination_by structural json => json

def doublesOfItems : List Json → List Decimal.Binary64
  | [] => []
  | item :: rest => item.doubles ++ doublesOfItems rest
  termination_by structural items => items

def doublesOfMembers : List (String × Json) → List Decimal.Binary64
  | [] => []
  | (_, value) :: rest => value.doubles ++ doublesOfMembers rest
  termination_by structural members => members

end

/-- Doubles that are read as they are printed. -/
def Faithful (doubles : List Decimal.Binary64) : Prop := ∀ value ∈ doubles, (Number.float value).Rereads

instance (doubles : List Decimal.Binary64) : Decidable (Faithful doubles) :=
  inferInstanceAs (Decidable (∀ value ∈ doubles, (Number.float value).Rereads))

theorem faithful_append {first second : List Decimal.Binary64} :
    Faithful (first ++ second) ↔ Faithful first ∧ Faithful second := List.forall_mem_append

mutual

/-- A value with each number as it is read once it was printed. -/
def reread : Json → Json
  | .number value => .number value.reread
  | .array items => .array (rereadItems items)
  | .object members => .object (rereadMembers members)
  | .null => .null
  | .bool value => .bool value
  | .string value => .string value
  termination_by structural json => json

def rereadItems : List Json → List Json
  | [] => []
  | item :: rest => item.reread :: rereadItems rest
  termination_by structural items => items

def rereadMembers : List (String × Json) → List (String × Json)
  | [] => []
  | (key, value) :: rest => (key, value.reread) :: rereadMembers rest
  termination_by structural members => members

end

theorem rereadItems_eq_map (items : List Json) : rereadItems items = items.map reread := by
  induction items with
  | nil => rfl
  | cons item rest ih => rw [rereadItems, ih, List.map_cons]

theorem rereadMembers_eq_map (members : List (String × Json)) :
    rereadMembers members = members.map fun entry => (entry.1, entry.2.reread) := by
  induction members with
  | nil => rfl
  | cons entry rest ih => rw [rereadMembers, ih, List.map_cons]

theorem member?_rereadMembers (key : String) (members : List (String × Json)) :
    member? key (rereadMembers members) = (member? key members).map reread := by
  rw [member?, rereadMembers_eq_map, ← List.map_reverse, SortedMap.lookupEntry_map]
  rfl

mutual

/-- Reading numbers anew changes no key and no order. -/
theorem normalize_reread : (json : Json) → json.reread.normalize = json.normalize.reread
  | .array items => congrArg Json.array (normalizeItems_rereadItems items)
  | .object members => congrArg Json.object (normalizeMembers_rereadMembers members)
  | .null => rfl
  | .bool _ => rfl
  | .number _ => rfl
  | .string _ => rfl

theorem normalizeItems_rereadItems : (items : List Json) →
    normalizeItems (rereadItems items) = rereadItems (normalizeItems items)
  | [] => rfl
  | item :: rest => by
    rw [rereadItems, normalizeItems, normalizeItems, rereadItems, normalize_reread item,
      normalizeItems_rereadItems rest]

theorem normalizeMembers_rereadMembers : (members : List (String × Json)) →
    normalizeMembers (rereadMembers members) = rereadMembers (normalizeMembers members)
  | [] => rfl
  | (key, value) :: rest => by
    rw [rereadMembers, normalizeMembers, normalizeMembers, normalizeMembers_rereadMembers rest, normalize_reread value,
      addEarlier, addEarlier, rereadMembers_eq_map, SortedMap.lookupEntry_map]
    cases SortedMap.lookupEntry key (normalizeMembers rest) with
    | none => rw [rereadMembers_eq_map]; exact SortedMap.insertEntry_map reread key _ _
    | some found => exact (rereadMembers_eq_map _).symm

end

theorem rereads_of_faithful {number : Number} (faithful : Faithful (Json.number number).doubles) : number.Rereads := by
  cases number with
  | integer value inWord => exact Number.rereads_integer value inWord
  | float value => exact faithful value List.mem_cons_self

mutual

/-- Where the doubles are read as they are printed, nothing changes. -/
theorem reread_eq_self : (json : Json) → Faithful json.doubles → json.reread = json
  | .array items, faithful => congrArg Json.array (rereadItems_eq_self items faithful)
  | .object members, faithful => congrArg Json.object (rereadMembers_eq_self members faithful)
  | .number _, faithful => congrArg Json.number (rereads_of_faithful faithful).reread_eq
  | .null, _ => rfl
  | .bool _, _ => rfl
  | .string _, _ => rfl

theorem rereadItems_eq_self : (items : List Json) → Faithful (doublesOfItems items) → rereadItems items = items
  | [], _ => rfl
  | item :: rest, faithful => by
    obtain ⟨first, later⟩ := faithful_append.mp faithful
    rw [rereadItems, reread_eq_self item first, rereadItems_eq_self rest later]

theorem rereadMembers_eq_self : (members : List (String × Json)) → Faithful (doublesOfMembers members) →
    rereadMembers members = members
  | [], _ => rfl
  | (key, value) :: rest, faithful => by
    obtain ⟨first, later⟩ := faithful_append.mp faithful
    rw [rereadMembers, reread_eq_self value first, rereadMembers_eq_self rest later]

end

/-- The two zeros are read as they are printed. -/
theorem rereads_zero {value : Decimal.Binary64} (zero : value.isZero = true) : (Number.float value).Rereads := by
  obtain ⟨negative, place, finite⟩ := value
  obtain rfl : place = 0 := by simpa [Decimal.Binary64.isZero] using zero
  have both : ∀ negative, (Number.float (.zero negative)).Rereads := by decide +kernel
  exact both negative

/-- Equal numbers are read as equal ones. -/
theorem Number.same_reread {a b : Number} (same : a.same b = true) : a.reread.same b.reread = true := by
  cases a with
  | integer value inWord =>
    cases b with
    | integer other bounded =>
      obtain rfl : value = other := by simpa [Number.same] using same
      exact Number.same_self _
    | float other => cases same
  | float value =>
    cases b with
    | integer other bounded => cases same
    | float other =>
      by_cases equal : value = other
      · rw [equal]
        exact Number.same_self _
      · have zeros : value.isZero = true ∧ other.isZero = true := by
          simpa [Number.same, Decimal.Binary64.same, equal] using same
        rw [(rereads_zero zeros.1).reread_eq, (rereads_zero zeros.2).reread_eq]
        exact same

mutual

theorem sameNormal_reread : (a b : Json) → a.sameNormal b = true → a.reread.sameNormal b.reread = true
  | .null, b, same => by
    cases b with
    | null => rfl
    | _ => cases same
  | .bool _, b, same => by
    cases b with
    | bool _ => exact same
    | _ => cases same
  | .number _, b, same => by
    cases b with
    | number _ => exact Number.same_reread same
    | _ => cases same
  | .string _, b, same => by
    cases b with
    | string _ => exact same
    | _ => cases same
  | .array items, b, same => by
    cases b with
    | array others => exact sameItems_reread items others same
    | _ => cases same
  | .object members, b, same => by
    cases b with
    | object others => exact sameMembers_reread members others same
    | _ => cases same

theorem sameItems_reread : (items others : List Json) → sameItems items others = true →
    sameItems (rereadItems items) (rereadItems others) = true
  | [], others, same => by
    cases others with
    | nil => rfl
    | cons other more => cases same
  | item :: rest, others, same => by
    cases others with
    | nil => cases same
    | cons other more =>
      obtain ⟨first, later⟩ := Bool.and_eq_true_iff.mp same
      exact Bool.and_eq_true_iff.mpr ⟨sameNormal_reread item other first, sameItems_reread rest more later⟩

theorem sameMembers_reread : (members others : List (String × Json)) → sameMembers members others = true →
    sameMembers (rereadMembers members) (rereadMembers others) = true
  | [], others, same => by
    cases others with
    | nil => rfl
    | cons other more => cases same
  | (key, value) :: rest, others, same => by
    cases others with
    | nil => cases same
    | cons other more =>
      obtain ⟨first, later⟩ := Bool.and_eq_true_iff.mp same
      obtain ⟨name, equal⟩ := Bool.and_eq_true_iff.mp first
      exact Bool.and_eq_true_iff.mpr ⟨Bool.and_eq_true_iff.mpr ⟨name, sameNormal_reread value other.2 equal⟩,
        sameMembers_reread rest more later⟩

end

/-- Equal values are read as equal ones once they were printed. -/
theorem same_reread {a b : Json} (same : a.same b = true) : a.reread.same b.reread = true := by
  rw [Json.same, normalize_reread, normalize_reread]
  exact sameNormal_reread _ _ same

/-- What a printed value begins with: no blank and no closing bracket. -/
def Opens (chars : List Char) : Prop := ∃ c more, chars = c :: more ∧ isSpace c = false ∧ c ≠ ']' ∧ c ≠ '\x7d'

theorem Opens.append {chars : List Char} (opens : Opens chars) (rest : List Char) : Opens (chars ++ rest) := by
  obtain ⟨c, more, rfl, proper⟩ := opens
  exact ⟨c, more ++ rest, rfl, proper⟩

theorem Opens.skipSpaces {chars : List Char} (opens : Opens chars) : skipSpaces chars = chars := by
  obtain ⟨c, more, rfl, visible, -⟩ := opens
  simp [Json.skipSpaces, visible]

theorem digit_cases {c : Char} {digit : Nat} (value : Text.digitValue? c = some digit) :
    c ∈ ['0', '1', '2', '3', '4', '5', '6', '7', '8', '9'] := by
  unfold Text.digitValue? at value
  split at value
  · rename_i range
    have low : 48 ≤ c.toNat := range.1
    have high : c.toNat ≤ 57 := range.2
    have every : ∀ n : Fin 10, Char.ofNat (48 + n) ∈ ['0', '1', '2', '3', '4', '5', '6', '7', '8', '9'] := by decide
    have found := every ⟨c.toNat - 48, by omega⟩
    have same : 48 + (c.toNat - 48) = c.toNat := by omega
    simp only [same, Char.ofNat_toNat] at found
    exact found
  · cases value

theorem opens_chars (json : Json) : Opens json.chars := by
  cases json with
  | number number =>
    have nothing : Delimited [] := by simp [Delimited]
    rcases Number.readNumber?_of_read? number.read?_chars nothing with
      ⟨more, printed, -⟩ | ⟨c, more, digit, printed, value, -⟩
    · exact ⟨'-', more, printed, by decide⟩
    · have digits := digit_cases value
      refine ⟨c, more, printed, ?_⟩
      simp only [List.mem_cons, List.not_mem_nil, or_false] at digits
      rcases digits with rfl | rfl | rfl | rfl | rfl | rfl | rfl | rfl | rfl | rfl <;> decide
  | bool value => cases value <;> exact ⟨_, _, rfl, by decide⟩
  | _ => exact ⟨_, _, rfl, by decide⟩

theorem readValue?_number (number : Number) (fuel depth : Nat) {rest : List Char} (delimited : Delimited rest) :
    readValue? (fuel + 1) depth (number.chars ++ rest) = some (.number number.reread, rest) := by
  rcases Number.readNumber?_of_read? number.read?_chars delimited with
    ⟨more, printed, read⟩ | ⟨c, more, digit, printed, value, read⟩
  · rw [printed]
    exact read
  · have digits := digit_cases value
    rw [printed, ← read]
    simp only [List.mem_cons, List.not_mem_nil, or_false] at digits
    rcases digits with rfl | rfl | rfl | rfl | rfl | rfl | rfl | rfl | rfl | rfl <;> rfl

theorem readValue?_string (text : String) (fuel depth : Nat) (rest : List Char) :
    readValue? (fuel + 1) depth (stringChars text ++ rest) = some (.string text, rest) := by
  have read := readString?_printed text rest
  simp [stringChars, readValue?, read]

theorem readValue?_array {fuel depth : Nat} {inside after : List Char} {items : List Document} (opens : Opens inside)
    (read : readItems? fuel (depth + 1) inside = some (items, after)) :
    readValue? (fuel + 1) depth ('[' :: inside) = some (atDepth depth (.array items), after) := by
  have skipped := opens.skipSpaces
  obtain ⟨c, more, rfl, -, other, -⟩ := opens
  simp [readValue?, skipped, other, read]

theorem readValue?_object {fuel depth : Nat} {inside after : List Char} {members : List (Option String × Document)}
    (opens : Opens inside) (read : readMembers? fuel (depth + 1) inside = some (members, after)) :
    readValue? (fuel + 1) depth ('\x7b' :: inside) = some (atDepth depth (.object members), after) := by
  have skipped := opens.skipSpaces
  obtain ⟨c, more, rfl, -, -, other⟩ := opens
  simp [readValue?, skipped, other, read]

theorem readItems?_last {fuel depth : Nat} {chars after : List Char} {item : Document}
    (read : readValue? fuel depth chars = some (item, ']' :: after)) :
    readItems? (fuel + 1) depth chars = some ([item], after) := by
  have stops : skipSpaces (']' :: after) = ']' :: after := rfl
  simp [readItems?, read, stops]

theorem readItems?_cons {fuel depth : Nat} {chars more after : List Char} {item : Document} {items : List Document}
    (read : readValue? fuel depth chars = some (item, ',' :: more)) (opens : Opens more)
    (later : readItems? fuel depth more = some (items, after)) :
    readItems? (fuel + 1) depth chars = some (item :: items, after) := by
  have comma : skipSpaces (',' :: more) = ',' :: more := rfl
  simp [readItems?, read, comma, opens.skipSpaces, later]

theorem readMembers?_last {fuel depth : Nat} {key : String} {chars after : List Char} {value : Document}
    (opens : Opens chars) (read : readValue? fuel depth chars = some (value, '\x7d' :: after)) :
    readMembers? (fuel + 1) depth (stringChars key ++ ':' :: chars) = some ([(some key, value)], after) := by
  have name := readString?_printed key (':' :: chars)
  have colon : skipSpaces (':' :: chars) = ':' :: chars := rfl
  have stops : skipSpaces ('\x7d' :: after) = '\x7d' :: after := rfl
  simp [stringChars, readMembers?, name, colon, opens.skipSpaces, read, stops]

theorem readMembers?_cons {fuel depth : Nat} {key : String} {chars more after : List Char} {value : Document}
    {members : List (Option String × Document)} (opens : Opens chars)
    (read : readValue? fuel depth chars = some (value, ',' :: more)) (opensMore : Opens more)
    (later : readMembers? fuel depth more = some (members, after)) :
    readMembers? (fuel + 1) depth (stringChars key ++ ':' :: chars) = some ((some key, value) :: members, after) := by
  have name := readString?_printed key (':' :: chars)
  have colon : skipSpaces (':' :: chars) = ':' :: chars := rfl
  have comma : skipSpaces (',' :: more) = ',' :: more := rfl
  simp [stringChars, readMembers?, name, colon, opens.skipSpaces, read, comma, opensMore.skipSpaces, later]

theorem opens_itemsChars (item : Json) (rest : List Json) : Opens (itemsChars (item :: rest)) :=
  (opens_chars item).append _

theorem opens_membersChars (key : String) (value : Json) (rest : List (String × Json)) :
    Opens (membersChars ((key, value) :: rest)) := ⟨'"', _, rfl, by decide⟩

theorem atDepth_of_lt {depth : Nat} (shallow : depth < Document.maxDepth) (document : Document) :
    atDepth depth document = document := if_pos shallow

theorem delimited_cons {c : Char} (delimiter : c = ',' ∨ c = ']' ∨ c = '\x7d') (rest : List Char) :
    Delimited (c :: rest) := by
  rintro first ⟨⟩
  exact delimiter

mutual

/-- A printed value is read, and what follows it is left. Two rounds of fuel for each character are enough. -/
theorem readValue?_chars : (json : Json) → (fuel depth : Nat) → (rest : List Char) →
    depth + json.depth ≤ Document.maxDepth → 2 * json.chars.length ≤ fuel → Delimited rest →
      readValue? fuel depth (json.chars ++ rest) = some (.ofJson json.reread, rest)
  | json, 0, _, _, _, enough, _ => by
    obtain ⟨c, more, printed, -⟩ := opens_chars json
    simp [printed] at enough
  | .null, _ + 1, _, _, _, _, _ => rfl
  | .bool true, _ + 1, _, _, _, _, _ => rfl
  | .bool false, _ + 1, _, _, _, _, _ => rfl
  | .number value, fuel + 1, depth, _, _, _, delimited => readValue?_number value fuel depth delimited
  | .string text, fuel + 1, depth, rest, _, _, _ => readValue?_string text fuel depth rest
  | .array items, fuel + 1, depth, rest, shallow, enough, _ => by
    simp only [chars, Json.depth, List.length_append, List.length_cons, List.length_nil] at shallow enough ⊢
    cases items with
    | nil => exact congrArg (fun document => some (document, rest)) (atDepth_of_lt (by omega) _)
    | cons item items =>
      have inside := readItems?_chars item items fuel (depth + 1) rest (by omega) (by omega)
      have opens := (opens_itemsChars item items).append (']' :: rest)
      simp only [List.cons_append, List.append_assoc, List.nil_append]
      rw [readValue?_array opens inside, atDepth_of_lt (by omega)]
      rfl
  | .object members, fuel + 1, depth, rest, shallow, enough, _ => by
    simp only [chars, Json.depth, List.length_append, List.length_cons, List.length_nil] at shallow enough ⊢
    cases members with
    | nil => exact congrArg (fun document => some (document, rest)) (atDepth_of_lt (by omega) _)
    | cons member members =>
      obtain ⟨key, value⟩ := member
      have inside := readMembers?_chars key value members fuel (depth + 1) rest (by omega) (by omega)
      have opens := (opens_membersChars key value members).append ('\x7d' :: rest)
      simp only [List.cons_append, List.append_assoc, List.nil_append]
      rw [readValue?_object opens inside, atDepth_of_lt (by omega)]
      rfl

theorem readItems?_chars : (item : Json) → (items : List Json) → (fuel depth : Nat) → (rest : List Char) →
    depth + depthOfItems (item :: items) ≤ Document.maxDepth → 2 * (itemsChars (item :: items)).length + 1 ≤ fuel →
      readItems? fuel depth (itemsChars (item :: items) ++ ']' :: rest) =
        some (Document.ofItems (rereadItems (item :: items)), rest)
  | _, _, 0, _, _, _, enough => absurd enough (Nat.not_succ_le_zero _)
  | item, [], fuel + 1, depth, rest, shallow, enough => by
    simp only [itemsChars, laterItemsChars, depthOfItems, List.append_nil] at shallow enough ⊢
    have read := readValue?_chars item fuel depth (']' :: rest) (by omega) (by omega) (delimited_cons (by simp) rest)
    exact readItems?_last read
  | item, second :: items, fuel + 1, depth, rest, shallow, enough => by
    have split : itemsChars (item :: second :: items) = item.chars ++ ',' :: itemsChars (second :: items) := rfl
    rw [split, List.append_assoc, List.cons_append]
    rw [split, List.length_append, List.length_cons] at enough
    rw [depthOfItems] at shallow
    have read := readValue?_chars item fuel depth (',' :: (itemsChars (second :: items) ++ ']' :: rest))
      (by omega) (by omega) (delimited_cons (by simp) _)
    have later := readItems?_chars second items fuel depth rest (by omega) (by omega)
    exact readItems?_cons read ((opens_itemsChars second items).append _) later

theorem readMembers?_chars : (key : String) → (value : Json) → (members : List (String × Json)) →
    (fuel depth : Nat) → (rest : List Char) →
      depth + depthOfMembers ((key, value) :: members) ≤ Document.maxDepth →
        2 * (membersChars ((key, value) :: members)).length + 1 ≤ fuel →
          readMembers? fuel depth (membersChars ((key, value) :: members) ++ '\x7d' :: rest) =
            some (Document.ofMembers (rereadMembers ((key, value) :: members)), rest)
  | _, _, _, 0, _, _, _, enough => absurd enough (Nat.not_succ_le_zero _)
  | key, value, [], fuel + 1, depth, rest, shallow, enough => by
    simp only [membersChars, laterMembersChars, depthOfMembers, List.append_nil, List.length_append, List.length_cons,
      List.append_assoc, List.cons_append] at shallow enough ⊢
    have read := readValue?_chars value fuel depth ('\x7d' :: rest) (by omega) (by omega)
      (delimited_cons (by simp) rest)
    exact readMembers?_last ((opens_chars value).append _) read
  | key, value, (second, other) :: members, fuel + 1, depth, rest, shallow, enough => by
    have split : membersChars ((key, value) :: (second, other) :: members) =
        stringChars key ++ ':' :: value.chars ++ ',' :: membersChars ((second, other) :: members) := rfl
    rw [split, List.append_assoc, List.append_assoc, List.cons_append, List.cons_append]
    rw [split, List.length_append, List.length_append, List.length_cons, List.length_cons] at enough
    rw [depthOfMembers] at shallow
    have read := readValue?_chars value fuel depth
      (',' :: (membersChars ((second, other) :: members) ++ '\x7d' :: rest)) (by omega) (by omega)
      (delimited_cons (by simp) _)
    have later := readMembers?_chars second other members fuel depth rest (by omega) (by omega)
    have opens := (opens_membersChars second other members).append ('\x7d' :: rest)
    exact readMembers?_cons ((opens_chars value).append _) read opens later

end

mutual

theorem plain?_ofJson : (json : Json) → (Document.ofJson json).plain? = some json
  | .null => rfl
  | .bool _ => rfl
  | .number _ => rfl
  | .string _ => rfl
  | .array items => congrArg (Option.map Json.array) (plainItems?_ofItems items)
  | .object members => congrArg (Option.map Json.object) (plainMembers?_ofMembers members)

theorem plainItems?_ofItems : (items : List Json) → Document.plainItems? (Document.ofItems items) = some items
  | [] => rfl
  | item :: rest => by
    simp [Document.ofItems, Document.plainItems?, plain?_ofJson item, plainItems?_ofItems rest]

theorem plainMembers?_ofMembers : (members : List (String × Json)) →
    Document.plainMembers? (Document.ofMembers members) = some members
  | [] => rfl
  | (key, value) :: rest => by
    simp [Document.ofMembers, Document.plainMembers?, plain?_ofJson value, plainMembers?_ofMembers rest]

end

/-- The document of a value's text has the members of the value in their order, and its numbers as their texts are
read. -/
theorem document_text_eq_reread {json : Json} (shallow : json.depth ≤ Document.maxDepth) :
    Document.read? json.text = some (.ofJson json.reread) := by
  have nothing : Delimited [] := by simp [Delimited]
  have read := readValue?_chars json (2 * json.chars.length + 2) 0 [] (by omega) (by omega) nothing
  have skipped := (opens_chars json).skipSpaces
  have ended : skipSpaces [] = [] := rfl
  rw [List.append_nil] at read
  simp [Document.read?, text, skipped, read, ended]

/-- A value is read from its text with its numbers as their texts are read. -/
theorem read?_text_eq_reread {json : Json} (normal : json.normalize = json)
    (shallow : json.depth ≤ Document.maxDepth) : read? json.text = some json.reread := by
  simp [read?, document_text_eq_reread shallow, Document.value?, plain?_ofJson, normalize_reread, normal]

/-- A value whose doubles are read as they are printed is read as it is. -/
theorem read?_text {json : Json} (normal : json.normalize = json) (shallow : json.depth ≤ Document.maxDepth)
    (faithful : Faithful json.doubles) : read? json.text = some json := by
  rw [read?_text_eq_reread normal shallow, reread_eq_self json faithful]

theorem flat_of_readNumber? {negative : Bool} {chars rest : List Char} {document : Document}
    (success : readNumber? negative chars = some (document, rest)) {json : Json} (plain : document.plain? = some json) :
    json.depth = 0 := by
  simp only [readNumber?, Option.bind_eq_bind, Option.bind_eq_some_iff] at success
  obtain ⟨⟨literal, left⟩, -, ended⟩ := success
  cases value : Number.ofLiteral? literal with
  | none =>
    simp only [value] at ended
    cases ended
    cases plain
  | some number =>
    simp only [value] at ended
    cases ended
    cases plain
    rfl

/-- What a value that was read can be: one without parts, or an array or object with parts that were read. -/
theorem readValue?_cases {fuel depth : Nat} {chars rest : List Char} {document : Document}
    (success : readValue? (fuel + 1) depth chars = some (document, rest)) :
    (∀ json, document.plain? = some json → json.depth = 0) ∨
    (∃ items, document = atDepth depth (.array items) ∧
      (items = [] ∨ ∃ inside, readItems? fuel (depth + 1) inside = some (items, rest))) ∨
    (∃ members, document = atDepth depth (.object members) ∧
      (members = [] ∨ ∃ inside, readMembers? fuel (depth + 1) inside = some (members, rest))) := by
  have flat (atom : Document) (value : Json) (plain : atom.plain? = some value) (shallow : value.depth = 0)
      (json : Json) (same : atom.plain? = some json) : json.depth = 0 := by
    rw [plain] at same
    cases same
    exact shallow
  unfold readValue? at success
  split at success
  · cases success
    exact .inl (flat .null .null rfl rfl)
  · cases success
    exact .inl (flat (.bool true) (.bool true) rfl rfl)
  · cases success
    exact .inl (flat (.bool false) (.bool false) rfl rfl)
  · simp only [Option.bind_eq_bind, Option.bind_eq_some_iff] at success
    obtain ⟨⟨text, after⟩, -, ended⟩ := success
    cases text with
    | none =>
      cases ended
      exact .inl fun json plain => by cases plain
    | some text =>
      cases ended
      exact .inl (flat (.string text) (.string text) rfl rfl)
  · split at success
    · cases success
      exact .inr (.inl ⟨[], rfl, .inl rfl⟩)
    · simp only [Option.bind_eq_bind, Option.bind_eq_some_iff] at success
      obtain ⟨⟨items, after⟩, read, ended⟩ := success
      cases ended
      exact .inr (.inl ⟨items, rfl, .inr ⟨_, read⟩⟩)
  · split at success
    · cases success
      exact .inr (.inr ⟨[], rfl, .inl rfl⟩)
    · simp only [Option.bind_eq_bind, Option.bind_eq_some_iff] at success
      obtain ⟨⟨members, after⟩, read, ended⟩ := success
      cases ended
      exact .inr (.inr ⟨members, rfl, .inr ⟨_, read⟩⟩)
  · exact .inl fun json plain => flat_of_readNumber? success plain
  · exact .inl fun json plain => flat_of_readNumber? success plain

theorem readItems?_cases {fuel depth : Nat} {chars rest : List Char} {items : List Document}
    (success : readItems? (fuel + 1) depth chars = some (items, rest)) :
    ∃ item after, readValue? fuel depth chars = some (item, after) ∧
      (items = [item] ∨ ∃ more others, readItems? fuel depth more = some (others, rest) ∧ items = item :: others) := by
  simp only [readItems?, Option.bind_eq_bind, Option.bind_eq_some_iff] at success
  obtain ⟨⟨item, after⟩, read, ended⟩ := success
  refine ⟨item, after, read, ?_⟩
  simp only at ended
  split at ended
  · cases ended
    exact .inl rfl
  · simp only [Option.bind_eq_some_iff] at ended
    obtain ⟨⟨others, left⟩, later, ended⟩ := ended
    cases ended
    exact .inr ⟨_, others, later, rfl⟩
  · cases ended

theorem readMembers?_cases {fuel depth : Nat} {chars rest : List Char} {members : List (Option String × Document)}
    (success : readMembers? (fuel + 1) depth chars = some (members, rest)) :
    ∃ key value inside after, readValue? fuel depth inside = some (value, after) ∧
      (members = [(key, value)] ∨
        ∃ more others, readMembers? fuel depth more = some (others, rest) ∧ members = (key, value) :: others) := by
  simp only [readMembers?] at success
  split at success
  · simp only [Option.bind_eq_bind, Option.bind_eq_some_iff] at success
    obtain ⟨⟨key, after⟩, -, success⟩ := success
    simp only at success
    split at success
    · simp only [Option.bind_eq_some_iff] at success
      obtain ⟨⟨value, left⟩, read, ended⟩ := success
      refine ⟨key, value, _, left, read, ?_⟩
      simp only at ended
      split at ended
      · cases ended
        exact .inl rfl
      · simp only [Option.bind_eq_some_iff] at ended
        obtain ⟨⟨others, last⟩, later, ended⟩ := ended
        cases ended
        exact .inr ⟨_, others, later, rfl⟩
      · cases ended
    · cases success
  · cases success

theorem plain?_atDepth {depth : Nat} {document : Document} {json : Json}
    (plain : (atDepth depth document).plain? = some json) :
    depth < Document.maxDepth ∧ document.plain? = some json := by
  unfold atDepth at plain
  split at plain
  · rename_i shallow
    exact ⟨shallow, plain⟩
  · cases plain

/-- That a part which was read below `depth` arrays and objects does not lie too deep. -/
def Shallow (depth height : Nat) : Prop := height = 0 ∨ depth + height ≤ Document.maxDepth

theorem Shallow.max {depth first second : Nat} (shallow : Shallow depth first) (later : Shallow depth second) :
    Shallow depth (max first second) := by
  unfold Shallow at *
  omega

theorem Shallow.enclose {depth height : Nat} (outer : depth < Document.maxDepth)
    (shallow : Shallow (depth + 1) height) : Shallow depth (height + 1) := by
  unfold Shallow at *
  omega

mutual

theorem shallow_of_readValue? : (fuel : Nat) → ∀ {depth : Nat} {chars rest : List Char} {document : Document}
    {json : Json}, readValue? fuel depth chars = some (document, rest) → document.plain? = some json →
      Shallow depth json.depth
  | 0, depth, chars, rest, document, json, read, plain => by cases read
  | fuel + 1, depth, chars, rest, document, json, read, plain => by
    rcases readValue?_cases read with flat | ⟨items, rfl, parts⟩ | ⟨members, rfl, parts⟩
    · exact .inl (flat json plain)
    · obtain ⟨outer, plain⟩ := plain?_atDepth plain
      obtain ⟨values, found, rfl⟩ := Option.map_eq_some_iff.mp plain
      refine Shallow.enclose outer ?_
      rcases parts with rfl | ⟨inside, read⟩
      · cases found
        exact .inl rfl
      · exact shallow_of_readItems? fuel read found
    · obtain ⟨outer, plain⟩ := plain?_atDepth plain
      obtain ⟨values, found, rfl⟩ := Option.map_eq_some_iff.mp plain
      refine Shallow.enclose outer ?_
      rcases parts with rfl | ⟨inside, read⟩
      · cases found
        exact .inl rfl
      · exact shallow_of_readMembers? fuel read found

theorem shallow_of_readItems? : (fuel : Nat) → ∀ {depth : Nat} {chars rest : List Char} {items : List Document}
    {values : List Json}, readItems? fuel depth chars = some (items, rest) → Document.plainItems? items = some values →
      Shallow depth (depthOfItems values)
  | 0, depth, chars, rest, items, values, read, plain => by cases read
  | fuel + 1, depth, chars, rest, items, values, read, plain => by
    obtain ⟨item, after, first, rfl | ⟨more, others, later, rfl⟩⟩ := readItems?_cases read
    all_goals
      simp only [Document.plainItems?, Option.bind_eq_bind, Option.bind_eq_some_iff] at plain
      obtain ⟨value, found, rest, remaining, ended⟩ := plain
      cases ended
    · cases remaining
      exact (shallow_of_readValue? fuel first found).max (.inl rfl)
    · exact (shallow_of_readValue? fuel first found).max (shallow_of_readItems? fuel later remaining)

theorem shallow_of_readMembers? : (fuel : Nat) → ∀ {depth : Nat} {chars rest : List Char}
    {members : List (Option String × Document)} {values : List (String × Json)},
    readMembers? fuel depth chars = some (members, rest) → Document.plainMembers? members = some values →
      Shallow depth (depthOfMembers values)
  | 0, depth, chars, rest, members, values, read, plain => by cases read
  | fuel + 1, depth, chars, rest, members, values, read, plain => by
    obtain ⟨key, member, inside, after, first, rfl | ⟨more, others, later, rfl⟩⟩ := readMembers?_cases read
    all_goals
      simp only [Document.plainMembers?, Option.bind_eq_bind, Option.bind_eq_some_iff] at plain
      obtain ⟨name, -, value, found, rest, remaining, ended⟩ := plain
      cases ended
    · cases remaining
      exact (shallow_of_readValue? fuel first found).max (.inl rfl)
    · exact (shallow_of_readValue? fuel first found).max (shallow_of_readMembers? fuel later remaining)

end

theorem depthOfItems_le_iff {items : List Json} {bound : Nat} :
    depthOfItems items ≤ bound ↔ ∀ item ∈ items, item.depth ≤ bound := by
  induction items with
  | nil => simp [depthOfItems]
  | cons item rest ih => simp only [depthOfItems, List.forall_mem_cons, Nat.max_le, ih]

theorem depthOfMembers_le_iff {members : List (String × Json)} {bound : Nat} :
    depthOfMembers members ≤ bound ↔ ∀ entry ∈ members, entry.2.depth ≤ bound := by
  induction members with
  | nil => simp [depthOfMembers]
  | cons entry rest ih => simp only [depthOfMembers, List.forall_mem_cons, Nat.max_le, ih]

theorem normalizeItems_eq_map (items : List Json) : normalizeItems items = items.map normalize := by
  induction items with
  | nil => rfl
  | cons item rest ih => rw [normalizeItems, ih, List.map_cons]

mutual

/-- Normalizing a value does not deepen it. -/
theorem depth_normalize : (json : Json) → json.normalize.depth ≤ json.depth
  | .array items => Nat.succ_le_succ (depthOfItems_normalizeItems items)
  | .object members => Nat.succ_le_succ (depthOfMembers_normalizeMembers members)
  | .null => Nat.le_refl _
  | .bool _ => Nat.le_refl _
  | .number _ => Nat.le_refl _
  | .string _ => Nat.le_refl _

theorem depthOfItems_normalizeItems : (items : List Json) → depthOfItems (normalizeItems items) ≤ depthOfItems items
  | [] => Nat.le_refl _
  | item :: rest => by
    have first := depth_normalize item
    have later := depthOfItems_normalizeItems rest
    simp only [normalizeItems, depthOfItems]
    omega

theorem depthOfMembers_normalizeMembers :
    (members : List (String × Json)) → depthOfMembers (normalizeMembers members) ≤ depthOfMembers members
  | [] => Nat.le_refl _
  | (key, value) :: rest => by
    have first := depth_normalize value
    have later := depthOfMembers_normalizeMembers rest
    have whole : depthOfMembers ((key, value) :: rest) = max value.depth (depthOfMembers rest) := rfl
    rw [whole]
    unfold normalizeMembers addEarlier
    split
    · exact Nat.le_trans later (Nat.le_max_right _ _)
    · refine depthOfMembers_le_iff.mpr fun entry member => ?_
      rcases SortedMap.mem_insertEntry member with rfl | listed
      · exact Nat.le_trans first (Nat.le_max_left _ _)
      · have bounded := depthOfMembers_le_iff.mp later entry listed
        exact Nat.le_trans bounded (Nat.le_max_right _ _)

end

theorem normal_of_read? {text : String} {json : Json} (read : read? text = some json) : json.normalize = json := by
  simp only [read?, Document.value?, Option.bind_eq_some_iff, Option.map_eq_some_iff] at read
  obtain ⟨document, -, plain, -, rfl⟩ := read
  exact normalize_normalize plain

theorem depth_le_of_read? {text : String} {json : Json} (read : read? text = some json) :
    json.depth ≤ Document.maxDepth := by
  simp only [read?, Document.value?, Option.bind_eq_some_iff, Option.map_eq_some_iff] at read
  obtain ⟨document, read, plain, found, rfl⟩ := read
  simp only [Document.read?] at read
  split at read
  · rename_i value rest inside
    split at read
    · cases read
      refine Nat.le_trans (depth_normalize plain) ?_
      rcases shallow_of_readValue? _ inside found with flat | shallow
      · rw [flat]
        exact Nat.zero_le _
      · rwa [Nat.zero_add] at shallow
    · cases read
  · cases read

/-- A text whose doubles are read as they are printed. -/
def FaithfulText (text : String) : Prop := ∀ json ∈ read? text, Faithful json.doubles

instance (text : String) : Decidable (FaithfulText text) :=
  inferInstanceAs (Decidable (∀ json ∈ read? text, Faithful json.doubles))

/-- A text whose value, if it has one, is read again from what is printed for it. -/
def RoundTrips (text : String) : Prop := ∀ json ∈ read? text, read? json.text = some json

instance (text : String) : Decidable (RoundTrips text) :=
  inferInstanceAs (Decidable (∀ json ∈ read? text, read? json.text = some json))

theorem FaithfulText.roundTrips {text : String} (faithful : FaithfulText text) : RoundTrips text :=
  fun json read => read?_text (normal_of_read? read) (depth_le_of_read? read) (faithful json read)

theorem RoundTrips.reread_eq {text : String} {json : Json} (roundTrips : RoundTrips text)
    (read : read? text = some json) : json.reread = json := by
  have again := roundTrips json read
  rw [read?_text_eq_reread (normal_of_read? read) (depth_le_of_read? read)] at again
  exact Option.some.inj again

/-- An array whose items come from arrays that were read is read from its text. -/
theorem read?_text_of_items_eq_reread {items : List Json}
    (origin : ∀ item ∈ items, ∃ text others, read? text = some (.array others) ∧ item ∈ others) :
    read? (Json.array items).text = some (.array (rereadItems items)) := by
  refine read?_text_eq_reread ?_ ?_
  · have normal : ∀ item ∈ items, item.normalize = item := by
      intro item member
      obtain ⟨text, others, read, listed⟩ := origin item member
      have whole : others.map normalize = others.map id := by
        simpa [normalize, normalizeItems_eq_map] using normal_of_read? read
      exact List.map_inj_left.mp whole item listed
    rw [normalize, normalizeItems_eq_map, List.map_congr_left normal, List.map_id']
  · have shallow : depthOfItems items ≤ Document.maxDepth - 1 := by
      refine depthOfItems_le_iff.mpr fun item member => ?_
      obtain ⟨text, others, read, listed⟩ := origin item member
      have whole : depthOfItems others + 1 ≤ Document.maxDepth := depth_le_of_read? read
      exact depthOfItems_le_iff.mp (Nat.le_sub_of_add_le whole) item listed
    rw [depth]
    exact Nat.add_le_of_le_sub (by decide) shallow

end FilterRollout.Json
