import FilterRollout.EnvoyFilter.Build
import FilterRollout.Proofs.Text.LetterCase
import FilterRollout.Resource.WorkloadKind

/-! The tokens that stand for kinds of workloads in settings and for traffic in filters. They are read with the lower
case of all of Unicode, and yet no text beyond ASCII is taken for one. Main statement: `tokens_in_any_case`. -/

namespace FilterRollout

open Text (CaseVariant)

/-- A text is refused as the value of a field, in words that repeat it. -/
def RefusedAs {Value : Type} (field text : String) (outcome : Except Error Value) : Prop :=
  ∃ message, outcome = .error (.validation message (some field)) ∧ text.toList <:+: message.toList

namespace WorkloadKind

theorem token_injective {kind other : WorkloadKind} (same : kind.token = other.token) : kind = other := by
  revert same
  cases kind <;> cases other <;> decide

theorem token_plain (kind : WorkloadKind) : ∀ d ∈ kind.token.toList, d.isLower = true ∧ d ≠ 'k' := by
  cases kind <;> simp [token, Text.isLower_iff]

theorem lowercase_eq_token_iff {text : String} {kind : WorkloadKind} :
    Text.lowercase text = kind.token ↔ CaseVariant text kind.token :=
  Text.lowercase_eq_iff kind.token_plain

theorem find?_eq_some_iff {text : String} {kind : WorkloadKind} :
    all.find? (·.token = Text.lowercase text) = some kind ↔ CaseVariant text kind.token := by
  rw [← lowercase_eq_token_iff]
  constructor
  · intro found
    have same : kind.token = Text.lowercase text := by simpa using List.find?_some found
    exact same.symm
  · intro lower
    cases found : all.find? (·.token = Text.lowercase text) with
    | none =>
      have member : kind ∈ all := by cases kind <;> decide
      exact absurd lower.symm (by simpa using List.find?_eq_none.mp found kind member)
    | some other =>
      have same : other.token = kind.token := Eq.trans (by simpa using List.find?_some found) lower
      rw [token_injective same]

theorem ofText_ok_iff {text : String} {kind : WorkloadKind} :
    ofText text = .ok kind ↔ CaseVariant text kind.token := by
  rw [← find?_eq_some_iff, ofText]
  split <;> simp [*, invalid]

theorem refusedAs_ofText {text : String} (strange : ∀ kind : WorkloadKind, ¬ CaseVariant text kind.token) :
    RefusedAs "kind" text (ofText text) := by
  rw [ofText]
  split
  · rename_i kind found
    exact absurd (find?_eq_some_iff.mp found) (strange kind)
  · exact ⟨_, rfl, "unknown workload type ".toList, _, by simp; rfl⟩

theorem ofDocument?_string_iff {text : String} {kind : WorkloadKind} :
    ofDocument? (.string text) = some kind ↔ CaseVariant text kind.token := by
  rw [← ofText_ok_iff]
  show (ofText text).toOption = some kind ↔ ofText text = .ok kind
  cases ofText text <;> simp [Except.toOption]

end WorkloadKind

namespace PatchContext

/-- The token by which filters name the traffic. -/
def filterToken : PatchContext → String
  | any => "any"
  | sidecarInbound => "inbound"
  | sidecarOutbound => "outbound"
  | gateway => "gateway"

theorem filterToken_plain (context : PatchContext) :
    ∀ d ∈ context.filterToken.toList, d.isLower = true ∧ d ≠ 'k' := by
  cases context <;> simp [filterToken, Text.isLower_iff]

theorem lowercase_eq_filterToken_iff {text : String} {context : PatchContext} :
    Text.lowercase text = context.filterToken ↔ CaseVariant text context.filterToken :=
  Text.lowercase_eq_iff context.filterToken_plain

theorem lowercase_eq_empty_iff {text : String} : Text.lowercase text = "" ↔ text = "" := by
  rw [Text.lowercase_eq_iff (by simp), CaseVariant]
  simp

theorem resolve_ok_iff {text : String} {context : PatchContext} : resolve text = .ok context ↔
    CaseVariant text context.filterToken ∨ text = "" ∧ context = .sidecarInbound := by
  rw [← lowercase_eq_filterToken_iff, ← lowercase_eq_empty_iff, resolve]
  split <;> cases context <;> simp_all [filterToken, invalid]

theorem resolve_ok_or_refusedAs (text : String) :
    (∃ context, resolve text = .ok context) ∨ RefusedAs "patchContext" text (resolve text) := by
  rw [resolve]
  split
  case h_6 => exact .inr ⟨_, rfl, "unknown patch context ".toList, _, by simp; rfl⟩
  all_goals exact .inl ⟨_, rfl⟩

theorem refusedAs_resolve {text : String} (some : text ≠ "")
    (strange : ∀ context : PatchContext, ¬ CaseVariant text context.filterToken) :
    RefusedAs "patchContext" text (resolve text) := by
  refine (resolve_ok_or_refusedAs text).resolve_left ?_
  rintro ⟨context, read⟩
  rcases resolve_ok_iff.mp read with variant | ⟨empty, -⟩
  · exact strange context variant
  · exact some empty

end PatchContext

/-- Kinds of workloads and the traffic of filters are named by their tokens in any case of ASCII letters, traffic also
by the empty text, which stands for inbound traffic. All other texts are refused, and with them every text that has a
character beyond ASCII in it. The token that a kind is written as is read as this kind. -/
theorem tokens_in_any_case (text : String) :
    (∀ kind, (WorkloadKind.ofText text = .ok kind ↔ CaseVariant text kind.token) ∧
        (WorkloadKind.ofDocument? (.string text) = some kind ↔ CaseVariant text kind.token) ∧
          WorkloadKind.ofText kind.token = .ok kind) ∧
      (∀ context, PatchContext.resolve text = .ok context ↔
        CaseVariant text context.filterToken ∨ text = "" ∧ context = .sidecarInbound) ∧
      ((∀ kind : WorkloadKind, ¬ CaseVariant text kind.token) → RefusedAs "kind" text (WorkloadKind.ofText text)) ∧
      (text ≠ "" → (∀ context : PatchContext, ¬ CaseVariant text context.filterToken) →
        RefusedAs "patchContext" text (PatchContext.resolve text)) ∧
      ((∃ c ∈ text.toList, 0x80 ≤ c.toNat) → RefusedAs "kind" text (WorkloadKind.ofText text) ∧
        RefusedAs "patchContext" text (PatchContext.resolve text)) := by
  refine ⟨fun kind => ⟨WorkloadKind.ofText_ok_iff, WorkloadKind.ofDocument?_string_iff,
    WorkloadKind.ofText_ok_iff.mpr (.refl _)⟩, fun context => PatchContext.resolve_ok_iff,
    WorkloadKind.refusedAs_ofText, PatchContext.refusedAs_resolve, ?_⟩
  rintro ⟨c, member, beyond⟩
  have differs {token : String} (plain : ∀ d ∈ token.toList, d.isLower = true ∧ d ≠ 'k') :
      ¬ CaseVariant text token := by
    intro variant
    have ascii := variant.ascii (fun d inToken => Text.ascii_of_isLower (plain d inToken).1) c member
    omega
  refine ⟨WorkloadKind.refusedAs_ofText fun kind => differs kind.token_plain,
    PatchContext.refusedAs_resolve ?_ fun context => differs context.filterToken_plain⟩
  rintro rfl
  simp at member

/-- The dotted capital I, whose lower case begins with an `i`, and a text of ASCII letters that is no token. -/
theorem tokens_in_any_case_dotted :
    ((∃ c ∈ "\u0130NBOUND".toList, 0x80 ≤ c.toNat) ∧
      RefusedAs "patchContext" "\u0130NBOUND" (PatchContext.resolve "\u0130NBOUND")) ∧
      ((∀ kind : WorkloadKind, ¬ CaseVariant "Bound" kind.token) ∧
        RefusedAs "kind" "Bound" (WorkloadKind.ofText "Bound")) ∧
      "Bound" ≠ "" ∧ (∀ context : PatchContext, ¬ CaseVariant "Bound" context.filterToken) ∧
        RefusedAs "patchContext" "Bound" (PatchContext.resolve "Bound") := by
  have beyond : ∃ c ∈ "\u0130NBOUND".toList, 0x80 ≤ c.toNat := ⟨'\u0130', by simp, by decide⟩
  have noKind (kind : WorkloadKind) : ¬ CaseVariant "Bound" kind.token := by
    cases kind <;> decide +kernel
  have noTraffic (context : PatchContext) : ¬ CaseVariant "Bound" context.filterToken := by
    cases context <;> decide +kernel
  obtain ⟨-, -, -, -, refused⟩ := tokens_in_any_case "\u0130NBOUND"
  obtain ⟨-, -, strange, unknown, -⟩ := tokens_in_any_case "Bound"
  exact ⟨⟨beyond, (refused beyond).2⟩, ⟨noKind, strange noKind⟩, by decide, noTraffic, unknown (by decide) noTraffic⟩

end FilterRollout
