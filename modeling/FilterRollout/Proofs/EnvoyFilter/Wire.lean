import FilterRollout.EnvoyFilter.Codec
import FilterRollout.Proofs.Json.Records

/-! Envoy filters on the wire. Each part that is left out when it is written is one that reads as it was when it is
missing, down to the patches; the configuration that a patch puts in may be any JSON value. Main statement:
`EnvoyFilter.wire_roundTrip`. -/

namespace FilterRollout

open Json (Document Recovers recovers_text recovers_bool recovers_textMap recovers_token exists_shows array_unless_empty)

theorem OwnerReference.recovers : Recovers toJson ofDocument? := by
  intro owner layout
  obtain ⟨given, -, read, distinct, shows⟩ :=
    exists_shows layout ["apiVersion", "kind", "name", "uid", "controller", "blockOwnerDeletion"]
      (rfl : owner.toJson = _) rfl (by simp)
  have apiVersion : Document.optional? Document.text? given "apiVersion" = some (some owner.apiVersion) :=
    recovers_text.optional? rfl shows rfl
  have kind : Document.optional? Document.text? given "kind" = some (some owner.kind) :=
    recovers_text.optional? rfl shows rfl
  have name : Document.optional? Document.text? given "name" = some (some owner.name) :=
    recovers_text.optional? rfl shows rfl
  have uid : Document.optional? Document.text? given "uid" = some (some owner.uid) :=
    recovers_text.optional? rfl shows rfl
  have controller : Document.optional? Document.bool? given "controller" = some owner.controller :=
    recovers_bool.optional? rfl shows rfl
  have blockOwnerDeletion : Document.optional? Document.bool? given "blockOwnerDeletion" =
      some owner.blockOwnerDeletion := recovers_bool.optional? rfl shows rfl
  simp [ofDocument?, read, Document.last?_eq_optional? _ distinct, apiVersion, kind, name, uid, controller,
    blockOwnerDeletion]

/-- The object of a map that is left out when it is empty. -/
theorem ResourceMeta.mapUnlessEmpty_eq (map : SortedMap String) :
    mapUnlessEmpty map = some (Json.textMap map) ∨ mapUnlessEmpty map = none ∧ map = .empty := by
  obtain ⟨entries, sorted⟩ := map
  cases entries with
  | nil => exact .inr ⟨rfl, rfl⟩
  | cons entry rest => exact .inl rfl

theorem ResourceMeta.recovers : Recovers toJson ofDocument? := by
  intro metadata layout
  obtain ⟨given, read, -, -, shows⟩ :=
    exists_shows layout ["name", "namespace", "labels", "annotations", "ownerReferences"]
      (rfl : metadata.toJson = _) rfl (by simp)
  have name : Document.required? Document.text? given "name" = some metadata.name :=
    (recovers_text _).required? shows rfl
  have namespaceName : Document.required? Document.text? given "namespace" = some metadata.namespaceName :=
    (recovers_text _).required? shows rfl
  have labels : Document.defaulted? .empty (Document.map? Document.text?) given "labels" = some metadata.labels :=
    (recovers_textMap _).defaulted? shows rfl (mapUnlessEmpty_eq metadata.labels)
  have annotations : Document.defaulted? .empty (Document.map? Document.text?) given "annotations" =
      some metadata.annotations := (recovers_textMap _).defaulted? shows rfl (mapUnlessEmpty_eq metadata.annotations)
  have ownerReferences : Document.defaulted? [] (Document.list? OwnerReference.ofDocument?) given "ownerReferences" =
      some metadata.ownerReferences :=
    (OwnerReference.recovers.list _).defaulted? shows rfl (array_unless_empty _ metadata.ownerReferences)
  simp [ofDocument?, read, name, namespaceName, labels, annotations, ownerReferences]

theorem SubFilterMatch.recovers : Recovers toJson ofDocument? := by
  intro subFilter layout
  obtain ⟨given, read, -, -, shows⟩ := exists_shows layout ["name"] (rfl : subFilter.toJson = _) rfl (by simp)
  have name : Document.required? Document.text? given "name" = some subFilter.name :=
    (recovers_text _).required? shows rfl
  simp [ofDocument?, read, name]

theorem FilterMatch.recovers : Recovers toJson ofDocument? := by
  intro filter layout
  obtain ⟨given, read, -, -, shows⟩ :=
    exists_shows layout ["name", "subFilter"] (rfl : filter.toJson = _) rfl (by simp)
  have name : Document.required? Document.text? given "name" = some filter.name :=
    (recovers_text _).required? shows rfl
  have subFilter : Document.optional? SubFilterMatch.ofDocument? given "subFilter" = some filter.subFilter :=
    SubFilterMatch.recovers.optional? rfl shows rfl
  simp [ofDocument?, read, name, subFilter]

theorem FilterChainMatch.recovers : Recovers toJson ofDocument? := by
  intro chain layout
  obtain ⟨given, read, -, -, shows⟩ := exists_shows layout ["filter"] (rfl : chain.toJson = _) rfl (by simp)
  have filter : Document.optional? FilterMatch.ofDocument? given "filter" = some chain.filter :=
    FilterMatch.recovers.optional? rfl shows rfl
  simp [ofDocument?, read, filter]

theorem ListenerMatch.recovers : Recovers toJson ofDocument? := by
  intro listener layout
  obtain ⟨given, read, -, -, shows⟩ := exists_shows layout ["filterChain"] (rfl : listener.toJson = _) rfl (by simp)
  have filterChain : Document.optional? FilterChainMatch.ofDocument? given "filterChain" = some listener.filterChain :=
    FilterChainMatch.recovers.optional? rfl shows rfl
  simp [ofDocument?, read, filterChain]

theorem ConfigMatch.recovers : Recovers toJson ofDocument? := by
  intro configMatch layout
  obtain ⟨given, read, -, -, shows⟩ :=
    exists_shows layout ["context", "listener"] (rfl : configMatch.toJson = _) rfl (by simp)
  have context : Document.required? (fun d => d.token?.bind PatchContext.ofToken?) given "context" =
      some configMatch.context := (recovers_token PatchContext.ofToken?_token _).required? shows rfl
  have listener : Document.optional? ListenerMatch.ofDocument? given "listener" = some configMatch.listener :=
    ListenerMatch.recovers.optional? rfl shows rfl
  simp [ofDocument?, read, context, listener]

theorem PatchOperation.ofToken?_token (operation : PatchOperation) : ofToken? operation.token = some operation := by
  cases operation
  rfl

theorem ApplyTo.ofToken?_token (applyTo : ApplyTo) : ofToken? applyTo.token = some applyTo := by
  cases applyTo
  rfl

theorem Patch.recovers : Recovers toJson ofDocument? := by
  intro patch layout
  obtain ⟨given, read, -, -, shows⟩ :=
    exists_shows layout ["operation", "value"] (rfl : patch.toJson = _) rfl (by simp)
  have operation : Document.required? (fun d => d.token?.bind PatchOperation.ofToken?) given "operation" =
      some patch.operation := (recovers_token PatchOperation.ofToken?_token _).required? shows rfl
  have value : Document.required? Document.value? given "value" = some patch.value.normalize :=
    (Json.readAs_value _).required? shows rfl
  simp [ofDocument?, read, operation, value, ofValue, patch.normal]

theorem ConfigPatch.recovers : Recovers toJson ofDocument? := by
  intro patch layout
  obtain ⟨given, read, -, -, shows⟩ :=
    exists_shows layout ["applyTo", "match", "patch"] (rfl : patch.toJson = _) rfl (by simp)
  have applyTo : Document.required? (fun d => d.token?.bind ApplyTo.ofToken?) given "applyTo" = some patch.applyTo :=
    (recovers_token ApplyTo.ofToken?_token _).required? shows rfl
  have configMatch : Document.optional? ConfigMatch.ofDocument? given "match" = some patch.configMatch :=
    ConfigMatch.recovers.optional? rfl shows rfl
  have inner : Document.required? Patch.ofDocument? given "patch" = some patch.patch :=
    (Patch.recovers _).required? shows rfl
  simp [ofDocument?, read, applyTo, configMatch, inner]

theorem ProxySelector.recovers : Recovers toJson ofDocument? := by
  intro selector layout
  obtain ⟨given, read, -, -, shows⟩ := exists_shows layout ["labels"] (rfl : selector.toJson = _) rfl (by simp)
  have labels : Document.defaulted? .empty (Document.map? Document.text?) given "labels" = some selector.labels :=
    (recovers_textMap _).defaulted? shows rfl (.inl rfl)
  simp [ofDocument?, read, labels]

theorem EnvoyFilterSpec.recovers : Recovers toJson ofDocument? := by
  intro spec layout
  obtain ⟨given, read, -, -, shows⟩ :=
    exists_shows layout ["workloadSelector", "configPatches"] (rfl : spec.toJson = _) rfl (by simp)
  have selector : Document.optional? ProxySelector.ofDocument? given "workloadSelector" = some spec.selector :=
    ProxySelector.recovers.optional? rfl shows rfl
  have patches : Document.defaulted? [] (Document.list? ConfigPatch.ofDocument?) given "configPatches" =
      some spec.patches := (ConfigPatch.recovers.list _).defaulted? shows rfl (array_unless_empty _ spec.patches)
  simp [ofDocument?, read, selector, patches]

namespace EnvoyFilter

theorem recovers : Recovers toJson ofDocument? := by
  intro filter layout
  obtain ⟨given, read, -, -, shows⟩ :=
    exists_shows layout ["apiVersion", "kind", "metadata", "spec"] (rfl : filter.toJson = _) rfl (by simp)
  have apiVersion : Document.defaulted? defaultApiVersion Document.text? given "apiVersion" = some filter.apiVersion :=
    (recovers_text _).defaulted? shows rfl (.inl rfl)
  have kind : Document.defaulted? defaultKind Document.text? given "kind" = some filter.kind :=
    (recovers_text _).defaulted? shows rfl (.inl rfl)
  have metadata : Document.required? ResourceMeta.ofDocument? given "metadata" = some filter.metadata :=
    (ResourceMeta.recovers _).required? shows rfl
  have spec : Document.required? EnvoyFilterSpec.ofDocument? given "spec" = some filter.spec :=
    (EnvoyFilterSpec.recovers _).required? shows rfl
  simp [ofDocument?, read, apiVersion, kind, metadata, spec]

/-- An Envoy filter is read from the JSON value that is written for it. So what is read from any JSON value is read
again, as it is, from what is written for it. -/
theorem wire_roundTrip :
    (∀ filter : EnvoyFilter, ofDocument? (.ofJson filter.toJson.normalize) = some filter) ∧
      ∀ (json : Json) (filter : EnvoyFilter), ofDocument? (.ofJson json) = some filter →
        ofDocument? (.ofJson filter.toJson.normalize) = some filter := by
  have written (filter : EnvoyFilter) : ofDocument? (.ofJson filter.toJson.normalize) = some filter :=
    recovers filter .byKey
  exact ⟨written, fun json filter read => written filter⟩

/-- An Envoy filter as others may write it: without type, with a part that is unknown here, an empty selector, no match,
and a patch that puts in `null`. -/
def foreignJson : Json :=
  .object [
    ("status", .object []),
    ("spec", .object [
      ("workloadSelector", .object []),
      ("configPatches", .array [.object [
        ("patch", .object [("value", .null), ("operation", .object [("INSERT_BEFORE", .null)])]),
        ("match", .null), ("applyTo", .string "HTTP_FILTER")]])]),
    ("metadata", .object [("namespace", .string "mesh"), ("name", .string "web-auth"), ("labels", .object [])])]

def foreign : EnvoyFilter :=
  ofSpec ⟨"web-auth", "mesh", .empty, .empty, []⟩
    ⟨some ⟨.empty⟩, [⟨.httpFilter, none, .ofValue .insertBefore .null⟩]⟩

theorem wire_roundTrip_foreign :
    ofDocument? (.ofJson foreignJson) = some foreign ∧
      ofDocument? (.ofJson foreign.toJson.normalize) = some foreign ∧
      foreign.toJson.normalize.same foreignJson = false := by
  have read : ofDocument? (.ofJson foreignJson) = some foreign := by rfl
  exact ⟨read, wire_roundTrip.2 foreignJson foreign read, by decide +kernel⟩

end EnvoyFilter

end FilterRollout
