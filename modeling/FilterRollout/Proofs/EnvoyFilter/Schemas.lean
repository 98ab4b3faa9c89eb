import FilterRollout.EnvoyFilter.Build
import FilterRollout.Proofs.Json.Places

/-! The two shapes of the configuration of an HTTP filter. Each has places of its own for what it says about the filter;
what stands there is the same. Main statement: `wasmFilter_agree`. -/

namespace FilterRollout

/-- What the configuration of an HTTP filter says: the name of the filter, which part of the binary to run, the virtual
machine, the file with the binary, and the configuration that the filter itself understands. -/
structure FilterReading where
  name : Option Json
  rootId : Option Json
  vmId : Option Json
  file : Option Json
  configuration : Option Json

namespace ConfigSchema

/-- What stands at the places of a shape. -/
def read (json : Json) : ConfigSchema → FilterReading
  | legacy => {
      name := json.at? ["config", "config", "name"]
      rootId := json.at? ["config", "config", "rootId"]
      vmId := json.at? ["config", "config", "vmConfig", "vmId"]
      file := json.at? ["config", "config", "vmConfig", "code", "local", "filename"]
      configuration := json.at? ["config", "config", "configuration"] }
  | typed => {
      name := json.at? ["typed_config", "value", "config", "name"]
      rootId := json.at? ["typed_config", "value", "config", "root_id"]
      vmId := json.at? ["typed_config", "value", "config", "vm_config", "vm_id"]
      file := json.at? ["typed_config", "value", "config", "vm_config", "code", "local", "filename"]
      configuration := json.at? ["typed_config", "value", "config", "configuration", "value"] }

end ConfigSchema

/-- What a configuration is to say about a filter with its binary in a file. -/
def FilterSpec.reading (filter : FilterSpec) (path : String) : FilterReading where
  name := some (.string filter.id)
  rootId := filter.rootId.map .string
  vmId := some (.string filter.id)
  file := some (.string path)
  configuration := filter.config.map .string

theorem read_wasmFilter (filter : FilterSpec) (path : String) (schema : ConfigSchema) :
    schema.read (wasmFilter filter path schema) = filter.reading path := by
  obtain ⟨id, image, config, rootId, patchContext⟩ := filter
  cases schema <;> cases config <;> cases rootId <;> rfl

/-- Whether readings say the same, part by part. -/
structure FilterReading.Same (reading other : FilterReading) : Prop where
  name : Option.Rel (fun a b => a.same b = true) reading.name other.name
  rootId : Option.Rel (fun a b => a.same b = true) reading.rootId other.rootId
  vmId : Option.Rel (fun a b => a.same b = true) reading.vmId other.vmId
  file : Option.Rel (fun a b => a.same b = true) reading.file other.file
  configuration : Option.Rel (fun a b => a.same b = true) reading.configuration other.configuration

theorem ConfigSchema.read_of_same {json other : Json} (same : json.same other = true) (schema : ConfigSchema) :
    (schema.read json).Same (schema.read other) := by
  cases schema with
  | legacy => constructor <;> exact Json.at?_of_same same _
  | typed => constructor <;> exact Json.at?_of_same same _

/-- What a reading says decides all of the filter that goes into a configuration. -/
theorem FilterSpec.eq_of_reading {filter other : FilterSpec} {path otherPath : String}
    (same : (filter.reading path).Same (other.reading otherPath)) :
    filter.id = other.id ∧ filter.rootId = other.rootId ∧ filter.config = other.config ∧ path = otherPath := by
  have names : some filter.id = some other.id := Json.eq_of_rel_string same.name
  have files : some path = some otherPath := Json.eq_of_rel_string same.file
  exact ⟨Option.some.inj names, Json.eq_of_rel_string same.rootId, Json.eq_of_rel_string same.configuration,
    Option.some.inj files⟩

/-- One place is there in the untyped shape only. -/
theorem isSome_at?_config (filter : FilterSpec) (path : String) (schema : ConfigSchema) :
    ((wasmFilter filter path schema).at? ["config"]).isSome = decide (schema = .legacy) := by
  cases schema <;> rfl

theorem schema_eq_of_same {filter other : FilterSpec} {path otherPath : String} {schema otherSchema : ConfigSchema}
    (same : (wasmFilter filter path schema).same (wasmFilter other otherPath otherSchema) = true) :
    schema = otherSchema := by
  have here := Json.isSome_at?_of_same same ["config"]
  rw [isSome_at?_config, isSome_at?_config, decide_eq_decide] at here
  cases schema <;> cases otherSchema <;> simp at here ⊢

/-- The text that a filter understands, as the typed shape holds it. -/
def stringValue (text : String) : Json :=
  Json.record [("@type", some (.string stringValueType)), ("value", some (.string text))]

/-- Both shapes say of a filter what there is to say, the typed one with the configuration of the filter in a string
value. Configurations are the same JSON values exactly if they have one shape and are about filters that agree in all
that is said. -/
theorem wasmFilter_agree (filter : FilterSpec) (path : String) :
    (∀ schema : ConfigSchema, schema.read (wasmFilter filter path schema) = filter.reading path) ∧
      (wasmFilter filter path .typed).at? ["typed_config", "value", "config", "configuration"] =
        filter.config.map stringValue ∧
      ∀ (other : FilterSpec) (otherPath : String) (schema otherSchema : ConfigSchema),
        (wasmFilter filter path schema).same (wasmFilter other otherPath otherSchema) = true ↔
          schema = otherSchema ∧ filter.id = other.id ∧ filter.rootId = other.rootId ∧
            filter.config = other.config ∧ path = otherPath := by
  refine ⟨read_wasmFilter filter path, ?_, fun other otherPath schema otherSchema => ⟨fun same => ?_, ?_⟩⟩
  · obtain ⟨id, image, config, rootId, patchContext⟩ := filter
    cases config <;> cases rootId <;> rfl
  · obtain rfl := schema_eq_of_same same
    have readings := schema.read_of_same same
    rw [read_wasmFilter, read_wasmFilter] at readings
    exact ⟨rfl, FilterSpec.eq_of_reading readings⟩
  · rintro ⟨rfl, ids, roots, configs, rfl⟩
    have equal : wasmFilter filter path schema = wasmFilter other path schema := by
      simp only [wasmFilter, vmConfig, ids, roots, configs]
    rw [equal]
    exact Json.same_self _

end FilterRollout
