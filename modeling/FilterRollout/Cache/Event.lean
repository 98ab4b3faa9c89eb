import FilterRollout.SortedMap
import FilterRollout.Text.Quoted

/-! What the replicas of a cache report about an image, and when their reports are complete. -/

namespace FilterRollout

inductive EventOutcome
  | success
  | failure
  deriving DecidableEq

/-- The report of one replica, from the host that it runs on. -/
structure CacheEvent where
  name : String
  namespaceName : String
  outcome : EventOutcome
  host : String
  image : String
  deriving DecidableEq

/-- The annotation of an event that names its image. -/
def imageAnnotation : String := "cache.wasm-mesh.io/image"

/-- The reason of an event that reports success. -/
def successReason : String := "ImageAdded"

namespace CacheEvent

/-- The hosts that reported success, each once. -/
def readyHosts (events : List CacheEvent) : SortedMap Unit :=
  .ofList ((events.filter (·.outcome = .success)).map fun event => (event.host, ()))

/-- Whether as many hosts reported success as there are ready replicas. A negative count is never reached. -/
def acknowledged (events : List CacheEvent) (ready : Int) : Bool :=
  decide (0 ≤ ready) && (readyHosts events).keys.length == ready.toNat

/-- What an incomplete poll saw, for the error that ends the wait. -/
def mismatch (image : String) (events : List CacheEvent) (ready : Int) : String :=
  s!"expected {ready} image-ready events for image {image}, only found {Text.quotedSet (readyHosts events).keys}"

end CacheEvent

end FilterRollout
