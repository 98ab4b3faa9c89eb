import FilterRollout.Error
import FilterRollout.Json.Record

/-! Filter images, and where the cache keeps the binary of an image. -/

namespace FilterRollout

open Json (Document)

/-- What an image says about its binary. -/
structure ImageConfig where
  /-- The interface versions that the binary was built against. -/
  abiVersions : List String
  deriving DecidableEq

/-- An image that was pulled, with the digest of its content. -/
structure PulledImage where
  reference : String
  digest : String
  deriving DecidableEq

namespace ImageConfig

def toJson (c : ImageConfig) : Json :=
  Json.record [("abiVersions", some (.array (c.abiVersions.map .string)))]

def ofDocument? (document : Document) : Option ImageConfig := do
  let given ← document.strict? ["abiVersions"]
  return ⟨← Document.defaulted? [] (Document.list? Document.text?) given "abiVersions"⟩

end ImageConfig

/-- The directory that the cache shares with every proxy of its host. -/
def cacheDirectory : String := "/var/local/lib/wasm-cache"

def isHexDigit (c : Char) : Bool := c.isDigit || ('a' ≤ c && c ≤ 'f') || ('A' ≤ c && c ≤ 'F')

/-- The path of the binary with a digest `algorithm:hex`. Only the hexadecimal body gets into the path, so that it
names a file in the cache directory itself. -/
def cachedBinaryPath (digest : String) : Except Error String :=
  match Text.cut? ':' digest with
  | none => invalid "digest" s!"digest {Text.quoted digest} has no algorithm prefix"
  | some (algorithm, hex) =>
    if algorithm = "" || hex = "" || !hex.toList.all isHexDigit then
      invalid "digest" s!"digest {Text.quoted digest} is not of the form <algorithm>:<hex>"
    else .ok s!"{cacheDirectory}/{hex}.wasm"

example : (cachedBinaryPath "sha256:0a1B").toOption = some "/var/local/lib/wasm-cache/0a1B.wasm" := by decide +kernel

end FilterRollout
