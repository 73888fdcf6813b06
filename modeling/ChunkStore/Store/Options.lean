import ChunkStore.Config
import ChunkStore.Storage.Error
import ChunkStore.Url.Parse
/-!
# Store options

A store needs only three settings once its origin connection exists: the chunk size, whether
uploads run concurrently, and how many may run at once. Opening a store over the origin's
HTTP API also validates the configuration, reads the base URL (with a `/` added so that relative
paths extend it), and checks that the user agent can be sent as a header value.
-/

namespace ChunkStore

/-- The settings a store works with. -/
structure StoreOptions where
  chunkSize : Nat := defaultChunkSize
  asyncWrite : Bool := false
  uploadConcurrency : Nat := 1
  deriving Repr, DecidableEq

namespace StoreOptions

/-- The settings a configuration implies. -/
def ofConfig (c : StoreConfig) : StoreOptions :=
  { chunkSize := c.chunkSize, asyncWrite := c.asyncWrite, uploadConcurrency := c.concurrency }

/-- The settings as JSON. -/
def toJson (o : StoreOptions) : Json :=
  .obj [("chunk_size", Json.nat o.chunkSize), ("async_write", .bool o.asyncWrite),
    ("upload_concurrency", Json.nat o.uploadConcurrency)]

/-- Accept settings whose chunk size is in range. -/
def check (o : StoreOptions) : Except StorageError StoreOptions :=
  if minChunkSize ≤ o.chunkSize && o.chunkSize ≤ maxChunkSize then .ok o
  else .error (.ofModel (.invalidChunkSize o.chunkSize))

end StoreOptions

/-- Whether a byte may appear in an HTTP header value: visible characters, the space, the tab
and any byte from 0x80 up. -/
def isHeaderValueByte (b : UInt8) : Bool := (32 ≤ b && b != 127) || b == 9

/-- The base URL with a trailing `/`. -/
def baseWithSlash (base : String) : String := if base.endsWith "/" then base else base ++ "/"

/-- Open the origin's HTTP API from a configuration: the settings the store then uses. -/
def openRest (c : StoreConfig) : Except StorageError StoreOptions := do
  match c.validate with
  | .error e => throw (.ofModel e)
  | .ok () => pure ()
  let base := baseWithSlash c.baseUrl
  match Url.parse base with
  | .error e => throw (.config ("invalid base url " ++ Text.quote base ++ ": " ++ e.message))
  | .ok _ => pure ()
  if !c.userAgent.toUTF8.toList.all isHeaderValueByte then throw (.http "builder error")
  pure (StoreOptions.ofConfig c)

end ChunkStore
