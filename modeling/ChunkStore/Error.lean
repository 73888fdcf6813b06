/-!
# Errors of the data model

Building records, reading signed links and checking a configuration fail with a
`ModelError`. A `Panic` is a failure that stops the whole operation instead of being returned
to the caller: it carries only its text.
-/

namespace ChunkStore

/-- The smallest chunk size in bytes. -/
def minChunkSize : Nat := 1

/-- The largest chunk size in bytes: the origin's attachment cap of 25 MiB. -/
def maxChunkSize : Nat := 25 * 1024 * 1024

/-- The chunk size used when none is given: 24 MiB. -/
def defaultChunkSize : Nat := 24 * 1024 * 1024

/-- An error of the data model. -/
inductive ModelError where
  | invalidChunkSize (size : Nat)
  | signedUrl (detail : String)
  | config (detail : String)
  deriving Repr, DecidableEq

/-- The variant name of a model error. -/
def ModelError.kind : ModelError → String
  | .invalidChunkSize _ => "InvalidChunkSize"
  | .signedUrl _ => "SignedUrl"
  | .config _ => "Config"

/-- The text of a model error. -/
def ModelError.message : ModelError → String
  | .invalidChunkSize size =>
    s!"invalid chunk size: {size} (must be between {minChunkSize} and {maxChunkSize})"
  | .signedUrl detail => "invalid signed url: " ++ detail
  | .config detail => "configuration error: " ++ detail

/-- A failure that ends the operation, with its text. -/
structure Panic where
  message : String
  deriving Repr, DecidableEq

end ChunkStore
