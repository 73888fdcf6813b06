import ChunkStore.Error
/-!
# Storage errors

Every storage operation fails with a `StorageError`. A byte stream reports failures as an
`IoError`, a kind and a text: a storage error becomes one by keeping its text and choosing the
kind from the variant (an `io` error is passed through unchanged).
-/

namespace ChunkStore

/-- The kind of a stream failure. -/
inductive IoKind where
  | unexpectedEof
  | permissionDenied
  | timedOut
  | interrupted
  | invalidInput
  | brokenPipe
  | other
  deriving Repr, DecidableEq

/-- The name of a stream failure kind. -/
def IoKind.name : IoKind → String
  | .unexpectedEof => "UnexpectedEof"
  | .permissionDenied => "PermissionDenied"
  | .timedOut => "TimedOut"
  | .interrupted => "Interrupted"
  | .invalidInput => "InvalidInput"
  | .brokenPipe => "BrokenPipe"
  | .other => "Other"

/-- A stream failure. -/
structure IoError where
  kind : IoKind
  message : String
  deriving Repr, DecidableEq

/-- An error of a storage operation. -/
inductive StorageError where
  | config (detail : String)
  /-- The origin answered an operation with a failure status. -/
  | transport (operation : String) (status : Nat)
  | timeout (operation : String)
  | http (detail : String)
  | decode (detail : String)
  | protocol (detail : String)
  /-- Renewing the signatures of a message failed. -/
  | refresh (messageId : Nat) (source : StorageError)
  | closed
  | alreadyClosed
  | cancelled
  | invalidOffset (offset size : Nat)
  | io (error : IoError)
  deriving Repr, DecidableEq

namespace StorageError

/-- The variant name. -/
def kind : StorageError → String
  | .config _ => "Config"
  | .transport .. => "Transport"
  | .timeout _ => "Timeout"
  | .http _ => "Http"
  | .decode _ => "Decode"
  | .protocol _ => "Protocol"
  | .refresh .. => "Refresh"
  | .closed => "Closed"
  | .alreadyClosed => "AlreadyClosed"
  | .cancelled => "Cancelled"
  | .invalidOffset .. => "InvalidOffset"
  | .io _ => "Io"

/-- The text of a storage error. -/
def message : StorageError → String
  | .config detail => "configuration error: " ++ detail
  | .transport operation status => s!"{operation} failed with status {status}"
  | .timeout operation => operation ++ " timed out"
  | .http detail => "HTTP error: " ++ detail
  | .decode detail => "invalid response body: " ++ detail
  | .protocol detail => "protocol error: " ++ detail
  | .refresh id source => s!"refreshing message {id} failed: " ++ source.message
  | .closed => "stream is closed"
  | .alreadyClosed => "stream is already closed"
  | .cancelled => "operation cancelled"
  | .invalidOffset offset size =>
    s!"offset {offset} is beyond the end of the stream ({size} bytes)"
  | .io e => "I/O error: " ++ e.message

/-- A model error seen by storage: a configuration error with the model error's text. -/
def ofModel (e : ModelError) : StorageError := .config e.message

/-- The stream failure a storage error becomes. -/
def toIo : StorageError → IoError
  | .io e => e
  | e =>
    let kind := match e with
      | .timeout _ => .timedOut
      | .cancelled => .interrupted
      | .invalidOffset .. => .invalidInput
      | .closed | .alreadyClosed => .brokenPipe
      | _ => .other
    { kind, message := e.message }

end StorageError

end ChunkStore
