import ChunkStore.Chunk.Node
import ChunkStore.Chunk.Message
import ChunkStore.Storage.Error
/-!
# Transports

A transport is how the store reaches the origin: it uploads a chunk as a new attachment,
fetches a byte range of a stored chunk as a stream of pieces, and lists the messages of a
channel around an anchor id. A transport is a record of pure functions over its own state `σ`,
so readers and writers are written once for every origin.

A stream is the list of its items, each a piece of bytes or an error. An upload can fail, or
stop the whole operation with a panic.
-/

namespace ChunkStore

/-- Which messages a listing returns relative to its anchor. -/
inductive Direction where
  | before
  | after
  | around
  deriving Repr, DecidableEq

/-- The name of a direction. -/
def Direction.text : Direction → String
  | .before => "before"
  | .after => "after"
  | .around => "around"

/-- The most messages one listing returns. -/
def messagePageSize : Nat := 100

/-- The items of a byte stream, in order. -/
abbrev ByteStream := List (Except StorageError ByteArray)

/-- How an operation that may stop everything ended. -/
inductive Outcome (α : Type) where
  | ok (value : α)
  | failed (error : StorageError)
  | panicked (message : String)

/-- An origin reached through state `σ`. -/
structure Transport (σ : Type) where
  /-- The transport's name. -/
  name : String
  /-- Store bytes as a new attachment, giving its record. -/
  upload : ByteArray → σ → Outcome Node × σ
  /-- Fetch bytes `start ..= stop` of a chunk. -/
  rangeFetch : Node → Nat → Nat → σ → Except StorageError ByteStream × σ
  /-- List a page of the messages of a channel around an anchor id. -/
  listMessages : String → Nat → Direction → σ → Except StorageError (List Message) × σ

end ChunkStore
