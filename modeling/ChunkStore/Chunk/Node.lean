import ChunkStore.Link.Signed
import ChunkStore.Json.Codec
/-!
# Chunk records

A file is stored as a sequence of chunks, each an attachment of its own origin message. A
`Node` records one chunk: where it lives (the attachment link without its query), how many
bytes it holds, the message it belongs to, and the signature window that makes the link
fetchable. The signature can be replaced when it lapses without touching the rest.

As JSON a record is the object `{url, size, mid, ex, is, hm}` (or an array of the six in that
order); every field is required.
-/

namespace ChunkStore

/-- One stored chunk. -/
structure Node where
  url : String
  size : Nat
  messageId : Nat
  expiresAt : Int
  issuedAt : Int
  signature : String
  deriving Repr, DecidableEq

namespace Node

/-- The record of a chunk of `size` bytes in message `messageId`, at a signed link. -/
def ofSigned (signed : SignedUrl) (size messageId : Nat) : Node :=
  { url := signed.url, size, messageId, expiresAt := signed.expiresAt,
    issuedAt := signed.issuedAt, signature := signed.signature }

/-- The fetchable link of the chunk, written through the URL library `L`. -/
def signedUrlWith (L : UrlLibrary) (n : Node) : String :=
  SignedUrl.encodePartsWith L n.url n.expiresAt n.issuedAt n.signature

/-- The fetchable link of the chunk. -/
def signedUrl (n : Node) : String := n.signedUrlWith Url.library

/-- The channel the chunk's message is in, read from its link. -/
def channelId (n : Node) : Option String := ChunkStore.channelId n.url

/-- Whether the chunk's signature has lapsed at `now`. -/
def isExpiredAt (n : Node) (now : Int) : Bool := decide (now > n.expiresAt)

/-- The record with a new link and signature window; size and message stay. -/
def applySigned (n : Node) (signed : SignedUrl) : Node :=
  { n with
    url := signed.url, expiresAt := signed.expiresAt, issuedAt := signed.issuedAt,
    signature := signed.signature }

/-- The record as JSON. -/
def toJson (n : Node) : Json :=
  .obj [("url", .str n.url), ("size", Json.nat n.size), ("mid", Json.nat n.messageId),
    ("ex", Json.int n.expiresAt), ("is", Json.int n.issuedAt), ("hm", .str n.signature)]

/-- The debugging text, which leaves the signature out. -/
def debugText (n : Node) : String :=
  "Node \x7b url: " ++ Text.quote n.url ++ ", size: " ++ toString n.size ++ ", message_id: " ++
    toString n.messageId ++ ", expires_at: " ++ toString n.expiresAt ++
    ", signature: \"<redacted>\" \x7d"

end Node

/-- A record being decoded: the fields read so far. -/
structure NodeDraft where
  url : Option String := none
  size : Option Nat := none
  messageId : Option Nat := none
  expiresAt : Option Int := none
  issuedAt : Option Int := none
  signature : Option String := none

namespace Json.Decode

variable (J : JsonCodec)

/-- The six fields of a record, in order. -/
def nodeFields : List (Field NodeDraft) :=
  [ ⟨"url", true, (·.url.isSome), fun _ s => do pure { s with url := some (← J.text) }⟩,
    ⟨"size", true, (·.size.isSome), fun _ s => do pure { s with size := some (← J.u64) }⟩,
    ⟨"mid", true, (·.messageId.isSome), fun _ s => do
      pure { s with messageId := some (← J.u64) }⟩,
    ⟨"ex", true, (·.expiresAt.isSome), fun _ s => do
      pure { s with expiresAt := some (← J.i64) }⟩,
    ⟨"is", true, (·.issuedAt.isSome), fun _ s => do pure { s with issuedAt := some (← J.i64) }⟩,
    ⟨"hm", true, (·.signature.isSome), fun _ s => do
      pure { s with signature := some (← J.text) }⟩ ]

/-- A chunk record, read through the library `J`. -/
def nodeWith (budget : Nat) : Decode Node := do
  let d ← J.struct "Node" (nodeFields J) {} budget
  pure {
    url := d.url.getD "", size := d.size.getD 0, messageId := d.messageId.getD 0,
    expiresAt := d.expiresAt.getD 0, issuedAt := d.issuedAt.getD 0,
    signature := d.signature.getD "" }

/-- A chunk record, read through the library the program runs with. -/
def node (budget : Nat) : Decode Node := nodeWith Json.library budget

end Json.Decode

end ChunkStore
