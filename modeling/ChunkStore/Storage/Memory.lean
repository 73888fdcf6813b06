import ChunkStore.Storage.Transport
/-!
# An origin in memory

A deterministic origin kept in memory. Uploads become messages with increasing ids (a 64-bit
counter that wraps) spread over the channels in turn; a message's chunk is served from its stored bytes, split into pieces of a
bounded size; listings hand out a freshly signed link for every message that has no attachments
of its own. Every call is logged. Failures can be arranged per upload attempt (a failure status
or a panic), per message (a failure status, an error kind, or a stream that breaks after some
pieces) and per channel listing.

In strict mode a fetch is refused (as not found) unless the link's signature was issued for the
message and has not lapsed at the given wall-clock time.
-/

namespace ChunkStore

/-- A message stored in the memory origin. -/
structure StoredMessage where
  id : Nat
  channel : String
  data : ByteArray
  /-- Attachments to list as given, instead of a freshly signed one. -/
  attachments : Option (List Attachment) := none
  /-- The signatures issued for the message, oldest first. -/
  signatures : List String := []
  /-- A status every fetch of the message fails with. -/
  failFetch : Option Nat := none
  /-- An error kind every fetch of the message fails with. -/
  failKind : Option String := none
  /-- The number of pieces after which a fetch's stream breaks. -/
  errorAfter : Option Nat := none

/-- A call made to the memory origin. -/
inductive OriginCall where
  | upload (attempt size : Nat)
  | range (messageId start stop : Nat)
  | list (channel : String) (anchor : Nat) (direction : Direction)
  deriving Repr, DecidableEq

/-- The memory origin: its settings, its messages and its call log. -/
structure MemoryOrigin where
  channels : List String := ["1"]
  firstId : Nat := 1000
  uploadExpiry : Int := 4000000000
  listedExpiry : Int := 4100000000
  failOn : List Nat := []
  failStatus : Nat := 400
  panicOn : List Nat := []
  pieceSize : Option Nat := none
  listFail : List (String × Nat) := []
  listFailAll : Option Nat := none
  /-- The wall-clock time that signatures are checked against, in strict mode. -/
  strictAt : Option Int := none
  messages : Array StoredMessage := #[]
  attempts : Nat := 0
  successes : Nat := 0
  log : Array OriginCall := #[]

namespace MemoryOrigin

/-- An integer as a signed 64-bit one: its residue modulo `2^64`, taken in `-2^63 ..< 2^63`. -/
def wrapSigned64 (n : Int) : Int :=
  let m := n % (Nat.pow 2 64 : Int)
  if m < (Nat.pow 2 63 : Int) then m else m - (Nat.pow 2 64 : Int)

/-- The link the origin issues for message `id` in channel `ch`, expiring at `ex`, as its
`gen`-th signature. It is issued a day before it expires, in 64-bit arithmetic that wraps. -/
def sign (id : Nat) (ch : String) (ex : Int) (gen : Nat) : SignedUrl :=
  { url := s!"https://cdn.test/attachments/{ch}/{id}/blob", expiresAt := ex,
    issuedAt := wrapSigned64 (ex - 86400), signature := s!"sig-{id}-{gen}" }

/-- The error a named failure kind stands for. -/
def failure (kind : String) (start stop size : Nat) : StorageError :=
  match kind with
  | "timeout" => .timeout "range_fetch"
  | "cancelled" => .cancelled
  | "invalid_offset" => .invalidOffset start size
  | "closed" => .closed
  | "protocol" => .protocol s!"bad range {start}-{stop}"
  | "io_permission" => .io ⟨.permissionDenied, "no access"⟩
  | "io_eof" => .io ⟨.unexpectedEof, "unexpected end of file"⟩
  | other => .config ("unknown fail_kind " ++ other)

/-- Bytes split into pieces of at most `size` bytes (`fuel` bounds the pieces). -/
def pieces (bytes : ByteArray) (size : Nat) : Nat → List ByteArray
  | 0 => []
  | fuel + 1 =>
    if bytes.size = 0 then []
    else if bytes.size ≤ size then [bytes]
    else bytes.extract 0 size :: pieces (bytes.extract size bytes.size) size fuel

/-- Store bytes as a new message. -/
def upload (data : ByteArray) (o : MemoryOrigin) : Outcome Node × MemoryOrigin :=
  let k := o.attempts
  let o := { o with attempts := k + 1, log := o.log.push (.upload k data.size) }
  if o.panicOn.contains k then (.panicked s!"upload attempt {k} panicked", o)
  else if o.failOn.contains k then (.failed (.transport "upload_attachment" o.failStatus), o)
  else
    let id := (o.firstId + o.successes) % Nat.pow 2 64
    let ch := o.channels.getD (o.successes % max o.channels.length 1) "1"
    let signed := sign id ch o.uploadExpiry 0
    let stored : StoredMessage := { id, channel := ch, data, signatures := [signed.signature] }
    (.ok (Node.ofSigned signed data.size id),
      { o with successes := o.successes + 1, messages := o.messages.push stored })

/-- Fetch bytes `start ..= stop` of the chunk a record points at. -/
def rangeFetch (node : Node) (start stop : Nat) (o : MemoryOrigin) :
    Except StorageError ByteStream × MemoryOrigin :=
  let o := { o with log := o.log.push (.range node.messageId start stop) }
  let notFound := StorageError.transport "range_fetch" 404
  match o.messages.find? (·.id == node.messageId) with
  | none => (.error notFound, o)
  | some m =>
    match m.failKind, m.failFetch with
    | some kind, _ => (.error (failure kind start stop m.data.size), o)
    | none, some status => (.error (.transport "range_fetch" status), o)
    | none, none =>
      let refused := match o.strictAt with
        | some now => !m.signatures.contains node.signature || now > node.expiresAt
        | none => false
      if refused then (.error notFound, o)
      else
        let body := if start ≥ m.data.size then ByteArray.empty
          else m.data.extract start (min (stop + 1) m.data.size)
        let parts := match o.pieceSize with
          | some size => pieces body (max size 1) (body.size + 1)
          | none => if body.size = 0 then [] else [body]
        let items : ByteStream := match m.errorAfter with
          | some k =>
            if parts.length ≥ k then
              (parts.take k).map .ok ++ [.error (.transport "range_fetch" 503)]
            else parts.map .ok
          | none => parts.map .ok
        (.ok items, o)

/-- Whether a message id lies on the listed side of the anchor. -/
def listed (direction : Direction) (anchor id : Nat) : Bool :=
  match direction with
  | .after => decide (id > anchor)
  | .before => decide (id < anchor)
  | .around => true

/-- The listing entry of stored message `i`, signing a fresh link when it has no attachments
of its own. -/
def listEntry (o : MemoryOrigin) (i : Nat) : Message × MemoryOrigin :=
  match o.messages[i]? with
  | none => ({ id := 0 }, o)
  | some m =>
    match m.attachments with
    | some atts => ({ id := m.id, channelId := some m.channel, attachments := atts }, o)
    | none =>
      let signed := sign m.id m.channel o.listedExpiry m.signatures.length
      let m' := { m with signatures := m.signatures ++ [signed.signature] }
      ({ id := m.id, channelId := some m.channel,
         attachments := [{ url := signed.encode, size := m.data.size, filename := "blob" }] },
        { o with messages := o.messages.set! i m' })

/-- List a page of the messages of a channel, ordered by id. -/
def listMessages (ch : String) (anchor : Nat) (direction : Direction) (o : MemoryOrigin) :
    Except StorageError (List Message) × MemoryOrigin :=
  let o := { o with log := o.log.push (.list ch anchor direction) }
  let status := match o.listFail.find? (·.1 == ch) with
    | some (_, s) => some s
    | none => o.listFailAll
  match status with
  | some s => (.error (.transport "list_messages" s), o)
  | none =>
    let indices := (List.range o.messages.size).filter fun i =>
      match o.messages[i]? with
      | some m => m.channel == ch && listed direction anchor m.id
      | none => false
    let byId := indices.mergeSort fun i j =>
      decide (((o.messages[i]?).map (·.id)).getD 0 ≤ ((o.messages[j]?).map (·.id)).getD 0)
    let (page, o) := (byId.take messagePageSize).foldl (fun (acc, o) i =>
      let (m, o) := o.listEntry i
      (acc ++ [m], o)) (([] : List Message), o)
    (.ok page, o)

/-- The memory origin as a transport. -/
def transport : Transport MemoryOrigin where
  name := "memory"
  upload := upload
  rangeFetch := rangeFetch
  listMessages := listMessages

end MemoryOrigin

end ChunkStore
