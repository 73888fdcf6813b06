import ChunkStore.Storage.Transport
/-!
# Reading a file

A file is the concatenation of its chunks. The layout records where each chunk starts; the
file's size must fit in 64 bits. Reading at a position finds the chunk that holds it (the last
one starting at or before it, which skips empty chunks) and fetches that chunk from the
position to its end; the stream is then consumed across reads, each read handing out what the
current piece holds, and a stream that ends before the chunk does is an error. Seeking drops
the stream only when the position changes.

`readAt` is the positional read: it fetches exactly the bytes asked for, chunk by chunk, and
leaves the reader's position alone.
-/

namespace ChunkStore

/-- Where the chunks of a file start, and the file's size. -/
structure Layout where
  nodes : Array Node
  offsets : Array Nat
  size : Nat

/-- The largest value of 64 bits, plus one. -/
def wordRange : Nat := Nat.pow 2 64

namespace Layout

/-- Place one more chunk after those laid out so far, given their start offsets and the size so
far; a chunk that takes the size past 64 bits is refused, named by its message. -/
def place (acc : Array Nat × Nat) (n : Node) : Except StorageError (Array Nat × Nat) :=
  if acc.2 + n.size ≥ wordRange then
    throw (StorageError.protocol s!"chunk {n.messageId} overflows the file size")
  else pure (acc.1.push acc.2, acc.2 + n.size)

/-- Lay out chunks one after another; a file larger than 64 bits is refused, naming the chunk
that overflows it. -/
def build (nodes : List Node) : Except StorageError Layout := do
  let (offsets, size) ← nodes.foldlM place ((#[] : Array Nat), 0)
  pure { nodes := nodes.toArray, offsets, size }

/-- The index of the chunk holding `position`, if it is inside the file. -/
def locate (l : Layout) (position : Nat) : Option Nat :=
  if position ≥ l.size then none
  else
    let count := (l.offsets.toList.takeWhile (· ≤ position)).length
    some (count - 1)

/-- The chunk at an index with its start offset. -/
def chunk? (l : Layout) (i : Nat) : Option (Node × Nat) := do
  pure (← l.nodes[i]?, ← l.offsets[i]?)

end Layout

/-- The error of a stream that ended `missing` bytes before its chunk did. -/
def shortChunk (n : Node) (missing : Nat) : IoError :=
  ⟨.unexpectedEof, s!"chunk of message {n.messageId} ended {missing} bytes early"⟩

/-- What a reader is doing between reads. -/
inductive ReadState where
  | idle
  /-- Consuming a chunk's stream: the items left, the unread part of the current piece, and
  how many bytes of the chunk are still due. -/
  | streaming (items : ByteStream) (pending : ByteArray) (remaining : Nat)

/-- A reader over a file. -/
structure ChunkReader where
  layout : Layout
  position : Nat
  state : ReadState
  closed : Bool

/-- Where a seek is measured from. -/
inductive SeekFrom where
  | start (offset : Nat)
  | current (delta : Int)
  | fromEnd (delta : Int)

/-- The position a seek aims at, from `position` in a file of `size` bytes, before it is
checked. -/
def SeekFrom.resolve (position size : Nat) : SeekFrom → Int
  | .start offset => offset
  | .current delta => position + delta
  | .fromEnd delta => size + delta

namespace ChunkReader

/-- A reader over the chunks `nodes`, starting at `start`. -/
def new (nodes : List Node) (start : Nat) : Except StorageError ChunkReader := do
  let layout ← Layout.build nodes
  if start > layout.size then throw (.invalidOffset start layout.size)
  pure { layout, position := start, state := .idle, closed := false }

/-- The file's size. -/
def size (r : ChunkReader) : Nat := r.layout.size

/-- What draining a stream gives: bytes, a failure, or the end. -/
inductive Drained where
  | piece (bytes : ByteArray) (rest : ByteStream)
  | failed (e : StorageError)
  | ended

/-- Skip empty pieces up to the next non-empty one. -/
def drain : ByteArray → ByteStream → Drained
  | pending, items =>
    if 0 < pending.size then .piece pending items
    else
      match items with
      | [] => .ended
      | .error e :: _ => .failed e
      | .ok b :: rest => drain b rest

/-- Hand out up to `len` bytes from a stream with `remaining` bytes due. -/
def consume (r : ChunkReader) (items : ByteStream) (pending : ByteArray) (remaining len : Nat) :
    Except IoError ByteArray × ChunkReader :=
  match drain pending items with
  | .failed e => (.error e.toIo, { r with state := .idle })
  | .ended =>
    let node := match r.layout.locate r.position with
      | some i => (r.layout.nodes[i]?).getD ⟨"", 0, 0, 0, 0, ""⟩
      | none => (r.layout.nodes[0]?).getD ⟨"", 0, 0, 0, 0, ""⟩
    (.error (shortChunk node remaining), { r with state := .idle })
  | .piece bytes rest =>
    let n := min (min bytes.size len) remaining
    let left := remaining - n
    let state := if left = 0 then .idle else .streaming rest (bytes.extract n bytes.size) left
    (.ok (bytes.extract 0 n), { r with position := r.position + n, state })

/-- One read of at most `len` bytes: what was read, or a stream failure. -/
def read (t : Transport σ) (r : ChunkReader) (len : Nat) (s : σ) :
    Except IoError ByteArray × ChunkReader × σ :=
  if r.closed then (.error StorageError.closed.toIo, r, s)
  else if len = 0 then (.ok .empty, r, s)
  else
    match r.state with
    | .streaming items pending remaining =>
      let (out, r) := r.consume items pending remaining len
      (out, r, s)
    | .idle =>
      match r.layout.locate r.position >>= r.layout.chunk? with
      | none => (.ok .empty, r, s)
      | some (node, offset) =>
        let start := r.position - offset
        let stop := node.size - 1
        match t.rangeFetch node start stop s with
        | (.error e, s) => (.error e.toIo, { r with state := .idle }, s)
        | (.ok items, s) =>
          let (out, r) := r.consume items .empty (stop - start + 1) len
          (out, r, s)

/-- Move the position; it must stay in `0 ..< 2^64`. -/
def seek (r : ChunkReader) (target : SeekFrom) : Except IoError (Nat × ChunkReader) := do
  if r.closed then throw StorageError.closed.toIo
  let position := target.resolve r.position r.size
  if position < 0 || position ≥ wordRange then
    throw ⟨.invalidInput, "invalid seek to a negative or overflowing position"⟩
  let p := position.toNat
  if p = r.position then pure (p, r) else pure (p, { r with position := p, state := .idle })

/-- Take `want` bytes from a chunk's stream into `acc`. -/
def collect (node : Node) (want : Nat) : ByteStream → ByteArray → Except StorageError ByteArray
  | [], acc =>
    if acc.size < want then .error (.io (shortChunk node (want - acc.size))) else .ok acc
  | item :: rest, acc =>
    if acc.size ≥ want then .ok acc
    else
      match item with
      | .error e => .error e
      | .ok b => collect node want rest (acc ++ b.extract 0 (want - acc.size))

/-- Read up to `len` bytes at `offset`, chunk by chunk (`fuel` bounds the chunks). -/
def readInto (t : Transport σ) (l : Layout) (len : Nat) :
    Nat → Nat → ByteArray → σ → Except StorageError ByteArray × σ
  | 0, _, acc, s => (.ok acc, s)
  | fuel + 1, position, acc, s =>
    if acc.size ≥ len then (.ok acc, s)
    else
      match l.locate position >>= l.chunk? with
      | none => (.ok acc, s)
      | some (node, offset) =>
        let start := position - offset
        let want := min (node.size - start) (len - acc.size)
        match t.rangeFetch node start (start + want - 1) s with
        | (.error e, s) => (.error e, s)
        | (.ok items, s) =>
          match collect node want items .empty with
          | .error e => (.error e, s)
          | .ok got => readInto t l len fuel (position + want) (acc ++ got) s

/-- Read up to `len` bytes at `offset` without moving the position. -/
def readAt (t : Transport σ) (r : ChunkReader) (offset len : Nat) (s : σ) :
    Except StorageError ByteArray × σ :=
  if r.closed then (.error .closed, s)
  else readInto t r.layout len (r.layout.nodes.size + 1) offset .empty s

/-- Close the reader; closing twice is an error. -/
def close (r : ChunkReader) : Except StorageError ChunkReader :=
  if r.closed then .error .alreadyClosed else .ok { r with closed := true, state := .idle }

end ChunkReader

end ChunkStore
