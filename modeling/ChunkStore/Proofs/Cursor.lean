import ChunkStore.Storage.Reader
import ChunkStore.Storage.Memory
import ChunkStore.Cli.Commands
/-!
# Reading a file through the cursor

A file is made of chunks `nodes`, chunk `n` holding the bytes `content n`; its bytes are
`fileBytes nodes content`, the chunks' bytes one after another. `chunkAt` says which chunk holds a
byte of the file and where that chunk starts: an empty chunk holds no byte, so it is never the
answer. The layout the reader builds finds the same chunk (`Layout.locate_chunk`).

A transport serves a chunk when it fetches every range of it, in pieces of any size, and the
pieces hold exactly the bytes of the range (`Transport.ServesChunk`). Against such a transport the
reader keeps one invariant, `ChunkReader.Follows`: a stream in flight delivers exactly the rest of
the chunk under the position. Every read and every seek keeps it (`read_keeps`, `seek_keeps`), so
it holds after any sequence of them (`Follows.replay`). From it a read hands out the next bytes of
the file and never crosses the end of a chunk, a read at the end hands out nothing, a seek moves
the position to its target, and reading to the end gives the rest of the file
(`readToEnd_follows`). The main statement is `reader_cursor_reads_file`.
-/

namespace ChunkStore

/-! ## The file and where its chunks lie -/

/-- The size of the file made of `nodes`. -/
def totalSize : List Node → Nat
  | [] => 0
  | n :: ns => n.size + totalSize ns

/-- The bytes of the file made of `nodes`, chunk `n` holding `content n`. -/
def fileBytes (nodes : List Node) (content : Node → List UInt8) : List UInt8 :=
  (nodes.map content).flatten

/-- Where each chunk starts when the chunks are laid out from `start`. -/
def startOffsets (start : Nat) : List Node → List Nat
  | [] => []
  | n :: ns => start :: startOffsets (start + n.size) ns

/-- The chunk holding byte `p` of the file: its index, its record and where it starts. -/
def chunkAt : List Node → Nat → Option (Nat × Node × Nat)
  | [], _ => none
  | n :: ns, p =>
    if p < n.size then some (0, n, 0)
    else (chunkAt ns (p - n.size)).map fun (i, m, o) => (i + 1, m, o + n.size)

@[simp] theorem totalSize_nil : totalSize [] = 0 := rfl

@[simp] theorem totalSize_cons (n : Node) (ns : List Node) :
    totalSize (n :: ns) = n.size + totalSize ns := rfl

@[simp] theorem fileBytes_cons (n : Node) (ns : List Node) (content : Node → List UInt8) :
    fileBytes (n :: ns) content = content n ++ fileBytes ns content := by
  simp [fileBytes]

theorem chunkAt_cons_of_le {n : Node} {ns : List Node} {p : Nat} (h : n.size ≤ p) :
    chunkAt (n :: ns) p =
      (chunkAt ns (p - n.size)).map fun (i, m, o) => (i + 1, m, o + n.size) := by
  simp [chunkAt, Nat.not_lt.2 h]

theorem chunkAt_eq_none_iff {nodes : List Node} {p : Nat} :
    chunkAt nodes p = none ↔ totalSize nodes ≤ p := by
  induction nodes generalizing p with
  | nil => simp [chunkAt]
  | cons n ns ih =>
    by_cases hp : p < n.size
    · simp only [chunkAt, if_pos hp, reduceCtorEq, false_iff, totalSize_cons]
      omega
    · rw [chunkAt_cons_of_le (by omega), Option.map_eq_none_iff, ih, totalSize_cons]
      omega

/-- What `chunkAt` finds over a chunk and the rest: that chunk when the byte lies in it, else
what the rest finds, one index and the chunk's size further on. -/
theorem chunkAt_cons_eq_some {m : Node} {ms : List Node} {p i o : Nat} {n : Node} :
    chunkAt (m :: ms) p = some (i, n, o) ↔
      p < m.size ∧ i = 0 ∧ n = m ∧ o = 0 ∨
      m.size ≤ p ∧ ∃ i' o', chunkAt ms (p - m.size) = some (i', n, o') ∧ i = i' + 1 ∧
        o = o' + m.size := by
  by_cases hp : p < m.size
  · simp only [chunkAt, if_pos hp, Option.some.injEq, Prod.mk.injEq]
    constructor
    · rintro ⟨rfl, rfl, rfl⟩
      exact .inl ⟨hp, rfl, rfl, rfl⟩
    · rintro (⟨-, rfl, rfl, rfl⟩ | ⟨hle, -⟩)
      · exact ⟨rfl, rfl, rfl⟩
      · omega
  · rw [chunkAt_cons_of_le (by omega), Option.map_eq_some_iff]
    constructor
    · rintro ⟨⟨i', n', o'⟩, h', heq⟩
      simp only [Prod.mk.injEq] at heq
      obtain ⟨rfl, rfl, rfl⟩ := heq
      exact .inr ⟨by omega, i', o', h', rfl, rfl⟩
    · rintro (⟨hlt, -⟩ | ⟨-, i', o', h', rfl, rfl⟩)
      · omega
      · exact ⟨(i', n, o'), h', rfl⟩

theorem chunkAt_bounds {nodes : List Node} {p i o : Nat} {n : Node}
    (h : chunkAt nodes p = some (i, n, o)) :
    o ≤ p ∧ p < o + n.size ∧ o + n.size ≤ totalSize nodes := by
  induction nodes generalizing p i o with
  | nil => simp [chunkAt] at h
  | cons m ms ih =>
    rcases chunkAt_cons_eq_some.1 h with ⟨hp, -, rfl, rfl⟩ | ⟨hp, i', o', h', -, rfl⟩
    · simp only [totalSize_cons]
      omega
    · have := ih h'
      simp only [totalSize_cons]
      omega

theorem chunkAt_of_mem {nodes : List Node} {p q i o : Nat} {n : Node}
    (h : chunkAt nodes p = some (i, n, o)) (h₁ : o ≤ q) (h₂ : q < o + n.size) :
    chunkAt nodes q = some (i, n, o) := by
  induction nodes generalizing p q i o with
  | nil => simp [chunkAt] at h
  | cons m ms ih =>
    rcases chunkAt_cons_eq_some.1 h with ⟨hp, rfl, rfl, rfl⟩ | ⟨hp, i', o', h', rfl, rfl⟩
    · exact chunkAt_cons_eq_some.2 (.inl ⟨by omega, rfl, rfl, rfl⟩)
    · exact chunkAt_cons_eq_some.2
        (.inr ⟨by omega, i', o', ih h' (by omega) (by omega), rfl, rfl⟩)

theorem chunkAt_mem {nodes : List Node} {p i o : Nat} {n : Node}
    (h : chunkAt nodes p = some (i, n, o)) : n ∈ nodes := by
  induction nodes generalizing p i o with
  | nil => simp [chunkAt] at h
  | cons m ms ih =>
    rcases chunkAt_cons_eq_some.1 h with ⟨-, -, rfl, -⟩ | ⟨-, i', o', h', -, -⟩
    · exact List.mem_cons_self
    · exact List.mem_cons_of_mem m (ih h')

section Content

variable {nodes : List Node} {content : Node → List UInt8}

theorem length_fileBytes (hc : ∀ m ∈ nodes, (content m).length = m.size) :
    (fileBytes nodes content).length = totalSize nodes := by
  induction nodes with
  | nil => rfl
  | cons n ns ih =>
    rw [fileBytes_cons, List.length_append, totalSize_cons, hc n (by simp),
      ih fun m hm => hc m (by simp [hm])]

/-- From a byte on, the file is the rest of the chunk holding it, then the chunks after. -/
theorem drop_fileBytes (hc : ∀ m ∈ nodes, (content m).length = m.size) {p i o : Nat}
    {n : Node} (h : chunkAt nodes p = some (i, n, o)) :
    (fileBytes nodes content).drop p =
      (content n).drop (p - o) ++ (fileBytes nodes content).drop (o + n.size) := by
  induction nodes generalizing p i o with
  | nil => simp [chunkAt] at h
  | cons m ms ih =>
    have hm : (content m).length = m.size := hc m List.mem_cons_self
    rw [fileBytes_cons, List.drop_append, List.drop_append, hm]
    rcases chunkAt_cons_eq_some.1 h with ⟨hp, -, rfl, rfl⟩ | ⟨hp, i', o', h', -, rfl⟩
    · simp [List.drop_eq_nil_of_le (Nat.le_of_eq hm), Nat.sub_eq_zero_of_le (Nat.le_of_lt hp)]
    · -- both positions lie past the first chunk, so only the later chunks count
      have hp' : (content m).drop p = [] := List.drop_eq_nil_of_le (by omega)
      have hend : (content m).drop (o' + m.size + n.size) = [] :=
        List.drop_eq_nil_of_le (by omega)
      rw [hp', hend, List.nil_append, List.nil_append,
        ih (fun m hm => hc m (List.mem_cons_of_mem _ hm)) h']
      congr 2 <;> omega

theorem take_drop_fileBytes (hc : ∀ m ∈ nodes, (content m).length = m.size) {p i o k : Nat}
    {n : Node} (h : chunkAt nodes p = some (i, n, o)) (hk : p + k ≤ o + n.size) :
    ((fileBytes nodes content).drop p).take k = ((content n).drop (p - o)).take k := by
  have hn : (content n).length = n.size := hc n (chunkAt_mem h)
  have hb := chunkAt_bounds h
  rw [drop_fileBytes hc h, List.take_append_of_le_length (by simp [hn]; omega)]

end Content

/-! ## The layout the reader builds -/

/-- The chunks `nodes` laid out one after another from offset 0. -/
def Layout.laidOut (nodes : List Node) : Layout :=
  { nodes := nodes.toArray, offsets := (startOffsets 0 nodes).toArray, size := totalSize nodes }

theorem foldlM_place :
    ∀ (ns : List Node) (acc : Array Nat) (a : Nat), a + totalSize ns < wordRange →
      ns.foldlM Layout.place (acc, a) = .ok (acc ++ (startOffsets a ns).toArray, a + totalSize ns)
  | [], acc, a, _ => by simp [startOffsets]; rfl
  | n :: ns, acc, a, h => by
    simp only [totalSize_cons] at h
    have hplace : Layout.place (acc, a) n = .ok (acc.push a, a + n.size) := by
      simp [Layout.place, show ¬ wordRange ≤ a + n.size by omega]; rfl
    rw [List.foldlM_cons, hplace]
    show List.foldlM Layout.place (acc.push a, a + n.size) ns = _
    rw [foldlM_place ns (acc.push a) (a + n.size) (by omega)]
    simp [startOffsets, Nat.add_assoc]

theorem Layout.build_eq {nodes : List Node} (h : totalSize nodes < wordRange) :
    Layout.build nodes = .ok (Layout.laidOut nodes) := by
  simp only [Layout.build]
  rw [foldlM_place nodes #[] 0 (by omega)]
  simp only [Array.empty_append, Nat.zero_add]
  rfl

/-- The offsets up to `p` run to the chunk holding `p`, whose index the lookup then gives. -/
theorem takeWhile_startOffsets {ns : List Node} {a p i o : Nat} {n : Node}
    (h : chunkAt ns (p - a) = some (i, n, o)) (ha : a ≤ p) :
    ((startOffsets a ns).takeWhile (· ≤ p)).length = i + 1 ∧ ns[i]? = some n ∧
      (startOffsets a ns)[i]? = some (a + o) := by
  induction ns generalizing a i o with
  | nil => simp [chunkAt] at h
  | cons m ms ih =>
    rcases chunkAt_cons_eq_some.1 h with ⟨hp, rfl, rfl, rfl⟩ | ⟨hp, i', o', h', rfl, rfl⟩
    · -- the next chunk starts past `p`, so the offsets stop after this one
      have hnext : (startOffsets (a + n.size) ms).takeWhile (· ≤ p) = [] := by
        cases ms with
        | nil => rfl
        | cons m' ms' => simp [startOffsets, show ¬ a + n.size ≤ p by omega]
      simp [startOffsets, ha, hnext]
    · rw [Nat.sub_sub] at h'
      obtain ⟨hlen, hnode, hoff⟩ := ih h' (by omega)
      refine ⟨?_, hnode, ?_⟩
      · simp [startOffsets, ha, hlen]
      · simp only [startOffsets, List.getElem?_cons_succ, hoff]
        congr 1
        omega

theorem Layout.locate_eq_some {nodes : List Node} {p i o : Nat} {n : Node}
    (h : chunkAt nodes p = some (i, n, o)) :
    (Layout.laidOut nodes).locate p = some i ∧ (Layout.laidOut nodes).nodes[i]? = some n ∧
      (Layout.laidOut nodes).offsets[i]? = some o := by
  have hb := chunkAt_bounds h
  obtain ⟨hlen, hnode, hoff⟩ :=
    takeWhile_startOffsets (show chunkAt nodes (p - 0) = some (i, n, o) by simpa using h)
      (Nat.zero_le p)
  refine ⟨?_, by simpa [Layout.laidOut] using hnode, by simpa [Layout.laidOut] using hoff⟩
  simp [Layout.locate, Layout.laidOut, hlen, show ¬ totalSize nodes ≤ p by omega]

theorem Layout.locate_chunk {nodes : List Node} {p i o : Nat} {n : Node}
    (h : chunkAt nodes p = some (i, n, o)) :
    (Layout.laidOut nodes).locate p >>= (Layout.laidOut nodes).chunk? = some (n, o) := by
  obtain ⟨hloc, hnode, hoff⟩ := Layout.locate_eq_some h
  rw [hloc]
  simp [Layout.chunk?, hnode, hoff]

theorem Layout.locate_eq_none {nodes : List Node} {p : Nat} (h : totalSize nodes ≤ p) :
    (Layout.laidOut nodes).locate p = none := by
  simp [Layout.locate, Layout.laidOut, h]

/-! ## Streams that deliver a chunk -/

/-- The stream `items`, after the bytes `pending` already in hand, delivers exactly `bytes`, in
pieces, and fails nowhere. -/
def Delivers (items : ByteStream) (pending : ByteArray) (bytes : List UInt8) : Prop :=
  ∃ pieces : List ByteArray, items = pieces.map .ok ∧
    pending.data.toList ++ (pieces.map (·.data.toList)).flatten = bytes

/-- A transport serves chunk `n`, whose bytes are `content n`, from the states where `inv` holds:
every range of the chunk is fetched, keeping `inv`, as a stream of pieces of any sizes that hold
exactly the bytes of the range. -/
structure Transport.ServesChunk {σ : Type} (t : Transport σ) (inv : σ → Prop)
    (content : Node → List UInt8) (n : Node) : Prop where
  size : (content n).length = n.size
  fetch : ∀ a b s, inv s → a ≤ b → b < n.size → ∃ items s',
    t.rangeFetch n a b s = (.ok items, s') ∧ inv s' ∧
      Delivers items .empty (((content n).drop a).take (b + 1 - a))

theorem toList_data_eq_nil {b : ByteArray} (h : ¬ 0 < b.size) : b.data.toList = [] := by
  have hlen : b.data.toList.length = b.size := by simp
  exact List.eq_nil_of_length_eq_zero (by omega)

theorem toList_extract_size (b : ByteArray) (k : Nat) :
    (b.extract k b.size).data.toList = b.data.toList.drop k := by
  simp only [ByteArray.data_extract, Array.toList_extract, List.extract_eq_take_drop]
  exact List.take_of_length_le (by simp)

/-- Draining a stream that delivers some bytes gives a non-empty piece, and that piece with the
rest of the stream still delivers them. -/
theorem drain_delivers {items : ByteStream} {pending : ByteArray} {bytes : List UInt8}
    (h : Delivers items pending bytes) (hne : bytes ≠ []) :
    ∃ b rest, ChunkReader.drain pending items = .piece b rest ∧ 0 < b.size ∧
      Delivers rest b bytes := by
  obtain ⟨pieces, rfl, hb⟩ := h
  induction pieces generalizing pending with
  | nil =>
    by_cases hp : 0 < pending.size
    · exact ⟨pending, [], by unfold ChunkReader.drain; rw [if_pos hp]; rfl, hp, [], rfl, hb⟩
    · -- nothing in hand and nothing to come: there were no bytes
      simp [toList_data_eq_nil hp] at hb
      exact absurd hb hne
  | cons q qs ih =>
    by_cases hp : 0 < pending.size
    · exact ⟨pending, _, by unfold ChunkReader.drain; rw [if_pos hp], hp, q :: qs, rfl, hb⟩
    · unfold ChunkReader.drain
      rw [if_neg hp, List.map_cons]
      exact ih (by simpa [toList_data_eq_nil hp] using hb)

theorem Delivers.split {rest : ByteStream} {b : ByteArray} {bytes : List UInt8}
    (h : Delivers rest b bytes) {k : Nat} (hk : k ≤ b.size) :
    (b.extract 0 k).data.toList = bytes.take k ∧
      Delivers rest (b.extract k b.size) (bytes.drop k) := by
  obtain ⟨pieces, rfl, rfl⟩ := h
  have hlen : k ≤ b.data.toList.length := by simpa using hk
  refine ⟨?_, pieces, rfl, ?_⟩
  · simp [List.take_append_of_le_length hlen]
  · rw [toList_extract_size, List.drop_append_of_le_length hlen]

/-- Handing out at most `len` bytes of a chunk whose `remaining` unread bytes a stream delivers
gives at least one byte, no more than asked or due, and those are the first of the unread bytes;
the reader moves past them and keeps the rest of the stream, or goes idle at the chunk's end. -/
theorem consume_delivers (r : ChunkReader) {items : ByteStream} {pending : ByteArray}
    {bytes : List UInt8} {remaining len : Nat} (h : Delivers items pending bytes)
    (hlen : bytes.length = remaining) (h0 : 0 < remaining) (hl : 0 < len) :
    ∃ out k state, r.consume items pending remaining len =
        (.ok out, { r with position := r.position + k, state }) ∧
      out.size = k ∧ 0 < k ∧ k ≤ len ∧ k ≤ remaining ∧ out.data.toList = bytes.take k ∧
      (k = remaining ∧ state = .idle ∨
        k < remaining ∧ ∃ rest pending', state = .streaming rest pending' (remaining - k) ∧
          Delivers rest pending' (bytes.drop k)) := by
  obtain ⟨b, rest, hdrain, hb, hd⟩ := drain_delivers h (by rintro rfl; simp at hlen; omega)
  -- the piece in hand is a prefix of the unread bytes
  have hbr : b.size ≤ remaining := by
    obtain ⟨pieces, -, hbytes⟩ := hd
    have hl := congrArg List.length hbytes
    simp only [List.length_append, Array.length_toList, ByteArray.size_data] at hl
    omega
  unfold ChunkReader.consume
  rw [hdrain]
  dsimp only
  generalize hk : min (min b.size len) remaining = k
  obtain ⟨hout, hrest⟩ := hd.split (k := k) (by omega)
  refine ⟨b.extract 0 k, k, _, rfl, by simp; omega, by omega, by omega, by omega, hout, ?_⟩
  by_cases hend : remaining - k = 0
  · exact .inl ⟨by omega, if_pos hend⟩
  · exact .inr ⟨by omega, rest, _, if_neg hend, hrest⟩

/-! ## The reader invariant -/

/-- What a reader at position `p` may hold in flight: nothing, or a stream that delivers exactly
the rest of the chunk holding `p`, with the count of those bytes. -/
def ReadState.Streams (nodes : List Node) (content : Node → List UInt8) (p : Nat) :
    ReadState → Prop
  | .idle => True
  | .streaming items pending remaining => ∃ i n o, chunkAt nodes p = some (i, n, o) ∧
      p + remaining = o + n.size ∧ 0 < remaining ∧
      Delivers items pending ((content n).drop (p - o))

/-- The reader invariant: the reader is open over the layout of `nodes`, and what it holds in
flight is the rest of the chunk under its position. -/
structure ChunkReader.Follows (r : ChunkReader) (nodes : List Node)
    (content : Node → List UInt8) : Prop where
  layout : r.layout = Layout.laidOut nodes
  isOpen : r.closed = false
  streams : r.state.Streams nodes content r.position

section Reading

variable {σ : Type} {t : Transport σ} {inv : σ → Prop} {nodes : List Node}
  {content : Node → List UInt8}

theorem ChunkReader.new_eq (h : totalSize nodes < wordRange) {start : Nat}
    (hs : start ≤ totalSize nodes) :
    ChunkReader.new nodes start =
      .ok
        { layout := Layout.laidOut nodes, position := start, state := .idle, closed := false } := by
  simp only [ChunkReader.new, Layout.build_eq h, bind, Except.bind]
  rw [if_neg (by simp [Layout.laidOut]; omega)]
  rfl

theorem ChunkReader.new_eq_error (h : totalSize nodes < wordRange) {start : Nat}
    (hs : totalSize nodes < start) :
    ChunkReader.new nodes start = .error (.invalidOffset start (totalSize nodes)) := by
  simp only [ChunkReader.new, Layout.build_eq h, bind, Except.bind]
  rw [if_pos (by simp [Layout.laidOut]; omega)]
  rfl

theorem ChunkReader.Follows.streaming {r : ChunkReader} (hr : r.Follows nodes content)
    {items : ByteStream} {pending : ByteArray} {remaining : Nat}
    (h : r.state = .streaming items pending remaining) :
    ∃ i n o, chunkAt nodes r.position = some (i, n, o) ∧ r.position + remaining = o + n.size ∧
      0 < remaining ∧ Delivers items pending ((content n).drop (r.position - o)) := by
  have hst := hr.streams
  rw [h] at hst
  exact hst

theorem ChunkReader.follows_new (start : Nat) :
    ({ layout := Layout.laidOut nodes, position := start, state := .idle, closed := false } :
      ChunkReader).Follows nodes content :=
  ⟨rfl, rfl, trivial⟩

/-- Handing out bytes of the chunk under the position, from a stream of the chunk's rest, keeps
the invariant; the reader goes idle exactly at the chunk's end. -/
theorem ChunkReader.Follows.consume {r : ChunkReader} (hr : r.Follows nodes content)
    {i o : Nat} {n : Node} (hc : chunkAt nodes r.position = some (i, n, o))
    (hn : (content n).length = n.size) {items : ByteStream} {pending : ByteArray}
    {remaining len : Nat} (hrem : r.position + remaining = o + n.size) (h0 : 0 < remaining)
    (hd : Delivers items pending ((content n).drop (r.position - o))) (hl : 0 < len) :
    ∃ out r', r.consume items pending remaining len = (.ok out, r') ∧ 0 < out.size ∧
      out.size ≤ len ∧ r.position + out.size ≤ o + n.size ∧
      out.data.toList = ((content n).drop (r.position - o)).take out.size ∧
      r'.position = r.position + out.size ∧ r'.Follows nodes content ∧
      (r'.state = .idle ↔ r'.position = o + n.size) := by
  have hb := chunkAt_bounds hc
  have hlen : ((content n).drop (r.position - o)).length = remaining := by
    simp only [List.length_drop, hn]
    omega
  obtain ⟨out, k, state, hcons, rfl, hk0, hkl, hkr, hout, hstate⟩ :=
    consume_delivers r hd hlen h0 hl
  refine ⟨out, _, hcons, hk0, hkl, by omega, hout, rfl, ⟨hr.layout, hr.isOpen, ?_⟩, ?_⟩
  · rcases hstate with ⟨-, rfl⟩ | ⟨hlt, rest, pending', rfl, hd'⟩
    · trivial
    · -- still inside the chunk: the stream keeps the chunk's rest from the new position
      dsimp only
      refine ⟨i, n, o, chunkAt_of_mem hc (by omega) (by omega), by omega, by omega, ?_⟩
      rwa [List.drop_drop, show r.position - o + out.size = r.position + out.size - o by omega]
        at hd'
  · rcases hstate with ⟨hk, rfl⟩ | ⟨hlt, rest, pending', rfl, -⟩
    · exact iff_of_true rfl (by dsimp only; omega)
    · exact iff_of_false (by simp) (by dsimp only; omega)

/-- **A read from inside a chunk hands out the chunk's next bytes.** From a reader that follows
the file, a read of `len > 0` bytes at a position inside chunk `n`, which starts at `o`, hands out
between one and `len` bytes, never past the chunk's end, equal to the chunk's bytes there, and
moves past them; the reader still follows the file, the transport's state keeps `inv`, and the
reader is idle exactly when it has reached the chunk's end. -/
theorem read_inside (hserve : ∀ n ∈ nodes, t.ServesChunk inv content n) {r : ChunkReader}
    (hr : r.Follows nodes content) {len : Nat} (hl : 0 < len) {i o : Nat} {n : Node}
    (hc : chunkAt nodes r.position = some (i, n, o)) {s : σ} (hs : inv s) :
    ∃ out r' s', r.read t len s = (.ok out, r', s') ∧ 0 < out.size ∧ out.size ≤ len ∧
      r.position + out.size ≤ o + n.size ∧
      out.data.toList = ((content n).drop (r.position - o)).take out.size ∧
      r'.position = r.position + out.size ∧ r'.Follows nodes content ∧ inv s' ∧
      (r'.state = .idle ↔ r'.position = o + n.size) := by
  have hb := chunkAt_bounds hc
  have hn := (hserve n (chunkAt_mem hc)).size
  unfold ChunkReader.read
  rw [if_neg (by simp [hr.isOpen]), if_neg (by omega)]
  cases hstate : r.state with
  | streaming items pending remaining =>
    obtain ⟨i', n', o', hc', hrem, h0, hd⟩ := hr.streaming hstate
    simp only [hc, Option.some.injEq, Prod.mk.injEq] at hc'
    obtain ⟨-, rfl, rfl⟩ := hc'
    obtain ⟨out, r', hcons, h0', hlen, hend, hout, hpos, hr', hidle⟩ :=
      hr.consume hc hn hrem h0 hd hl
    exact ⟨out, r', s, by dsimp only; rw [hcons], h0', hlen, hend, hout, hpos, hr', hs, hidle⟩
  | idle =>
    simp only [hr.layout, Layout.locate_chunk hc]
    -- fetch the chunk from the position to its last byte
    obtain ⟨items, s', hfetch, hs', hd⟩ := (hserve n (chunkAt_mem hc)).fetch
      (r.position - o) (n.size - 1) s hs (by omega) (by omega)
    rw [hfetch]
    have hd' : Delivers items .empty ((content n).drop (r.position - o)) := by
      rwa [List.take_of_length_le (by simp [hn]; omega)] at hd
    obtain ⟨out, r', hcons, h0, hlen, hend, hout, hpos, hr', hidle⟩ :=
      hr.consume hc hn (show r.position + (n.size - 1 - (r.position - o) + 1) = o + n.size by
        omega) (by omega) hd' hl
    exact ⟨out, r', s', by dsimp only; rw [hcons], h0, hlen, hend, hout, hpos, hr', hs', hidle⟩

/-- **A read inside the file hands out the next bytes of the file.** From a reader that follows
the file, a read of `len > 0` bytes at a position inside the file hands out between one and `len`
bytes, never past the end of the chunk holding the position, equal to the file's bytes there, and
moves past them; the reader still follows the file, and the transport's state keeps `inv`. -/
theorem read_follows (hserve : ∀ n ∈ nodes, t.ServesChunk inv content n) {r : ChunkReader}
    (hr : r.Follows nodes content) {len : Nat} (hl : 0 < len)
    (hp : r.position < totalSize nodes) {s : σ} (hs : inv s) :
    ∃ out r' s', r.read t len s = (.ok out, r', s') ∧ 0 < out.size ∧ out.size ≤ len ∧
      (∃ i n o, chunkAt nodes r.position = some (i, n, o) ∧
        r.position + out.size ≤ o + n.size) ∧
      out.data.toList = ((fileBytes nodes content).drop r.position).take out.size ∧
      r'.position = r.position + out.size ∧ r'.Follows nodes content ∧ inv s' := by
  have hcs : ∀ m ∈ nodes, (content m).length = m.size := fun m hm => (hserve m hm).size
  have hin : chunkAt nodes r.position ≠ none := fun h => by
    have := chunkAt_eq_none_iff.1 h
    omega
  obtain ⟨⟨i, n, o⟩, hc⟩ := Option.ne_none_iff_exists'.1 hin
  obtain ⟨out, r', s', hread, h0, hlen, hend, hout, hpos, hr', hs', -⟩ :=
    read_inside hserve hr hl hc hs
  exact ⟨out, r', s', hread, h0, hlen, ⟨i, n, o, hc, hend⟩,
    by rw [take_drop_fileBytes hcs hc hend]; exact hout, hpos, hr', hs'⟩

/-- **A read at or past the end of the file hands out nothing** and changes nothing. -/
theorem read_at_end {r : ChunkReader} (hr : r.Follows nodes content)
    (hp : totalSize nodes ≤ r.position) (len : Nat) (s : σ) :
    r.read t len s = (.ok .empty, r, s) := by
  unfold ChunkReader.read
  rw [if_neg (by simp [hr.isOpen])]
  by_cases hl : len = 0
  · rw [if_pos hl]
  · rw [if_neg hl]
    cases hstate : r.state with
    | streaming items pending remaining =>
      -- a stream in flight lies inside a chunk, so inside the file
      obtain ⟨i, n, o, hc, -⟩ := hr.streaming hstate
      have := chunkAt_bounds hc
      omega
    | idle => simp [hr.layout, Layout.locate_eq_none hp]

/-- Every read keeps the reader invariant and the transport's `inv`. -/
theorem read_keeps (hserve : ∀ n ∈ nodes, t.ServesChunk inv content n) {r : ChunkReader}
    (hr : r.Follows nodes content) (len : Nat) {s : σ} (hs : inv s) :
    (r.read t len s).2.1.Follows nodes content ∧ inv (r.read t len s).2.2 := by
  by_cases hl : len = 0
  · subst hl
    simp only [ChunkReader.read, hr.isOpen]
    exact ⟨hr, hs⟩
  by_cases hp : r.position < totalSize nodes
  · obtain ⟨out, r', s', hread, -, -, -, -, -, hr', hs'⟩ :=
      read_follows hserve hr (Nat.pos_of_ne_zero hl) hp hs
    rw [hread]
    exact ⟨hr', hs'⟩
  · rw [read_at_end hr (by omega)]
    exact ⟨hr, hs⟩

/-- **A seek moves the position to its target** when the target lies in `0 ..< 2^64`, also
past the file's end; the stream in flight is dropped only when the position changes. -/
theorem seek_follows {r : ChunkReader} (hr : r.Follows nodes content) (target : SeekFrom)
    (h₀ : 0 ≤ target.resolve r.position r.size)
    (h₁ : target.resolve r.position r.size < wordRange) :
    ∃ r', r.seek target = .ok ((target.resolve r.position r.size).toNat, r') ∧
      r'.position = (target.resolve r.position r.size).toNat ∧ r'.Follows nodes content ∧
      ((target.resolve r.position r.size).toNat = r.position → r' = r) := by
  generalize hv : target.resolve r.position r.size = v at h₀ h₁ ⊢
  have hcheck : (decide (v < 0) || decide (v ≥ (wordRange : Int))) = false := by
    simp only [Bool.or_eq_false_iff, decide_eq_false_iff_not]
    omega
  by_cases hsame : v.toNat = r.position
  · refine ⟨r, ?_, hsame.symm, hr, fun _ => rfl⟩
    simp only [ChunkReader.seek, hr.isOpen, hv, hcheck, hsame]
    rfl
  · refine ⟨{ r with position := v.toNat, state := .idle }, ?_, rfl,
      ⟨hr.layout, hr.isOpen, trivial⟩, fun h => absurd h hsame⟩
    simp only [ChunkReader.seek, hr.isOpen, hv, hcheck, hsame]
    rfl

theorem seek_refused {r : ChunkReader} (hopen : r.closed = false) (target : SeekFrom)
    (h : target.resolve r.position r.size < 0 ∨ wordRange ≤ target.resolve r.position r.size) :
    r.seek target =
      .error ⟨.invalidInput, "invalid seek to a negative or overflowing position"⟩ := by
  generalize hv : target.resolve r.position r.size = v at h
  have hcheck : (decide (v < 0) || decide (v ≥ (wordRange : Int))) = true := by
    simp only [Bool.or_eq_true, decide_eq_true_eq]
    omega
  simp only [ChunkReader.seek, hopen, hv, hcheck]
  rfl

theorem seek_keeps {r r' : ChunkReader} (hr : r.Follows nodes content) {target : SeekFrom}
    {p : Nat} (h : r.seek target = .ok (p, r')) : r'.Follows nodes content := by
  by_cases hin : 0 ≤ target.resolve r.position r.size ∧
      target.resolve r.position r.size < wordRange
  · obtain ⟨r'', hseek, -, hr'', -⟩ := seek_follows hr target hin.1 hin.2
    rw [hseek] at h
    cases h
    exact hr''
  · rw [seek_refused hr.isOpen target (by omega)] at h
    cases h

end Reading

/-! ## Any sequence of reads and seeks -/

/-- An operation on a reader's cursor: a read of at most `len` bytes, or a seek. -/
inductive CursorOp where
  | read (len : Nat)
  | seek (target : SeekFrom)

/-- Apply cursor operations in turn, from transport state `s`; a refused seek leaves the reader
as it was. -/
def ChunkReader.replay {σ : Type} (t : Transport σ) :
    List CursorOp → ChunkReader → σ → ChunkReader × σ
  | [], r, s => (r, s)
  | .read len :: ops, r, s => replay t ops (r.read t len s).2.1 (r.read t len s).2.2
  | .seek target :: ops, r, s =>
    match r.seek target with
    | .ok (_, r') => replay t ops r' s
    | .error _ => replay t ops r s

section Replay

variable {σ : Type} {t : Transport σ} {inv : σ → Prop} {nodes : List Node}
  {content : Node → List UInt8}

/-- **The invariant holds after any sequence of reads and seeks**, and so does the transport's
`inv`. -/
theorem ChunkReader.Follows.replay (hserve : ∀ n ∈ nodes, t.ServesChunk inv content n) :
    ∀ (ops : List CursorOp) {r : ChunkReader} {s : σ}, r.Follows nodes content → inv s →
      (r.replay t ops s).1.Follows nodes content ∧ inv (r.replay t ops s).2
  | [], _, _, hr, hs => ⟨hr, hs⟩
  | .read len :: ops, r, s, hr, hs => by
    obtain ⟨hr', hs'⟩ := read_keeps hserve hr len hs
    exact Follows.replay hserve ops hr' hs'
  | .seek target :: ops, r, s, hr, hs => by
    simp only [ChunkReader.replay]
    split
    · next r' heq => exact Follows.replay hserve ops (seek_keeps hr heq) hs
    · exact Follows.replay hserve ops hr hs

/-- **Reading to the end gives the rest of the file**, whatever pieces the transport hands out,
given a read for each byte left and one more. -/
theorem readToEnd_follows (hserve : ∀ n ∈ nodes, t.ServesChunk inv content n) :
    ∀ (fuel : Nat) {r : ChunkReader} {s : σ} (acc : ByteArray), r.Follows nodes content →
      inv s → totalSize nodes - r.position < fuel →
      ∃ out r' s', Cli.readToEnd t fuel r s acc = (out, none, r', s') ∧
        out.data.toList = acc.data.toList ++ (fileBytes nodes content).drop r.position
  | 0, _, _, _, _, _, h => absurd h (Nat.not_lt_zero _)
  | fuel + 1, r, s, acc, hr, hs, hfuel => by
    by_cases hp : r.position < totalSize nodes
    · obtain ⟨out, r', s', hread, h0, -, -, hout, hpos, hr', hs'⟩ :=
        read_follows hserve hr (by decide : 0 < Cli.downloadBufferSize) hp hs
      obtain ⟨all, r'', s'', hrun, hall⟩ :=
        readToEnd_follows hserve fuel (acc ++ out) hr' hs' (by omega)
      refine ⟨all, r'', s'', ?_, ?_⟩
      · rw [Cli.readToEnd, hread]
        simp only [if_neg (Nat.pos_iff_ne_zero.1 h0)]
        exact hrun
      · -- the bytes read, then the rest from past them, are the rest from the position
        rw [hall, hpos, ByteArray.data_append, Array.toList_append, List.append_assoc, hout,
          ← List.drop_drop, List.take_append_drop]
    · have hcs : ∀ m ∈ nodes, (content m).length = m.size := fun m hm => (hserve m hm).size
      refine ⟨acc, r, s, ?_, ?_⟩
      · rw [Cli.readToEnd, read_at_end hr (by omega)]
        rfl
      · rw [List.drop_eq_nil_of_le (by rw [length_fileBytes hcs]; omega), List.append_nil]

end Replay

/-! ## The cursor reads the file -/

/-- **The cursor reads the file.** Over chunks whose sizes add up to less than `2^64`, each served
exactly in pieces of any size, a reader starts at every position up to the file's size. After any
sequence of reads and seeks: a read of `len > 0` bytes inside the file hands out between one and
`len` bytes, never past the end of the chunk holding the position, equal to the file's bytes
there, and moves past them; a read at or past the end hands out nothing and changes nothing; a
seek to a target in `0 ..< 2^64` moves the position there, and leaves the reader as it is when the
position does not change, while any other target is refused; and reading to the end gives the
rest of the file. -/
theorem reader_cursor_reads_file {σ : Type} (t : Transport σ) {inv : σ → Prop}
    (nodes : List Node) (content : Node → List UInt8)
    (hserve : ∀ n ∈ nodes, t.ServesChunk inv content n) (hsize : totalSize nodes < wordRange)
    (start : Nat) (hstart : start ≤ totalSize nodes) :
    ∃ r₀, ChunkReader.new nodes start = .ok r₀ ∧ r₀.position = start ∧
      ∀ (ops : List CursorOp) (s₀ : σ), inv s₀ →
        let r := (r₀.replay t ops s₀).1
        (∀ (len : Nat) (s : σ), inv s → 0 < len → r.position < totalSize nodes →
          ∃ out r' s', r.read t len s = (.ok out, r', s') ∧ 0 < out.size ∧ out.size ≤ len ∧
            (∃ i n o, chunkAt nodes r.position = some (i, n, o) ∧
              r.position + out.size ≤ o + n.size) ∧
            out.data.toList = ((fileBytes nodes content).drop r.position).take out.size ∧
            r'.position = r.position + out.size) ∧
        (∀ (len : Nat) (s : σ), totalSize nodes ≤ r.position →
          r.read t len s = (.ok .empty, r, s)) ∧
        (∀ target : SeekFrom, 0 ≤ target.resolve r.position r.size →
          target.resolve r.position r.size < wordRange →
          ∃ r', r.seek target = .ok ((target.resolve r.position r.size).toNat, r') ∧
            r'.position = (target.resolve r.position r.size).toNat ∧
            ((target.resolve r.position r.size).toNat = r.position → r' = r)) ∧
        (∀ target : SeekFrom, target.resolve r.position r.size < 0 ∨
            wordRange ≤ target.resolve r.position r.size →
          r.seek target =
            .error ⟨.invalidInput, "invalid seek to a negative or overflowing position"⟩) ∧
        (∀ (fuel : Nat) (s : σ), inv s → totalSize nodes - r.position < fuel →
          ∃ out r' s', Cli.readToEnd t fuel r s .empty = (out, none, r', s') ∧
            out.data.toList = (fileBytes nodes content).drop r.position) := by
  refine ⟨_, ChunkReader.new_eq hsize hstart, rfl, ?_⟩
  intro ops s₀ hs₀ r
  obtain ⟨hr, -⟩ := ChunkReader.Follows.replay hserve ops (ChunkReader.follows_new start) hs₀
  refine ⟨?_, ?_, ?_, ?_, ?_⟩
  · intro len s hs hl hp
    obtain ⟨out, r', s', hread, h0, hlen, hend, hout, hpos, -⟩ :=
      read_follows hserve hr hl hp hs
    exact ⟨out, r', s', hread, h0, hlen, hend, hout, hpos⟩
  · intro len s hp
    exact read_at_end hr hp len s
  · intro target h₀ h₁
    obtain ⟨r', hseek, hpos, -, hsame⟩ := seek_follows hr target h₀ h₁
    exact ⟨r', hseek, hpos, hsame⟩
  · intro target h
    exact seek_refused hr.isOpen target h
  · intro fuel s hs hfuel
    simpa using readToEnd_follows hserve fuel .empty hr hs hfuel

/-! ## The memory origin serves what it stores -/

/-- The states of the memory origin that hold the messages `msgs`, check no signatures and hand
out each fetch in one piece. -/
def MemoryOrigin.Holding (msgs : Array StoredMessage) (o : MemoryOrigin) : Prop :=
  o.messages = msgs ∧ o.strictAt = none ∧ o.pieceSize = none

/-- The memory origin serves each chunk it stores with no failure arranged: a fetch of a range
gives exactly the range's bytes and keeps what the origin holds. -/
theorem MemoryOrigin.servesChunk {msgs : Array StoredMessage} {content : Node → List UInt8}
    {n : Node} {m : StoredMessage} (hfind : msgs.find? (·.id == n.messageId) = some m)
    (hkind : m.failKind = none) (hstatus : m.failFetch = none) (hafter : m.errorAfter = none)
    (hdata : m.data.data.toList = content n) (hsize : m.data.size = n.size) :
    MemoryOrigin.transport.ServesChunk (MemoryOrigin.Holding msgs) content n where
  size := by rw [← hdata, ← hsize]; simp
  fetch a b o ho hab hb := by
    obtain ⟨hm, hstrict, hpiece⟩ := ho
    have hbody : (m.data.extract a (min (b + 1) m.data.size)).data.toList =
        ((content n).drop a).take (b + 1 - a) := by
      simp only [ByteArray.data_extract, Array.toList_extract, List.extract_eq_take_drop, ← hdata]
      rw [Nat.min_eq_left (by omega)]
    have hpos : 0 < (m.data.extract a (min (b + 1) m.data.size)).size := by
      simp only [ByteArray.size_extract]
      omega
    simp only [MemoryOrigin.transport, MemoryOrigin.rangeFetch, hm, hfind, hkind, hstatus,
      hstrict, hpiece, hafter, if_neg (show ¬ m.data.size ≤ a by omega),
      if_neg (Nat.pos_iff_ne_zero.1 hpos)]
    exact ⟨_, _, rfl, ⟨rfl, rfl, rfl⟩, [_], rfl, by simpa using hbody⟩

/-- A file of three chunks, the middle one empty, held by the memory origin and read from its
second byte. -/
theorem reader_cursor_reads_file_memory :
    let nodes : List Node :=
      [⟨"a", 3, 1, 0, 0, ""⟩, ⟨"b", 0, 2, 0, 0, ""⟩, ⟨"c", 2, 3, 0, 0, ""⟩]
    let content : Node → List UInt8 := fun n =>
      if n.messageId = 1 then [1, 2, 3] else if n.messageId = 3 then [4, 5] else []
    let msgs : Array StoredMessage := #[{ id := 1, channel := "1", data := ⟨#[1, 2, 3]⟩ },
      { id := 2, channel := "1", data := .empty }, { id := 3, channel := "1", data := ⟨#[4, 5]⟩ }]
    (∀ n ∈ nodes, MemoryOrigin.transport.ServesChunk (MemoryOrigin.Holding msgs) content n) ∧
    totalSize nodes < wordRange ∧ 1 ≤ totalSize nodes ∧
    ∃ r₀, ChunkReader.new nodes 1 = .ok r₀ ∧ r₀.position = 1 ∧
      ∀ (ops : List CursorOp) (s₀ : MemoryOrigin), MemoryOrigin.Holding msgs s₀ →
        let r := (r₀.replay MemoryOrigin.transport ops s₀).1
        (∀ (len : Nat) (s : MemoryOrigin), MemoryOrigin.Holding msgs s → 0 < len →
          r.position < totalSize nodes →
          ∃ out r' s', r.read MemoryOrigin.transport len s = (.ok out, r', s') ∧
            0 < out.size ∧ out.size ≤ len ∧
            (∃ i n o, chunkAt nodes r.position = some (i, n, o) ∧
              r.position + out.size ≤ o + n.size) ∧
            out.data.toList = ((fileBytes nodes content).drop r.position).take out.size ∧
            r'.position = r.position + out.size) ∧
        (∀ (len : Nat) (s : MemoryOrigin), totalSize nodes ≤ r.position →
          r.read MemoryOrigin.transport len s = (.ok .empty, r, s)) ∧
        (∀ target : SeekFrom, 0 ≤ target.resolve r.position r.size →
          target.resolve r.position r.size < wordRange →
          ∃ r', r.seek target = .ok ((target.resolve r.position r.size).toNat, r') ∧
            r'.position = (target.resolve r.position r.size).toNat ∧
            ((target.resolve r.position r.size).toNat = r.position → r' = r)) ∧
        (∀ target : SeekFrom, target.resolve r.position r.size < 0 ∨
            wordRange ≤ target.resolve r.position r.size →
          r.seek target =
            .error ⟨.invalidInput, "invalid seek to a negative or overflowing position"⟩) ∧
        (∀ (fuel : Nat) (s : MemoryOrigin), MemoryOrigin.Holding msgs s →
          totalSize nodes - r.position < fuel →
          ∃ out r' s', Cli.readToEnd MemoryOrigin.transport fuel r s .empty = (out, none, r', s') ∧
            out.data.toList = (fileBytes nodes content).drop r.position) := by
  intro nodes content msgs
  have hserve : ∀ n ∈ nodes,
      MemoryOrigin.transport.ServesChunk (MemoryOrigin.Holding msgs) content n := by
    intro n hn
    simp only [nodes, List.mem_cons, List.not_mem_nil, or_false] at hn
    rcases hn with rfl | rfl | rfl <;> exact MemoryOrigin.servesChunk rfl rfl rfl rfl rfl rfl
  exact ⟨hserve, by decide, by decide,
    reader_cursor_reads_file MemoryOrigin.transport nodes content hserve (by decide) 1
      (by decide)⟩

end ChunkStore
