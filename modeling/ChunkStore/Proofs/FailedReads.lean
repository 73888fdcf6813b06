import ChunkStore.Proofs.ReadAt
/-!
# Failed reads leave the cursor where it was

A transport may fail. A range fetch can fail outright, and the stream it gives can hand out only
the first bytes of the range before it fails or ends (`Transport.ServesSome`). Against such a
transport a reader keeps a weaker invariant than `ChunkReader.Follows`: what it holds in flight
hands out the first bytes of the rest of the chunk under its position (`ReadState.StreamsSome`).
With the bytes `got` handed out since it started at `start`, the reader stands at `start` plus
their count, and they are the file's bytes from `start` (`ChunkReader.Resumes`).

Every read keeps that invariant, failing or not (`read_resumes`). A read that fails returns the
reader at the same position, idle, or as it was when it is closed, so the next read fetches again
from that position and no byte is skipped or handed out twice (`Resumes.readEach`). A stream that
ends early is reported as a short chunk naming the chunk under the position and the count of its
bytes still due (`read_short_streaming`, `read_short_fetched`). A closed reader refuses reads,
positional reads and seeks, and closing succeeds once (`close_once`). The main statement is
`failed_reads_keep_cursor`.
-/

namespace ChunkStore

variable {σ : Type}

/-! ## Streams that may stop early -/

/-- The stream `items`, after the bytes `pending` already in hand, hands out the first bytes of
`bytes` and then ends or fails: its pieces up to the first failure hold a prefix of `bytes`. -/
def DeliversSome (items : ByteStream) (pending : ByteArray) (bytes : List UInt8) : Prop :=
  ∃ (pieces : List ByteArray) (tail : ByteStream), items = pieces.map .ok ++ tail ∧
    (tail = [] ∨ ∃ e rest, tail = .error e :: rest) ∧
    pending.data.toList ++ (pieces.map (·.data.toList)).flatten <+: bytes

theorem Delivers.deliversSome {items : ByteStream} {pending : ByteArray} {bytes : List UInt8}
    (h : Delivers items pending bytes) : DeliversSome items pending bytes := by
  obtain ⟨pieces, rfl, hb⟩ := h
  exact ⟨pieces, [], (List.append_nil _).symm, .inl rfl, hb ▸ List.prefix_refl _⟩

/-- A transport serves chunk `n`, whose bytes are `content n`, from the states where `inv` holds,
but may fail: a fetch of a range of the chunk keeps `inv`, and it fails or gives a stream that
hands out the first bytes of the range. -/
structure Transport.ServesSome (t : Transport σ) (inv : σ → Prop) (content : Node → List UInt8)
    (n : Node) : Prop where
  size : (content n).length = n.size
  fetch : ∀ a b s, inv s → a ≤ b → b < n.size → inv (t.rangeFetch n a b s).2 ∧
    ∀ items, (t.rangeFetch n a b s).1 = .ok items →
      DeliversSome items .empty (((content n).drop a).take (b + 1 - a))

theorem Transport.ServesChunk.servesSome {t : Transport σ} {inv : σ → Prop}
    {content : Node → List UInt8} {n : Node} (h : t.ServesChunk inv content n) :
    t.ServesSome inv content n where
  size := h.size
  fetch a b s hs hab hb := by
    obtain ⟨items, s', hf, hs', hd⟩ := h.fetch a b s hs hab hb
    rw [hf]
    refine ⟨hs', fun items' h' => ?_⟩
    cases h'
    exact hd.deliversSome

theorem drain_ok_of_empty {pending : ByteArray} (hp : ¬0 < pending.size) (b : ByteArray)
    (rest : ByteStream) :
    ChunkReader.drain pending (.ok b :: rest) = ChunkReader.drain b rest := by
  conv => lhs; unfold ChunkReader.drain
  rw [if_neg hp]

/-- Draining a stream that hands out the first bytes of `bytes` gives a non-empty piece, with
which the rest of the stream still hands out the first of them; or it fails; or the stream
ends. -/
theorem drain_deliversSome {items : ByteStream} {pending : ByteArray} {bytes : List UInt8}
    (h : DeliversSome items pending bytes) :
    (∃ b rest, ChunkReader.drain pending items = .piece b rest ∧ 0 < b.size ∧
      DeliversSome rest b bytes) ∨
    (∃ e, ChunkReader.drain pending items = .failed e) ∨
    ChunkReader.drain pending items = .ended := by
  obtain ⟨pieces, tail, rfl, htail, hpre⟩ := h
  induction pieces generalizing pending with
  | nil =>
    by_cases hp : 0 < pending.size
    · exact .inl ⟨pending, tail, by unfold ChunkReader.drain; rw [if_pos hp]; rfl, hp, [], tail, rfl,
        htail, hpre⟩
    · -- nothing in hand and no piece to come: the stream fails or ends
      rcases htail with rfl | ⟨e, rest, rfl⟩
      · exact .inr (.inr (by unfold ChunkReader.drain; rw [if_neg hp]; rfl))
      · exact .inr (.inl ⟨e, by unfold ChunkReader.drain; rw [if_neg hp]; rfl⟩)
  | cons q qs ih =>
    by_cases hp : 0 < pending.size
    · exact .inl ⟨pending, _, by unfold ChunkReader.drain; rw [if_pos hp], hp, q :: qs, tail, rfl,
        htail, hpre⟩
    · rw [List.map_cons, List.cons_append, drain_ok_of_empty hp]
      exact ih (by simpa [toList_data_eq_nil hp] using hpre)

theorem DeliversSome.size_le {rest : ByteStream} {b : ByteArray} {bytes : List UInt8}
    (h : DeliversSome rest b bytes) : b.size ≤ bytes.length := by
  obtain ⟨pieces, tail, -, -, hpre⟩ := h
  have := hpre.length_le
  simp only [List.length_append, Array.length_toList, ByteArray.size_data] at this
  omega

theorem DeliversSome.split {rest : ByteStream} {b : ByteArray} {bytes : List UInt8}
    (h : DeliversSome rest b bytes) {k : Nat} (hk : k ≤ b.size) :
    (b.extract 0 k).data.toList = bytes.take k ∧
      DeliversSome rest (b.extract k b.size) (bytes.drop k) := by
  obtain ⟨pieces, tail, rfl, htail, more, hmore⟩ := h
  have hlen : k ≤ b.data.toList.length := by simpa using hk
  refine ⟨?_, pieces, tail, rfl, htail, more, ?_⟩
  · rw [← hmore, List.append_assoc]
    simp [List.take_append_of_le_length hlen]
  · rw [toList_extract_size, ← hmore, List.append_assoc, List.append_assoc,
      List.drop_append_of_le_length hlen]

/-- Handing out at most `len` bytes from a stream that hands out the first of the `remaining`
bytes still due: either the first of those bytes, at least one and no more than asked or due,
the reader moving past them and keeping the rest of the stream or going idle at the chunk's end;
or a failure, the reader staying where it is, idle. -/
theorem consume_deliversSome (r : ChunkReader) {items : ByteStream} {pending : ByteArray}
    {bytes : List UInt8} {remaining len : Nat} (h : DeliversSome items pending bytes)
    (hlen : bytes.length = remaining) (hl : 0 < len) :
    (∃ out k state, r.consume items pending remaining len =
        (.ok out, { r with position := r.position + k, state }) ∧
      out.size = k ∧ 0 < k ∧ k ≤ remaining ∧ out.data.toList = bytes.take k ∧
      (k = remaining ∧ state = .idle ∨
        k < remaining ∧ ∃ rest pending', state = .streaming rest pending' (remaining - k) ∧
          DeliversSome rest pending' (bytes.drop k))) ∨
    ∃ e, r.consume items pending remaining len = (.error e, { r with state := .idle }) := by
  rcases drain_deliversSome h with ⟨b, rest, hdrain, hb, hd⟩ | ⟨e, hdrain⟩ | hdrain
  · -- a piece: hand out what fits of it
    have hbr : b.size ≤ remaining := hlen ▸ hd.size_le
    left
    unfold ChunkReader.consume
    rw [hdrain]
    dsimp only
    generalize hk : min (min b.size len) remaining = k
    obtain ⟨hout, hrest⟩ := hd.split (k := k) (by omega)
    refine ⟨b.extract 0 k, k, _, rfl, ?_, by omega, by omega, hout, ?_⟩
    · simp only [ByteArray.size_extract]
      omega
    by_cases hend : remaining - k = 0
    · exact .inl ⟨by omega, if_pos hend⟩
    · exact .inr ⟨by omega, rest, _, if_neg hend, hrest⟩
  · exact .inr ⟨_, by unfold ChunkReader.consume; rw [hdrain]⟩
  · exact .inr ⟨_, by unfold ChunkReader.consume; rw [hdrain]⟩

/-! ## The reader invariant against a failing transport -/

/-- What a reader at position `p` may hold in flight against a transport that may fail: nothing,
or a stream that hands out the first bytes of the rest of the chunk holding `p`, with the count of
that rest. -/
def ReadState.StreamsSome (nodes : List Node) (content : Node → List UInt8) (p : Nat) :
    ReadState → Prop
  | .idle => True
  | .streaming items pending remaining => ∃ i n o, chunkAt nodes p = some (i, n, o) ∧
      p + remaining = o + n.size ∧ 0 < remaining ∧
      DeliversSome items pending ((content n).drop (p - o))

/-- The invariant of a reader that has handed out `got` since it stood at `start`, against a
transport that may fail: it reads the layout of `nodes`, what it holds in flight hands out the
first bytes of its chunk's rest, and it has moved past exactly `got`, the file's bytes from
`start`. -/
structure ChunkReader.Resumes (r : ChunkReader) (nodes : List Node)
    (content : Node → List UInt8) (start : Nat) (got : List UInt8) : Prop where
  layout : r.layout = Layout.laidOut nodes
  streams : r.state.StreamsSome nodes content r.position
  position : r.position = start + got.length
  bytes : got = ((fileBytes nodes content).drop start).take got.length

/-- The bytes a read hands out: what it returns, or nothing when it fails. -/
def handedOut : Except IoError ByteArray → List UInt8
  | .ok out => out.data.toList
  | .error _ => []

@[simp] theorem handedOut_ok (out : ByteArray) : handedOut (.ok out) = out.data.toList := rfl

@[simp] theorem handedOut_error (e : IoError) : handedOut (.error e) = [] := rfl

/-- Reads of the lengths `lens` in turn, from transport state `s`, going on after a failed read as
a caller that tries again does: the bytes handed out, in order, the reader and the transport's
state. -/
def ChunkReader.readEach (t : Transport σ) :
    List Nat → ChunkReader → σ → List UInt8 × ChunkReader × σ
  | [], r, s => ([], r, s)
  | len :: lens, r, s =>
    let rest := readEach t lens (r.read t len s).2.1 (r.read t len s).2.2
    (handedOut (r.read t len s).1 ++ rest.1, rest.2.1, rest.2.2)

section Reading

variable {t : Transport σ} {inv : σ → Prop} {nodes : List Node} {content : Node → List UInt8}
  {start : Nat} {got : List UInt8}

theorem resumes_new :
    ({ layout := Layout.laidOut nodes, position := start, state := .idle, closed := false } :
      ChunkReader).Resumes nodes content start [] :=
  ⟨rfl, trivial, rfl, rfl⟩

theorem ChunkReader.Resumes.idle {r : ChunkReader} (hr : r.Resumes nodes content start got) :
    ({ r with state := .idle } : ChunkReader).Resumes nodes content start got :=
  ⟨hr.layout, trivial, hr.position, hr.bytes⟩

theorem take_drop_append {l got more : List UInt8} {start : Nat}
    (hgot : got = (l.drop start).take got.length)
    (hmore : more = (l.drop (start + got.length)).take more.length) :
    got ++ more = (l.drop start).take (got ++ more).length := by
  rw [List.length_append, List.take_add, ← hgot, List.drop_drop, ← hmore]

/-- Handing out bytes from the stream of the chunk under the position keeps the invariant, with
those bytes handed out; on a failure the reader stays where it is, idle. -/
theorem ChunkReader.Resumes.consume (hcs : ∀ m ∈ nodes, (content m).length = m.size)
    {r : ChunkReader} (hr : r.Resumes nodes content start got) {i o : Nat} {n : Node}
    (hc : chunkAt nodes r.position = some (i, n, o)) {items : ByteStream} {pending : ByteArray}
    {remaining len : Nat} (hrem : r.position + remaining = o + n.size)
    (hd : DeliversSome items pending ((content n).drop (r.position - o))) (hl : 0 < len) :
    (∃ out r', r.consume items pending remaining len = (.ok out, r') ∧
      r'.Resumes nodes content start (got ++ out.data.toList)) ∨
    ∃ e, r.consume items pending remaining len = (.error e, { r with state := .idle }) := by
  have hb := chunkAt_bounds hc
  have hlen : ((content n).drop (r.position - o)).length = remaining := by
    simp only [List.length_drop, hcs n (chunkAt_mem hc)]
    omega
  rcases consume_deliversSome r hd hlen hl with
    ⟨out, k, state, hcons, rfl, hk0, hkr, hout, hstate⟩ | hfail
  · refine .inl ⟨out, _, hcons, hr.layout, ?_, ?_, ?_⟩
    · rcases hstate with ⟨-, rfl⟩ | ⟨hlt, rest, pending', rfl, hd'⟩
      · trivial
      · -- still inside the chunk: the stream keeps handing out the chunk's rest
        dsimp only
        refine ⟨i, n, o, chunkAt_of_mem hc (by omega) (by omega), by omega, by omega, ?_⟩
        rwa [List.drop_drop, show r.position - o + out.size = r.position + out.size - o by omega]
          at hd'
    · simp only [List.length_append, Array.length_toList, ByteArray.size_data, hr.position]
      omega
    · -- the bytes handed out are the file's from the position
      have hsize : out.data.toList.length = out.size := by simp
      have hfile : out.data.toList =
          ((fileBytes nodes content).drop (start + got.length)).take out.data.toList.length := by
        rw [hsize, hout, ← hr.position, take_drop_fileBytes hcs hc (by omega)]
      exact take_drop_append hr.bytes hfile
  · exact .inr hfail

/-- Reading on from the stream of the chunk under the position keeps the invariant with the
bytes handed out, and a failure leaves the reader idle where it was. -/
theorem ChunkReader.Resumes.consume_handedOut (hcs : ∀ m ∈ nodes, (content m).length = m.size)
    {r : ChunkReader} (hr : r.Resumes nodes content start got) {i o : Nat} {n : Node}
    (hc : chunkAt nodes r.position = some (i, n, o)) {items : ByteStream} {pending : ByteArray}
    {remaining len : Nat} (hrem : r.position + remaining = o + n.size)
    (hd : DeliversSome items pending ((content n).drop (r.position - o))) (hl : 0 < len) :
    (r.consume items pending remaining len).2.Resumes nodes content start
        (got ++ handedOut (r.consume items pending remaining len).1) ∧
      ∀ e, (r.consume items pending remaining len).1 = .error e →
        (r.consume items pending remaining len).2 = { r with state := .idle } := by
  rcases hr.consume hcs hc hrem hd hl with ⟨out, r', hcons, hr'⟩ | ⟨e, hcons⟩
  · rw [hcons]
    exact ⟨hr', fun _ h => by cases h⟩
  · rw [hcons]
    exact ⟨by simpa using hr.idle, fun _ _ => rfl⟩

/-- **Every read keeps the invariant, failing or not.** A read hands out the file's next bytes and
moves past them, or fails and returns the reader at the same position, idle, or as it was; the
transport's state keeps `inv`. -/
theorem read_resumes (hserve : ∀ n ∈ nodes, t.ServesSome inv content n) {r : ChunkReader}
    (hr : r.Resumes nodes content start got) (len : Nat) {s : σ} (hs : inv s) :
    (r.read t len s).2.1.Resumes nodes content start (got ++ handedOut (r.read t len s).1) ∧
      inv (r.read t len s).2.2 ∧
      ∀ e, (r.read t len s).1 = .error e →
        (r.read t len s).2.1 = { r with state := .idle } ∨ (r.read t len s).2.1 = r := by
  have hcs : ∀ m ∈ nodes, (content m).length = m.size := fun m hm => (hserve m hm).size
  unfold ChunkReader.read
  by_cases hclosed : r.closed = true
  · -- a closed reader refuses, unchanged
    rw [if_pos hclosed]
    exact ⟨by simpa using hr, hs, fun _ _ => .inr rfl⟩
  rw [if_neg hclosed]
  by_cases hl : len = 0
  · rw [if_pos hl]
    exact ⟨by simpa using hr, hs, fun _ h => by cases h⟩
  rw [if_neg hl]
  cases hstate : r.state with
  | streaming items pending remaining =>
    have hst := hr.streams
    rw [hstate] at hst
    obtain ⟨i, n, o, hc, hrem, -, hd⟩ := hst
    obtain ⟨hkeep, hfail⟩ := hr.consume_handedOut hcs hc hrem hd (Nat.pos_of_ne_zero hl)
    exact ⟨hkeep, hs, fun e he => .inl (hfail e he)⟩
  | idle =>
    by_cases hp : r.position < totalSize nodes
    · obtain ⟨⟨i, n, o⟩, hc⟩ : ∃ c, chunkAt nodes r.position = some c :=
        Option.ne_none_iff_exists'.1 fun h => by
          have := chunkAt_eq_none_iff.1 h
          omega
      have hb := chunkAt_bounds hc
      rw [show r.layout.locate r.position >>= r.layout.chunk? = some (n, o) by
        rw [hr.layout]; exact Layout.locate_chunk hc]
      dsimp only
      -- fetch the chunk from the position to its last byte
      obtain ⟨hs', hitems⟩ := (hserve n (chunkAt_mem hc)).fetch
        (r.position - o) (n.size - 1) s hs (by omega) (by omega)
      rcases hf : t.rangeFetch n (r.position - o) (n.size - 1) s with ⟨_ | items, s'⟩
      · rw [hf] at hs'
        exact ⟨by simpa using hr.idle, hs', fun _ _ => .inl rfl⟩
      · rw [hf] at hs' hitems
        have hrest : ((content n).drop (r.position - o)).take (n.size - 1 + 1 - (r.position - o)) =
            (content n).drop (r.position - o) := by
          apply List.take_of_length_le
          simp only [List.length_drop, hcs n (chunkAt_mem hc)]
          omega
        have hd := hitems items rfl
        rw [hrest] at hd
        obtain ⟨hkeep, hfail⟩ :=
          hr.consume_handedOut hcs hc
            (show r.position + (n.size - 1 - (r.position - o) + 1) = o + n.size by omega) hd
            (Nat.pos_of_ne_zero hl)
        exact ⟨hkeep, hs', fun e he => .inl (hfail e he)⟩
    · -- at the end of the file nothing is fetched
      rw [show r.layout.locate r.position = none by
        rw [hr.layout]; exact Layout.locate_eq_none (Nat.le_of_not_lt hp)]
      exact ⟨by simpa using hr, hs, fun _ h => by cases h⟩

/-- **Along any reads, failing or not, the reader hands out the file's bytes in order.** A failed
read hands out nothing and leaves the position alone, so the bytes handed out are the file's from
`start`, and the reader stands past them. -/
theorem ChunkReader.Resumes.readEach (hserve : ∀ n ∈ nodes, t.ServesSome inv content n) :
    ∀ (lens : List Nat) {r : ChunkReader} {got : List UInt8} {s : σ},
      r.Resumes nodes content start got → inv s →
      (r.readEach t lens s).2.1.Resumes nodes content start (got ++ (r.readEach t lens s).1) ∧
        inv (r.readEach t lens s).2.2
  | [], _, _, _, hr, hs => by simpa [ChunkReader.readEach] using And.intro hr hs
  | len :: lens, r, got, s, hr, hs => by
    obtain ⟨hr', hs', -⟩ := read_resumes hserve hr len hs
    obtain ⟨hrun, hsrun⟩ := Resumes.readEach hserve lens hr' hs'
    simp only [ChunkReader.readEach]
    rw [← List.append_assoc]
    exact ⟨hrun, hsrun⟩

/-! ## Short chunks -/

theorem consume_ended {r : ChunkReader} (hl : r.layout = Layout.laidOut nodes) {i o : Nat}
    {n : Node} (hc : chunkAt nodes r.position = some (i, n, o)) {items : ByteStream}
    {pending : ByteArray} (hend : ChunkReader.drain pending items = .ended) (remaining len : Nat) :
    r.consume items pending remaining len =
      (.error (shortChunk n remaining), { r with state := .idle }) := by
  obtain ⟨hloc, hnode, -⟩ := Layout.locate_eq_some hc
  unfold ChunkReader.consume
  rw [hend]
  dsimp only
  rw [hl, hloc]
  simp only [hnode, Option.getD_some]

/-- **A stream in flight that ends early is a short chunk.** When the stream an open reader holds
ends with bytes of its chunk still due, a read fails naming the chunk under the position and the
count of its bytes not handed out, and leaves the reader where it is, idle. -/
theorem read_short_streaming {r : ChunkReader} (hr : r.Resumes nodes content start got)
    (hopen : r.closed = false) {items : ByteStream} {pending : ByteArray} {remaining : Nat}
    (hst : r.state = .streaming items pending remaining)
    (hend : ChunkReader.drain pending items = .ended) {len : Nat} (hl : 0 < len) (s : σ) :
    ∃ i n o, chunkAt nodes r.position = some (i, n, o) ∧ r.read t len s =
      (.error (shortChunk n (o + n.size - r.position)), { r with state := .idle }, s) := by
  have hs := hr.streams
  rw [hst] at hs
  obtain ⟨i, n, o, hc, hrem, -, -⟩ := hs
  refine ⟨i, n, o, hc, ?_⟩
  unfold ChunkReader.read
  rw [if_neg (by simp [hopen]), if_neg (by omega), hst]
  dsimp only
  rw [consume_ended hr.layout hc hend, show remaining = o + n.size - r.position by omega]

/-- **A fetched stream that ends at once is a short chunk.** When an idle open reader inside the
file fetches the rest of the chunk under its position and the stream ends before its first byte,
the read fails naming that chunk and the count of its bytes from the position, and leaves the
reader where it is, idle. -/
theorem read_short_fetched {r : ChunkReader} (hl : r.layout = Layout.laidOut nodes)
    (hopen : r.closed = false) (hidle : r.state = .idle) {i o : Nat} {n : Node}
    (hc : chunkAt nodes r.position = some (i, n, o)) {s s' : σ} {items : ByteStream}
    (hf : t.rangeFetch n (r.position - o) (n.size - 1) s = (.ok items, s'))
    (hend : ChunkReader.drain .empty items = .ended) {len : Nat} (hlen : 0 < len) :
    r.read t len s =
      (.error (shortChunk n (o + n.size - r.position)), { r with state := .idle }, s') := by
  have hb := chunkAt_bounds hc
  unfold ChunkReader.read
  rw [if_neg (by simp [hopen]), if_neg (by omega), hidle,
    show r.layout.locate r.position >>= r.layout.chunk? = some (n, o) by
      rw [hl]; exact Layout.locate_chunk hc]
  dsimp only
  rw [hf]
  dsimp only
  rw [consume_ended hl hc hend,
    show n.size - 1 - (r.position - o) + 1 = o + n.size - r.position by omega]

end Reading

/-! ## Closing -/

theorem ChunkReader.read_closed (t : Transport σ) {r : ChunkReader} (h : r.closed = true)
    (len : Nat) (s : σ) : r.read t len s = (.error StorageError.closed.toIo, r, s) := by
  simp [ChunkReader.read, h]

theorem ChunkReader.seek_closed {r : ChunkReader} (h : r.closed = true) (target : SeekFrom) :
    r.seek target = .error StorageError.closed.toIo := by
  simp only [ChunkReader.seek, h]
  rfl

/-- **Closing succeeds once.** An open reader closes at its position, idle; closing it again
fails, and it refuses reads, positional reads and seeks, staying as it was. -/
theorem close_once (t : Transport σ) {r : ChunkReader} (hopen : r.closed = false) :
    ∃ r', r.close = .ok r' ∧ r'.position = r.position ∧ r'.state = .idle ∧
      r'.close = .error .alreadyClosed ∧
      (∀ len s, r'.read t len s = (.error StorageError.closed.toIo, r', s)) ∧
      (∀ o len s, r'.readAt t o len s = (.error .closed, s)) ∧
      ∀ target, r'.seek target = .error StorageError.closed.toIo := by
  refine ⟨{ r with closed := true, state := .idle }, by simp [ChunkReader.close, hopen], rfl, rfl,
    by simp [ChunkReader.close], ChunkReader.read_closed t rfl, ChunkReader.readAt_closed t rfl,
    ChunkReader.seek_closed rfl⟩

/-! ## Failed operations leave the cursor consistent -/

/-- **Failed operations leave the cursor consistent.** Take chunks served by a transport that may
fail anywhere, making a file whose size fits in 64 bits, and a reader started at `start` inside
it. Along any reads, failing or not, the reader hands out the file's bytes from `start` in order
and stands just past them. From any state, a read keeps that invariant, and one that fails leaves
the reader idle at its position, or as it was. A stream that ends early, in flight or just
fetched, fails the read with a short chunk naming the chunk under the position and the count of
its bytes not handed out. A seek out of range is refused. An open reader closes once: closed, it
refuses reads, positional reads and seeks with an error of kind broken pipe, and a second close. -/
theorem failed_reads_keep_cursor (t : Transport σ) {inv : σ → Prop} (nodes : List Node)
    (content : Node → List UInt8) (hserve : ∀ n ∈ nodes, t.ServesSome inv content n)
    (hsize : totalSize nodes < wordRange) (start : Nat) (hstart : start ≤ totalSize nodes) :
    ∃ r₀, ChunkReader.new nodes start = .ok r₀ ∧
      (∀ (lens : List Nat) (s₀ : σ), inv s₀ →
        let run := r₀.readEach t lens s₀
        run.2.1.position = start + run.1.length ∧
          run.1 = ((fileBytes nodes content).drop start).take run.1.length) ∧
      (∀ (r : ChunkReader) (p : Nat) (got : List UInt8), r.Resumes nodes content p got →
        ∀ (len : Nat) (s : σ), inv s →
          (r.read t len s).2.1.Resumes nodes content p (got ++ handedOut (r.read t len s).1) ∧
          ∀ e, (r.read t len s).1 = .error e →
            (r.read t len s).2.1 = { r with state := .idle } ∨ (r.read t len s).2.1 = r) ∧
      (∀ (r : ChunkReader) (p : Nat) (got : List UInt8), r.Resumes nodes content p got →
        r.closed = false → ∀ items pending remaining,
        r.state = .streaming items pending remaining → ChunkReader.drain pending items = .ended →
        ∀ (len : Nat) (s : σ), 0 < len → ∃ i n o, chunkAt nodes r.position = some (i, n, o) ∧
          r.read t len s =
            (.error (shortChunk n (o + n.size - r.position)), { r with state := .idle }, s)) ∧
      (∀ r : ChunkReader, r.layout = Layout.laidOut nodes → r.closed = false →
        r.state = .idle → ∀ i n o, chunkAt nodes r.position = some (i, n, o) →
        ∀ (s s' : σ) (items : ByteStream),
        t.rangeFetch n (r.position - o) (n.size - 1) s = (.ok items, s') →
        ChunkReader.drain .empty items = .ended → ∀ len : Nat, 0 < len → r.read t len s =
          (.error (shortChunk n (o + n.size - r.position)), { r with state := .idle }, s')) ∧
      (∀ r : ChunkReader, r.closed = false → ∀ target : SeekFrom,
        target.resolve r.position r.size < 0 ∨ wordRange ≤ target.resolve r.position r.size →
        r.seek target =
          .error ⟨.invalidInput, "invalid seek to a negative or overflowing position"⟩) ∧
      StorageError.closed.toIo.kind = .brokenPipe ∧
      ∀ r : ChunkReader, r.closed = false → ∃ r', r.close = .ok r' ∧ r'.position = r.position ∧
        r'.state = .idle ∧ r'.close = .error .alreadyClosed ∧
        (∀ len s, r'.read t len s = (.error StorageError.closed.toIo, r', s)) ∧
        (∀ o len s, r'.readAt t o len s = (.error .closed, s)) ∧
        ∀ target, r'.seek target = .error StorageError.closed.toIo := by
  refine ⟨_, ChunkReader.new_eq hsize hstart, fun lens s₀ hs₀ => ?_,
    fun r p got hr len s hs => ?_,
    fun r p got hr hopen items pending remaining hst hend len s hl =>
      read_short_streaming hr hopen hst hend hl s,
    fun r hl hopen hidle i n o hc s s' items hf hend len hlen =>
      read_short_fetched hl hopen hidle hc hf hend hlen,
    fun r hopen target h => seek_refused hopen target h, rfl, fun r hopen => close_once t hopen⟩
  · -- the run: the invariant holds from the start and every read keeps it
    obtain ⟨hrun, -⟩ := ChunkReader.Resumes.readEach hserve lens
      (resumes_new : ChunkReader.Resumes _ nodes content start []) hs₀
    rw [List.nil_append] at hrun
    exact ⟨hrun.position, hrun.bytes⟩
  · obtain ⟨hr', -, herr⟩ := read_resumes hserve hr len hs
    exact ⟨hr', herr⟩

/-! ## The memory origin with failures arranged -/

theorem MemoryOrigin.rangeFetch_snd (node : Node) (a b : Nat) (o : MemoryOrigin) :
    (MemoryOrigin.rangeFetch node a b o).2 =
      { o with log := o.log.push (.range node.messageId a b) } := by
  unfold MemoryOrigin.rangeFetch
  dsimp only
  split
  · rfl
  · split
    · rfl
    · rfl
    · split <;> rfl

/-- The stream of a body in one piece that breaks after `k` pieces, or never, hands out the first
bytes of the body. -/
theorem deliversSome_broken (body : ByteArray) (after : Option Nat) :
    DeliversSome
      (match after with
        | some k =>
          if [body].length ≥ k then ([body].take k).map .ok ++ [.error (.transport "range_fetch" 503)]
          else [body].map .ok
        | none => [body].map .ok)
      .empty body.data.toList := by
  rcases after with _ | k
  · exact ⟨[body], [], rfl, .inl rfl, by simp⟩
  · dsimp only
    split
    · -- the stream breaks after none or all of its one piece
      refine ⟨[body].take k, _, rfl, .inr ⟨_, [], rfl⟩, ?_⟩
      cases k <;> simp
    · exact ⟨[body], [], rfl, .inl rfl, by simp⟩

/-- The memory origin serves each chunk it stores whatever failure is arranged for its message: a
fetch fails outright, or its stream hands out the range in one piece and may break before or
after it. -/
theorem MemoryOrigin.servesSome {msgs : Array StoredMessage} {content : Node → List UInt8}
    {n : Node} {m : StoredMessage} (hfind : msgs.find? (·.id == n.messageId) = some m)
    (hdata : m.data.data.toList = content n) (hsize : m.data.size = n.size) :
    MemoryOrigin.transport.ServesSome (MemoryOrigin.Holding msgs) content n where
  size := by rw [← hdata, ← hsize]; simp
  fetch a b o ho hab hb := by
    obtain ⟨hm, hstrict, hpiece⟩ := ho
    have hbody : (m.data.extract a (min (b + 1) m.data.size)).data.toList =
        ((content n).drop a).take (b + 1 - a) := by
      simp only [ByteArray.data_extract, Array.toList_extract, List.extract_eq_take_drop, ← hdata]
      rw [Nat.min_eq_left (by omega)]
    have hpos : 0 < (m.data.extract a (min (b + 1) m.data.size)).size := by
      simp only [ByteArray.size_extract]
      omega
    refine ⟨?_, fun items h => ?_⟩
    · rw [show MemoryOrigin.transport.rangeFetch = MemoryOrigin.rangeFetch from rfl,
        MemoryOrigin.rangeFetch_snd]
      exact ⟨hm, hstrict, hpiece⟩
    simp only [MemoryOrigin.transport, MemoryOrigin.rangeFetch, hm, hfind, hstrict, hpiece,
      if_neg (show ¬ m.data.size ≤ a by omega), if_neg (Nat.pos_iff_ne_zero.1 hpos)] at h
    -- a failure arranged for every fetch gives no stream
    rcases hkind : m.failKind with _ | kind <;> rcases hstatus : m.failFetch with _ | status <;>
      simp only [hkind, hstatus] at h <;> cases h
    rw [← hbody]
    exact deliversSome_broken _ m.errorAfter

/-- Reads of a file of three chunks, the middle one empty, held by the memory origin and read from
its second byte, hand out the file's bytes from there, though every stream of the first chunk
breaks after its piece and every stream of the last breaks before any. -/
theorem failed_reads_keep_cursor_memory :
    let nodes : List Node :=
      [⟨"a", 3, 1, 0, 0, ""⟩, ⟨"b", 0, 2, 0, 0, ""⟩, ⟨"c", 2, 3, 0, 0, ""⟩]
    let content : Node → List UInt8 := fun n =>
      if n.messageId = 1 then [1, 2, 3] else if n.messageId = 3 then [4, 5] else []
    let msgs : Array StoredMessage :=
      #[{ id := 1, channel := "1", data := ⟨#[1, 2, 3]⟩, errorAfter := some 1 },
        { id := 2, channel := "1", data := .empty },
        { id := 3, channel := "1", data := ⟨#[4, 5]⟩, errorAfter := some 0 }]
    (∀ n ∈ nodes, MemoryOrigin.transport.ServesSome (MemoryOrigin.Holding msgs) content n) ∧
    totalSize nodes < wordRange ∧ 1 ≤ totalSize nodes ∧
    ∃ r₀, ChunkReader.new nodes 1 = .ok r₀ ∧
      ∀ (lens : List Nat) (s₀ : MemoryOrigin), MemoryOrigin.Holding msgs s₀ →
        let run := r₀.readEach MemoryOrigin.transport lens s₀
        run.2.1.position = 1 + run.1.length ∧
          run.1 = ((fileBytes nodes content).drop 1).take run.1.length := by
  intro nodes content msgs
  have hserve : ∀ n ∈ nodes,
      MemoryOrigin.transport.ServesSome (MemoryOrigin.Holding msgs) content n := by
    intro n hn
    simp only [nodes, List.mem_cons, List.not_mem_nil, or_false] at hn
    rcases hn with rfl | rfl | rfl <;> exact MemoryOrigin.servesSome rfl rfl rfl
  have hsize : totalSize nodes < wordRange := by decide
  obtain ⟨r₀, hnew, hrun, -⟩ :=
    failed_reads_keep_cursor MemoryOrigin.transport nodes content hserve hsize 1 (by decide)
  exact ⟨hserve, hsize, by decide, r₀, hnew, hrun⟩

end ChunkStore
