import ChunkStore.Proofs.ReadAt
import Mathlib.Data.List.Basic
/-!
# Which ranges a reader fetches

A reader asks the transport for byte ranges of chunks. To see which, the transport is wrapped so
that it logs every range fetch asked of it (`Transport.logFetches`). The fetches that reading the
bytes `p ..< q` of a file makes are `chunkFetches nodes p q stop`: one for each chunk holding
some of those bytes, in the chunks' order, from the first of those bytes to the chunk's last
byte or to byte `stop - 1` of the file, whichever comes first. An empty chunk holds no byte, so
it is never fetched. `chunkFetches_eq_filterMap` says the same chunk by chunk: the plan keeps, in
order, the fetch `fetchOf p q stop` of each chunk with its start offset.

Reading through the cursor from `p` fetches each chunk once, when the reader first reaches it:
after any reads the log is `chunkFetches nodes p q (totalSize nodes)` for the position `q` the
reader reached (`Fetched`, kept by each read, `Fetched.read`), and at the end of the file that is
every chunk from `p` on. A positional read of `len` bytes at `o` fetches
`chunkFetches nodes o (o + len) (o + len)`: each chunk meeting the window, up to the window's
end (`readInto_logFetches`). The main statement is `reader_fetches_each_chunk_once`.
-/

namespace ChunkStore

variable {σ : Type}

/-! ## A transport that logs its range fetches -/

/-- The transport `t`, keeping beside its state the log of the range fetches asked of it: the
chunk, and the first and last byte of the range. -/
def Transport.logFetches (t : Transport σ) : Transport (σ × List (Node × Nat × Nat)) where
  name := t.name
  upload d s := ((t.upload d s.1).1, (t.upload d s.1).2, s.2)
  rangeFetch n a b s := ((t.rangeFetch n a b s.1).1, (t.rangeFetch n a b s.1).2, s.2 ++ [(n, a, b)])
  listMessages ch a dir s := ((t.listMessages ch a dir s.1).1, (t.listMessages ch a dir s.1).2, s.2)

theorem Transport.ServesChunk.logFetches {t : Transport σ} {inv : σ → Prop}
    {content : Node → List UInt8} {n : Node} (h : t.ServesChunk inv content n) :
    t.logFetches.ServesChunk (inv ·.1) content n where
  size := h.size
  fetch a b s hs hab hb := by
    obtain ⟨items, s', hf, hs', hd⟩ := h.fetch a b s.1 hs hab hb
    exact ⟨items, (s', s.2 ++ [(n, a, b)]), by simp [Transport.logFetches, hf], hs', hd⟩

/-! ## The fetches that reading a part of a file makes -/

/-- The fetches that reading bytes `p ..< q` of the file made of `nodes` makes: one for each
chunk holding some of those bytes, in order, from the first of them to the chunk's last byte or
to byte `stop - 1` of the file, whichever comes first. Offsets are taken from the first chunk's
start, so the rest of the file sees `p`, `q` and `stop` less the first chunk's size. -/
def chunkFetches : List Node → Nat → Nat → Nat → List (Node × Nat × Nat)
  | [], _, _, _ => []
  | n :: ns, p, q, stop =>
    (if p < q ∧ p < n.size then [(n, p, min (n.size - 1) (stop - 1))] else []) ++
      chunkFetches ns (p - n.size) (q - n.size) (stop - n.size)

theorem chunkFetches_of_le {ns : List Node} {p q : Nat} (h : q ≤ p) (stop : Nat) :
    chunkFetches ns p q stop = [] := by
  induction ns generalizing p q stop with
  | nil => rfl
  | cons n ns ih =>
    rw [chunkFetches, if_neg (by omega), ih (by omega), List.nil_append]

/-- The chunk holding the end of a chunk starts there: chunks do not overlap. -/
theorem chunkAt_end {nodes : List Node} {q i j o o' : Nat} {n m : Node}
    (hc : chunkAt nodes q = some (i, n, o)) (hc' : chunkAt nodes (o + n.size) = some (j, m, o')) :
    o' = o + n.size := by
  induction nodes generalizing q i j o o' with
  | nil => simp [chunkAt] at hc
  | cons k ks ih =>
    rcases chunkAt_cons_eq_some.1 hc with ⟨-, rfl, rfl, rfl⟩ | ⟨hq, i₁, o₁, hc₁, rfl, rfl⟩
    · -- the end of the first chunk lies in a later one, which starts at or after it
      rcases chunkAt_cons_eq_some.1 hc' with ⟨h, -, -, -⟩ | ⟨-, j₁, o₂, hc₂, -, rfl⟩
      · omega
      · have := (chunkAt_bounds hc₂).1
        omega
    · rcases chunkAt_cons_eq_some.1 hc' with ⟨h, -, -, -⟩ | ⟨-, j₁, o₂, hc₂, -, rfl⟩
      · omega
      · have := ih hc₁ (show chunkAt ks (o₁ + n.size) = some (j₁, m, o₂) by
          rw [← hc₂]; congr 1; omega)
        omega

/-- Reading on inside the chunk that holds byte `q` adds that chunk's fetch, when the reading
from `p` enters the chunk at `q`: at its start, or at `p` itself. -/
theorem chunkFetches_extend {nodes : List Node} {p q q' i o : Nat} {n : Node}
    (hc : chunkAt nodes q = some (i, n, o)) (hpq : p ≤ q) (hq : q < q') (hq' : q' ≤ o + n.size)
    (stop : Nat) :
    chunkFetches nodes p q' stop = chunkFetches nodes p q stop ++
      if max p o = q then [(n, p - o, min (n.size - 1) (stop - 1 - o))] else [] := by
  induction nodes generalizing p q q' stop i o with
  | nil => simp [chunkAt] at hc
  | cons m ms ih =>
    rcases chunkAt_cons_eq_some.1 hc with ⟨hlt, rfl, rfl, rfl⟩ | ⟨hle, i₁, o₁, hc₁, rfl, rfl⟩
    · -- `q` and `q'` lie in the first chunk: nothing of the rest is read
      simp only [chunkFetches, chunkFetches_of_le (show q' - n.size ≤ p - n.size by omega),
        chunkFetches_of_le (show q - n.size ≤ p - n.size by omega), List.append_nil,
        Nat.sub_zero, Nat.max_zero]
      by_cases hp : p = q
      · subst hp
        simp [show p < q' by omega, show p < n.size by omega]
      · simp [hp, show p < q by omega, show p < q' by omega, show p < n.size by omega]
    · -- past the first chunk: it is read both times or neither, and the rest follows
      have hrest := ih hc₁ (show p - m.size ≤ q - m.size by omega)
        (show q - m.size < q' - m.size by omega) (by omega) (stop - m.size)
      have hhead : (p < q' ∧ p < m.size) ↔ (p < q ∧ p < m.size) := by omega
      have hentry : (max (p - m.size) o₁ = q - m.size) ↔ max p (o₁ + m.size) = q := by omega
      simp only [chunkFetches, hrest, List.append_assoc, hhead, hentry]
      congr 3
      -- the fetch is the same, measured from the rest's start or from the file's
      have hfirst : p - m.size - o₁ = p - (o₁ + m.size) := by omega
      have hlast : stop - m.size - 1 - o₁ = stop - 1 - (o₁ + m.size) := by omega
      rw [hfirst, hlast]

theorem chunkFetches_of_totalSize_le {ns : List Node} {p : Nat} (h : totalSize ns ≤ p)
    (q stop : Nat) : chunkFetches ns p q stop = [] := by
  induction ns generalizing p q stop with
  | nil => rfl
  | cons n ns ih =>
    simp only [totalSize_cons] at h
    rw [chunkFetches, if_neg (by omega), ih (by omega), List.nil_append]

/-- Reading from inside chunk `n`, which starts at `o`, fetches that chunk first, then what
reading on from the chunk's end (or from `q`, if that comes first) fetches. -/
theorem chunkFetches_split {nodes : List Node} {p q i o : Nat} {n : Node}
    (hc : chunkAt nodes p = some (i, n, o)) (hpq : p < q) (stop : Nat) :
    chunkFetches nodes p q stop = [(n, p - o, min (n.size - 1) (stop - 1 - o))] ++
      chunkFetches nodes (min q (o + n.size)) q stop := by
  induction nodes generalizing p q stop i o with
  | nil => simp [chunkAt] at hc
  | cons m ms ih =>
    rcases chunkAt_cons_eq_some.1 hc with ⟨hlt, rfl, rfl, rfl⟩ | ⟨hle, i₁, o₁, hc₁, rfl, rfl⟩
    · -- `p` lies in the first chunk: it is fetched, and the rest is read from its end
      have hfirst : ¬(min q n.size < q ∧ min q n.size < n.size) := by omega
      simp only [chunkFetches, if_pos (show p < q ∧ p < n.size from ⟨hpq, hlt⟩), if_neg hfirst,
        List.nil_append, Nat.sub_zero, Nat.zero_add]
      congr 1
      rw [show p - n.size = min q n.size - n.size by omega]
    · have hnot : ¬(p < q ∧ p < m.size) := by omega
      have hnot' : ¬(min q (o₁ + m.size + n.size) < q ∧ min q (o₁ + m.size + n.size) < m.size) := by
        omega
      rw [chunkFetches, if_neg hnot, List.nil_append, ih hc₁ (by omega) (stop - m.size),
        chunkFetches, if_neg hnot', List.nil_append]
      have hfrom : min (q - m.size) (o₁ + n.size) = min q (o₁ + m.size + n.size) - m.size := by
        omega
      have hfirst : p - m.size - o₁ = p - (o₁ + m.size) := by omega
      have hstop : stop - m.size - 1 - o₁ = stop - 1 - (o₁ + m.size) := by omega
      rw [hfrom, hfirst, hstop]

/-! ## The plan, chunk by chunk -/

/-- The fetch that reading bytes `p ..< q` makes of chunk `c.2`, which starts at `c.1`, when the
chunk holds some of those bytes: from the first of them to the chunk's last byte or to byte
`stop - 1` of the file, whichever comes first. -/
def fetchOf (p q stop : Nat) (c : Nat × Node) : Option (Node × Nat × Nat) :=
  if max p c.1 < min q (c.1 + c.2.size) then
    some (c.2, p - c.1, min (c.2.size - 1) (stop - 1 - c.1))
  else none

/-- The plan over chunks laid out from `start`: one fetch for each chunk meeting the window. -/
theorem chunkFetches_sub_eq_filterMap (ns : List Node) (start p q stop : Nat) :
    chunkFetches ns (p - start) (q - start) (stop - start) =
      ((startOffsets start ns).zip ns).filterMap (fetchOf p q stop) := by
  induction ns generalizing start with
  | nil => rfl
  | cons n ns ih =>
    have hrest : ∀ x, x - start - n.size = x - (start + n.size) := fun x => Nat.sub_sub x start _
    rw [chunkFetches, hrest, hrest, hrest, ih, startOffsets, List.zip_cons_cons]
    -- the first chunk starts at `start`; the window meets it on the same bytes either way
    by_cases h : max p start < min q (start + n.size)
    · have hfetch : fetchOf p q stop (start, n) =
          some (n, p - start, min (n.size - 1) (stop - start - 1)) := by
        rw [fetchOf, if_pos h, show stop - 1 - start = stop - start - 1 by omega]
      rw [List.filterMap_cons_some hfetch,
        if_pos (show p - start < q - start ∧ p - start < n.size by omega), List.singleton_append]
    · have hfetch : fetchOf p q stop (start, n) = none := if_neg h
      rw [List.filterMap_cons_none hfetch, if_neg (by omega), List.nil_append]

/-- **The plan is one fetch for each chunk meeting the window, in the chunks' order.** -/
theorem chunkFetches_eq_filterMap (ns : List Node) (p q stop : Nat) :
    chunkFetches ns p q stop = ((startOffsets 0 ns).zip ns).filterMap (fetchOf p q stop) :=
  chunkFetches_sub_eq_filterMap ns 0 p q stop

/-- Each chunk laid out from `start` lies between `start` and the end of the chunks. -/
theorem bounds_of_mem_startOffsets {ns : List Node} {start : Nat} {c : Nat × Node}
    (h : c ∈ (startOffsets start ns).zip ns) :
    start ≤ c.1 ∧ c.1 + c.2.size ≤ start + totalSize ns := by
  induction ns generalizing start with
  | nil => simp [startOffsets] at h
  | cons n ns ih =>
    rw [startOffsets, List.zip_cons_cons, List.mem_cons] at h
    rcases h with rfl | h
    · simp only [totalSize_cons]
      omega
    · have := ih h
      simp only [totalSize_cons]
      omega

theorem chunkFetches_to_end (ns : List Node) (p : Nat) :
    chunkFetches ns p (totalSize ns) (totalSize ns) = ((startOffsets 0 ns).zip ns).filterMap
      fun c => if p < c.1 + c.2.size ∧ 0 < c.2.size then some (c.2, p - c.1, c.2.size - 1)
        else none := by
  rw [chunkFetches_eq_filterMap]
  refine List.filterMap_congr fun c hc => ?_
  have hb := bounds_of_mem_startOffsets hc
  by_cases h : p < c.1 + c.2.size ∧ 0 < c.2.size
  · rw [fetchOf, if_pos (by omega), if_pos h, Nat.min_eq_left (by omega)]
  · rw [fetchOf, if_neg (by omega), if_neg h]

/-! ## The reads log their fetches -/

section Reads

variable {t : Transport σ} {inv : σ → Prop} {nodes : List Node} {content : Node → List UInt8}

theorem read_logFetches_idle {r : ChunkReader} (hr : r.Follows nodes content)
    (hidle : r.state = .idle) {len : Nat} (hl : 0 < len) {i o : Nat} {n : Node}
    (hc : chunkAt nodes r.position = some (i, n, o)) (s : σ × List (Node × Nat × Nat)) :
    (r.read t.logFetches len s).2.2.2 = s.2 ++ [(n, r.position - o, n.size - 1)] := by
  unfold ChunkReader.read
  rw [if_neg (by simp [hr.isOpen]), if_neg (by omega), hidle]
  simp only [hr.layout, Layout.locate_chunk hc]
  rcases hf : t.rangeFetch n (r.position - o) (n.size - 1) s.1 with ⟨out, s'⟩
  cases out <;> simp [Transport.logFetches, hf]

theorem read_logFetches_streaming {r : ChunkReader} {items : ByteStream} {pending : ByteArray}
    {remaining : Nat} (h : r.state = .streaming items pending remaining) (len : Nat)
    (s : σ × List (Node × Nat × Nat)) : (r.read t.logFetches len s).2.2.2 = s.2 := by
  unfold ChunkReader.read
  split
  · rfl
  · split
    · rfl
    · simp [h]

/-- What a reader that started at `p` has fetched: the log is the plan of the bytes it has
read, and it is idle exactly where it enters a chunk, at the chunk's start or at `p`. -/
structure Fetched (nodes : List Node) (p : Nat) (r : ChunkReader)
    (log : List (Node × Nat × Nat)) : Prop where
  log : log = chunkFetches nodes p r.position (totalSize nodes)
  started : p ≤ r.position
  idle : ∀ i n o, chunkAt nodes r.position = some (i, n, o) →
    (r.state = .idle ↔ max p o = r.position)

theorem fetched_new (p : Nat) :
    Fetched nodes p
      { layout := Layout.laidOut nodes, position := p, state := .idle, closed := false } [] where
  log := (chunkFetches_of_le (Nat.le_refl p) _).symm
  started := Nat.le_refl p
  idle i n o hc := by
    have := (chunkAt_bounds (show chunkAt nodes p = some (i, n, o) from hc)).1
    exact iff_of_true rfl (show max p o = p by omega)

/-- **One read keeps the log the plan of the bytes read.** A read that enters a chunk fetches
it from where it enters to the chunk's last byte; a read inside a chunk already entered, or at
the end of the file, fetches nothing. -/
theorem Fetched.read (hserve : ∀ n ∈ nodes, t.ServesChunk inv content n) {p : Nat}
    {r : ChunkReader} (hr : r.Follows nodes content) {s : σ × List (Node × Nat × Nat)}
    (hs : inv s.1) (hf : Fetched nodes p r s.2) (len : Nat) :
    Fetched nodes p (r.read t.logFetches len s).2.1 (r.read t.logFetches len s).2.2.2 := by
  by_cases hl : len = 0
  · subst hl
    simpa [ChunkReader.read, hr.isOpen] using hf
  by_cases hp : r.position < totalSize nodes
  · obtain ⟨⟨i, n, o⟩, hc⟩ : ∃ c, chunkAt nodes r.position = some c :=
      Option.ne_none_iff_exists'.1 fun h => by
      have := chunkAt_eq_none_iff.1 h
      omega
    have hb := chunkAt_bounds hc
    have hstart := hf.started
    have hserve' : ∀ m ∈ nodes, t.logFetches.ServesChunk (inv ·.1) content m :=
      fun m hm => (hserve m hm).logFetches
    -- the read adds the chunk's fetch exactly when it enters the chunk
    have hlog : (r.read t.logFetches len s).2.2.2 = s.2 ++
        if max p o = r.position then [(n, p - o, n.size - 1)] else [] := by
      cases hst : r.state with
      | idle =>
        have hmax := (hf.idle i n o hc).1 hst
        have hfrom : r.position - o = p - o := by omega
        rw [read_logFetches_idle hr hst (Nat.pos_of_ne_zero hl) hc, if_pos hmax, hfrom]
      | streaming items pending remaining =>
        have hmax : ¬max p o = r.position := fun h => by
          have := (hf.idle i n o hc).2 h
          rw [hst] at this
          cases this
        rw [read_logFetches_streaming hst, if_neg hmax, List.append_nil]
    obtain ⟨out, r', s', hread, h0, -, hend, -, hpos, hr', -, hidle⟩ :=
      read_inside hserve' hr (Nat.pos_of_ne_zero hl) hc hs
    rw [hread] at hlog ⊢
    dsimp only at hlog ⊢
    refine ⟨?_, by omega, fun i' n' o' hc' => ?_⟩
    · have hlast : n.size - 1 = min (n.size - 1) (totalSize nodes - 1 - o) := by omega
      rw [hlog, hf.log, hpos, chunkFetches_extend hc hf.started (by omega) hend, ← hlast]
    · by_cases hin : r'.position < o + n.size
      · -- still inside the chunk: not idle, and entered before
        have hsame := chunkAt_of_mem hc (by omega) hin
        rw [hc', Option.some.injEq, Prod.mk.injEq, Prod.mk.injEq] at hsame
        obtain ⟨-, -, rfl⟩ := hsame
        exact iff_of_false (fun h => by have := hidle.1 h; omega) (by omega)
      · -- at the chunk's end: idle, and the next chunk starts here
        have hat : r'.position = o + n.size := by omega
        rw [hat] at hc'
        have ho' := chunkAt_end hc hc'
        exact iff_of_true (hidle.2 hat) (by omega)
  · rw [read_at_end hr (by omega)]
    exact hf

/-- **Every run of reads keeps the log the plan of the bytes read.** -/
theorem Fetched.reads (hserve : ∀ n ∈ nodes, t.ServesChunk inv content n) {p : Nat} :
    ∀ (lens : List Nat) {r : ChunkReader} {s : σ × List (Node × Nat × Nat)},
      r.Follows nodes content → inv s.1 → Fetched nodes p r s.2 →
      Fetched nodes p (r.replay t.logFetches (lens.map .read) s).1
        (r.replay t.logFetches (lens.map .read) s).2.2
  | [], _, _, _, _, hf => hf
  | len :: lens, r, s, hr, hs, hf => by
    have hserve' : ∀ m ∈ nodes, t.logFetches.ServesChunk (inv ·.1) content m :=
      fun m hm => (hserve m hm).logFetches
    obtain ⟨hr', hs'⟩ := read_keeps hserve' hr len hs
    exact Fetched.reads hserve lens hr' hs' (hf.read hserve hr hs len)

/-- **A positional read fetches each chunk meeting its window once**, from the window's start
in the first and from the start in the others, to the chunk's end or the window's. From
`position`, with `acc` in hand, the loop's window is the `len - acc.size` bytes still wanted. -/
theorem readInto_logFetches (hserve : ∀ n ∈ nodes, t.ServesChunk inv content n) (len : Nat) :
    ∀ (fuel position : Nat) (acc : ByteArray) (s : σ × List (Node × Nat × Nat)), inv s.1 →
      (∀ i n o, chunkAt nodes position = some (i, n, o) → acc.size < len →
        nodes.length < i + fuel) →
      (ChunkReader.readInto t.logFetches (Layout.laidOut nodes) len fuel position acc s).2.2 =
        s.2 ++ chunkFetches nodes position (position + (len - acc.size))
          (position + (len - acc.size))
  | 0, position, acc, s, hs, hfuel => by
    -- out of rounds: either the buffer is full or the position is past the last chunk
    show s.2 = _
    rcases readInto_rounds_zero hfuel with hfull | hend
    · rw [show len - acc.size = 0 by omega, Nat.add_zero, chunkFetches_of_le (Nat.le_refl _),
        List.append_nil]
    · rw [chunkFetches_of_totalSize_le hend, List.append_nil]
  | fuel + 1, position, acc, s, hs, hfuel => by
    by_cases hfull : acc.size ≥ len
    · rw [readInto_stops (.inl hfull), show len - acc.size = 0 by omega, Nat.add_zero,
        chunkFetches_of_le (Nat.le_refl _), List.append_nil]
    cases hc : chunkAt nodes position with
    | none =>
      rw [readInto_stops (.inr (chunkAt_eq_none_iff.1 hc)),
        chunkFetches_of_totalSize_le (chunkAt_eq_none_iff.1 hc), List.append_nil]
    | some c =>
      obtain ⟨i, n, o⟩ := c
      have hb := chunkAt_bounds hc
      obtain ⟨got, items, s₁, hfetch, hs₁, hgs, -, hround⟩ :=
        readInto_round (fun m hm => (hserve m hm).logFetches) hc (show acc.size < len by omega)
          fuel hs
      -- the round logs its one fetch
      have hlog : s₁.2 = s.2 ++ [(n, position - o, position - o + got.size - 1)] := by
        rw [← show (t.logFetches.rangeFetch n (position - o) (position - o + got.size - 1)
          s).2.2 = s₁.2 by rw [hfetch]]
        rfl
      rw [hround, readInto_logFetches hserve len fuel (position + got.size) (acc ++ got) s₁ hs₁
          (readInto_rounds_next hc hgs hfuel), hlog,
        chunkFetches_split hc (show position < position + (len - acc.size) by omega),
        ByteArray.size_append, List.append_assoc]
      -- the next round's window is what is left of this one
      have hnext_from : min (position + (len - acc.size)) (o + n.size) = position + got.size := by
        omega
      have hwindow : position + got.size + (len - (acc.size + got.size)) =
          position + (len - acc.size) := by
        omega
      have hlast : position - o + got.size - 1 =
          min (n.size - 1) (position + (len - acc.size) - 1 - o) := by
        omega
      rw [hnext_from, hwindow, hlast]

end Reads

/-! ## Each chunk is fetched once -/

/-- **A reader fetches each chunk once, and only the chunks it reads.** Take chunks each served
exactly, in pieces of any size, making a file whose size fits in 64 bits, and a reader started
at `p` inside it. Whatever reads are made through the cursor, of any lengths, the range fetches
asked of the transport are, in the chunks' order, one for each chunk holding some of the bytes
from `p` to where the reader has reached, from the first byte read in it to its last byte; once
the reader reaches the end of the file, they are one for each chunk that is not empty and ends
after `p`, fetched from `p` in the chunk holding it and whole after that. A positional read of
`len` bytes at `o` asks for one range of each chunk meeting `o ..< o + len`, from the first of
those bytes in it to its last byte or the last byte the buffer takes, whichever comes first. -/
theorem reader_fetches_each_chunk_once (t : Transport σ) {inv : σ → Prop} (nodes : List Node)
    (content : Node → List UInt8) (hserve : ∀ n ∈ nodes, t.ServesChunk inv content n)
    (hsize : totalSize nodes < wordRange) (p : Nat) (hp : p ≤ totalSize nodes) :
    ∃ r₀, ChunkReader.new nodes p = .ok r₀ ∧
      (∀ (lens : List Nat) (s₀ : σ), inv s₀ →
        let run := r₀.replay t.logFetches (lens.map .read) (s₀, [])
        run.2.2 = ((startOffsets 0 nodes).zip nodes).filterMap
            (fetchOf p run.1.position (totalSize nodes)) ∧
          (run.1.position = totalSize nodes →
            run.2.2 = ((startOffsets 0 nodes).zip nodes).filterMap fun c =>
              if p < c.1 + c.2.size ∧ 0 < c.2.size then some (c.2, p - c.1, c.2.size - 1)
              else none)) ∧
      ∀ r : ChunkReader, r.layout = Layout.laidOut nodes → r.closed = false →
        ∀ (o len : Nat) (s₀ : σ), inv s₀ →
          (r.readAt t.logFetches o len (s₀, [])).2.2 =
            ((startOffsets 0 nodes).zip nodes).filterMap (fetchOf o (o + len) (o + len)) := by
  refine ⟨_, ChunkReader.new_eq hsize hp, fun lens s₀ hs₀ => ?_,
    fun r hlayout hopen o len s₀ hs₀ => ?_⟩
  · -- the cursor: the log is the plan of the bytes read, kept by every read
    have hf := Fetched.reads hserve lens
      (ChunkReader.follows_new p : ChunkReader.Follows _ nodes content) (s := (s₀, [])) hs₀
      (fetched_new p)
    dsimp only
    refine ⟨by rw [hf.log, chunkFetches_eq_filterMap], fun hend => ?_⟩
    rw [hf.log, hend, chunkFetches_to_end]
  · -- the positional read: one round for each chunk and one more is enough from any offset
    have hrounds : ∀ i n o', chunkAt nodes o = some (i, n, o') → ByteArray.empty.size < len →
        nodes.length < i + (r.layout.nodes.size + 1) := by
      intro i n o' _ _
      rw [hlayout]
      simp only [Layout.laidOut, List.size_toArray]
      omega
    have hlog := readInto_logFetches hserve len _ o .empty (s₀, []) hs₀ hrounds
    simp only [ByteArray.size_empty, Nat.sub_zero, List.nil_append] at hlog
    simp only [ChunkReader.readAt, hopen, Bool.false_eq_true, if_false]
    rw [hlayout] at hlog ⊢
    rw [hlog, chunkFetches_eq_filterMap]

/-- A file of three chunks, the middle one empty, held by the memory origin. Two reads of five
bytes through the cursor from its second byte reach the end of the file, fetching the first
chunk from there and the whole of the third, once each; a positional read of four bytes from
the third byte fetches the first chunk's last byte and the whole of the third chunk. The empty
chunk is never fetched. -/
theorem reader_fetches_each_chunk_once_memory :
    let nodes : List Node :=
      [⟨"a", 3, 1, 0, 0, ""⟩, ⟨"b", 0, 2, 0, 0, ""⟩, ⟨"c", 2, 3, 0, 0, ""⟩]
    let content : Node → List UInt8 := fun n =>
      if n.messageId = 1 then [1, 2, 3] else if n.messageId = 3 then [4, 5] else []
    let msgs : Array StoredMessage := #[{ id := 1, channel := "1", data := ⟨#[1, 2, 3]⟩ },
      { id := 2, channel := "1", data := .empty }, { id := 3, channel := "1", data := ⟨#[4, 5]⟩ }]
    let r : ChunkReader :=
      { layout := Layout.laidOut nodes, position := 0, state := .idle, closed := false }
    (∀ n ∈ nodes, MemoryOrigin.transport.ServesChunk (MemoryOrigin.Holding msgs) content n) ∧
    totalSize nodes < wordRange ∧ 1 ≤ totalSize nodes ∧
    (∃ r₀, ChunkReader.new nodes 1 = .ok r₀ ∧
      let run := r₀.replay MemoryOrigin.transport.logFetches ([5, 5].map .read) ({ messages := msgs }, [])
      run.1.position = totalSize nodes ∧
        run.2.2 = [(⟨"a", 3, 1, 0, 0, ""⟩, 1, 2), (⟨"c", 2, 3, 0, 0, ""⟩, 0, 1)]) ∧
    (r.readAt MemoryOrigin.transport.logFetches 2 4 ({ messages := msgs }, [])).2.2 =
      [(⟨"a", 3, 1, 0, 0, ""⟩, 2, 2), (⟨"c", 2, 3, 0, 0, ""⟩, 0, 1)] := by
  intro nodes content msgs r
  have hserve : ∀ n ∈ nodes,
      MemoryOrigin.transport.ServesChunk (MemoryOrigin.Holding msgs) content n := by
    intro n hn
    simp only [nodes, List.mem_cons, List.not_mem_nil, or_false] at hn
    rcases hn with rfl | rfl | rfl <;> exact MemoryOrigin.servesChunk rfl rfl rfl rfl rfl rfl
  have hsize : totalSize nodes < wordRange := by decide
  obtain ⟨r₀, hnew, hcursor, hat⟩ :=
    reader_fetches_each_chunk_once MemoryOrigin.transport nodes content hserve hsize 1
      (by decide)
  -- the reader starts at the second byte, and two reads take it to the end
  have hr₀ := Except.ok.inj (hnew.symm.trans (ChunkReader.new_eq hsize (by decide)))
  have hend : (r₀.replay MemoryOrigin.transport.logFetches ([5, 5].map .read)
      ({ messages := msgs }, [])).1.position = totalSize nodes := by
    rw [hr₀]
    decide +kernel
  refine ⟨hserve, hsize, by decide, ⟨r₀, hnew, hend, ?_⟩, ?_⟩
  · rw [(hcursor [5, 5] _ ⟨rfl, rfl, rfl⟩).2 hend]
    decide +kernel
  · rw [hat r rfl rfl 2 4 _ ⟨rfl, rfl, rfl⟩]
    rfl

end ChunkStore
