import ChunkStore.Proofs.Cursor
/-!
# Positional reads

`readAt` is a second way into a file: it walks the chunks from an offset, fetching from each
exactly the bytes still wanted (the range `start ..= start + want - 1`), and copies them piece by
piece, cutting a piece that runs past what is wanted. Its loop is bounded by one round per chunk
and one more.

Against a transport that serves every chunk exactly, in pieces of any size, the loop hands out
the file's bytes from the offset up to the length asked or the end of the file (`readInto_reads`),
and never runs out of rounds, since each round either fills the buffer or moves on to a chunk of
higher index (`chunkAt_index_lt_of_le`). So a positional read agrees with seeking to the offset and
reading on through the cursor (`readAt_agrees_with_cursor`). It returns no reader, so the reader's
position and whatever it holds in flight are untouched.
-/

namespace ChunkStore

/-! ## Chunk indices along the file -/

theorem chunkAt_index_lt_length {nodes : List Node} {p i o : Nat} {n : Node}
    (h : chunkAt nodes p = some (i, n, o)) : i < nodes.length := by
  induction nodes generalizing p i o with
  | nil => simp [chunkAt] at h
  | cons m ms ih =>
    rcases chunkAt_cons_eq_some.1 h with ⟨-, rfl, -, -⟩ | ⟨-, i', o', h', rfl, -⟩
    · simp
    · simpa using ih h'

/-- A byte at or past the end of a chunk is held by a chunk of higher index. -/
theorem chunkAt_index_lt_of_le {nodes : List Node} {p q i j o o' : Nat} {n m : Node}
    (hp : chunkAt nodes p = some (i, n, o)) (hq : chunkAt nodes q = some (j, m, o'))
    (hle : o + n.size ≤ q) : i < j := by
  induction nodes generalizing p q i j o o' with
  | nil => simp [chunkAt] at hp
  | cons k ks ih =>
    rcases chunkAt_cons_eq_some.1 hp with
      ⟨hp', rfl, rfl, rfl⟩ | ⟨hp', i₁, o₁, hp₁, rfl, rfl⟩
    · -- `p` lies in the first chunk and `q` past it, so `q` is found further on
      rcases chunkAt_cons_eq_some.1 hq with ⟨hq', -, -, -⟩ | ⟨-, j₁, -, -, rfl, -⟩
      · omega
      · omega
    · rcases chunkAt_cons_eq_some.1 hq with
        ⟨hq', -, -, -⟩ | ⟨-, j₁, o₂, hq₁, rfl, rfl⟩
      · omega
      · have := ih hp₁ hq₁ (by omega)
        omega

/-! ## Taking the wanted bytes from a stream -/

/-- Taking `want` bytes from a stream of pieces that hold exactly the bytes still wanted gives
the bytes in hand followed by all those pieces: no piece is cut and none is missing. -/
theorem collect_pieces (node : Node) (want : Nat) :
    ∀ (pieces : List ByteArray) (acc : ByteArray),
      acc.size + ((pieces.map (·.data.toList)).flatten).length = want →
      ∃ got, ChunkReader.collect node want (pieces.map .ok) acc = .ok got ∧
        got.data.toList = acc.data.toList ++ (pieces.map (·.data.toList)).flatten
  | [], acc, h => by
    simp only [List.map_nil, List.flatten_nil, List.length_nil, Nat.add_zero] at h
    refine ⟨acc, ?_, by simp⟩
    simp [ChunkReader.collect, h]
  | b :: bs, acc, h => by
    simp only [List.map_cons, List.flatten_cons, List.length_append, Array.length_toList,
      ByteArray.size_data] at h
    by_cases hfull : acc.size ≥ want
    · -- nothing more is wanted, so the pieces left hold no byte
      refine ⟨acc, by simp [ChunkReader.collect, hfull], ?_⟩
      have hb : b.data.toList = [] := List.eq_nil_of_length_eq_zero
        (by simp only [Array.length_toList, ByteArray.size_data]; omega)
      have hbs : (bs.map (·.data.toList)).flatten = [] :=
        List.eq_nil_of_length_eq_zero (by omega)
      simp [hb, hbs]
    · -- the piece fits in what is wanted, so it is taken whole
      have hcut : b.extract 0 (want - acc.size) = b := by
        apply ByteArray.ext
        simp only [ByteArray.data_extract]
        exact Array.extract_eq_self_of_le (by simp only [ByteArray.size_data]; omega)
      obtain ⟨got, hgot, hdata⟩ := collect_pieces node want bs (acc ++ b)
        (by simp only [ByteArray.size_append]; omega)
      refine ⟨got, ?_, ?_⟩
      · simp only [ChunkReader.collect, if_neg hfull, List.map_cons, hcut]
        exact hgot
      · simp [hdata]

theorem collect_delivers (node : Node) {want : Nat} {items : ByteStream} {bytes : List UInt8}
    (h : Delivers items .empty bytes) (hlen : bytes.length = want) :
    ∃ got, ChunkReader.collect node want items .empty = .ok got ∧ got.data.toList = bytes := by
  obtain ⟨pieces, rfl, hbytes⟩ := h
  simp only [ByteArray.data_empty, Array.toList_empty, List.nil_append] at hbytes
  obtain ⟨got, hgot, hdata⟩ := collect_pieces node want pieces .empty
    (by simp [hbytes, hlen])
  exact ⟨got, hgot, by simpa [hbytes] using hdata⟩

/-! ## The positional read loop -/

section ReadInto

variable {σ : Type} {t : Transport σ} {inv : σ → Prop} {nodes : List Node}
  {content : Node → List UInt8}

theorem readInto_stops {len position : Nat} {acc : ByteArray}
    (h : len ≤ acc.size ∨ totalSize nodes ≤ position) (fuel : Nat) (s : σ) :
    ChunkReader.readInto t (Layout.laidOut nodes) len fuel position acc s = (.ok acc, s) := by
  cases fuel with
  | zero => rfl
  | succ fuel =>
    unfold ChunkReader.readInto
    by_cases hfull : len ≤ acc.size
    · rw [if_pos hfull]
    · rw [if_neg hfull, Layout.locate_eq_none (h.resolve_left hfull)]
      rfl

theorem readInto_rounds_zero {len position : Nat} {acc : ByteArray}
    (hfuel : ∀ i n o, chunkAt nodes position = some (i, n, o) → acc.size < len →
      nodes.length < i + 0) :
    len ≤ acc.size ∨ totalSize nodes ≤ position := by
  cases hc : chunkAt nodes position with
  | none => exact .inr (chunkAt_eq_none_iff.1 hc)
  | some c =>
    obtain ⟨i, n, o⟩ := c
    have hi := chunkAt_index_lt_length hc
    exact .inl (Nat.le_of_not_lt fun hlt => by have := hfuel i n o hc hlt; omega)

/-- **One round of the positional read loop.** At a position inside chunk `(i, n, o)`, with
fewer than `len` bytes in hand, a round fetches the bytes of the chunk from the position on that
the buffer still takes (the chunk's rest, or as many as fit), gets the file's bytes there, and
leaves the rest to the next round, from the position past them. -/
theorem readInto_round (hserve : ∀ n ∈ nodes, t.ServesChunk inv content n) {len position : Nat}
    {acc : ByteArray} {i o : Nat} {n : Node} (hc : chunkAt nodes position = some (i, n, o))
    (hlt : acc.size < len) (fuel : Nat) {s : σ} (hs : inv s) :
    ∃ got items s₁,
      t.rangeFetch n (position - o) (position - o + got.size - 1) s = (.ok items, s₁) ∧ inv s₁ ∧
      got.size = min (n.size - (position - o)) (len - acc.size) ∧
      got.data.toList = ((fileBytes nodes content).drop position).take got.size ∧
      ChunkReader.readInto t (Layout.laidOut nodes) len (fuel + 1) position acc s =
        ChunkReader.readInto t (Layout.laidOut nodes) len fuel (position + got.size) (acc ++ got)
          s₁ := by
  have hcs : ∀ m ∈ nodes, (content m).length = m.size := fun m hm => (hserve m hm).size
  have hb := chunkAt_bounds hc
  generalize hwant : min (n.size - (position - o)) (len - acc.size) = want
  obtain ⟨items, s₁, hfetch, hs₁, hd⟩ := (hserve n (chunkAt_mem hc)).fetch
    (position - o) (position - o + want - 1) s hs (by omega) (by omega)
  -- the stream holds exactly the wanted bytes, so taking them cuts no piece
  have hlen : (((content n).drop (position - o)).take
      (position - o + want - 1 + 1 - (position - o))).length = want := by
    simp only [List.length_take, List.length_drop, hcs n (chunkAt_mem hc)]
    omega
  obtain ⟨got, hgot, hdata⟩ := collect_delivers n hd hlen
  have hgs : got.size = want := by
    rw [← ByteArray.size_data, ← Array.length_toList, hdata, hlen]
  refine ⟨got, items, s₁, by rw [hgs, hfetch], hs₁, hgs, ?_, ?_⟩
  · rw [hdata, hgs, show position - o + want - 1 + 1 - (position - o) = want by omega,
      take_drop_fileBytes hcs hc (by omega)]
  · rw [ChunkReader.readInto.eq_2, if_neg (by omega), Layout.locate_chunk hc]
    dsimp only
    rw [hwant, hfetch]
    dsimp only
    rw [hgot, hgs]

/-- A round that leaves the buffer short ends at its chunk's end, so the next position is in a
chunk of higher index and one round fewer still reaches the last chunk. -/
theorem readInto_rounds_next {len fuel position : Nat} {acc got : ByteArray} {i o : Nat}
    {n : Node} (hc : chunkAt nodes position = some (i, n, o))
    (hgs : got.size = min (n.size - (position - o)) (len - acc.size))
    (hfuel : ∀ i n o, chunkAt nodes position = some (i, n, o) → acc.size < len →
      nodes.length < i + (fuel + 1)) :
    ∀ i' n' o', chunkAt nodes (position + got.size) = some (i', n', o') →
      (acc ++ got).size < len → nodes.length < i' + fuel := by
  intro i' n' o' hc' hlt
  have hb := chunkAt_bounds hc
  rw [ByteArray.size_append] at hlt
  have := chunkAt_index_lt_of_le hc hc' (by omega)
  have := hfuel i n o hc (by omega)
  omega

/-- **The positional read loop reads the file.** From `position`, with the bytes `acc` already
in hand, the loop adds the file's bytes from `position` until `len` bytes are in hand or the file
ends, provided it has a round for each chunk left from the one holding `position` on. -/
theorem readInto_reads (hserve : ∀ n ∈ nodes, t.ServesChunk inv content n) (len : Nat) :
    ∀ (fuel position : Nat) (acc : ByteArray) (s : σ), inv s →
      (∀ i n o, chunkAt nodes position = some (i, n, o) → acc.size < len →
        nodes.length < i + fuel) →
      ∃ out s', ChunkReader.readInto t (Layout.laidOut nodes) len fuel position acc s =
          (.ok out, s') ∧ inv s' ∧
        out.data.toList =
          acc.data.toList ++ ((fileBytes nodes content).drop position).take (len - acc.size)
  | 0, position, acc, s, hs, hfuel => by
    refine ⟨acc, s, rfl, hs, ?_⟩
    -- out of rounds: either the buffer is full or the position is past the last chunk
    rcases readInto_rounds_zero hfuel with hfull | hend
    · simp [show len - acc.size = 0 by omega]
    · have hcs : ∀ m ∈ nodes, (content m).length = m.size := fun m hm => (hserve m hm).size
      rw [List.drop_eq_nil_of_le (by rw [length_fileBytes hcs]; exact hend)]
      simp
  | fuel + 1, position, acc, s, hs, hfuel => by
    have hcs : ∀ m ∈ nodes, (content m).length = m.size := fun m hm => (hserve m hm).size
    by_cases hfull : acc.size ≥ len
    · rw [readInto_stops (.inl hfull)]
      exact ⟨acc, s, rfl, hs, by simp [show len - acc.size = 0 by omega]⟩
    cases hc : chunkAt nodes position with
    | none =>
      have hend := chunkAt_eq_none_iff.1 hc
      refine ⟨acc, s, readInto_stops (.inr hend) _ s, hs, ?_⟩
      rw [List.drop_eq_nil_of_le (by rw [length_fileBytes hcs]; exact hend)]
      simp
    | some c =>
      obtain ⟨i, n, o⟩ := c
      obtain ⟨got, -, s₁, -, hs₁, hgs, hpiece, hround⟩ :=
        readInto_round hserve hc (show acc.size < len by omega) fuel hs
      obtain ⟨out, s₂, hrun, hs₂, hout⟩ := readInto_reads hserve len fuel (position + got.size)
        (acc ++ got) s₁ hs₁ (readInto_rounds_next hc hgs hfuel)
      refine ⟨out, s₂, hround.trans hrun, hs₂, ?_⟩
      -- the round's bytes, then the next rounds', are the bytes wanted from the position
      have hwant : got.size + (len - (acc.size + got.size)) = len - acc.size := by omega
      rw [hout, ByteArray.data_append, Array.toList_append, List.append_assoc, hpiece,
        ByteArray.size_append, ← List.drop_drop, ← List.take_add, hwant]

end ReadInto

/-! ## Positional reads agree with the cursor -/

theorem ChunkReader.readAt_closed {σ : Type} (t : Transport σ) {r : ChunkReader}
    (h : r.closed = true) (offset len : Nat) (s : σ) :
    r.readAt t offset len s = (.error .closed, s) := by
  simp [ChunkReader.readAt, h]

/-- **A positional read reads the file and agrees with the cursor.** Take chunks each served
exactly, in pieces of any size, and a reader over them at any position, with anything in flight.
Closed, it refuses to read. Open, reading `len` bytes at offset `o` hands out
`min len (size - o)` bytes (none from the end of the file on), the file's bytes from `o`; when
the reader follows the file, they are the first bytes that seeking to `o` and reading to the end
through the cursor hands out. The positional read returns no reader, so the reader's position and
what it holds in flight stay as they were. -/
theorem readAt_agrees_with_cursor {σ : Type} (t : Transport σ) {inv : σ → Prop}
    (nodes : List Node) (content : Node → List UInt8)
    (hserve : ∀ n ∈ nodes, t.ServesChunk inv content n) (r : ChunkReader)
    (hlayout : r.layout = Layout.laidOut nodes) (o len : Nat) (s : σ) (hs : inv s) :
    (r.closed = true → r.readAt t o len s = (.error .closed, s)) ∧
    (r.closed = false → ∃ out s', r.readAt t o len s = (.ok out, s') ∧ inv s' ∧
      out.size = min len (totalSize nodes - o) ∧
      out.data.toList = ((fileBytes nodes content).drop o).take out.size ∧
      (r.state.Streams nodes content r.position → o < wordRange →
        ∃ r', r.seek (.start o) = .ok (o, r') ∧
          ∀ (fuel : Nat) (s₁ : σ), inv s₁ → totalSize nodes - o < fuel →
            ∃ all r'' s₂, Cli.readToEnd t fuel r' s₁ .empty = (all, none, r'', s₂) ∧
              out.data.toList = all.data.toList.take out.size)) := by
  refine ⟨fun h => ChunkReader.readAt_closed t h o len s, fun hopen => ?_⟩
  have hcs : ∀ m ∈ nodes, (content m).length = m.size := fun m hm => (hserve m hm).size
  -- one round for each chunk and one more is enough from any offset
  have hrounds : ∀ i n o', chunkAt nodes o = some (i, n, o') → ByteArray.empty.size < len →
      nodes.length < i + (r.layout.nodes.size + 1) := by
    intro i n o' hc _
    simp [hlayout, Layout.laidOut]
    omega
  obtain ⟨out, s', hrun, hs', hout⟩ :=
    readInto_reads hserve len (r.layout.nodes.size + 1) o .empty s hs (hlayout ▸ hrounds)
  simp only [ByteArray.data_empty, Array.toList_empty, List.nil_append, ByteArray.size_empty,
    Nat.sub_zero] at hout
  have hsize : out.size = min len (totalSize nodes - o) := by
    rw [← ByteArray.size_data, ← Array.length_toList, hout, List.length_take, List.length_drop,
      length_fileBytes hcs]
  refine ⟨out, s', ?_, hs', hsize, ?_, ?_⟩
  · simp only [ChunkReader.readAt, hopen, Bool.false_eq_true, if_false]
    rw [hlayout] at hrun ⊢
    exact hrun
  · rw [hout, List.take_eq_take_iff, List.length_drop, hsize, length_fileBytes hcs]
    omega
  · intro hstreams ho
    have hr : r.Follows nodes content := ⟨hlayout, hopen, hstreams⟩
    obtain ⟨r', hseek, hpos, hr', -⟩ :=
      seek_follows hr (.start o) (by simp [SeekFrom.resolve])
        (by simpa [SeekFrom.resolve] using ho)
    simp only [SeekFrom.resolve, Int.toNat_natCast] at hseek hpos
    refine ⟨r', hseek, fun fuel s₁ hs₁ hfuel => ?_⟩
    obtain ⟨all, r'', s₂, hend, hall⟩ :=
      readToEnd_follows hserve fuel .empty hr' hs₁ (by rw [hpos]; exact hfuel)
    refine ⟨all, r'', s₂, hend, ?_⟩
    rw [hall, hpos, hout, hsize]
    simp [length_fileBytes hcs]

/-- A positional read of four bytes from the third byte of a file of three chunks, the middle
one empty, held by the memory origin: three bytes are left to read. -/
theorem readAt_agrees_with_cursor_memory :
    let nodes : List Node :=
      [⟨"a", 3, 1, 0, 0, ""⟩, ⟨"b", 0, 2, 0, 0, ""⟩, ⟨"c", 2, 3, 0, 0, ""⟩]
    let content : Node → List UInt8 := fun n =>
      if n.messageId = 1 then [1, 2, 3] else if n.messageId = 3 then [4, 5] else []
    let msgs : Array StoredMessage := #[{ id := 1, channel := "1", data := ⟨#[1, 2, 3]⟩ },
      { id := 2, channel := "1", data := .empty }, { id := 3, channel := "1", data := ⟨#[4, 5]⟩ }]
    let r : ChunkReader :=
      { layout := Layout.laidOut nodes, position := 1, state := .idle, closed := false }
    let s : MemoryOrigin := { messages := msgs }
    (∀ n ∈ nodes, MemoryOrigin.transport.ServesChunk (MemoryOrigin.Holding msgs) content n) ∧
    MemoryOrigin.Holding msgs s ∧
    (r.closed = true → r.readAt MemoryOrigin.transport 2 4 s = (.error .closed, s)) ∧
    (r.closed = false → ∃ out s', r.readAt MemoryOrigin.transport 2 4 s = (.ok out, s') ∧
      MemoryOrigin.Holding msgs s' ∧ out.size = min 4 (totalSize nodes - 2) ∧
      out.data.toList = ((fileBytes nodes content).drop 2).take out.size ∧
      (r.state.Streams nodes content r.position → 2 < wordRange →
        ∃ r', r.seek (.start 2) = .ok (2, r') ∧
          ∀ (fuel : Nat) (s₁ : MemoryOrigin), MemoryOrigin.Holding msgs s₁ →
            totalSize nodes - 2 < fuel →
            ∃ all r'' s₂, Cli.readToEnd MemoryOrigin.transport fuel r' s₁ .empty =
                (all, none, r'', s₂) ∧
              out.data.toList = all.data.toList.take out.size)) := by
  intro nodes content msgs r s
  have hserve : ∀ n ∈ nodes,
      MemoryOrigin.transport.ServesChunk (MemoryOrigin.Holding msgs) content n := by
    intro n hn
    simp only [nodes, List.mem_cons, List.not_mem_nil, or_false] at hn
    rcases hn with rfl | rfl | rfl <;> exact MemoryOrigin.servesChunk rfl rfl rfl rfl rfl rfl
  have hs : MemoryOrigin.Holding msgs s := ⟨rfl, rfl, rfl⟩
  exact ⟨hserve, hs,
    readAt_agrees_with_cursor MemoryOrigin.transport nodes content hserve r rfl 2 4 s hs⟩

end ChunkStore
