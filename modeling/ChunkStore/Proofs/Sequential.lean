import ChunkStore.Proofs.Chunking
/-!
# The sequential writer

The sequential writer uploads chunk after chunk as the bytes come. After taking the bytes `B`
it has uploaded the full `k`-byte pieces of `B`, in order, each delivered with its sequence
number, and buffers the rest (`SequentialWriter.Took`); closing uploads the rest when there is
any. The relation names only the bytes taken, so every split of the same bytes into writes, and
copying them in pieces, leaves the writer with the same deliveries and the transport in the same
state.

The accumulator both writers share is described by `Accumulator.Holds`: `sequence` chunks have
been handed out and the buffer holds the bytes after them, never more than a chunk.
-/

namespace ChunkStore

namespace Accumulator

variable {a : Accumulator} {k : Nat} {B : List UInt8}

/-- The accumulator after taking the bytes `B` in chunks of `k`: `sequence` chunks have been
handed out, and the buffer holds the bytes after them, at most a chunk. -/
structure Holds (a : Accumulator) (k : Nat) (B : List UInt8) : Prop where
  chunkSize : a.chunkSize = k
  pos : 0 < k
  handedOut : k * a.sequence ≤ B.length
  atMostChunk : B.length ≤ k * a.sequence + k
  buffer : a.buffer.data.toList = B.drop (k * a.sequence)
  written : a.written = B.length

theorem holds_new (C : Nat) : (new C).Holds (max C 1) [] where
  chunkSize := rfl
  pos := by omega
  handedOut := by simp [new]
  atMostChunk := by simp [new]
  buffer := by simp [new]
  written := rfl

theorem Holds.size_buffer (h : a.Holds k B) : a.buffer.size = B.length - k * a.sequence := by
  simpa using congrArg List.length h.buffer

theorem Holds.size_le (h : a.Holds k B) : a.buffer.size ≤ k := by
  have := h.atMostChunk
  rw [h.size_buffer]
  omega

theorem Holds.isFull_iff (h : a.Holds k B) : a.isFull = true ↔ a.buffer.size = k := by
  have := h.size_le
  simp only [isFull, h.chunkSize, decide_eq_true_eq]
  omega

theorem Holds.size_lt_of_not_full (h : a.Holds k B) (hfull : ¬a.isFull = true) :
    a.buffer.size < k := by
  have := h.size_le
  have := mt h.isFull_iff.2 hfull
  omega

theorem Holds.sequence_eq (h : a.Holds k B) (hlt : a.buffer.size < k) :
    a.sequence = B.length / k := by
  rw [h.size_buffer] at hlt
  have hsucc : (a.sequence + 1) * k = k * a.sequence + k := by
    rw [Nat.succ_mul, Nat.mul_comm]
  symm
  apply Nat.div_eq_of_lt_le
  · rw [Nat.mul_comm]
    exact h.handedOut
  · have := h.handedOut
    omega

theorem fill_fst (a : Accumulator) (d : ByteArray) (start : Nat) :
    (a.fill d start).1 = min (a.chunkSize - a.buffer.size) (d.size - start) := rfl

@[simp] theorem fill_chunkSize (a : Accumulator) (d : ByteArray) (start : Nat) :
    (a.fill d start).2.chunkSize = a.chunkSize := rfl

@[simp] theorem fill_sequence (a : Accumulator) (d : ByteArray) (start : Nat) :
    (a.fill d start).2.sequence = a.sequence := rfl

theorem fill_buffer (a : Accumulator) (d : ByteArray) (start : Nat) :
    (a.fill d start).2.buffer = a.buffer ++ d.extract start (start + (a.fill d start).1) := rfl

theorem fill_written (a : Accumulator) (d : ByteArray) (start : Nat) :
    (a.fill d start).2.written = a.written + (a.fill d start).1 := rfl

theorem Holds.fill (h : a.Holds k B) (d : ByteArray) (start : Nat) :
    (a.fill d start).2.Holds k (B ++ (d.data.toList.drop start).take (a.fill d start).1) := by
  have hsize := h.size_buffer
  have hmin := Nat.min_le_left (k - a.buffer.size) (d.size - start)
  have hlen : ((d.data.toList.drop start).take (a.fill d start).1).length =
      (a.fill d start).1 := by
    simp only [fill_fst, h.chunkSize, List.length_take, List.length_drop, Array.length_toList,
      ByteArray.size_data]
    omega
  have hfst : (a.fill d start).1 ≤ k - a.buffer.size := by
    rw [fill_fst, h.chunkSize]
    exact hmin
  refine ⟨by simp [h.chunkSize], h.pos, ?_, ?_, ?_, ?_⟩
  · simp only [fill_sequence, List.length_append]
    have := h.handedOut
    omega
  · simp only [fill_sequence, List.length_append, hlen]
    have := h.handedOut
    have := h.atMostChunk
    omega
  · simp only [fill_buffer, fill_sequence, ByteArray.data_append, Array.toList_append, h.buffer,
      ByteArray.data_extract, Array.toList_extract, List.extract_eq_take_drop,
      Nat.add_sub_cancel_left, List.drop_append_of_le_length h.handedOut]
  · simp only [fill_written, h.written, List.length_append, hlen]

/-- Filling from `start`, short of the end of `d`, takes at least one byte, and the accumulator
then took `d` up to where the filling stopped; the chunks handed out are the same pieces. -/
theorem Holds.fill_from {d : ByteArray} {start : Nat}
    (h : a.Holds k (B ++ d.data.toList.take start)) (hlt : a.buffer.size < k)
    (hs : start < d.size) :
    0 < (a.fill d start).1 ∧
      (a.fill d start).2.Holds k (B ++ d.data.toList.take (start + (a.fill d start).1)) ∧
      jobs k (B ++ d.data.toList.take (start + (a.fill d start).1)) a.sequence =
        jobs k (B ++ d.data.toList.take start) a.sequence := by
  have hbytes :
      B ++ d.data.toList.take start ++ (d.data.toList.drop start).take (a.fill d start).1 =
        B ++ d.data.toList.take (start + (a.fill d start).1) := by
    rw [List.append_assoc, List.take_add]
  refine ⟨?_, hbytes ▸ h.fill d start, ?_⟩
  · rw [fill_fst, h.chunkSize]
    omega
  · rw [← hbytes, jobs_append_of_le _ h.handedOut]

theorem Holds.take_eq (h : a.Holds k B) (hne : a.buffer.size ≠ 0) :
    a.take = (some (a.sequence, (piece k B a.sequence).toByteArray),
      { a with buffer := .empty, sequence := a.sequence + 1 }) := by
  have hpiece : a.buffer = (piece k B a.sequence).toByteArray := by
    apply ByteArray.ext
    apply Array.toList_inj.1
    have hle : (B.drop (k * a.sequence)).length ≤ k := by
      have := h.atMostChunk
      simp only [List.length_drop]
      omega
    simp [h.buffer, piece, List.take_of_length_le hle]
  simp [take, hne, ← hpiece]

theorem Holds.take_full (h : a.Holds k B) (hfull : a.buffer.size = k) :
    ({ a with buffer := .empty, sequence := a.sequence + 1 } : Accumulator).Holds k B := by
  have hsize := h.size_buffer
  have hlen : B.length = k * a.sequence + k := by
    have := h.handedOut
    omega
  refine ⟨h.chunkSize, h.pos, ?_, ?_, ?_, h.written⟩
  · simp [Nat.mul_succ, hlen]
  · simp [Nat.mul_succ, hlen]
  · simp [Nat.mul_succ, hlen, List.drop_of_length_le]

theorem take_of_empty (h0 : a.buffer.size = 0) : a.take = (none, a) := by
  simp [take, h0]

end Accumulator

namespace SequentialWriter

variable {σ : Type} {t : Transport σ} {inv : σ → Prop} {s₀ : σ} {k : Nat} {B : List UInt8}
  {w : SequentialWriter} {s : σ}

/-- The sequential writer after taking the bytes `B`, started from transport state `s₀`: open,
holding less than a chunk, and every chunk handed out uploaded and delivered in order. -/
structure Took (w : SequentialWriter) (t : Transport σ) (s₀ : σ) (k : Nat) (B : List UInt8)
    (s : σ) : Prop where
  chunks : w.chunks.Holds k B
  roomLeft : w.chunks.buffer.size < k
  isOpen : w.closed = false
  sent : (w.sent, s) = uploadJobs t (jobs k B w.chunks.sequence) (#[], s₀)

theorem took_new (t : Transport σ) (C : Nat) (s₀ : σ) : (new C).Took t s₀ (max C 1) [] s₀ where
  chunks := Accumulator.holds_new C
  roomLeft := by
    simp only [new, Accumulator.new, ByteArray.size_empty]
    omega
  isOpen := rfl
  sent := by simp [new, Accumulator.new, jobs]

/-- Flushing a buffer that is not empty uploads it as the next piece and delivers it. -/
theorem flush_uploads (ht : t.UploadsSucceed inv) (hs : inv s) (hc : w.chunks.Holds k B)
    (hne : w.chunks.buffer.size ≠ 0)
    (hsent : (w.sent, s) = uploadJobs t (jobs k B w.chunks.sequence) (#[], s₀)) :
    ∃ w' s', flush t w s = (.ok (), w', s') ∧
      w'.chunks = { w.chunks with buffer := .empty, sequence := w.chunks.sequence + 1 } ∧
      w'.closed = w.closed ∧
      (w'.sent, s') = uploadJobs t (jobs k B (w.chunks.sequence + 1)) (#[], s₀) ∧ inv s' := by
  obtain ⟨node, s', hup, hs'⟩ := ht (piece k B w.chunks.sequence).toByteArray s hs
  refine ⟨{ w with
      chunks := { w.chunks with buffer := .empty, sequence := w.chunks.sequence + 1 }
      sent := w.sent.push ⟨w.chunks.sequence, node⟩ }, s',
    by simp [flush, hc.take_eq hne, hup], rfl, rfl, ?_, hs'⟩
  rw [jobs_succ, uploadJobs_append, ← hsent]
  simp [uploadJobs, uploadJob, hup]

/-- Filling and flushing from `start` takes the rest of `d`, given fuel for every byte left. -/
theorem pump_took (ht : t.UploadsSucceed inv) (d : ByteArray) :
    ∀ (fuel start : Nat) {w s}, d.size - start < fuel →
      w.Took t s₀ k (B ++ d.data.toList.take start) s → inv s →
      ∃ w' s', pump t d fuel start w s = (.ok (), w', s') ∧
        w'.Took t s₀ k (B ++ d.data.toList) s' ∧ inv s'
  | 0, _, _, _, hfuel, _, _ => absurd hfuel (Nat.not_lt_zero _)
  | fuel + 1, start, w, s, hfuel, h, hs => by
    by_cases hend : start ≥ d.size
    · refine ⟨w, s, by simp [pump, hend], ?_, hs⟩
      rwa [List.take_of_length_le (by simpa using hend)] at h
    · -- fill up the chunk from `start`: `n` bytes fit, and the accumulator becomes `c`
      obtain ⟨hpos, hc, hjobs⟩ := h.chunks.fill_from h.roomLeft (Nat.lt_of_not_ge hend)
      have hsent := h.sent
      rw [← hjobs, ← Accumulator.fill_sequence w.chunks d start] at hsent
      simp only [pump, hend, if_false]
      generalize w.chunks.fill d start = fc at hpos hc hsent
      obtain ⟨n, c⟩ := fc
      dsimp only at hpos hc hsent ⊢
      have hfuel' : d.size - (start + n) < fuel := by omega
      by_cases hfull : c.isFull
      · -- the chunk is full: upload it, then go on
        obtain ⟨w₁, s₁, hflush, hchunks, hclosed, hsent₁, hs₁⟩ :=
          flush_uploads (w := { w with chunks := c }) ht hs hc
            (show c.buffer.size ≠ 0 by have := hc.pos; rw [hc.isFull_iff.1 hfull]; omega) hsent
        have h₁ : w₁.Took t s₀ k (B ++ d.data.toList.take (start + n)) s₁ :=
          ⟨hchunks ▸ hc.take_full (hc.isFull_iff.1 hfull), by simp [hchunks, hc.pos],
            hclosed.trans h.isOpen, by rw [hchunks]; exact hsent₁⟩
        obtain ⟨w₂, s₂, hpump, h₂, hs₂⟩ := pump_took ht d fuel (start + n) hfuel' h₁ hs₁
        exact ⟨w₂, s₂, by simp [hfull, hflush, hpump], h₂, hs₂⟩
      · -- room is left in the chunk: go on with it
        have h₁ : ({ w with chunks := c } : SequentialWriter).Took t s₀ k
            (B ++ d.data.toList.take (start + n)) s :=
          ⟨hc, hc.size_lt_of_not_full hfull, h.isOpen, hsent⟩
        obtain ⟨w₂, s₂, hpump, h₂, hs₂⟩ := pump_took ht d fuel (start + n) hfuel' h₁ hs
        exact ⟨w₂, s₂, by simp [hfull, hpump], h₂, hs₂⟩

theorem write_took (ht : t.UploadsSucceed inv) (h : w.Took t s₀ k B s) (hs : inv s)
    (d : ByteArray) :
    ∃ w' s', write t w d s = (.ok d.size, w', s') ∧ w'.Took t s₀ k (B ++ d.data.toList) s' ∧
      inv s' := by
  obtain ⟨w', s', hpump, h', hs'⟩ :=
    pump_took ht d (d.size + 1) 0 (Nat.lt_succ_of_le (Nat.sub_le _ _)) (by simpa using h) hs
  exact ⟨w', s', by simp [write, h.isOpen, hpump], h', hs'⟩

/-- Closing uploads the rest as the last piece, if there is a rest. -/
theorem close_uploads_rest (ht : t.UploadsSucceed inv) (h : w.Took t s₀ k B s) (hs : inv s) :
    ∃ w' s', close t w s = (.ok (), w', s') ∧
      (w'.sent, s') = uploadJobs t (jobs k B (chunkCount k B.length)) (#[], s₀) ∧
      w'.chunks.written = B.length ∧ w'.closed = true ∧ inv s' := by
  have hseq := h.chunks.sequence_eq h.roomLeft
  have hsize := h.chunks.size_buffer
  have hdiv := Nat.div_add_mod B.length k
  rw [hseq] at hsize
  by_cases h0 : w.chunks.buffer.size = 0
  · -- nothing is left: the full pieces are all the pieces
    have hcount : chunkCount k B.length = w.chunks.sequence := by
      rw [chunkCount_eq h.chunks.pos, hseq, if_pos (by omega), Nat.add_zero]
    refine ⟨{ w with closed := true }, s, ?_, ?_, h.chunks.written, rfl, hs⟩
    · simp [close, h.isOpen, flush, Accumulator.take_of_empty h0]
    · rw [hcount]
      exact h.sent
  · -- the rest is one more, shorter, piece
    have hcount : chunkCount k B.length = w.chunks.sequence + 1 := by
      rw [chunkCount_eq h.chunks.pos, hseq, if_neg (by omega)]
    obtain ⟨w₁, s₁, hflush, hchunks, _, hsent₁, hs₁⟩ := flush_uploads ht hs h.chunks h0 h.sent
    refine ⟨{ w₁ with closed := true }, s₁, by simp [close, h.isOpen, hflush], ?_, ?_, rfl, hs₁⟩
    · rw [hcount]
      exact hsent₁
    · simp [hchunks, h.chunks.written]

end SequentialWriter

theorem sequential_write_step {σ : Type} {t : Transport σ} {inv : σ → Prop} {s₀ : σ} {k : Nat}
    (ht : t.UploadsSucceed inv) (B : List UInt8) (cw : ChunkWriter) (s : σ) (d : ByteArray)
    (h : ∃ w, cw = .sequential w ∧ w.Took t s₀ k B s ∧ inv s) :
    ∃ cw' s', cw.write t d s = (.ok d.size, cw', s') ∧
      ∃ w', cw' = .sequential w' ∧ w'.Took t s₀ k (B ++ d.data.toList) s' ∧ inv s' := by
  obtain ⟨w, rfl, hw, hs⟩ := h
  obtain ⟨w', s', hwrite, hw', hs'⟩ := SequentialWriter.write_took ht hw hs d
  exact ⟨.sequential w', s', by simp [ChunkWriter.write, hwrite], w', rfl, hw', hs'⟩

/-- A script that takes `D` into a new writer, then closing it, uploads the pieces of `D`, in
order. -/
theorem SequentialWriter.run_delivers {σ : Type} {t : Transport σ} {inv : σ → Prop}
    (ht : t.UploadsSucceed inv) (C : Nat) {s₀ : σ} (h₀ : inv s₀) {α : Type}
    {script : ChunkWriter → σ → α × ChunkWriter × σ} {res : α} {D : List UInt8}
    (hscript : ScriptTakes t script res D) :
    ∃ w s, script (.sequential (.new C)) s₀ = (res, .sequential w, s) ∧
      ∃ w' s', w.close t s = (.ok (), w', s') ∧
        (w'.sent, s') = uploadJobs t (jobs (max C 1) D (chunkCount (max C 1) D.length)) (#[], s₀) := by
  obtain ⟨cw, s, hrun, w, rfl, hw, hs⟩ := hscript
    (fun B cw s => ∃ w, cw = .sequential w ∧ w.Took t s₀ (max C 1) B s ∧ inv s) _ _
    (sequential_write_step ht) ⟨_, rfl, SequentialWriter.took_new t C s₀, h₀⟩
  obtain ⟨w', s', hclose, hsent, -⟩ := SequentialWriter.close_uploads_rest ht hw hs
  exact ⟨w, s, hrun, w', s', hclose, hsent⟩

/-- **The sequential writer uploads the consecutive pieces of what it is given, in order.**
Every script of writes is told that each write took all its bytes, and so is a copy of a byte
array with fuel for its pieces; the writer has then taken their concatenation. A writer that
took `D` has uploaded the full pieces of `D` (of the chunk size, at least one byte), in order,
each delivered with its sequence number and the record the transport returned for it, and
counts `D`'s length as written; closing it uploads the rest as one more, shorter, piece. The
deliveries and the transport's state are those of uploading exactly those pieces in that
order, whatever the split into writes. -/
theorem sequential_writer_uploads_pieces {σ : Type} (t : Transport σ) {inv : σ → Prop}
    (ht : t.UploadsSucceed inv) (C : Nat) (s₀ : σ) (h₀ : inv s₀) :
    (∀ ds : List ByteArray, ∃ w s,
        ChunkWriter.writeAll t ds (.sequential (.new C)) s₀ =
          (ds.map fun d => .ok d.size, .sequential w, s) ∧
        w.Took t s₀ (max C 1) (ds.map (·.data.toList)).flatten s ∧ inv s) ∧
    (∀ (data : ByteArray) (fuel : Nat), data.size ≤ ChunkWriter.copyBufferSize * fuel →
      ∃ w s, ChunkWriter.copyFrom t data fuel 0 (.sequential (.new C)) s₀ =
          (.ok data.size, .sequential w, s) ∧
        w.Took t s₀ (max C 1) data.data.toList s ∧ inv s) ∧
    (∀ D w s, w.Took t s₀ (max C 1) D s → inv s →
      (w.sent, s) = uploadJobs t (jobs (max C 1) D (D.length / max C 1)) (#[], s₀) ∧
      (ChunkWriter.sequential w).bytesWritten = D.length ∧
      ∃ w' s', w.close t s = (.ok (), w', s') ∧
        (w'.sent, s') =
          uploadJobs t (jobs (max C 1) D (chunkCount (max C 1) D.length)) (#[], s₀)) := by
  have hnew : ∃ w, ChunkWriter.sequential (.new C) = .sequential w ∧
      w.Took t s₀ (max C 1) [] s₀ ∧ inv s₀ :=
    ⟨_, rfl, SequentialWriter.took_new t C s₀, h₀⟩
  refine ⟨fun ds => ?_, fun data fuel hfuel => ?_, fun D w s h hs => ?_⟩
  · obtain ⟨cw, s, hrun, w, rfl, hw, hs⟩ :=
      writeAll_of_step (sequential_write_step ht) ds hnew
    exact ⟨w, s, hrun, by simpa using hw, hs⟩
  · obtain ⟨cw, s, hrun, w, rfl, hw, hs⟩ :=
      copyFrom_of_step (sequential_write_step ht) data fuel 0 (Nat.zero_le _)
        (by simpa using hfuel) hnew
    exact ⟨w, s, hrun, by simpa using hw, hs⟩
  · obtain ⟨w', s', hclose, hsent, -, -, -⟩ := SequentialWriter.close_uploads_rest ht h hs
    refine ⟨?_, h.chunks.written, w', s', hclose, hsent⟩
    rw [← h.chunks.sequence_eq h.roomLeft]
    exact h.sent

/-- The memory origin with no failing uploads, chunks of four bytes. -/
theorem sequential_writer_uploads_pieces_memory :
    MemoryOrigin.transport.UploadsSucceed (fun o => o.failOn = [] ∧ o.panicOn = []) ∧
      (({} : MemoryOrigin).failOn = [] ∧ ({} : MemoryOrigin).panicOn = []) ∧
      ((∀ ds : List ByteArray, ∃ w s,
        ChunkWriter.writeAll MemoryOrigin.transport ds (.sequential (.new 4)) {} =
          (ds.map fun d => .ok d.size, .sequential w, s) ∧
        w.Took MemoryOrigin.transport {} (max 4 1) (ds.map (·.data.toList)).flatten s ∧
        (s.failOn = [] ∧ s.panicOn = [])) ∧
      (∀ (data : ByteArray) (fuel : Nat), data.size ≤ ChunkWriter.copyBufferSize * fuel →
        ∃ w s, ChunkWriter.copyFrom MemoryOrigin.transport data fuel 0 (.sequential (.new 4)) {} =
            (.ok data.size, .sequential w, s) ∧
          w.Took MemoryOrigin.transport {} (max 4 1) data.data.toList s ∧
          (s.failOn = [] ∧ s.panicOn = [])) ∧
      (∀ D w s, w.Took MemoryOrigin.transport {} (max 4 1) D s → (s.failOn = [] ∧ s.panicOn = []) →
        (w.sent, s) = uploadJobs MemoryOrigin.transport (jobs (max 4 1) D (D.length / max 4 1))
          (#[], {}) ∧
        (ChunkWriter.sequential w).bytesWritten = D.length ∧
        ∃ w' s', w.close MemoryOrigin.transport s = (.ok (), w', s') ∧
          (w'.sent, s') = uploadJobs MemoryOrigin.transport
            (jobs (max 4 1) D (chunkCount (max 4 1) D.length)) (#[], {}))) :=
  ⟨MemoryOrigin.uploadsSucceed, ⟨rfl, rfl⟩,
    sequential_writer_uploads_pieces MemoryOrigin.transport MemoryOrigin.uploadsSucceed 4 {}
      ⟨rfl, rfl⟩⟩

end ChunkStore
