import ChunkStore.Storage.Writer
import ChunkStore.Storage.Memory
/-!
# Cutting a byte stream into chunks

What a writer is meant to upload, stated without the writer: the bytes `D` written to a file are
cut into consecutive pieces of `k` bytes, the last one shorter when `k` does not divide the
length, and piece `i` is uploaded with sequence number `i` (`jobs`). Uploading a list of such
jobs one after another is `uploadJobs`; a writer refines it when its deliveries and the
transport's state are what `uploadJobs` gives for its jobs, in some order.

A script of writes is `ChunkWriter.writeAll`; `writeAll_of_step` and `copyFrom_of_step` turn a
lemma about one write into one about every split of the bytes into writes.
-/

namespace ChunkStore

/-! ## Pieces -/

/-- Piece `i` of `D` cut into pieces of `k` bytes. -/
def piece (k : Nat) (D : List UInt8) (i : Nat) : List UInt8 := (D.drop (k * i)).take k

/-- How many pieces of `k` bytes hold `n` bytes, the last one possibly shorter. -/
def chunkCount (k n : Nat) : Nat := (n + k - 1) / k

/-- The first `n` pieces of `D` as uploads, each with its sequence number. -/
def jobs (k : Nat) (D : List UInt8) (n : Nat) : List (Nat × ByteArray) :=
  (List.range n).map fun i => (i, (piece k D i).toByteArray)

@[simp] theorem length_piece (k : Nat) (D : List UInt8) (i : Nat) :
    (piece k D i).length = min k (D.length - k * i) := by
  simp [piece]

theorem piece_append_of_le {k i : Nat} {B : List UInt8} (E : List UInt8)
    (h : k * (i + 1) ≤ B.length) : piece k (B ++ E) i = piece k B i := by
  have hi : k * i ≤ B.length := Nat.le_trans (Nat.mul_le_mul_left k (Nat.le_succ i)) h
  have hk : k ≤ (B.drop (k * i)).length := by
    rw [List.length_drop, Nat.mul_succ] at *
    omega
  simp only [piece, List.drop_append_of_le_length hi, List.take_append_of_le_length hk]

theorem jobs_append_of_le {k n : Nat} {B : List UInt8} (E : List UInt8)
    (h : k * n ≤ B.length) : jobs k (B ++ E) n = jobs k B n := by
  refine List.map_congr_left fun i hi => ?_
  have hi : i + 1 ≤ n := List.mem_range.1 hi
  rw [piece_append_of_le E (Nat.le_trans (Nat.mul_le_mul_left k hi) h)]

theorem jobs_succ (k : Nat) (D : List UInt8) (n : Nat) :
    jobs k D (n + 1) = jobs k D n ++ [(n, (piece k D n).toByteArray)] := by
  simp [jobs, List.range_succ]

theorem mem_jobs {k : Nat} {D : List UInt8} {n i : Nat} {d : ByteArray} :
    (i, d) ∈ jobs k D n ↔ i < n ∧ (piece k D i).toByteArray = d := by
  simp only [jobs, List.mem_map, List.mem_range, Prod.mk.injEq]
  constructor
  · rintro ⟨a, ha, rfl, rfl⟩
    exact ⟨ha, rfl⟩
  · rintro ⟨hi, rfl⟩
    exact ⟨i, hi, rfl, rfl⟩

theorem flatten_pieces (k : Nat) (D : List UInt8) (n : Nat) :
    ((List.range n).map (piece k D)).flatten = D.take (k * n) := by
  induction n with
  | zero => simp
  | succ n ih =>
    rw [List.range_succ, List.map_append, List.flatten_append, ih, Nat.mul_succ]
    simp [piece, List.take_add]

theorem flatten_chunks {k : Nat} (hk : 0 < k) (D : List UInt8) :
    ((List.range (chunkCount k D.length)).map (piece k D)).flatten = D := by
  have hcover : D.length ≤ k * chunkCount k D.length := by
    have := Nat.div_add_mod (D.length + k - 1) k
    have := Nat.mod_lt (D.length + k - 1) hk
    simp only [chunkCount]
    omega
  rw [flatten_pieces, List.take_of_length_le hcover]

/-- Either the pieces are all full, or one shorter piece follows the full ones. -/
theorem chunkCount_eq {k : Nat} (hk : 0 < k) (n : Nat) :
    chunkCount k n = n / k + if n % k = 0 then 0 else 1 := by
  have hsplit : n + k - 1 = (n % k + k - 1) + k * (n / k) := by
    have := Nat.div_add_mod n k
    omega
  have hr := Nat.mod_lt n hk
  rw [chunkCount, hsplit, Nat.add_mul_div_left _ _ hk, Nat.add_comm]
  congr 1
  split
  · -- only the full pieces
    rename_i h0
    rw [h0, Nat.zero_add]
    exact Nat.div_eq_of_lt (by omega)
  · -- one shorter piece after them
    exact Nat.div_eq_of_lt_le (by omega) (by omega)

/-! ## Uploading jobs -/

/-- Upload one job's payload; if it is stored, its record is delivered with the job's sequence
number. -/
def uploadJob (t : Transport σ) (acc : Array ChunkUpload × σ) (j : Nat × ByteArray) :
    Array ChunkUpload × σ :=
  match t.upload j.2 acc.2 with
  | (.ok node, s) => (acc.1.push ⟨j.1, node⟩, s)
  | (_, s) => (acc.1, s)

/-- Upload jobs one after another. -/
def uploadJobs (t : Transport σ) (js : List (Nat × ByteArray)) (acc : Array ChunkUpload × σ) :
    Array ChunkUpload × σ :=
  js.foldl (uploadJob t) acc

/-- From every state satisfying `inv`, an upload stores its payload and leads to a state
satisfying `inv`. -/
def Transport.UploadsSucceed (t : Transport σ) (inv : σ → Prop) : Prop :=
  ∀ d s, inv s → ∃ node s', t.upload d s = (.ok node, s') ∧ inv s'

theorem MemoryOrigin.uploadsSucceed :
    MemoryOrigin.transport.UploadsSucceed fun o => o.failOn = [] ∧ o.panicOn = [] := by
  rintro d o ⟨hfail, hpanic⟩
  simp only [MemoryOrigin.transport, MemoryOrigin.upload, hfail, hpanic, List.contains_nil,
    Bool.false_eq_true, if_false]
  exact ⟨_, _, rfl, rfl, rfl⟩

@[simp] theorem uploadJobs_nil (t : Transport σ) (acc : Array ChunkUpload × σ) :
    uploadJobs t [] acc = acc := rfl

theorem uploadJobs_append (t : Transport σ) (js js' : List (Nat × ByteArray))
    (acc : Array ChunkUpload × σ) :
    uploadJobs t (js ++ js') acc = uploadJobs t js' (uploadJobs t js acc) := by
  simp [uploadJobs]

theorem uploadJobs_sequences {t : Transport σ} {inv : σ → Prop} (ht : t.UploadsSucceed inv) :
    ∀ (js : List (Nat × ByteArray)) (acc : Array ChunkUpload × σ), inv acc.2 →
      (uploadJobs t js acc).1.toList.map (·.sequence) =
        acc.1.toList.map (·.sequence) ++ js.map (·.1)
  | [], _, _ => by simp
  | (i, d) :: js, (sent, s), h => by
    obtain ⟨node, s', hup, hs'⟩ := ht d s h
    have hjob : uploadJob t (sent, s) (i, d) = (sent.push ⟨i, node⟩, s') := by
      simp [uploadJob, hup]
    have hrest := uploadJobs_sequences ht js (sent.push ⟨i, node⟩, s') hs'
    simp only [uploadJobs, List.foldl_cons, hjob] at hrest ⊢
    simp [hrest]

@[simp] theorem map_fst_jobs (k : Nat) (D : List UInt8) (n : Nat) :
    (jobs k D n).map (·.1) = List.range n := by
  simp [jobs, Function.comp_def]

/-! ## Scripts of writes -/

/-- Write each piece in turn, stopping at the first write that does not succeed: what each write
returned, and the writer and the transport's state after. -/
def ChunkWriter.writeAll (t : Transport σ) : List ByteArray → ChunkWriter → σ →
    List (Outcome Nat) × ChunkWriter × σ
  | [], w, s => ([], w, s)
  | d :: ds, w, s =>
    match w.write t d s with
    | (.ok n, w, s) =>
      let (outs, w, s) := writeAll t ds w s
      (.ok n :: outs, w, s)
    | (out, w, s) => ([out], w, s)

section Scripts

variable {t : Transport σ} {I : List UInt8 → ChunkWriter → σ → Prop}

/-- A writer relation `I` between the bytes taken so far and the writer, kept by every write
(which takes all its bytes), is kept by every script: each write is told all its bytes were
taken, and the writer has taken their concatenation. -/
theorem writeAll_of_step
    (step : ∀ B w s d, I B w s →
      ∃ w' s', w.write t d s = (.ok d.size, w', s') ∧ I (B ++ d.data.toList) w' s') :
    ∀ (ds : List ByteArray) {B w s}, I B w s →
      ∃ w' s', ChunkWriter.writeAll t ds w s = (ds.map fun d => .ok d.size, w', s') ∧
        I (B ++ (ds.map (·.data.toList)).flatten) w' s'
  | [], B, w, s, h => ⟨w, s, rfl, by simpa using h⟩
  | d :: ds, B, w, s, h => by
    obtain ⟨w₁, s₁, hw, h₁⟩ := step B w s d h
    obtain ⟨w₂, s₂, hrest, h₂⟩ := writeAll_of_step step ds h₁
    refine ⟨w₂, s₂, ?_, by simpa using h₂⟩
    simp [ChunkWriter.writeAll, hw, hrest]

/-- The same for copying a byte array in pieces of `copyBufferSize`: with fuel for every piece,
the whole rest of the array from `start` is taken, and the copy reports the array's size. -/
theorem copyFrom_of_step
    (step : ∀ B w s d, I B w s →
      ∃ w' s', w.write t d s = (.ok d.size, w', s') ∧ I (B ++ d.data.toList) w' s')
    (data : ByteArray) :
    ∀ (fuel start : Nat) {B w s}, start ≤ data.size →
      data.size - start ≤ ChunkWriter.copyBufferSize * fuel → I B w s →
      ∃ w' s', ChunkWriter.copyFrom t data fuel start w s = (.ok data.size, w', s') ∧
        I (B ++ data.data.toList.drop start) w' s'
  | 0, start, B, w, s, hle, hfuel, h => by
    have hend : start = data.size := by omega
    subst hend
    exact ⟨w, s, rfl, by simpa [List.drop_of_length_le] using h⟩
  | fuel + 1, start, B, w, s, hle, hfuel, h => by
    by_cases hend : start ≥ data.size
    · have : start = data.size := by omega
      subst this
      exact ⟨w, s, by simp [ChunkWriter.copyFrom], by simpa [List.drop_of_length_le] using h⟩
    · let part := data.extract start (start + ChunkWriter.copyBufferSize)
      have hsize : part.size = min ChunkWriter.copyBufferSize (data.size - start) := by
        simp only [part, ByteArray.size_extract]
        omega
      obtain ⟨w₁, s₁, hw, h₁⟩ := step B w s part h
      obtain ⟨w₂, s₂, hrest, h₂⟩ := copyFrom_of_step step data fuel (start + part.size)
        (B := B ++ part.data.toList) (by omega)
        (by rw [hsize, Nat.mul_succ] at *; simp only [ChunkWriter.copyBufferSize] at *; omega) h₁
      refine ⟨w₂, s₂, ?_, ?_⟩
      · simp only [ChunkWriter.copyFrom, hend, if_false]
        rw [hw]
        exact hrest
      · have hpart : part.data.toList = (data.data.toList.drop start).take part.size := by
          simp only [part, ByteArray.data_extract, Array.toList_extract, List.extract_eq_take_drop,
            hsize, Nat.add_sub_cancel_left]
          rw [List.take_eq_take_min]
          simp
        have hbytes : part.data.toList ++ data.data.toList.drop (start + part.size) =
            data.data.toList.drop start := by
          rw [hpart, ← List.drop_drop, List.take_append_drop]
        simpa [List.append_assoc, hbytes] using h₂

end Scripts

/-- A script on a writer takes the bytes `D` and ends with `res`: every relation between the bytes
taken so far and the writer that each write keeps, taking all its bytes, holds of `D` when the
script ends. A script of writes takes the concatenation of its pieces (`scriptTakes_writeAll`), a
copy with fuel for every piece the whole array (`scriptTakes_copyFrom`). -/
def ScriptTakes {α : Type} (t : Transport σ) (script : ChunkWriter → σ → α × ChunkWriter × σ)
    (res : α) (D : List UInt8) : Prop :=
  ∀ (I : List UInt8 → ChunkWriter → σ → Prop) (w : ChunkWriter) (s : σ),
    (∀ B w s d, I B w s →
      ∃ w' s', w.write t d s = (.ok d.size, w', s') ∧ I (B ++ d.data.toList) w' s') →
    I [] w s → ∃ w' s', script w s = (res, w', s') ∧ I D w' s'

theorem scriptTakes_writeAll (t : Transport σ) (ds : List ByteArray) :
    ScriptTakes t (ChunkWriter.writeAll t ds) (ds.map fun d => .ok d.size)
      (ds.map (·.data.toList)).flatten := fun _ _ _ step h => by
  simpa using writeAll_of_step step ds h

theorem scriptTakes_copyFrom (t : Transport σ) (data : ByteArray) {fuel : Nat}
    (hfuel : data.size ≤ ChunkWriter.copyBufferSize * fuel) :
    ScriptTakes t (fun w s => ChunkWriter.copyFrom t data fuel 0 w s) (.ok data.size)
      data.data.toList := fun _ _ _ step h => by
  simpa using copyFrom_of_step step data fuel 0 (Nat.zero_le _) (by simpa using hfuel) h

end ChunkStore
