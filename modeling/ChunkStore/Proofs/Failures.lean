import ChunkStore.Proofs.Slots
import ChunkStore.Proofs.Parallel
/-!
# Failed uploads

A writer whose upload fails stops. The sequential writer uploads inline: the write or close that
made the upload returns its error, exactly the chunks before the failed one have been delivered,
and the writer is closed, so every later write returns `closed` and every later close
`alreadyClosed`, with no call to the origin (`SequentialWriter.FailedAt`, `Refuses.reaches_eq`).

The concurrent writer learns of a failure only when it collects the upload's result. Until then
the failed result waits among the finished ones, and the chunk it was for is neither delivered
nor queued: every chunk handed out is delivered, queued, or lost to a failed result waiting to
be collected (`ParallelWriter.Accounted`). Uploads run while a call waits, before each look of
the writing task at the results, and between calls (`ParallelWriter.Finishes`), and each run of
uploads keeps this account (`ParallelWriter.Kept`). A failed result waiting when a write or a
close is called is reported by it: a write succeeds only when none waited, and a close only when
every chunk handed out was delivered. A write or a close that reports a failure closes the
writer. For both writers a successful close is final.

All of this is for runs in which uploads return, with a record or an error
(`Transport.UploadsReturn`). An upload that panics unwinds through the writer instead: the
sequential writer has then handed out a chunk that it never delivers, and the concurrent writer
re-raises the panic when it collects that result, ahead of any failure behind it.
-/

namespace ChunkStore

/-- From every state satisfying `inv`, an upload returns a record or an error, never a panic,
and leads to a state satisfying `inv`. -/
def Transport.UploadsReturn {σ : Type} (t : Transport σ) (inv : σ → Prop) : Prop :=
  ∀ d s, inv s → (∀ m, (t.upload d s).1 ≠ .panicked m) ∧ inv (t.upload d s).2

theorem MemoryOrigin.uploadsReturn :
    MemoryOrigin.transport.UploadsReturn fun o => o.panicOn = [] := by
  intro d o hpanic
  refine ⟨fun m => ?_, ?_⟩
  · simp only [MemoryOrigin.transport, MemoryOrigin.upload, hpanic, List.contains_nil,
      Bool.false_eq_true, if_false]
    split <;> simp
  · simp only [MemoryOrigin.transport, MemoryOrigin.upload, hpanic, List.contains_nil,
      Bool.false_eq_true, if_false]
    split <;> simp

/-- A writer that refuses every call: writing returns `closed` and closing `alreadyClosed`, and
neither changes the writer or touches the origin. -/
structure Refuses {σ W : Type} (write : W → ByteArray → σ → Outcome Nat × W × σ)
    (close : W → σ → Outcome Unit × W × σ) (w : W) : Prop where
  write : ∀ d s, write w d s = (.failed .closed, w, s)
  close : ∀ s, close w s = (.failed .alreadyClosed, w, s)

theorem Refuses.reaches_eq {σ W : Type} {write : W → ByteArray → σ → Outcome Nat × W × σ}
    {close : W → σ → Outcome Unit × W × σ} {w : W} (h : Refuses write close w) {s : σ}
    {q : W × σ} (hq : Reaches write close Quiet (w, s) q) : q = (w, s) := by
  induction hq with
  | refl => rfl
  | wrote d _ ih => rw [ih, h.write]
  | closed _ ih => rw [ih, h.close]
  | ran _ hquiet => exact hquiet.elim

/-! ## The sequential writer -/

namespace SequentialWriter

variable {σ : Type} {t : Transport σ} {inv : σ → Prop} {w : SequentialWriter} {s : σ}

/-- Every chunk handed out was delivered, in order. -/
def Delivered (w : SequentialWriter) : Prop :=
  w.sent.toList.map (·.sequence) = List.range w.chunks.sequence

/-- The writer after the upload of chunk `k` failed with `e`, leaving the origin at `s`: it is
closed, chunk `k` was the last one handed out, and exactly the chunks before it were
delivered. -/
structure FailedAt (t : Transport σ) (w : SequentialWriter) (k : Nat) (e : StorageError)
    (s : σ) : Prop where
  closed : w.closed = true
  lastHandedOut : w.chunks.sequence = k + 1
  delivered : w.sent.toList.map (·.sequence) = List.range k
  upload : ∃ d s₁, t.upload d s₁ = (.failed e, s)

theorem delivered_new (C : Nat) : (new C).Delivered := by
  simp [Delivered, new, Accumulator.new]

theorem refuses_of_closed (h : w.closed = true) : Refuses (write t) (close t) w where
  write d s := by simp [write, h]
  close s := by simp [close, h]

/-- Flushing uploads the buffered chunk, if any: the upload returns a record, delivered under
the chunk's number, or an error, which closes the writer. -/
theorem flush_returns (ht : t.UploadsReturn inv) (hs : inv s) (hd : w.Delivered) :
    (∃ w' s', flush t w s = (.ok (), w', s') ∧ w'.Delivered ∧ w'.closed = w.closed ∧
        w'.chunks.written = w.chunks.written ∧ inv s') ∨
      ∃ e w' s', flush t w s = (.failed e, w', s') ∧ FailedAt t w' w.chunks.sequence e s' ∧
        inv s' := by
  rcases Accumulator.take_cases w.chunks with htake | htake
  · exact .inl ⟨w, s, by simp [flush, htake], hd, rfl, rfl, hs⟩
  · obtain ⟨hret, hs'⟩ := ht w.chunks.buffer s hs
    generalize hup : t.upload w.chunks.buffer s = r at hret hs'
    obtain ⟨out, s'⟩ := r
    cases out with
    | ok node =>
      -- the chunk is delivered under its number
      refine .inl ⟨{ w with chunks := w.chunks.take.2, sent := w.sent.push ⟨w.chunks.sequence, node⟩ },
        s', by simp [flush, htake, hup], ?_, rfl, by simp [htake], hs'⟩
      unfold Delivered at hd ⊢
      simp only [htake, Array.toList_push, List.map_append, List.map_cons, List.map_nil, hd,
        List.range_succ]
    | failed e =>
      refine .inr ⟨e, { w with chunks := w.chunks.take.2, closed := true }, s',
        by simp [flush, htake, hup], ⟨rfl, by simp [htake], hd, _, _, hup⟩, hs'⟩
    | panicked m => exact absurd rfl (hret m)

/-- Filling and flushing from `start` on an open writer: every upload returns a record, and the
writer stays open with every chunk delivered, or the upload of some chunk `k` failed. -/
theorem pump_returns (ht : t.UploadsReturn inv) (d : ByteArray) :
    ∀ (fuel start : Nat) (w : SequentialWriter) (s : σ), inv s → w.closed = false →
      w.Delivered →
      (∃ w' s', pump t d fuel start w s = (.ok (), w', s') ∧ w'.closed = false ∧ w'.Delivered ∧
          inv s') ∨
        ∃ e k w' s', pump t d fuel start w s = (.failed e, w', s') ∧ FailedAt t w' k e s' ∧
          inv s'
  | 0, _, w, s, hs, hopen, hd => .inl ⟨w, s, rfl, hopen, hd, hs⟩
  | fuel + 1, start, w, s, hs, hopen, hd => by
    by_cases hend : start ≥ d.size
    · exact .inl ⟨w, s, by simp [pump, hend], hopen, hd, hs⟩
    · -- filling keeps the chunks handed out and the deliveries
      have hd₁ : ({ w with chunks := (w.chunks.fill d start).2 } : SequentialWriter).Delivered :=
        hd
      simp only [pump, hend, if_false]
      split
      · rcases flush_returns ht hs hd₁ with ⟨w₁, s₁, hflush, hd₂, hclosed, -, hs₁⟩ |
          ⟨e, w₁, s₁, hflush, hfail, hs₁⟩
        · rw [hflush]
          exact pump_returns ht d fuel _ w₁ s₁ hs₁ (hclosed.trans hopen) hd₂
        · rw [hflush]
          exact .inr ⟨e, _, w₁, s₁, rfl, hfail, hs₁⟩
      · exact pump_returns ht d fuel _ _ s hs hopen hd₁

theorem write_returns (ht : t.UploadsReturn inv) (hs : inv s) (hopen : w.closed = false)
    (hd : w.Delivered) (d : ByteArray) :
    (∃ w' s', write t w d s = (.ok d.size, w', s') ∧ w'.closed = false ∧ w'.Delivered ∧
        inv s') ∨
      ∃ e k w' s', write t w d s = (.failed e, w', s') ∧ FailedAt t w' k e s' ∧ inv s' := by
  rcases pump_returns ht d (d.size + 1) 0 w s hs hopen hd with
    ⟨w', s', hpump, hopen', hd', hs'⟩ | ⟨e, k, w', s', hpump, hfail, hs'⟩
  · exact .inl ⟨w', s', by simp [write, hopen, hpump], hopen', hd', hs'⟩
  · exact .inr ⟨e, k, w', s', by simp [write, hopen, hpump], hfail, hs'⟩

theorem close_returns (ht : t.UploadsReturn inv) (hs : inv s) (hopen : w.closed = false)
    (hd : w.Delivered) :
    (∃ w' s', close t w s = (.ok (), w', s') ∧ w'.closed = true ∧ w'.Delivered ∧ inv s') ∨
      ∃ e k w' s', close t w s = (.failed e, w', s') ∧ FailedAt t w' k e s' ∧ inv s' := by
  rcases flush_returns ht hs hd with ⟨w', s', hflush, hd', -, -, hs'⟩ |
    ⟨e, w', s', hflush, hfail, hs'⟩
  · exact .inl ⟨{ w' with closed := true }, s', by simp [close, hopen, hflush], rfl, hd', hs'⟩
  · refine .inr ⟨e, w.chunks.sequence, { w' with closed := true }, s',
      by simp [close, hopen, hflush], ?_, hs'⟩
    exact ⟨rfl, hfail.lastHandedOut, hfail.delivered, hfail.upload⟩

/-- What every state of a run keeps: the origin's invariant, and an open writer has delivered
every chunk it handed out. -/
def Sound (inv : σ → Prop) (p : SequentialWriter × σ) : Prop :=
  inv p.2 ∧ (p.1.closed = false → p.1.Delivered)

theorem Sound.write (ht : t.UploadsReturn inv) {p : SequentialWriter × σ} (h : Sound inv p)
    (d : ByteArray) : Sound inv (write t p.1 d p.2).2 := by
  obtain ⟨hs, hd⟩ := h
  cases hopen : p.1.closed with
  | true => rw [(refuses_of_closed hopen).write]; exact ⟨hs, hd⟩
  | false =>
    rcases write_returns ht hs hopen (hd hopen) d with ⟨w', s', hw, -, hd', hs'⟩ |
      ⟨e, k, w', s', hw, hfail, hs'⟩
    · rw [hw]; exact ⟨hs', fun _ => hd'⟩
    · rw [hw]; exact ⟨hs', fun h => absurd hfail.closed (by simpa using h)⟩

theorem Sound.close (ht : t.UploadsReturn inv) {p : SequentialWriter × σ} (h : Sound inv p) :
    Sound inv (close t p.1 p.2).2 := by
  obtain ⟨hs, hd⟩ := h
  cases hopen : p.1.closed with
  | true => rw [(refuses_of_closed hopen).close]; exact ⟨hs, hd⟩
  | false =>
    rcases close_returns ht hs hopen (hd hopen) with ⟨w', s', hc, -, hd', hs'⟩ |
      ⟨e, k, w', s', hc, hfail, hs'⟩
    · rw [hc]; exact ⟨hs', fun _ => hd'⟩
    · rw [hc]; exact ⟨hs', fun h => absurd hfail.closed (by simpa using h)⟩

end SequentialWriter

/-! ## The concurrent writer -/

/-- Whether a result is that of a failed upload. -/
def Finished.isFailed : Finished → Bool
  | .failed _ => true
  | _ => false

namespace ParallelWriter

variable {σ : Type} {t : Transport σ} {inv : σ → Prop} {w : ParallelWriter} {s : σ}

/-- How many failed results wait to be collected. -/
def failures (w : ParallelWriter) : Nat := w.finished.toList.countP Finished.isFailed

/-- The chunks the writer accounts for: delivered, still queued, or lost to a failed result that
waits to be collected. -/
def weight (w : ParallelWriter) : Nat := w.sent.size + w.queued.size + w.failures

/-- No result waiting to be collected is a panic. -/
def NoPanic (w : ParallelWriter) : Prop := ∀ m, Finished.panicked m ∉ w.finished.toList

/-- Every chunk handed out is accounted for, and no waiting result is a panic. -/
structure Accounted (w : ParallelWriter) : Prop where
  weight : w.weight = w.chunks.sequence
  noPanic : w.NoPanic

/-- Running an upload that returns adds one chunk to those delivered or lost. -/
theorem runUpload_returns (ht : t.UploadsReturn inv) (hs : inv s) (u : QueuedUpload) :
    ∃ r sent, runUpload t (w, s) u =
        ({ w with finished := w.finished.push r, sent }, (t.upload u.data s).2) ∧
      sent.size + (if r.isFailed then 1 else 0) = w.sent.size + 1 ∧
      (∀ m, r ≠ .panicked m) ∧ inv (t.upload u.data s).2 := by
  obtain ⟨hret, hs'⟩ := ht u.data s hs
  simp only [runUpload]
  split
  · next node s' h =>
    exact ⟨_, _, by rw [h], by simp [Finished.isFailed], by simp, hs'⟩
  · next e s' h =>
    exact ⟨_, _, by rw [h], by simp [Finished.isFailed], by simp, hs'⟩
  · next m s' h => exact absurd (by rw [h]) (hret m)

/-- Uploads run one after another, each returning, add one result each, none a panic, and
each adds one chunk to those delivered or lost. -/
theorem foldl_runUpload_returns (ht : t.UploadsReturn inv) :
    ∀ (now : List QueuedUpload) (w : ParallelWriter) (s : σ), inv s →
      ∃ rs sent s', now.foldl (runUpload t) (w, s) =
          ({ w with finished := w.finished ++ rs, sent }, s') ∧ rs.size = now.length ∧
        sent.size + rs.toList.countP Finished.isFailed = w.sent.size + now.length ∧
        (∀ m, Finished.panicked m ∉ rs.toList) ∧ inv s'
  | [], w, s, hs => ⟨#[], w.sent, s, by simp, rfl, by simp, by simp, hs⟩
  | u :: now, w, s, hs => by
    obtain ⟨r, sent, hrun, hcount, hr, hs₁⟩ := runUpload_returns (w := w) ht hs u
    obtain ⟨rs, sent', s', hfold, hsize, hcount', hrs, hs'⟩ := foldl_runUpload_returns ht now
      { w with finished := w.finished.push r, sent } (t.upload u.data s).2 hs₁
    refine ⟨#[r] ++ rs, sent', s', ?_, by simp [hsize, Nat.add_comm], ?_, ?_, hs'⟩
    · rw [List.foldl_cons, hrun, hfold, Array.push_eq_append, Array.append_assoc]
    · simp only [Array.toList_append, List.countP_append, List.length_cons] at hcount' ⊢
      simp only [List.countP_cons, List.countP_nil] at hcount' ⊢
      simp only [Nat.zero_add] at hcount' ⊢
      omega
    · intro m hm
      simp only [Array.toList_append, List.mem_append] at hm
      rcases hm with hm | hm
      · exact hr m (List.mem_singleton.1 hm).symm
      · exact hrs m hm

theorem NoPanic.of_cons {r : Finished} {rest : List Finished} (hp : w.NoPanic)
    (hf : w.finished.toList = r :: rest) : (∀ m, r ≠ .panicked m) ∧
      ∀ w' : ParallelWriter, w'.finished = rest.toArray → w'.NoPanic := by
  refine ⟨?_, fun w' hw' m hm => hp m ?_⟩
  · rintro m rfl
    exact hp m (by rw [hf]; exact List.mem_cons_self)
  · rw [hf]
    exact List.mem_cons_of_mem _ (by simpa [hw'] using hm)

theorem NoPanic.push {r : Finished} (hp : w.NoPanic) (hr : ∀ m, r ≠ .panicked m) :
    ({ w with finished := w.finished.push r } : ParallelWriter).NoPanic := by
  intro m hm
  simp only [Array.toList_push, List.mem_append, List.mem_singleton] at hm
  rcases hm with hm | hm
  · exact hp m hm
  · exact hr m hm.symm

/-- `w'` with the origin at `s'` is `w` after some of its uploads ran, each returning: every
chunk is still accounted for, no panic was added, the failed results only grew, the origin's
invariant holds, and the chunks and the closed flag are as they were. -/
structure Kept (inv : σ → Prop) (w w' : ParallelWriter) (s' : σ) : Prop where
  weight : w'.weight = w.weight
  failures : w.failures ≤ w'.failures
  noPanic : w'.NoPanic
  inv : inv s'
  chunks : w'.chunks = w.chunks
  closed : w'.closed = w.closed

theorem Kept.refl (hs : inv s) (hp : w.NoPanic) : Kept inv w w s :=
  ⟨rfl, Nat.le_refl _, hp, hs, rfl, rfl⟩

theorem Kept.trans {w₁ w₂ : ParallelWriter} {s₁ s₂ : σ} (h₁ : Kept inv w w₁ s₁)
    (h₂ : Kept inv w₁ w₂ s₂) : Kept inv w w₂ s₂ :=
  ⟨h₂.weight.trans h₁.weight, Nat.le_trans h₁.failures h₂.failures, h₂.noPanic, h₂.inv,
    h₂.chunks.trans h₁.chunks, h₂.closed.trans h₁.closed⟩

theorem Kept.accounted {w' : ParallelWriter} {s' : σ} (h : Kept inv w w' s') (hw : w.Accounted) :
    w'.Accounted :=
  ⟨by rw [h.weight, hw.weight, h.chunks], h.noPanic⟩

/-- Running the uploads a choice picks, each returning, keeps what is asked. -/
theorem kept_runPicked (ht : t.UploadsReturn inv) (hs : inv s) (hp : w.NoPanic)
    {pick : List QueuedUpload → List QueuedUpload × List QueuedUpload} (hsplit : SplitsQueue pick) :
    Kept inv w (runPicked t pick w s).1 (runPicked t pick w s).2 := by
  obtain ⟨rs, sent, s', hfold, -, hcount, hrs, hs'⟩ := foldl_runUpload_returns ht
    (pick w.queued.toList).1 { w with queued := (pick w.queued.toList).2.toArray } s hs
  have hlen := (hsplit w.queued.toList).length_eq
  simp only [List.length_append, Array.length_toList] at hlen
  have hrun : runPicked t pick w s =
      ({ w with queued := (pick w.queued.toList).2.toArray, finished := w.finished ++ rs, sent },
        s') := by
    simp only [runPicked]
    rw [hfold]
  rw [hrun]
  dsimp only at hcount
  refine ⟨?_, ?_, ?_, hs', rfl, rfl⟩
  · simp only [weight, failures, Array.toList_append, List.countP_append, List.size_toArray]
    omega
  · simp [failures]
  · intro m hm
    simp only [Array.toList_append, List.mem_append] at hm
    rcases hm with hm | hm
    · exact hp m hm
    · exact hrs m hm

theorem kept_pause (ht : t.UploadsReturn inv) (hs : inv s) (hp : w.NoPanic) (waits : Bool) :
    Kept inv w (pause t waits w s).1 (pause t waits w s).2 := by
  have h := kept_runPicked ht hs hp (w.scheduler.splits_pick waits)
  rw [pause_eq]
  exact ⟨h.weight, h.failures, h.noPanic, h.inv, h.chunks, h.closed⟩

theorem kept_look (ht : t.UploadsReturn inv) (hs : inv s) (hp : w.NoPanic) :
    Kept inv w (look t w s).1 (look t w s).2 := by
  have h := kept_runPicked ht hs hp (w.scheduler.splits_finish w.looks)
  rw [look_eq]
  exact ⟨h.weight, h.failures, h.noPanic, h.inv, h.chunks, h.closed⟩

/-- Taking a slot, with the pauses it may make, keeps what is asked. -/
theorem kept_takeSlot (ht : t.UploadsReturn inv) (hs : inv s) (hp : w.NoPanic) :
    Kept inv w (takeSlot t w s).1 (takeSlot t w s).2 := by
  obtain ⟨w₁, s₁, w₂, s₂, h₁, h₂, htake⟩ := takeSlot_cases (t := t) w s
  rw [htake]
  have hk₁ : Kept inv w w₁ s₁ := by
    rcases h₁ with ⟨rfl, rfl, -⟩ | ⟨-, heq⟩
    · exact Kept.refl hs hp
    · have h := kept_pause ht hs hp false (w := w)
      rw [heq] at h
      exact h
  have hk₂ : Kept inv w₁ w₂ s₂ := by
    rcases h₂ with ⟨rfl, rfl, -⟩ | ⟨-, heq⟩
    · exact Kept.refl hk₁.inv hk₁.noPanic
    · have h := kept_pause ht hk₁.inv hk₁.noPanic true (w := w₁)
      rw [heq] at h
      exact h
  have hk := hk₁.trans hk₂
  exact ⟨hk.weight, hk.failures, hk.noPanic, hk.inv, hk.chunks, hk.closed⟩

/-- Handing a chunk over keeps every chunk accounted for: the chunk handed out is queued. The
failed results only grow. -/
theorem Accounted.dispatch (ht : t.UploadsReturn inv) (hs : inv s) (h : w.Accounted) :
    (dispatch t w s).1.Accounted ∧ inv (dispatch t w s).2 ∧
      (dispatch t w s).1.closed = w.closed ∧ w.failures ≤ (dispatch t w s).1.failures := by
  unfold ParallelWriter.dispatch
  rcases Accumulator.take_cases w.chunks with htake | htake
  · rw [htake]
    exact ⟨h, hs, rfl, Nat.le_refl _⟩
  · rw [htake]
    dsimp only
    have hk := kept_takeSlot (w := { w with chunks :=
      { w.chunks with buffer := .empty, sequence := w.chunks.sequence + 1 } }) ht hs h.noPanic
    generalize takeSlot t _ s = p at hk ⊢
    obtain ⟨w₁, s₁⟩ := p
    dsimp only at hk ⊢
    refine ⟨⟨?_, hk.noPanic⟩, hk.inv, hk.closed, ?_⟩
    · have h1 := hk.weight
      have hw := h.weight
      simp only [ParallelWriter.weight, failures] at h1 hw ⊢
      simp only [Array.size_push, hk.chunks]
      omega
    · exact hk.failures

/-- An upload that finishes between calls, returning, keeps the origin's invariant and the
closed flag, and an accounted writer accounted. -/
theorem Finishes.returns (ht : t.UploadsReturn inv) {p q : ParallelWriter × σ}
    (hf : Finishes t p q) (hs : inv p.2) :
    inv q.2 ∧ q.1.closed = p.1.closed ∧ (p.1.Accounted → q.1.Accounted) := by
  cases hf with
  | run w s i hi =>
    obtain ⟨r, sent, hrun, hcount, hr, hs'⟩ :=
      runUpload_returns (w := { w with queued := w.queued.eraseIdx i }) ht hs w.queued[i]
    rw [hrun]
    refine ⟨hs', rfl, fun h => ⟨?_, h.noPanic.push hr⟩⟩
    -- the upload leaves the queue for the deliveries or the failed results
    have hw := h.weight
    simp only [weight, failures, Array.toList_push, List.countP_append, List.countP_cons,
      List.countP_nil, Array.size_eraseIdx] at hw hcount ⊢
    cases hfail : r.isFailed <;> simp only [hfail] at hcount ⊢ <;> omega

/-- Collecting results with no panic among them: all were stored, and the list is cleared, or
the first that was not is reported and closes the writer. -/
theorem reap_go_returns :
    ∀ (rs : List Finished) (w : ParallelWriter), (∀ m, Finished.panicked m ∉ rs) →
      (reap.go rs w = (.ok (), { w with finished := #[] }) ∧ ∀ r ∈ rs, r = .stored) ∨
        ∃ e, (reap.go rs w).1 = .failed e ∧ (reap.go rs w).2.closed = true
  | [], w, _ => .inl ⟨rfl, by simp⟩
  | r :: rs, w, hp => by
    cases r with
    | stored =>
      rcases reap_go_returns rs w fun m hm => hp m (List.mem_cons_of_mem _ hm) with
        ⟨hgo, hall⟩ | ⟨e, hgo, hclosed⟩
      · refine .inl ⟨hgo, ?_⟩
        intro r hr
        rcases List.mem_cons.1 hr with rfl | hr
        · rfl
        · exact hall r hr
      · exact .inr ⟨e, hgo, hclosed⟩
    | failed e => exact .inr ⟨e, rfl, rfl⟩
    | cancelled => exact .inr ⟨.cancelled, rfl, rfl⟩
    | panicked m => exact absurd List.mem_cons_self (hp m)

/-- Collecting results of an accounted writer: all were stored, none was lost, and it is left
with none, or it reports an error and is closed. -/
theorem Accounted.reap (h : w.Accounted) :
    (ParallelWriter.reap w = (.ok (), { w with finished := #[] }) ∧
        ({ w with finished := #[] } : ParallelWriter).Accounted ∧ w.failures = 0) ∨
      ∃ e, (ParallelWriter.reap w).1 = .failed e ∧ (ParallelWriter.reap w).2.closed = true := by
  rcases reap_go_returns w.finished.toList w h.noPanic with ⟨hgo, hall⟩ | hfail
  · -- with every result stored, none is a lost chunk
    have hzero : w.failures = 0 := by
      simp only [failures, List.countP_eq_zero]
      intro r hr
      rw [hall r hr]
      decide
    refine .inl ⟨hgo, ⟨?_, by simp [NoPanic]⟩, hzero⟩
    have hw := h.weight
    simp only [ParallelWriter.weight, hzero] at hw
    simpa [ParallelWriter.weight, failures] using hw
  · exact .inr hfail

/-- Filling, handing over, looking at the results and collecting them from `start` on an
accounted open writer, its uploads returning: it stays open and accounted, or it reports an
error and is closed. -/
theorem pump_returns (ht : t.UploadsReturn inv) (d : ByteArray) :
    ∀ (fuel start : Nat) (w : ParallelWriter) (s : σ), inv s → w.closed = false → w.Accounted →
      (∃ w' s', pump t d fuel start w s = (.ok (), w', s') ∧ w'.closed = false ∧ w'.Accounted ∧
          inv s') ∨
        ∃ e w' s', pump t d fuel start w s = (.failed e, w', s') ∧ w'.closed = true ∧ inv s'
  | 0, _, w, s, hs, hopen, hacc => .inl ⟨w, s, rfl, hopen, hacc, hs⟩
  | fuel + 1, start, w, s, hs, hopen, hacc => by
    by_cases hend : start ≥ d.size
    · exact .inl ⟨w, s, by simp [pump, hend], hopen, hacc, hs⟩
    · -- filling keeps the deliveries, the queue, the results and the chunks handed out
      have hacc₁ : ({ w with chunks := (w.chunks.fill d start).2 } : ParallelWriter).Accounted :=
        ⟨by simpa [ParallelWriter.weight, failures, Accumulator.fill] using hacc.weight,
          hacc.noPanic⟩
      simp only [pump, hend, if_false]
      split
      · obtain ⟨hacc₂, hs₂, hclosed₂, -⟩ := hacc₁.dispatch ht hs (t := t)
        generalize dispatch t _ s = p at hacc₂ hs₂ hclosed₂ ⊢
        obtain ⟨w₂, s₂⟩ := p
        dsimp only at hacc₂ hs₂ hclosed₂ ⊢
        have hk := kept_look ht hs₂ hacc₂.noPanic (w := w₂)
        generalize look t w₂ s₂ = p at hk ⊢
        obtain ⟨w₃, s₃⟩ := p
        dsimp only at hk ⊢
        rcases (hk.accounted hacc₂).reap with ⟨hreap, hacc₃, -⟩ | ⟨e, hout, hclosed₃⟩
        · rw [hreap]
          exact pump_returns ht d fuel _ _ s₃ hk.inv (hk.closed.trans (hclosed₂.trans hopen)) hacc₃
        · generalize hr : ParallelWriter.reap w₃ = r at hout hclosed₃ ⊢
          obtain ⟨out, w₄⟩ := r
          dsimp only at hout hclosed₃ ⊢
          subst hout
          exact .inr ⟨e, w₄, s₃, rfl, hclosed₃, hk.inv⟩
      · exact pump_returns ht d fuel _ _ s hs hopen hacc₁

/-- A write to an accounted open writer, its uploads returning, takes all its bytes and leaves
it accounted, and then no failed result waited when it was called; or it reports an error and
closes the writer. -/
theorem write_returns (ht : t.UploadsReturn inv) (hs : inv s) (hopen : w.closed = false)
    (hacc : w.Accounted) (d : ByteArray) :
    (∃ w' s', write t w d s = (.ok d.size, w', s') ∧ w'.closed = false ∧ w'.Accounted ∧
        w.failures = 0 ∧ inv s') ∨
      ∃ e w' s', write t w d s = (.failed e, w', s') ∧ w'.closed = true ∧ inv s' := by
  -- the write first looks at the results: a failed one waiting stays among them
  rcases hl : look t w s with ⟨v, s₁⟩
  have hk := kept_look ht hs hacc.noPanic (w := w)
  rw [hl] at hk
  dsimp only at hk
  rcases (hk.accounted hacc).reap with ⟨hreap, hacc₁, hzero⟩ | ⟨e, hout, hclosed⟩
  · -- nothing failed yet: the bytes are pumped through
    rcases pump_returns ht d (d.size + 1) 0 { v with finished := #[] } s₁ hk.inv
        (hk.closed.trans hopen) hacc₁ with
      ⟨w', s', hpump, hopen', hacc', hs'⟩ | ⟨e, w', s', hpump, hclosed, hs'⟩
    · refine .inl ⟨w', s', ?_, hopen', hacc', Nat.eq_zero_of_le_zero (hzero ▸ hk.failures), hs'⟩
      rw [write, if_neg (by simp [hopen]), hl]
      dsimp only
      rw [hreap]
      dsimp only
      rw [hpump]
    · refine .inr ⟨e, w', s', ?_, hclosed, hs'⟩
      rw [write, if_neg (by simp [hopen]), hl]
      dsimp only
      rw [hreap]
      dsimp only
      rw [hpump]
  · -- a result that is not stored is reported at once
    rcases hr : ParallelWriter.reap v with ⟨out, w'⟩
    rw [hr] at hout hclosed
    dsimp only at hout hclosed
    subst hout
    refine .inr ⟨e, w', s₁, ?_, hclosed, hk.inv⟩
    rw [write, if_neg (by simp [hopen]), hl]
    dsimp only
    rw [hr]

theorem workLeft_pause (waits : Bool) (w : ParallelWriter) (s : σ) :
    (pause t waits w s).1.workLeft + (w.scheduler.pick waits w.queued.toList).1.length =
      2 * w.finished.size + 3 * w.queued.size := by
  obtain ⟨rs, sent, hpause, hsize⟩ := pause_shape (t := t) waits w s
  have hq := pause_queued_size (t := t) waits w s
  rw [hpause] at hq ⊢
  simp only [workLeft, Array.size_append, hsize, List.size_toArray] at hq ⊢
  rw [if_neg (by simp [turnBudget])]
  omega

theorem failures_push (w : ParallelWriter) (r : Finished) :
    ({ w with finished := w.finished.push r } : ParallelWriter).failures =
      w.failures + if r.isFailed then 1 else 0 := by
  simp [failures, List.countP_append]

theorem failures_of_cons {r : Finished} {rest : List Finished} (hf : w.finished.toList = r :: rest)
    (w' : ParallelWriter) (hw' : w'.finished = rest.toArray) :
    w.failures = w'.failures + if r.isFailed then 1 else 0 := by
  simp [failures, hf, hw', List.countP_cons]

/-- Once a failure is kept, the collection loop reports an error or a panic, never success. -/
theorem joinAll_some : ∀ (fuel : Nat) (e : StorageError) (w : ParallelWriter) (s : σ),
    (joinAll t (some e) fuel w s).1 ≠ .ok ()
  | 0, e, w, s => by simp [joinAll]
  | fuel + 1, e, w, s => by
    rcases hl : look t w s with ⟨v, s₁⟩
    rcases hf : v.finished.toList with _ | ⟨r, rest⟩
    · by_cases hq : v.queued.isEmpty
      · rw [joinAll_done hl hf hq]
        simp [joinAll]
      · rw [joinAll_wait hl hf (by simpa using hq)]
        exact joinAll_some fuel e _ _
    · by_cases hb : v.budget = 0
      · rcases hpause : pause t false { v with finished := rest.toArray } s₁ with ⟨w₂, s₂⟩
        rw [joinAll_putBack hl hf hb hpause]
        exact joinAll_some fuel e _ _
      · cases r with
        | stored => rw [joinAll_stored hl hf hb]; exact joinAll_some fuel e _ _
        | failed e' => rw [joinAll_lost hl hf hb (.inl rfl)]; exact joinAll_some fuel e _ _
        | cancelled => rw [joinAll_lost hl hf hb (.inr ⟨rfl, rfl⟩)]; exact joinAll_some fuel e _ _
        | panicked m => simp [joinAll, hl, hf, hb]

theorem orElse_some (first : Option StorageError) (e : StorageError) :
    ∃ e', (first <|> some e) = some e' := by
  cases first <;> exact ⟨_, rfl⟩

/-- With uploads that return and no panic waiting, the collection loop never panics, leaves
the writer as closed as it was, and the origin in a state satisfying `inv`. -/
theorem joinAll_returns (ht : t.UploadsReturn inv) :
    ∀ (fuel : Nat) (first : Option StorageError) (w : ParallelWriter) (s : σ), inv s →
      w.NoPanic → (∀ m, (joinAll t first fuel w s).1 ≠ .panicked m) ∧
        (joinAll t first fuel w s).2.1.closed = w.closed ∧ inv (joinAll t first fuel w s).2.2
  | 0, first, w, s, hs, _ => by cases first <;> simp [joinAll, hs]
  | fuel + 1, first, w, s, hs, hp => by
    rcases hl : look t w s with ⟨v, s₁⟩
    have hk := kept_look ht hs hp (w := w)
    rw [hl] at hk
    dsimp only at hk
    -- the rest of the loop, from a writer that the step leaves open or closed as `v` is
    have hrest : ∀ first' v' s', inv s' → v'.NoPanic → v'.closed = v.closed →
        (∀ m, (joinAll t first' fuel v' s').1 ≠ .panicked m) ∧
          (joinAll t first' fuel v' s').2.1.closed = w.closed ∧
          inv (joinAll t first' fuel v' s').2.2 := by
      intro first' v' s' hs' hp' hc'
      obtain ⟨hret, hclosed, hs''⟩ := joinAll_returns ht fuel first' v' s' hs' hp'
      exact ⟨hret, hclosed.trans (hc'.trans hk.closed), hs''⟩
    rcases hf : v.finished.toList with _ | ⟨r, rest⟩
    · by_cases hq : v.queued.isEmpty
      · rw [joinAll_done hl hf hq]
        cases first <;> simp [joinAll, hk.inv, hk.closed]
      · have hk₁ := kept_pause ht hk.inv hk.noPanic true (w := v)
        rw [joinAll_wait hl hf (by simpa using hq)]
        exact hrest _ _ _ hk₁.inv hk₁.noPanic hk₁.closed
    · obtain ⟨hr, hnp⟩ := hk.noPanic.of_cons hf
      by_cases hb : v.budget = 0
      · have hk₁ := kept_pause ht hk.inv (hnp _ rfl) false (w := { v with finished := rest.toArray })
        rcases hpause : pause t false { v with finished := rest.toArray } s₁ with ⟨w₂, s₂⟩
        rw [hpause] at hk₁
        rw [joinAll_putBack hl hf hb hpause]
        exact hrest _ _ _ hk₁.inv (hk₁.noPanic.push hr) hk₁.closed
      · have hp₁ := hnp { v with finished := rest.toArray, budget := v.budget - 1 } rfl
        cases r with
        | stored => rw [joinAll_stored hl hf hb]; exact hrest _ _ _ hk.inv hp₁ rfl
        | failed e => rw [joinAll_lost hl hf hb (.inl rfl)]; exact hrest _ _ _ hk.inv hp₁ rfl
        | cancelled =>
          rw [joinAll_lost hl hf hb (.inr ⟨rfl, rfl⟩)]
          exact hrest _ _ _ hk.inv hp₁ rfl
        | panicked m => exact absurd rfl (hr m)

/-- **The collection loop succeeds only when nothing was lost.** With uploads that return and
fuel above the work left, waiting for every upload reports success only if no failure was kept
and no failed result waited; then every chunk the writer accounted for is delivered. -/
theorem joinAll_ok (ht : t.UploadsReturn inv) :
    ∀ (fuel : Nat) (first : Option StorageError) (w : ParallelWriter) (s : σ), inv s →
      w.NoPanic → w.workLeft < fuel → (joinAll t first fuel w s).1 = .ok () →
      first = none ∧ w.failures = 0 ∧ (joinAll t first fuel w s).2.1.sent.size = w.weight ∧
        (joinAll t first fuel w s).2.1.chunks = w.chunks
  | 0, _, _, _, _, _, hfuel, _ => absurd hfuel (Nat.not_lt_zero _)
  | fuel + 1, first, w, s, hs, hp, hfuel, hok => by
    -- the step looks at the results first: the failed ones only grow, and the work left shrinks
    rcases hl : look t w s with ⟨v, s₁⟩
    have hk := kept_look ht hs hp (w := w)
    have hwork₀ := workLeft_look (t := t) w s
    rw [hl] at hk hwork₀
    dsimp only at hk hwork₀
    have hv : v.workLeft < fuel + 1 := Nat.lt_of_le_of_lt hwork₀ hfuel
    suffices h : first = none ∧ v.failures = 0 ∧
        (joinAll t first (fuel + 1) w s).2.1.sent.size = v.weight ∧
        (joinAll t first (fuel + 1) w s).2.1.chunks = v.chunks by
      obtain ⟨h₁, h₂, h₃, h₄⟩ := h
      exact ⟨h₁, Nat.eq_zero_of_le_zero (h₂ ▸ hk.failures), h₃.trans hk.weight, h₄.trans hk.chunks⟩
    rcases hf : v.finished.toList with _ | ⟨r, rest⟩
    · have hzero : v.failures = 0 := by simp [failures, hf]
      by_cases hq : v.queued.isEmpty
      · -- nothing is left to wait for: the kept failure, if any, is reported
        have hq₀ : v.queued.size = 0 := by simpa [Array.isEmpty_iff] using hq
        rw [joinAll_done hl hf hq] at hok ⊢
        cases first with
        | some e => simp [joinAll] at hok
        | none => exact ⟨rfl, hzero, by simp [joinAll, ParallelWriter.weight, hq₀, hzero], rfl⟩
      · -- wait for the queued uploads: the pause runs at least one
        have hne : v.queued.toList ≠ [] := by simpa [Array.isEmpty_iff] using hq
        have hprog : (v.scheduler.pick true v.queued.toList).1.length ≠ 0 := by
          simpa using v.scheduler.pick_progress _ hne
        have hf₀ : v.finished.size = 0 := by simpa using congrArg List.length hf
        have hwork := workLeft_pause (t := t) true v s₁
        have hk₁ := kept_pause ht hk.inv hk.noPanic true (w := v)
        rw [joinAll_wait hl hf (by simpa using hq)] at hok ⊢
        obtain ⟨hnone, -, hsent, hchunks⟩ := joinAll_ok ht fuel first _ _ hk₁.inv hk₁.noPanic
          (by simp only [workLeft] at hv; omega) hok
        exact ⟨hnone, hzero, hsent.trans hk₁.weight, hchunks.trans hk₁.chunks⟩
    · have hsize : v.finished.size = rest.length + 1 := by simpa using congrArg List.length hf
      obtain ⟨hr, hnp⟩ := hk.noPanic.of_cons hf
      by_cases hb : v.budget = 0
      · -- the budget is spent: pause, and put the result back behind those the pause finishes
        have hwork := workLeft_pause (t := t) false { v with finished := rest.toArray } s₁
        have hk₁ := kept_pause ht hk.inv (hnp _ rfl) false (w := { v with finished := rest.toArray })
        rcases hpause : pause t false { v with finished := rest.toArray } s₁ with ⟨w₂, s₂⟩
        rw [hpause] at hwork hk₁
        dsimp only at hwork hk₁
        rw [joinAll_putBack hl hf hb hpause] at hok ⊢
        -- the result put back is lost exactly when it was lost before
        have hlost := failures_of_cons hf { v with finished := rest.toArray } rfl
        have hpush := failures_push w₂ r
        have hweight := hk₁.weight
        have hfail := hk₁.failures
        obtain ⟨hnone, hzero₁, hsent, hchunks⟩ := joinAll_ok ht fuel first _ _ hk₁.inv
          (hk₁.noPanic.push hr)
          (by simp only [workLeft, Array.size_push, List.size_toArray, if_pos hb] at hv hwork ⊢
              omega) hok
        refine ⟨hnone, by omega, ?_, hchunks.trans hk₁.chunks⟩
        rw [hsent]
        simp only [ParallelWriter.weight] at hweight ⊢
        omega
      · -- collect the result: a failed one is kept as the failure to report
        have hwork : ({ v with finished := rest.toArray, budget := v.budget - 1 } :
            ParallelWriter).workLeft < fuel := by
          simp only [workLeft, List.size_toArray] at hv ⊢
          rw [if_neg hb] at hv
          split <;> omega
        have hp₁ := hnp { v with finished := rest.toArray, budget := v.budget - 1 } rfl
        have hlost :=
          failures_of_cons hf { v with finished := rest.toArray, budget := v.budget - 1 } rfl
        cases r with
        | stored =>
          rw [joinAll_stored hl hf hb] at hok ⊢
          obtain ⟨hnone, hzero₁, hsent, hchunks⟩ := joinAll_ok ht fuel first _ _ hk.inv hp₁ hwork hok
          simp only [Finished.isFailed, Bool.false_eq_true, if_false, Nat.add_zero] at hlost
          refine ⟨hnone, by omega, ?_, hchunks⟩
          rw [hsent]
          simp only [ParallelWriter.weight, hlost]
        | failed e =>
          obtain ⟨e', he⟩ := orElse_some first e
          rw [joinAll_lost hl hf hb (.inl rfl), he] at hok
          exact absurd hok (joinAll_some fuel e' _ s₁)
        | cancelled =>
          obtain ⟨e', he⟩ := orElse_some first .cancelled
          rw [joinAll_lost hl hf hb (.inr ⟨rfl, rfl⟩), he] at hok
          exact absurd hok (joinAll_some fuel e' _ s₁)
        | panicked m => exact absurd rfl (hr m)

theorem refuses_of_closed (h : w.closed = true) : Refuses (write t) (close t) w where
  write d s := by simp [write, h]
  close s := by simp [close, h]

/-- Closing an accounted open writer, its uploads returning, hands over what is left and waits
for every upload: it never panics, succeeds only when every chunk handed out was delivered and
no failed result waited when it was called, and leaves the writer closed. -/
theorem close_returns (ht : t.UploadsReturn inv) (hs : inv s) (hopen : w.closed = false)
    (hacc : w.Accounted) :
    ((close t w s).1 = .ok () ∧ (close t w s).2.1.sent.size = (close t w s).2.1.chunks.sequence ∧
        w.failures = 0 ∨ ∃ e, (close t w s).1 = .failed e) ∧
      (close t w s).2.1.closed = true ∧ inv (close t w s).2.2 := by
  rw [close, if_neg (by simp [hopen])]
  have hacc' : ({ w with closed := true } : ParallelWriter).Accounted := ⟨hacc.weight, hacc.noPanic⟩
  obtain ⟨hacc₁, hs₁, hclosed₁, hfail₁⟩ := hacc'.dispatch ht hs (t := t)
  rcases hd : dispatch t { w with closed := true } s with ⟨w₁, s₁⟩
  rw [hd] at hacc₁ hs₁ hclosed₁ hfail₁
  dsimp only
  obtain ⟨hret, hclosed, hs'⟩ := joinAll_returns ht
    (3 * (w₁.finished.size + w₁.queued.size) + 3) none w₁ s₁ hs₁ hacc₁.noPanic
  refine ⟨?_, hclosed.trans hclosed₁, hs'⟩
  generalize hj : joinAll t none _ w₁ s₁ = j at hret hclosed ⊢
  obtain ⟨out, w', s'⟩ := j
  cases out with
  | ok u =>
    obtain ⟨-, hzero, hsent, hchunks⟩ := joinAll_ok ht (3 * (w₁.finished.size + w₁.queued.size) + 3)
      none w₁ s₁ hs₁ hacc₁.noPanic (by simp only [workLeft]; split <;> omega) (by rw [hj])
    rw [hj] at hsent hchunks
    exact .inl ⟨rfl, by rw [hsent, hchunks, hacc₁.weight], Nat.eq_zero_of_le_zero (hzero ▸ hfail₁)⟩
  | failed e => exact .inr ⟨e, rfl⟩
  | panicked m => exact absurd rfl (hret m)

/-- What every state of a run keeps: the origin's invariant, and an open writer accounts for
every chunk it handed out. -/
def Sound (inv : σ → Prop) (p : ParallelWriter × σ) : Prop :=
  inv p.2 ∧ (p.1.closed = false → p.1.Accounted)

theorem Sound.write (ht : t.UploadsReturn inv) {p : ParallelWriter × σ} (h : Sound inv p)
    (d : ByteArray) : Sound inv (write t p.1 d p.2).2 := by
  obtain ⟨hs, hacc⟩ := h
  cases hopen : p.1.closed with
  | true => rw [(refuses_of_closed hopen).write]; exact ⟨hs, hacc⟩
  | false =>
    rcases write_returns ht hs hopen (hacc hopen) d with ⟨w', s', hw, -, hacc', -, hs'⟩ |
      ⟨e, w', s', hw, hclosed, hs'⟩
    · rw [hw]; exact ⟨hs', fun _ => hacc'⟩
    · rw [hw]
      refine ⟨hs', fun h => ?_⟩
      dsimp only at h
      simp [h] at hclosed

theorem Sound.close (ht : t.UploadsReturn inv) {p : ParallelWriter × σ} (h : Sound inv p) :
    Sound inv (close t p.1 p.2).2 := by
  obtain ⟨hs, hacc⟩ := h
  cases hopen : p.1.closed with
  | true => rw [(refuses_of_closed hopen).close]; exact ⟨hs, hacc⟩
  | false =>
    obtain ⟨-, hclosed, hs'⟩ := close_returns ht hs hopen (hacc hopen)
    refine ⟨hs', fun h => ?_⟩
    simp [h] at hclosed

theorem Sound.finishes (ht : t.UploadsReturn inv) {p q : ParallelWriter × σ} (h : Sound inv p)
    (hf : Finishes t p q) : Sound inv q := by
  obtain ⟨hs, hacc⟩ := h
  obtain ⟨hs', hclosed, hkeep⟩ := hf.returns ht hs
  exact ⟨hs', fun hopen => hkeep (hacc (hclosed.symm.trans hopen))⟩

theorem accounted_new (C W budget : Nat) (sch : Scheduler) :
    ({ ParallelWriter.new C W budget with scheduler := sch } : ParallelWriter).Accounted :=
  ⟨by simp [weight, failures, ParallelWriter.new, Accumulator.new], by simp [NoPanic, ParallelWriter.new]⟩

end ParallelWriter

/-- **Failed uploads stop both writers.** In a run from a new writer whose uploads return, a
record or an error:

* the sequential writer, while open, has delivered every chunk it handed out, in order; a write
  or close on it succeeds, or returns the error of the failed upload of some chunk `k` and
  leaves it closed with exactly the chunks before `k` delivered;
* the concurrent writer's uploads also finish between calls, any of the queued ones at any
  time. While open, every chunk it handed out is delivered, queued, or lost to a failed result
  waiting to be collected. A write on it succeeds and leaves it open, and then no failed result
  waited when it was called; or it returns an error and closes it. A close leaves it closed, and
  succeeds only when every chunk handed out was delivered and no failed result waited;
* a closed writer of either kind refuses every call, writing with `closed` and closing with
  `alreadyClosed`, and changes neither itself nor the origin. -/
theorem writers_stop_after_failure {σ : Type} (t : Transport σ) {inv : σ → Prop}
    (ht : t.UploadsReturn inv) {s₀ : σ} (h₀ : inv s₀) (C W budget : Nat) (sch : Scheduler) :
    (∀ w s, Reaches (SequentialWriter.write t) (SequentialWriter.close t) Quiet (.new C, s₀)
        (w, s) →
      inv s ∧
      (w.closed = true → Refuses (SequentialWriter.write t) (SequentialWriter.close t) w) ∧
      (w.closed = false → w.Delivered ∧
        (∀ d, let r := w.write t d s
          r.1 = .ok d.size ∧ r.2.1.closed = false ∨
            ∃ e k, r.1 = .failed e ∧ SequentialWriter.FailedAt t r.2.1 k e r.2.2) ∧
        let r := w.close t s
        r.1 = .ok () ∧ r.2.1.closed = true ∧ r.2.1.Delivered ∨
          ∃ e k, r.1 = .failed e ∧ SequentialWriter.FailedAt t r.2.1 k e r.2.2)) ∧
    (∀ w s, Reaches (ParallelWriter.write t) (ParallelWriter.close t) (ParallelWriter.Finishes t)
        ({ ParallelWriter.new C W budget with scheduler := sch }, s₀) (w, s) →
      inv s ∧
      (w.closed = true → Refuses (ParallelWriter.write t) (ParallelWriter.close t) w) ∧
      (w.closed = false → w.sent.size + w.queued.size + w.failures = w.chunks.sequence ∧
        (∀ d, let r := w.write t d s
          r.1 = .ok d.size ∧ r.2.1.closed = false ∧ w.failures = 0 ∨
            (∃ e, r.1 = .failed e) ∧ r.2.1.closed = true) ∧
        let r := w.close t s
        (r.1 = .ok () ∧ r.2.1.sent.size = r.2.1.chunks.sequence ∧ w.failures = 0 ∨
          ∃ e, r.1 = .failed e) ∧ r.2.1.closed = true)) := by
  refine ⟨fun w s hr => ?_, fun w s hr => ?_⟩
  · -- every state of the run is sound, so the open ones have delivered all they handed out
    obtain ⟨hs, hd⟩ := Reaches.rec_on_quiet (SequentialWriter.Sound inv) hr
      ⟨h₀, fun _ => SequentialWriter.delivered_new C⟩ (fun _ d h => h.write ht d)
      (fun _ h => h.close ht)
    refine ⟨hs, SequentialWriter.refuses_of_closed, fun hopen => ⟨hd hopen, fun d => ?_, ?_⟩⟩
    · rcases SequentialWriter.write_returns ht hs hopen (hd hopen) d with
        ⟨w', s', hw, hopen', -, -⟩ | ⟨e, k, w', s', hw, hfail, -⟩
      · exact .inl (by rw [hw]; exact ⟨rfl, hopen'⟩)
      · exact .inr ⟨e, k, by rw [hw], by rw [hw]; exact hfail⟩
    · rcases SequentialWriter.close_returns ht hs hopen (hd hopen) with
        ⟨w', s', hc, hclosed, hd', -⟩ | ⟨e, k, w', s', hc, hfail, -⟩
      · exact .inl (by rw [hc]; exact ⟨rfl, hclosed, hd'⟩)
      · exact .inr ⟨e, k, by rw [hc], by rw [hc]; exact hfail⟩
  · -- every state of the run is sound, so the open ones account for every chunk
    obtain ⟨hs, hacc⟩ := Reaches.rec_on_calls (ParallelWriter.Sound inv) hr
      ⟨h₀, fun _ => ParallelWriter.accounted_new C W budget sch⟩ (fun _ d h => h.write ht d)
      (fun _ h => h.close ht) (fun _ _ hf h => h.finishes ht hf)
    refine ⟨hs, ParallelWriter.refuses_of_closed, fun hopen =>
      ⟨(hacc hopen).weight, fun d => ?_, ?_⟩⟩
    · rcases ParallelWriter.write_returns ht hs hopen (hacc hopen) d with
        ⟨w', s', hw, hopen', -, hzero, -⟩ | ⟨e, w', s', hw, hclosed, -⟩
      · exact .inl (by rw [hw]; exact ⟨rfl, hopen', hzero⟩)
      · exact .inr (by rw [hw]; exact ⟨⟨e, rfl⟩, hclosed⟩)
    · obtain ⟨hout, hclosed, -⟩ := ParallelWriter.close_returns ht hs hopen (hacc hopen)
      exact ⟨hout, hclosed⟩

/-- The memory origin failing the first upload, and none panicking. The concurrent writer hands
a one-byte chunk to the background and returns; the upload fails between calls, so the next
write reports the failure and closes the writer, and so would a close. -/
theorem writers_stop_after_failure_memory :
    MemoryOrigin.transport.UploadsReturn (fun o => o.panicOn = []) ∧
      ({ failOn := [0] } : MemoryOrigin).panicOn = [] ∧
      ∃ p, Reaches (ParallelWriter.write MemoryOrigin.transport)
          (ParallelWriter.close MemoryOrigin.transport)
          (ParallelWriter.Finishes MemoryOrigin.transport)
          ({ ParallelWriter.new 1 2 turnBudget with scheduler := .currentThread }, { failOn := [0] })
          p ∧
        p.1.closed = false ∧ p.1.failures = 1 ∧
        (∃ e, (p.1.write MemoryOrigin.transport ⟨#[98]⟩ p.2).1 = .failed e) ∧
        (p.1.write MemoryOrigin.transport ⟨#[98]⟩ p.2).2.1.closed = true ∧
        ∃ e, (p.1.close MemoryOrigin.transport p.2).1 = .failed e := by
  -- an open writer of the run with a failed result waiting stops at the next call
  have hstop : ∀ p, Reaches (ParallelWriter.write MemoryOrigin.transport)
      (ParallelWriter.close MemoryOrigin.transport) (ParallelWriter.Finishes MemoryOrigin.transport)
      ({ ParallelWriter.new 1 2 turnBudget with scheduler := .currentThread }, { failOn := [0] })
      p → p.1.closed = false → p.1.failures = 1 →
      (∃ e, (p.1.write MemoryOrigin.transport ⟨#[98]⟩ p.2).1 = .failed e) ∧
        (p.1.write MemoryOrigin.transport ⟨#[98]⟩ p.2).2.1.closed = true ∧
        ∃ e, (p.1.close MemoryOrigin.transport p.2).1 = .failed e := by
    intro p hr hopen hone
    obtain ⟨-, -, hcalls⟩ := (writers_stop_after_failure MemoryOrigin.transport
      MemoryOrigin.uploadsReturn rfl 1 2 turnBudget .currentThread).2 p.1 p.2 hr
    obtain ⟨-, hwrite, hclose⟩ := hcalls hopen
    rcases hwrite ⟨#[98]⟩ with ⟨-, -, hzero⟩ | ⟨hw, hc⟩
    · exact absurd (hone.symm.trans hzero) (by decide)
    rcases hclose.1 with ⟨-, -, hzero⟩ | hc'
    · exact absurd (hone.symm.trans hzero) (by decide)
    exact ⟨hw, hc, hc'⟩
  -- one byte is written, and the upload of its chunk runs between calls
  have hr : ∀ q, ParallelWriter.Finishes MemoryOrigin.transport
      (ParallelWriter.write MemoryOrigin.transport
        { ParallelWriter.new 1 2 turnBudget with scheduler := .currentThread } ⟨#[97]⟩
        { failOn := [0] }).2 q →
      Reaches (ParallelWriter.write MemoryOrigin.transport)
        (ParallelWriter.close MemoryOrigin.transport)
        (ParallelWriter.Finishes MemoryOrigin.transport)
        ({ ParallelWriter.new 1 2 turnBudget with scheduler := .currentThread }, { failOn := [0] })
        q :=
    fun q hq => .ran (.wrote ⟨#[97]⟩ .refl) hq
  have hq := hr _ (ParallelWriter.Finishes.intro _ 0 (by decide +kernel))
  refine ⟨MemoryOrigin.uploadsReturn, rfl, _, hq, ?_, ?_, hstop _ hq ?_ ?_⟩ <;> decide +kernel

-- Results are compared in the closed statements below.
deriving instance DecidableEq for Outcome

/-- An upload that panics defeats both guarantees. The sequential writer hands out chunk 0,
whose upload panics, and then reports the failed upload of chunk 1 with no chunk delivered at
all. The concurrent writer with three slots runs its three queued uploads in the write of the
fourth byte: the first two panic and the third fails. The next write starts with that failure
waiting, and re-raises the second panic instead of reporting it. -/
theorem panicked_upload_hides_failure :
    let o : MemoryOrigin := { panicOn := [0], failOn := [1] }
    let r₁ := (SequentialWriter.new 1).write MemoryOrigin.transport ⟨#[97]⟩ o
    let r₂ := r₁.2.1.write MemoryOrigin.transport ⟨#[98]⟩ r₁.2.2
    let p : MemoryOrigin := { panicOn := [0, 1], failOn := [2] }
    let w₀ : ParallelWriter := { ParallelWriter.new 1 3 turnBudget with scheduler := .currentThread }
    let q₁ := w₀.write MemoryOrigin.transport ⟨#[97, 98, 99]⟩ p
    let q₂ := q₁.2.1.write MemoryOrigin.transport ⟨#[100]⟩ q₁.2.2
    let q₃ := q₂.2.1.write MemoryOrigin.transport ⟨#[101]⟩ q₂.2.2
    (r₁.1 = .panicked "upload attempt 0 panicked" ∧
      r₂.1 = .failed (.transport "upload_attachment" 400) ∧ r₂.2.1.chunks.sequence = 2 ∧
      r₂.2.1.sent.size = 0) ∧
    (q₁.1 = .ok 3 ∧ q₂.1 = .panicked "upload attempt 0 panicked" ∧ q₂.2.1.failures = 1 ∧
      q₃.1 = .panicked "upload attempt 1 panicked") := by
  dsimp only
  decide +kernel

end ChunkStore
