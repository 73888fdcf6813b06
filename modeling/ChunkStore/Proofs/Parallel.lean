import ChunkStore.Proofs.Sequential
import ChunkStore.Proofs.Slots
/-!
# The concurrent writer

The concurrent writer cuts its bytes into the same pieces as the sequential one and numbers them
the same way, but uploads them in the background, in whatever order the runtime's scheduler runs
them. What stays fixed is the set of uploads: every piece handed out is either still queued or
has run, and the uploads that ran, in the order they ran, are the pieces in some order
(`ParallelWriter.Pool`). A pause of the writing task, and a look at the results after other
threads finished some uploads, run some queued uploads and keep this; closing waits until the
queue is empty, and the collection loop has fuel enough for it (`joinAll_drains`). So the
concurrent writer refines the sequential one up to the order of delivery, for every scheduler,
concurrency and split of the bytes into writes. An upload that finishes between two writes is
one the next write's first look finds finished: no call can tell the two apart.
-/

namespace ChunkStore

/-- The upload job a queued upload stands for. -/
def QueuedUpload.job (u : QueuedUpload) : Nat × ByteArray := (u.sequence, u.data)

namespace ParallelWriter

variable {σ : Type} {t : Transport σ} {inv : σ → Prop} {s₀ : σ} {k : Nat} {B : List UInt8}
  {J : List (Nat × ByteArray)} {w : ParallelWriter} {s : σ}

theorem runUpload_of_ok {u : QueuedUpload} {node : Node} {s' : σ}
    (hup : t.upload u.data s = (.ok node, s')) :
    runUpload t (w, s) u =
      ({ w with finished := w.finished.push .stored, sent := w.sent.push ⟨u.sequence, node⟩ },
        s') := by
  simp [runUpload, hup]

/-- Running queued uploads one after another, each stored, is uploading their jobs in that
order; each leaves a stored result. -/
theorem foldl_runUpload (ht : t.UploadsSucceed inv) :
    ∀ (now : List QueuedUpload) (w : ParallelWriter) (s : σ), inv s →
      now.foldl (runUpload t) (w, s) =
        ({ w with
            finished := w.finished ++ (now.map fun _ => Finished.stored).toArray
            sent := (uploadJobs t (now.map QueuedUpload.job) (w.sent, s)).1 },
          (uploadJobs t (now.map QueuedUpload.job) (w.sent, s)).2) ∧
      inv (uploadJobs t (now.map QueuedUpload.job) (w.sent, s)).2
  | [], w, s, hs => ⟨by simp, hs⟩
  | u :: now, w, s, hs => by
    obtain ⟨node, s', hup, hs'⟩ := ht u.data s hs
    have hjob : uploadJob t (w.sent, s) u.job = (w.sent.push ⟨u.sequence, node⟩, s') := by
      simp [uploadJob, QueuedUpload.job, hup]
    have hrest : uploadJobs t ((u :: now).map QueuedUpload.job) (w.sent, s) =
        uploadJobs t (now.map QueuedUpload.job) (w.sent.push ⟨u.sequence, node⟩, s') := by
      simp [uploadJobs, hjob]
    have hfin : w.finished.push .stored ++ (now.map fun _ => Finished.stored).toArray =
        w.finished ++ ((u :: now).map fun _ => Finished.stored).toArray := by
      apply Array.toList_inj.1
      simp
    obtain ⟨hfold, hinv⟩ := foldl_runUpload ht now
      { w with finished := w.finished.push .stored, sent := w.sent.push ⟨u.sequence, node⟩ } s' hs'
    refine ⟨?_, by rw [hrest]; exact hinv⟩
    rw [List.foldl_cons, runUpload_of_ok hup, hfold, hrest, hfin]

theorem runPicked_stored (ht : t.UploadsSucceed inv) (hs : inv s)
    (pick : List QueuedUpload → List QueuedUpload × List QueuedUpload) :
    runPicked t pick w s =
      ({ w with
          queued := (pick w.queued.toList).2.toArray
          finished := w.finished ++ ((pick w.queued.toList).1.map fun _ => Finished.stored).toArray
          sent := (uploadJobs t ((pick w.queued.toList).1.map QueuedUpload.job) (w.sent, s)).1 },
        (uploadJobs t ((pick w.queued.toList).1.map QueuedUpload.job) (w.sent, s)).2) ∧
      inv (uploadJobs t ((pick w.queued.toList).1.map QueuedUpload.job) (w.sent, s)).2 := by
  obtain ⟨hfold, hinv⟩ := foldl_runUpload ht (pick w.queued.toList).1
    { w with queued := (pick w.queued.toList).2.toArray } s hs
  exact ⟨by simp only [runPicked]; rw [hfold], hinv⟩

/-- The uploads of a concurrent writer started from transport state `s₀` and handed the jobs
`J`: every result not yet collected is a stored one, and the uploads that ran, in the order they
ran, followed by those still queued, are the jobs `J` in some order. -/
structure Pool (w : ParallelWriter) (t : Transport σ) (s₀ : σ) (J : List (Nat × ByteArray))
    (s : σ) : Prop where
  stored : ∀ r ∈ w.finished.toList, r = .stored
  ran : ∃ done, (w.sent, s) = uploadJobs t done (#[], s₀) ∧
    (done ++ w.queued.toList.map QueuedUpload.job).Perm J

/-- `w'` in state `s'` is `w` after some of its uploads ran: the same chunks, open or closed as
`w` was, its pool still that of the jobs `J`, and the transport's invariant kept. -/
structure Ran (w : ParallelWriter) (t : Transport σ) (s₀ : σ) (J : List (Nat × ByteArray))
    (inv : σ → Prop) (w' : ParallelWriter) (s' : σ) : Prop where
  pool : w'.Pool t s₀ J s'
  inv : inv s'
  chunks : w'.chunks = w.chunks
  closed : w'.closed = w.closed

theorem Ran.refl (h : w.Pool t s₀ J s) (hs : inv s) : w.Ran t s₀ J inv w s :=
  ⟨h, hs, rfl, rfl⟩

theorem Ran.trans {w₁ w₂ : ParallelWriter} {s₁ s₂ : σ} (h₁ : w.Ran t s₀ J inv w₁ s₁)
    (h₂ : w₁.Ran t s₀ J inv w₂ s₂) : w.Ran t s₀ J inv w₂ s₂ :=
  ⟨h₂.pool, h₂.inv, h₂.chunks.trans h₁.chunks, h₂.closed.trans h₁.closed⟩

theorem Ran.collect (h : w.Pool t s₀ J s) (hs : inv s) {r : Finished} {rest : List Finished}
    (hf : w.finished.toList = r :: rest) (budget : Nat) :
    w.Ran t s₀ J inv { w with finished := rest.toArray, budget := budget } s :=
  ⟨⟨fun r' hr' => h.stored r' (by simp [hf, hr']), h.ran⟩, hs, rfl, rfl⟩

theorem Ran.push_stored (h : w.Pool t s₀ J s) (hs : inv s) :
    w.Ran t s₀ J inv { w with finished := w.finished.push .stored } s :=
  ⟨⟨by simpa [or_imp, forall_and] using h.stored, h.ran⟩, hs, rfl, rfl⟩

theorem pause_sizes (ht : t.UploadsSucceed inv) (hs : inv s) (waits : Bool) :
    (pause t waits w s).1.finished.size =
        w.finished.size + (w.scheduler.pick waits w.queued.toList).1.length ∧
      (pause t waits w s).1.queued.size + (w.scheduler.pick waits w.queued.toList).1.length =
        w.queued.size ∧
      (pause t waits w s).1.budget = turnBudget := by
  refine ⟨?_, pause_queued_size waits w s, rfl⟩
  rw [pause_eq, (runPicked_stored ht hs _).1]
  simp

/-- Running picked uploads keeps the pool: those that run move from the queue to the uploads
that ran. -/
theorem ran_runPicked (ht : t.UploadsSucceed inv) (h : w.Pool t s₀ J s) (hs : inv s)
    {pick : List QueuedUpload → List QueuedUpload × List QueuedUpload} (hp : SplitsQueue pick) :
    w.Ran t s₀ J inv (runPicked t pick w s).1 (runPicked t pick w s).2 := by
  obtain ⟨heq, hinv⟩ := runPicked_stored ht hs pick (w := w)
  obtain ⟨done, hsent, hperm⟩ := h.ran
  rw [heq]
  refine ⟨⟨?_, ?_⟩, hinv, rfl, rfl⟩
  · intro r hr
    simp only [Array.toList_append, List.mem_append, List.mem_map] at hr
    rcases hr with hr | ⟨_, _, rfl⟩
    · exact h.stored r hr
    · rfl
  · refine ⟨done ++ (pick w.queued.toList).1.map QueuedUpload.job, ?_, ?_⟩
    · rw [uploadJobs_append, ← hsent]
    · simp only [List.append_assoc, ← List.map_append]
      exact (List.Perm.append_left done ((hp w.queued.toList).map _)).trans hperm

theorem ran_pause (ht : t.UploadsSucceed inv) (h : w.Pool t s₀ J s) (hs : inv s)
    (waits : Bool) : w.Ran t s₀ J inv (pause t waits w s).1 (pause t waits w s).2 := by
  have h₁ := ran_runPicked ht h hs (w.scheduler.splits_pick waits)
  rw [pause_eq]
  exact ⟨⟨h₁.pool.stored, h₁.pool.ran⟩, h₁.inv, h₁.chunks, h₁.closed⟩

theorem ran_look (ht : t.UploadsSucceed inv) (h : w.Pool t s₀ J s) (hs : inv s) :
    w.Ran t s₀ J inv (look t w s).1 (look t w s).2 := by
  have h₁ := ran_runPicked ht h hs (w.scheduler.splits_finish w.looks)
  rw [look_eq]
  exact ⟨⟨h₁.pool.stored, h₁.pool.ran⟩, h₁.inv, h₁.chunks, h₁.closed⟩

theorem ran_ite_pause (ht : t.UploadsSucceed inv) (h : w.Pool t s₀ J s) (hs : inv s)
    (c : Prop) [Decidable c] (waits : Bool) :
    w.Ran t s₀ J inv (if c then pause t waits w s else (w, s)).1
      (if c then pause t waits w s else (w, s)).2 := by
  split
  · exact ran_pause ht h hs waits
  · exact Ran.refl h hs

/-- Taking a slot may pause the task, for its budget or for a free slot; either way the pool is
kept. -/
theorem ran_takeSlot (ht : t.UploadsSucceed inv) (h : w.Pool t s₀ J s) (hs : inv s) :
    w.Ran t s₀ J inv (takeSlot t w s).1 (takeSlot t w s).2 := by
  have h₁ := ran_ite_pause ht h hs (w.budget = 0) false
  unfold takeSlot
  generalize (if w.budget = 0 then pause t false w s else (w, s)) = p₁ at h₁ ⊢
  obtain ⟨w₁, s₁⟩ := p₁
  dsimp only
  have h₂ := ran_ite_pause ht h₁.pool h₁.inv (w₁.queued.size ≥ w₁.slots) true
  generalize (if w₁.queued.size ≥ w₁.slots then pause t true w₁ s₁ else (w₁, s₁)) = p₂ at h₂ ⊢
  obtain ⟨w₂, s₂⟩ := p₂
  have h₃ := h₁.trans h₂
  dsimp only
  exact ⟨⟨h₃.pool.stored, h₃.pool.ran⟩, h₃.inv, h₃.chunks, h₃.closed⟩

theorem reap_go_stored :
    ∀ (rs : List Finished) (w : ParallelWriter), (∀ r ∈ rs, r = .stored) →
      reap.go rs w = (.ok (), { w with finished := #[] })
  | [], _, _ => rfl
  | r :: rs, w, h => by
    obtain rfl := h r List.mem_cons_self
    exact reap_go_stored rs w fun r hr => h r (List.mem_cons_of_mem _ hr)

theorem Pool.reap (h : w.Pool t s₀ J s) :
    ParallelWriter.reap w = (.ok (), { w with finished := #[] }) ∧
      ({ w with finished := #[] } : ParallelWriter).Pool t s₀ J s :=
  ⟨reap_go_stored _ w h.stored, ⟨by simp, h.ran⟩⟩

/-- Dispatching a buffer that is not empty queues it as the next piece, once a slot is free. -/
theorem dispatch_queues (ht : t.UploadsSucceed inv) (hc : w.chunks.Holds k B)
    (hne : w.chunks.buffer.size ≠ 0) (h : w.Pool t s₀ (jobs k B w.chunks.sequence) s)
    (hs : inv s) :
    { w with chunks := { w.chunks with buffer := .empty, sequence := w.chunks.sequence + 1 } }.Ran
      t s₀ (jobs k B (w.chunks.sequence + 1)) inv (dispatch t w s).1 (dispatch t w s).2 := by
  unfold dispatch
  rw [hc.take_eq hne]
  dsimp only
  have h₁ := ran_takeSlot ht
    (w := { w with
      chunks := { w.chunks with buffer := .empty, sequence := w.chunks.sequence + 1 } })
    ⟨h.stored, h.ran⟩ hs
  generalize takeSlot t _ s = p at h₁ ⊢
  obtain ⟨w₁, s₁⟩ := p
  obtain ⟨done, hsent, hperm⟩ := h₁.pool.ran
  refine ⟨⟨h₁.pool.stored, done, hsent, ?_⟩, h₁.inv, h₁.chunks, h₁.closed⟩
  rw [jobs_succ]
  simpa [Array.toList_push, QueuedUpload.job] using hperm.append_right _

/-- The concurrent writer after taking the bytes `B`, started from transport state `s₀`: open,
holding less than a chunk, and every chunk handed out queued or uploaded. -/
structure Took (w : ParallelWriter) (t : Transport σ) (s₀ : σ) (k : Nat) (B : List UInt8)
    (s : σ) : Prop where
  chunks : w.chunks.Holds k B
  roomLeft : w.chunks.buffer.size < k
  isOpen : w.closed = false
  pool : w.Pool t s₀ (jobs k B w.chunks.sequence) s

theorem took_new (t : Transport σ) (C W budget : Nat) (sch : Scheduler) (s₀ : σ) :
    ({ new C W budget with scheduler := sch } : ParallelWriter).Took t s₀ (max C 1) [] s₀ where
  chunks := Accumulator.holds_new C
  roomLeft := by
    simp only [new, Accumulator.new, ByteArray.size_empty]
    omega
  isOpen := rfl
  pool := ⟨by simp [new], [], by simp [new], by simp [new, Accumulator.new, jobs]⟩

/-- Filling, dispatching and collecting from `start` takes the rest of `d`, given fuel for every
byte left. -/
theorem pump_took (ht : t.UploadsSucceed inv) (d : ByteArray) :
    ∀ (fuel start : Nat) {w s}, d.size - start < fuel →
      w.Took t s₀ k (B ++ d.data.toList.take start) s → inv s →
      ∃ w' s', pump t d fuel start w s = (.ok (), w', s') ∧
        w'.Took t s₀ k (B ++ d.data.toList) s' ∧ inv s'
  | 0, _, _, _, hfuel, _, _ => absurd hfuel (Nat.not_lt_zero _)
  | fuel + 1, start, w, s, hfuel, h, hs => by
    by_cases hend : start ≥ d.size
    · refine ⟨w, s, by simp [pump, hend], ?_, hs⟩
      rwa [List.take_of_length_le (by simpa using hend)] at h
    · -- fill up the chunk from `start`: `n` bytes fit, and the accumulator becomes `c`
      obtain ⟨hpos, hc, hjobs⟩ := h.chunks.fill_from h.roomLeft (Nat.lt_of_not_ge hend)
      have hpool := h.pool
      rw [← hjobs, ← Accumulator.fill_sequence w.chunks d start] at hpool
      simp only [pump, hend, if_false]
      generalize w.chunks.fill d start = fc at hpos hc hpool
      obtain ⟨n, c⟩ := fc
      dsimp only at hpos hc hpool ⊢
      have hfuel' : d.size - (start + n) < fuel := by omega
      by_cases hfull : c.isFull
      · -- the chunk is full: queue it, look at the results and collect them, then go on
        have hsize := hc.isFull_iff.1 hfull
        have h₁ := dispatch_queues (w := { w with chunks := c }) ht hc
          (show c.buffer.size ≠ 0 by have := hc.pos; omega) ⟨hpool.stored, hpool.ran⟩ hs
        generalize dispatch t _ s = p at h₁ ⊢
        obtain ⟨w₁, s₁⟩ := p
        dsimp only at h₁ ⊢
        have h₂ := h₁.trans (ran_look ht h₁.pool h₁.inv)
        generalize look t w₁ s₁ = p at h₂ ⊢
        obtain ⟨w₂, s₂⟩ := p
        dsimp only at h₂ ⊢
        obtain ⟨hreap, hpool₂⟩ := h₂.pool.reap
        have h₃ : ({ w₂ with finished := #[] } : ParallelWriter).Took t s₀ k
            (B ++ d.data.toList.take (start + n)) s₂ :=
          ⟨h₂.chunks ▸ hc.take_full hsize, by simp [h₂.chunks, hc.pos],
            h₂.closed.trans h.isOpen, by simpa [h₂.chunks] using hpool₂⟩
        obtain ⟨w₄, s₄, hpump, h₄, hs₄⟩ := pump_took ht d fuel (start + n) hfuel' h₃ h₂.inv
        exact ⟨w₄, s₄, by simp [hfull, hreap, hpump], h₄, hs₄⟩
      · -- room is left in the chunk: go on with it
        have h₁ : ({ w with chunks := c } : ParallelWriter).Took t s₀ k
            (B ++ d.data.toList.take (start + n)) s :=
          ⟨hc, hc.size_lt_of_not_full hfull, h.isOpen, ⟨hpool.stored, hpool.ran⟩⟩
        obtain ⟨w₂, s₂, hpump, h₂, hs₂⟩ := pump_took ht d fuel (start + n) hfuel' h₁ hs
        exact ⟨w₂, s₂, by simp [hfull, hpump], h₂, hs₂⟩

/-- A write looks at the results and collects them, takes all its bytes, and queues every chunk
they complete. -/
theorem write_took (ht : t.UploadsSucceed inv) (h : w.Took t s₀ k B s) (hs : inv s)
    (d : ByteArray) :
    ∃ w' s', write t w d s = (.ok d.size, w', s') ∧ w'.Took t s₀ k (B ++ d.data.toList) s' ∧
      inv s' := by
  rcases hl : look t w s with ⟨v, s₁⟩
  have h₀ := ran_look ht h.pool hs (w := w)
  rw [hl] at h₀
  dsimp only at h₀
  obtain ⟨hreap, hpool⟩ := h₀.pool.reap
  have h₁ : ({ v with finished := #[] } : ParallelWriter).Took t s₀ k
      (B ++ d.data.toList.take 0) s₁ := by
    rw [List.take_zero, List.append_nil]
    exact ⟨h₀.chunks ▸ h.chunks, by simpa [h₀.chunks] using h.roomLeft, h₀.closed.trans h.isOpen,
      by simpa [h₀.chunks] using hpool⟩
  obtain ⟨w', s', hpump, h', hs'⟩ :=
    pump_took ht d (d.size + 1) 0 (Nat.lt_succ_of_le (Nat.sub_le _ _)) h₁ h₀.inv
  refine ⟨w', s', ?_, h', hs'⟩
  rw [write, if_neg (by rw [h.isOpen]; decide), hl]
  dsimp only
  rw [hreap]
  dsimp only
  rw [hpump]

/-- What is left to do when closing: each result not yet collected takes a step (and a pause
for the budget at most as often), and each queued upload a pause and the step collecting it. -/
def workLeft (w : ParallelWriter) : Nat :=
  2 * w.finished.size + 3 * w.queued.size + if w.budget = 0 then 1 else 0

theorem workLeft_look (w : ParallelWriter) (s : σ) : (look t w s).1.workLeft ≤ w.workLeft := by
  obtain ⟨rs, sent, hrun, hsize⟩ :=
    runPicked_shape (t := t) (w.scheduler.finish w.looks) w s
  have hq := look_queued_size (t := t) w s
  simp only [look_eq, hrun] at hq ⊢
  simp only [workLeft, Array.size_append, hsize] at hq ⊢
  omega

/-! ### The collection loop, step by step

Each step of the loop looks at the results first; what it does next depends on the writer the
look leaves (`v`, with the origin at `s₁`). -/

section Steps

variable {first : Option StorageError} {fuel : Nat} {v : ParallelWriter} {s₁ : σ}
  {r : Finished} {rest : List Finished} {e : StorageError}

theorem joinAll_done (hl : look t w s = (v, s₁)) (hf : v.finished.toList = [])
    (hq : v.queued.isEmpty = true) :
    joinAll t first (fuel + 1) w s = joinAll t first 0 v s₁ := by
  simp only [joinAll, hl, hf, hq, if_true]

theorem joinAll_wait (hl : look t w s = (v, s₁)) (hf : v.finished.toList = [])
    (hq : v.queued.isEmpty = false) :
    joinAll t first (fuel + 1) w s =
      joinAll t first fuel (pause t true v s₁).1 (pause t true v s₁).2 := by
  simp only [joinAll, hl, hf, hq, Bool.false_eq_true, if_false]

theorem joinAll_putBack (hl : look t w s = (v, s₁)) (hf : v.finished.toList = r :: rest)
    (hb : v.budget = 0) {w₂ : ParallelWriter} {s₂ : σ}
    (hpause : pause t false { v with finished := rest.toArray } s₁ = (w₂, s₂)) :
    joinAll t first (fuel + 1) w s =
      joinAll t first fuel { w₂ with finished := w₂.finished.push r } s₂ := by
  simp only [joinAll, hl, hf, if_pos hb, hpause]

theorem joinAll_stored (hl : look t w s = (v, s₁)) (hf : v.finished.toList = .stored :: rest)
    (hb : v.budget ≠ 0) :
    joinAll t first (fuel + 1) w s =
      joinAll t first fuel { v with finished := rest.toArray, budget := v.budget - 1 } s₁ := by
  simp only [joinAll, hl, hf, if_neg hb]

theorem joinAll_lost (hl : look t w s = (v, s₁)) (hf : v.finished.toList = r :: rest)
    (hb : v.budget ≠ 0) (hr : r = .failed e ∨ r = .cancelled ∧ e = .cancelled) :
    joinAll t first (fuel + 1) w s =
      joinAll t (first <|> some e) fuel
        { v with finished := rest.toArray, budget := v.budget - 1 } s₁ := by
  rcases hr with rfl | ⟨rfl, rfl⟩ <;> simp only [joinAll, hl, hf, if_neg hb]

end Steps

/-- **The collection loop drains the queue.** With every upload stored and fuel above the work
left, waiting for the uploads runs every queued one and collects every result: it reports
success, and the pool is what it was, with an empty queue. -/
theorem joinAll_drains (ht : t.UploadsSucceed inv) :
    ∀ (fuel : Nat) (w : ParallelWriter) (s : σ), w.Pool t s₀ J s → inv s → w.workLeft < fuel →
      ∃ w' s', joinAll t none fuel w s = (.ok (), w', s') ∧ w.Ran t s₀ J inv w' s' ∧
        w'.queued.toList = []
  | 0, _, _, _, _, hfuel => absurd hfuel (Nat.not_lt_zero _)
  | fuel + 1, w, s, h, hs, hfuel => by
    -- the step looks at the results first, which only moves work along
    rcases hl : look t w s with ⟨v, s₁⟩
    have hran₀ := ran_look ht h hs (w := w)
    have hwork₀ := workLeft_look (t := t) w s
    rw [hl] at hran₀ hwork₀
    dsimp only at hran₀ hwork₀
    have hv : v.workLeft < fuel + 1 := Nat.lt_of_le_of_lt hwork₀ hfuel
    rcases hf : v.finished.toList with _ | ⟨r, rest⟩
    · by_cases hq : v.queued.isEmpty
      · -- nothing is left to wait for
        refine ⟨v, s₁, joinAll_done hl hf hq, hran₀, ?_⟩
        simpa [Array.isEmpty_iff] using hq
      · -- wait for the queued uploads: the pause runs at least one
        have hne : v.queued.toList ≠ [] := by simpa [Array.isEmpty_iff] using hq
        have hprog := v.scheduler.pick_progress _ hne
        have hran := ran_pause ht hran₀.pool hran₀.inv true
        obtain ⟨hfin, hque, hbud⟩ := pause_sizes ht hran₀.inv true (w := v)
        have hwork : (pause t true v s₁).1.workLeft < fuel := by
          have : (v.scheduler.pick true v.queued.toList).1.length ≠ 0 := by simpa using hprog
          have : v.finished.size = 0 := by simpa using congrArg List.length hf
          simp only [workLeft] at hv ⊢
          rw [hbud, if_neg (by simp [turnBudget])]
          omega
        obtain ⟨w', s', hjoin, hran', hq'⟩ :=
          joinAll_drains ht fuel _ _ hran.pool hran.inv hwork
        refine ⟨w', s', ?_, hran₀.trans (hran.trans hran'), hq'⟩
        rw [joinAll_wait hl hf (by simpa using hq)]
        exact hjoin
    · have hr : r = .stored := hran₀.pool.stored r (by simp [hf])
      subst hr
      have hsize : v.finished.size = rest.length + 1 := by simpa using congrArg List.length hf
      by_cases hb : v.budget = 0
      · -- the budget is spent: pause, and collect the result after those the pause finishes
        have hran₁ := Ran.collect hran₀.pool hran₀.inv hf v.budget
        have hran₂ := ran_pause ht hran₁.pool hran₀.inv false
        obtain ⟨hfin, hque, hbud⟩ :=
          pause_sizes ht hran₀.inv false (w := { v with finished := rest.toArray })
        rcases hpause : pause t false { v with finished := rest.toArray } s₁ with ⟨w₂, s₂⟩
        rw [hpause] at hran₂ hfin hque hbud
        dsimp only at hran₂ hfin hque hbud
        have hran₃ := Ran.push_stored hran₂.pool hran₂.inv
        have hwork : ({ w₂ with finished := w₂.finished.push .stored } : ParallelWriter).workLeft <
            fuel := by
          simp only [workLeft, Array.size_push, hbud, List.size_toArray] at hv hfin hque ⊢
          rw [if_pos hb] at hv
          rw [if_neg (by simp [turnBudget])]
          omega
        obtain ⟨w', s', hjoin, hran', hq'⟩ :=
          joinAll_drains ht fuel _ s₂ hran₃.pool hran₂.inv hwork
        refine ⟨w', s', ?_, hran₀.trans (hran₁.trans (hran₂.trans (hran₃.trans hran'))), hq'⟩
        rw [joinAll_putBack hl hf hb hpause]
        exact hjoin
      · -- collect the stored result
        have hran₁ := Ran.collect hran₀.pool hran₀.inv hf (v.budget - 1)
        have hwork : ({ v with finished := rest.toArray, budget := v.budget - 1 } :
            ParallelWriter).workLeft < fuel := by
          simp only [workLeft, List.size_toArray] at hv ⊢
          rw [if_neg hb] at hv
          split <;> omega
        obtain ⟨w', s', hjoin, hran', hq'⟩ := joinAll_drains ht fuel _ s₁ hran₁.pool hran₀.inv hwork
        refine ⟨w', s', ?_, hran₀.trans (hran₁.trans hran'), hq'⟩
        rw [joinAll_stored hl hf hb]
        exact hjoin

/-- Closing queues the rest as the last piece, if there is a rest, and waits for every upload:
it succeeds with nothing left queued, and every piece of `B` has run. -/
theorem close_drains (ht : t.UploadsSucceed inv) (h : w.Took t s₀ k B s) (hs : inv s) :
    ∃ w' s', close t w s = (.ok (), w', s') ∧ w'.queued.toList = [] ∧
      w'.chunks.written = B.length ∧ w'.Pool t s₀ (jobs k B (chunkCount k B.length)) s' ∧
      inv s' := by
  have hseq := h.chunks.sequence_eq h.roomLeft
  have hsize := h.chunks.size_buffer
  have hdiv := Nat.div_add_mod B.length k
  rw [hseq] at hsize
  rw [close, if_neg (by rw [h.isOpen]; decide)]
  by_cases h0 : w.chunks.buffer.size = 0
  · -- nothing is left to queue: wait for what is queued
    have hcount : chunkCount k B.length = w.chunks.sequence := by
      rw [chunkCount_eq h.chunks.pos, hseq, if_pos (by omega), Nat.add_zero]
    have hdispatch : dispatch t { w with closed := true } s = ({ w with closed := true }, s) := by
      simp [dispatch, Accumulator.take_of_empty h0]
    rw [hdispatch]
    dsimp only
    obtain ⟨w', s', hjoin, hran, hq⟩ := joinAll_drains ht
      (3 * (w.finished.size + w.queued.size) + 3) { w with closed := true } s
      ⟨h.pool.stored, h.pool.ran⟩ hs (by simp only [workLeft]; split <;> omega)
    exact ⟨w', s', hjoin, hq, by rw [hran.chunks]; exact h.chunks.written, hcount ▸ hran.pool,
      hran.inv⟩
  · -- the rest is queued as one more, shorter, piece
    have hcount : chunkCount k B.length = w.chunks.sequence + 1 := by
      rw [chunkCount_eq h.chunks.pos, hseq, if_neg (by omega)]
    have hran₁ := dispatch_queues (w := { w with closed := true }) ht h.chunks h0
      ⟨h.pool.stored, h.pool.ran⟩ hs
    generalize dispatch t _ s = p at hran₁ ⊢
    obtain ⟨w₁, s₁⟩ := p
    dsimp only at hran₁ ⊢
    obtain ⟨w', s', hjoin, hran, hq⟩ := joinAll_drains ht
      (3 * (w₁.finished.size + w₁.queued.size) + 3) w₁ s₁ hran₁.pool hran₁.inv
      (by simp only [workLeft]; split <;> omega)
    refine ⟨w', s', hjoin, hq, ?_, hcount ▸ hran.pool, hran.inv⟩
    rw [hran.chunks, hran₁.chunks]
    exact h.chunks.written

end ParallelWriter

theorem parallel_write_step {σ : Type} {t : Transport σ} {inv : σ → Prop} {s₀ : σ} {k : Nat}
    (ht : t.UploadsSucceed inv) (B : List UInt8) (cw : ChunkWriter) (s : σ) (d : ByteArray)
    (h : ∃ w, cw = .parallel w ∧ w.Took t s₀ k B s ∧ inv s) :
    ∃ cw' s', cw.write t d s = (.ok d.size, cw', s') ∧
      ∃ w', cw' = .parallel w' ∧ w'.Took t s₀ k (B ++ d.data.toList) s' ∧ inv s' := by
  obtain ⟨w, rfl, hw, hs⟩ := h
  obtain ⟨w', s', hwrite, hw', hs'⟩ := ParallelWriter.write_took ht hw hs d
  exact ⟨.parallel w', s', by simp [ChunkWriter.write, hwrite], w', rfl, hw', hs'⟩

/-- A script that takes `D` into a new concurrent writer, then closing it, counts `D`'s bytes as
written and uploads the pieces of `D`, in some order. -/
theorem ParallelWriter.run_delivers {σ : Type} {t : Transport σ} {inv : σ → Prop}
    (ht : t.UploadsSucceed inv) (C W budget : Nat) (sch : Scheduler) {s₀ : σ} (h₀ : inv s₀)
    {α : Type} {script : ChunkWriter → σ → α × ChunkWriter × σ} {res : α} {D : List UInt8}
    (hscript : ScriptTakes t script res D) :
    ∃ w s, script (.parallel { ParallelWriter.new C W budget with scheduler := sch }) s₀ =
        (res, .parallel w, s) ∧
      ∃ w' s', w.close t s = (.ok (), w', s') ∧ w'.chunks.written = D.length ∧
        ∃ order, order.Perm (jobs (max C 1) D (chunkCount (max C 1) D.length)) ∧
          (w'.sent, s') = uploadJobs t order (#[], s₀) := by
  obtain ⟨cw, s, hrun, w, rfl, hw, hs⟩ := hscript
    (fun B cw s => ∃ w, cw = .parallel w ∧ w.Took t s₀ (max C 1) B s ∧ inv s) _ _
    (parallel_write_step ht) ⟨_, rfl, ParallelWriter.took_new t C W budget sch s₀, h₀⟩
  obtain ⟨w', s', hclose, hq, hwritten, hpool, -⟩ := ParallelWriter.close_drains ht hw hs
  -- with the queue drained, the delivered jobs alone are a permutation of the pieces
  obtain ⟨order, hsent, hperm⟩ := hpool.ran
  rw [hq, List.map_nil, List.append_nil] at hperm
  exact ⟨w, s, hrun, w', s', hclose, hwritten, order, hperm, hsent⟩

/-- **The concurrent writer refines the sequential one up to the order of delivery.** For every
chunk size, concurrency, scheduler and budget, and every split of the bytes `D` into writes,
each write is told it took all its bytes and closing succeeds; the writer then counts `D`'s
length as written, its deliveries carry each sequence number below the piece count exactly
once, and the deliveries and the transport's state are those of uploading the pieces of `D` in
some order, each with its own sequence number. The sequential writer, given the same writes,
uploads the same pieces in their own order. -/
theorem parallel_writer_refines_sequential {σ : Type} (t : Transport σ) {inv : σ → Prop}
    (ht : t.UploadsSucceed inv) (C W budget : Nat) (sch : Scheduler) (s₀ : σ) (h₀ : inv s₀)
    (ds : List ByteArray) :
    let D := (ds.map (·.data.toList)).flatten
    let J := jobs (max C 1) D (chunkCount (max C 1) D.length)
    (∃ w s, ChunkWriter.writeAll t ds
          (.parallel { ParallelWriter.new C W budget with scheduler := sch }) s₀ =
        (ds.map fun d => .ok d.size, .parallel w, s) ∧
      ∃ w' s', w.close t s = (.ok (), w', s') ∧
        (ChunkWriter.parallel w').bytesWritten = D.length ∧
        (w'.sent.toList.map (·.sequence)).Perm (List.range (chunkCount (max C 1) D.length)) ∧
        ∃ order, order.Perm J ∧ (w'.sent, s') = uploadJobs t order (#[], s₀)) ∧
    (∃ w s, ChunkWriter.writeAll t ds (.sequential (.new C)) s₀ =
        (ds.map fun d => .ok d.size, .sequential w, s) ∧
      ∃ w' s', w.close t s = (.ok (), w', s') ∧ (w'.sent, s') = uploadJobs t J (#[], s₀)) := by
  intro D J
  refine ⟨?_, SequentialWriter.run_delivers ht C h₀ (scriptTakes_writeAll t ds)⟩
  obtain ⟨w, s, hrun, w', s', hclose, hwritten, order, hperm, hsent⟩ :=
    ParallelWriter.run_delivers ht C W budget sch h₀ (scriptTakes_writeAll t ds)
  refine ⟨w, s, hrun, w', s', hclose, hwritten, ?_, order, hperm, hsent⟩
  -- every sequence number is delivered once: the records are numbered as their jobs
  have hseq := uploadJobs_sequences ht order (#[], s₀) h₀
  rw [← congrArg Prod.fst hsent] at hseq
  simp only [List.map_nil, List.nil_append] at hseq
  rw [hseq, ← map_fst_jobs (max C 1) D]
  exact hperm.map _

/-- Five bytes written at once to the memory origin in chunks of four, two uploads at a time,
under the current-thread runtime. -/
theorem parallel_writer_refines_sequential_memory :
    MemoryOrigin.transport.UploadsSucceed (fun o => o.failOn = [] ∧ o.panicOn = []) ∧
      (({} : MemoryOrigin).failOn = [] ∧ ({} : MemoryOrigin).panicOn = []) ∧
      let ds := [ByteArray.mk #[1, 2, 3, 4, 5]]
      let D := (ds.map (·.data.toList)).flatten
      let J := jobs (max 4 1) D (chunkCount (max 4 1) D.length)
      (∃ w s, ChunkWriter.writeAll MemoryOrigin.transport ds
            (.parallel { ParallelWriter.new 4 2 turnBudget with scheduler := .currentThread }) {} =
          (ds.map fun d => .ok d.size, .parallel w, s) ∧
        ∃ w' s', w.close MemoryOrigin.transport s = (.ok (), w', s') ∧
          (ChunkWriter.parallel w').bytesWritten = D.length ∧
          (w'.sent.toList.map (·.sequence)).Perm (List.range (chunkCount (max 4 1) D.length)) ∧
          ∃ order, order.Perm J ∧
            (w'.sent, s') = uploadJobs MemoryOrigin.transport order (#[], {})) ∧
      (∃ w s, ChunkWriter.writeAll MemoryOrigin.transport ds (.sequential (.new 4)) {} =
          (ds.map fun d => .ok d.size, .sequential w, s) ∧
        ∃ w' s', w.close MemoryOrigin.transport s = (.ok (), w', s') ∧
          (w'.sent, s') = uploadJobs MemoryOrigin.transport J (#[], {})) :=
  ⟨MemoryOrigin.uploadsSucceed, ⟨rfl, rfl⟩,
    parallel_writer_refines_sequential MemoryOrigin.transport MemoryOrigin.uploadsSucceed 4 2
      turnBudget .currentThread {} ⟨rfl, rfl⟩ [ByteArray.mk #[1, 2, 3, 4, 5]]⟩

end ChunkStore
