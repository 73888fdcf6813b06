import ChunkStore.Storage.Writer
/-!
# Upload slots of the concurrent writer

The concurrent writer takes an upload slot before it hands a full chunk to the background, and
the upload holds the slot until it has run. So however the runtime schedules the uploads, at
most `concurrency` of them (at least one) hold a slot at any time, each with at most a chunk of
data, and the writer buffers at most one more chunk while it waits: a chunk that fills is queued
before any more bytes are taken.

`ParallelWriter.Bounded` states this of one writer. Every step of the writer keeps it: running
an upload, a pause of the writing task (whatever the scheduler runs), a look at the results
(whatever other threads finished), taking a slot, handing a chunk over, collecting results,
writing, and waiting on closing. Taking a slot leaves one free (`takeSlot_free`), so a chunk is
queued only when a slot is. `Reaches` collects the writers that a run of writes and closes leads
to, with uploads finishing between the calls; all of them are bounded
(`parallel_writer_bounds_uploads`).
-/

namespace ChunkStore

/-- The states a writer with the calls `write` and `close` reaches from `p`, writing any bytes
and closing any number of times, in any order, with any number of `background` steps (work the
runtime does on its own) between the calls. -/
inductive Reaches {σ W : Type} (write : W → ByteArray → σ → Outcome Nat × W × σ)
    (close : W → σ → Outcome Unit × W × σ) (background : W × σ → W × σ → Prop) (p : W × σ) :
    W × σ → Prop
  | refl : Reaches write close background p p
  | wrote {q : W × σ} (d : ByteArray) : Reaches write close background p q →
      Reaches write close background p (write q.1 d q.2).2
  | closed {q : W × σ} : Reaches write close background p q →
      Reaches write close background p (close q.1 q.2).2
  | ran {q q' : W × σ} : Reaches write close background p q → background q q' →
      Reaches write close background p q'

/-- No work between calls: a writer that does everything inside its calls. -/
def Quiet {α : Type} (_ _ : α) : Prop := False

/-- What a run keeps: a property of the start kept by every write, every close and every
background step holds of every state the run reaches. -/
theorem Reaches.rec_on_calls {σ W : Type} {write : W → ByteArray → σ → Outcome Nat × W × σ}
    {close : W → σ → Outcome Unit × W × σ} {background : W × σ → W × σ → Prop} {p q : W × σ}
    (P : W × σ → Prop) (h : Reaches write close background p q) (hp : P p)
    (hw : ∀ q d, P q → P (write q.1 d q.2).2) (hc : ∀ q, P q → P (close q.1 q.2).2)
    (hb : ∀ q q', background q q' → P q → P q') : P q := by
  induction h with
  | refl => exact hp
  | wrote d _ ih => exact hw _ d ih
  | closed _ ih => exact hc _ ih
  | ran _ hq ih => exact hb _ _ hq ih

/-- A run with no background steps keeps what every write and every close keeps. -/
theorem Reaches.rec_on_quiet {σ W : Type} {write : W → ByteArray → σ → Outcome Nat × W × σ}
    {close : W → σ → Outcome Unit × W × σ} {p q : W × σ} (P : W × σ → Prop)
    (h : Reaches write close Quiet p q) (hp : P p) (hw : ∀ q d, P q → P (write q.1 d q.2).2)
    (hc : ∀ q, P q → P (close q.1 q.2).2) : P q :=
  h.rec_on_calls P hp hw hc fun _ _ hq => hq.elim

namespace Accumulator

theorem take_cases (a : Accumulator) :
    a.take = (none, a) ∨
      a.take = (some (a.sequence, a.buffer), { a with buffer := .empty, sequence := a.sequence + 1 }) := by
  unfold take
  split
  · exact .inl rfl
  · exact .inr rfl

theorem fill_buffer_le {a : Accumulator} (h : a.buffer.size ≤ a.chunkSize) (d : ByteArray)
    (start : Nat) : (a.fill d start).2.buffer.size ≤ (a.fill d start).2.chunkSize := by
  simp only [fill, ByteArray.size_append, ByteArray.size_extract]
  omega

end Accumulator

/-- A choice of the runtime that runs some queued uploads, in an order of its own, and leaves
the others queued. -/
def SplitsQueue (pick : List QueuedUpload → List QueuedUpload × List QueuedUpload) : Prop :=
  ∀ queue, ((pick queue).1 ++ (pick queue).2).Perm queue

theorem Scheduler.splits_pick (sch : Scheduler) (waits : Bool) : SplitsQueue (sch.pick waits) :=
  sch.pick_perm waits

theorem Scheduler.splits_finish (sch : Scheduler) (n : Nat) : SplitsQueue (sch.finish n) :=
  sch.finish_perm n

namespace ParallelWriter

variable {σ : Type} {t : Transport σ} {n k : Nat}

/-- At most `n` uploads hold a slot, each with at most a chunk of `k` bytes, and the writer
buffers at most one chunk more. -/
structure Bounded (w : ParallelWriter) (n k : Nat) : Prop where
  slots : w.slots = n
  pos : 0 < n
  chunkSize : w.chunks.chunkSize = k
  inFlight : w.queued.size ≤ n
  chunk : ∀ u ∈ w.queued.toList, u.data.size ≤ k
  buffer : w.chunks.buffer.size ≤ k

theorem Bounded.congr {w v : ParallelWriter} (h : w.Bounded n k) (hs : v.slots = w.slots)
    (hc : v.chunks = w.chunks) (hq : v.queued = w.queued) : v.Bounded n k := by
  obtain ⟨h1, h2, h3, h4, h5, h6⟩ := h
  exact ⟨hs ▸ h1, h2, hc ▸ h3, hq ▸ h4, hq ▸ h5, hc ▸ h6⟩

theorem runUpload_eq (w : ParallelWriter) (s : σ) (u : QueuedUpload) :
    ∃ r sent, runUpload t (w, s) u =
        ({ w with finished := w.finished.push r, sent }, (t.upload u.data s).2) ∧
      ∀ e, (t.upload u.data s).1 = .failed e → r = .failed e := by
  simp only [runUpload]
  split
  · next node s' h => exact ⟨_, _, by rw [h], by simp [h]⟩
  · next e s' h => exact ⟨_, _, by rw [h], by simp [h]⟩
  · next m s' h => exact ⟨_, _, by rw [h], by simp [h]⟩

theorem foldl_runUpload_eq :
    ∀ (now : List QueuedUpload) (w : ParallelWriter) (s : σ),
      ∃ rs sent, (now.foldl (runUpload t) (w, s)).1 =
        { w with finished := w.finished ++ rs, sent } ∧ rs.size = now.length
  | [], w, s => ⟨#[], w.sent, by simp, rfl⟩
  | u :: now, w, s => by
    obtain ⟨r, sent, hrun, -⟩ := runUpload_eq (t := t) w s u
    obtain ⟨rs, sent', hfold, hsize⟩ := foldl_runUpload_eq now
      { w with finished := w.finished.push r, sent } (t.upload u.data s).2
    refine ⟨#[r] ++ rs, sent', ?_, by simp [hsize, Nat.add_comm]⟩
    rw [List.foldl_cons, hrun, hfold, Array.push_eq_append, Array.append_assoc]

section Picked

variable {pick : List QueuedUpload → List QueuedUpload × List QueuedUpload}

theorem runPicked_shape (pick : List QueuedUpload → List QueuedUpload × List QueuedUpload)
    (w : ParallelWriter) (s : σ) :
    ∃ rs sent, (runPicked t pick w s).1 =
        { w with queued := (pick w.queued.toList).2.toArray, finished := w.finished ++ rs, sent } ∧
      rs.size = (pick w.queued.toList).1.length := by
  obtain ⟨rs, sent, hfold, hsize⟩ := foldl_runUpload_eq (t := t) (pick w.queued.toList).1
    { w with queued := (pick w.queued.toList).2.toArray } s
  exact ⟨rs, sent, by simp only [runPicked]; rw [hfold], hsize⟩

theorem runPicked_queued_subset (hp : SplitsQueue pick) (w : ParallelWriter) (s : σ) :
    ∀ u ∈ (runPicked t pick w s).1.queued.toList, u ∈ w.queued.toList := by
  obtain ⟨rs, sent, hrun, -⟩ := runPicked_shape (t := t) pick w s
  intro u hu
  rw [hrun] at hu
  exact (hp w.queued.toList).subset (List.mem_append_right _ (by simpa using hu))

theorem runPicked_queued_size (hp : SplitsQueue pick) (w : ParallelWriter) (s : σ) :
    (runPicked t pick w s).1.queued.size + (pick w.queued.toList).1.length = w.queued.size := by
  obtain ⟨rs, sent, hrun, -⟩ := runPicked_shape (t := t) pick w s
  have hlen := (hp w.queued.toList).length_eq
  simp only [List.length_append, Array.length_toList] at hlen
  rw [hrun]
  simp only [List.size_toArray]
  omega

end Picked

theorem pause_eq (waits : Bool) (w : ParallelWriter) (s : σ) :
    pause t waits w s =
      ({ (runPicked t (w.scheduler.pick waits) w s).1 with budget := turnBudget },
        (runPicked t (w.scheduler.pick waits) w s).2) := rfl

theorem look_eq (w : ParallelWriter) (s : σ) :
    look t w s =
      ({ (runPicked t (w.scheduler.finish w.looks) w s).1 with
          looks := (runPicked t (w.scheduler.finish w.looks) w s).1.looks + 1 },
        (runPicked t (w.scheduler.finish w.looks) w s).2) := rfl

theorem pause_shape (waits : Bool) (w : ParallelWriter) (s : σ) :
    ∃ rs sent, (pause t waits w s).1 =
        { w with queued := (w.scheduler.pick waits w.queued.toList).2.toArray,
                 finished := w.finished ++ rs, sent, budget := turnBudget } ∧
      rs.size = (w.scheduler.pick waits w.queued.toList).1.length := by
  obtain ⟨rs, sent, hrun, hsize⟩ := runPicked_shape (t := t) (w.scheduler.pick waits) w s
  exact ⟨rs, sent, by rw [pause_eq, hrun], hsize⟩

theorem pause_queued_size (waits : Bool) (w : ParallelWriter) (s : σ) :
    (pause t waits w s).1.queued.size + (w.scheduler.pick waits w.queued.toList).1.length =
      w.queued.size :=
  runPicked_queued_size (w.scheduler.splits_pick waits) w s

theorem look_queued_size (w : ParallelWriter) (s : σ) :
    (look t w s).1.queued.size + (w.scheduler.finish w.looks w.queued.toList).1.length =
      w.queued.size :=
  runPicked_queued_size (w.scheduler.splits_finish w.looks) w s

/-- Taking a slot pauses for the budget when it is spent, then waits for a free slot when every
slot is held, and spends one turn of the budget. -/
theorem takeSlot_cases (w : ParallelWriter) (s : σ) :
    ∃ w₁ s₁ w₂ s₂,
      (w₁ = w ∧ s₁ = s ∧ w.budget ≠ 0 ∨ w.budget = 0 ∧ pause t false w s = (w₁, s₁)) ∧
      (w₂ = w₁ ∧ s₂ = s₁ ∧ w₁.queued.size < w₁.slots ∨
        w₁.slots ≤ w₁.queued.size ∧ pause t true w₁ s₁ = (w₂, s₂)) ∧
      takeSlot t w s = ({ w₂ with budget := w₂.budget - 1 }, s₂) := by
  unfold takeSlot
  rcases h₁ : (if w.budget = 0 then pause t false w s else (w, s)) with ⟨w₁, s₁⟩
  dsimp only
  rcases h₂ : (if w₁.queued.size ≥ w₁.slots then pause t true w₁ s₁ else (w₁, s₁)) with ⟨w₂, s₂⟩
  refine ⟨w₁, s₁, w₂, s₂, ?_, ?_, rfl⟩
  · split at h₁
    · exact .inr ⟨‹_›, h₁⟩
    · cases h₁
      exact .inl ⟨rfl, rfl, ‹_›⟩
  · split at h₂
    · exact .inr ⟨‹_›, h₂⟩
    · cases h₂
      exact .inl ⟨rfl, rfl, Nat.lt_of_not_le ‹_›⟩

theorem Bounded.runUpload {w : ParallelWriter} (h : w.Bounded n k) (s : σ) (u : QueuedUpload) :
    (runUpload t (w, s) u).1.Bounded n k := by
  obtain ⟨r, sent, hrun, -⟩ := runUpload_eq (t := t) w s u
  rw [hrun]
  exact h.congr rfl rfl rfl

theorem Bounded.runPicked {w : ParallelWriter} (h : w.Bounded n k)
    {pick : List QueuedUpload → List QueuedUpload × List QueuedUpload} (hp : SplitsQueue pick)
    (s : σ) : (ParallelWriter.runPicked t pick w s).1.Bounded n k := by
  obtain ⟨rs, sent, hrun, -⟩ := runPicked_shape (t := t) pick w s
  have hsize := runPicked_queued_size (t := t) hp w s
  have hsub := runPicked_queued_subset (t := t) hp w s
  rw [hrun] at hsize hsub ⊢
  exact ⟨h.slots, h.pos, h.chunkSize, by have := h.inFlight; omega,
    fun u hu => h.chunk u (hsub u hu), h.buffer⟩

theorem Bounded.pause {w : ParallelWriter} (h : w.Bounded n k) (waits : Bool) (s : σ) :
    (ParallelWriter.pause t waits w s).1.Bounded n k :=
  (h.runPicked (w.scheduler.splits_pick waits) s).congr rfl rfl rfl

theorem Bounded.look {w : ParallelWriter} (h : w.Bounded n k) (s : σ) :
    (ParallelWriter.look t w s).1.Bounded n k :=
  (h.runPicked (w.scheduler.splits_finish w.looks) s).congr rfl rfl rfl

theorem Finishes.intro (p : ParallelWriter × σ) (i : Nat) (hi : i < p.1.queued.size) :
    Finishes t p (runUpload t ({ p.1 with queued := p.1.queued.eraseIdx i }, p.2) p.1.queued[i]) :=
  .run p.1 p.2 i hi

/-- An upload that finishes between calls leaves the queue, freeing its slot. -/
theorem Bounded.finishes {p q : ParallelWriter × σ} (h : p.1.Bounded n k) (hf : Finishes t p q) :
    q.1.Bounded n k := by
  cases hf with
  | run w s i hi =>
    change w.Bounded n k at h
    have h₁ : ({ w with queued := w.queued.eraseIdx i } : ParallelWriter).Bounded n k := by
      refine ⟨h.slots, h.pos, h.chunkSize, ?_, fun u hu => h.chunk u ?_, h.buffer⟩
      · have := h.inFlight
        simp only [Array.size_eraseIdx]
        omega
      · rw [Array.toList_eraseIdx] at hu
        exact List.mem_of_mem_eraseIdx hu
    exact h₁.runUpload s _

/-- Taking a slot keeps the bound and leaves a slot free: when every slot is held, the task
waits, and the pause runs at least one upload. -/
theorem Bounded.takeSlot {w : ParallelWriter} (h : w.Bounded n k) (s : σ) :
    (ParallelWriter.takeSlot t w s).1.Bounded n k ∧ (ParallelWriter.takeSlot t w s).1.queued.size < n := by
  obtain ⟨w₁, s₁, w₂, s₂, h₁, h₂, htake⟩ := takeSlot_cases (t := t) w s
  rw [htake]
  -- the pause for the budget, if the budget is spent
  have hb₁ : w₁.Bounded n k := by
    rcases h₁ with ⟨rfl, rfl, -⟩ | ⟨-, hpause⟩
    · exact h
    · have hb := h.pause (t := t) false s
      rw [hpause] at hb
      exact hb
  -- the pause for a free slot, if every slot is held
  have hb₂ : w₂.Bounded n k ∧ w₂.queued.size < n := by
    rcases h₂ with ⟨rfl, rfl, hfree⟩ | ⟨hfull, hpause⟩
    · exact ⟨hb₁, by rw [← hb₁.slots]; exact hfree⟩
    · have hne : w₁.queued.toList ≠ [] := by
        have := hb₁.pos
        rw [hb₁.slots] at hfull
        intro hnil
        have : w₁.queued.size = 0 := by simpa using congrArg List.length hnil
        omega
      have hrun := w₁.scheduler.pick_progress _ hne
      have hsize := pause_queued_size (t := t) true w₁ s₁
      have : (w₁.scheduler.pick true w₁.queued.toList).1.length ≠ 0 := by simpa using hrun
      have hb := hb₁.pause (t := t) true s₁
      rw [hpause] at hsize hb
      dsimp only at hsize
      exact ⟨hb, by have := hb₁.inFlight; omega⟩
  exact ⟨hb₂.1.congr rfl rfl rfl, hb₂.2⟩

theorem takeSlot_free {w : ParallelWriter} (h : w.Bounded n k) (s : σ) :
    (ParallelWriter.takeSlot t w s).1.queued.size < (ParallelWriter.takeSlot t w s).1.slots := by
  rw [(h.takeSlot s).1.slots]
  exact (h.takeSlot s).2

theorem Bounded.dispatch {w : ParallelWriter} (h : w.Bounded n k) (s : σ) :
    (ParallelWriter.dispatch t w s).1.Bounded n k := by
  unfold ParallelWriter.dispatch
  rcases Accumulator.take_cases w.chunks with htake | htake
  · rw [htake]
    exact h
  · rw [htake]
    dsimp only
    -- the full buffer goes out, and an empty one stays
    have h₀ : ({ w with chunks :=
        { w.chunks with buffer := .empty, sequence := w.chunks.sequence + 1 } } :
        ParallelWriter).Bounded n k :=
      ⟨h.slots, h.pos, h.chunkSize, h.inFlight, h.chunk, by simp⟩
    obtain ⟨h₁, hfree⟩ := h₀.takeSlot s
    refine ⟨h₁.slots, h₁.pos, h₁.chunkSize, by rw [Array.size_push]; exact hfree, ?_, h₁.buffer⟩
    intro u hu
    simp only [Array.toList_push, List.mem_append, List.mem_singleton] at hu
    rcases hu with hu | rfl
    · exact h₁.chunk u hu
    · exact h.buffer

theorem Bounded.fail {w : ParallelWriter} (h : w.Bounded n k) : (fail w).Bounded n k :=
  ⟨h.slots, h.pos, h.chunkSize, by simp [ParallelWriter.fail], by simp [ParallelWriter.fail],
    h.buffer⟩

theorem Bounded.reap_go {w : ParallelWriter} (h : w.Bounded n k) :
    ∀ rs : List Finished, (reap.go rs w).2.Bounded n k := by
  intro rs
  induction rs generalizing w with
  | nil => exact h.congr rfl rfl rfl
  | cons r rs ih =>
    cases r with
    | stored => exact ih h
    | failed e => exact (h.congr (v := { w with finished := rs.toArray }) rfl rfl rfl).fail
    | cancelled => exact (h.congr (v := { w with finished := rs.toArray }) rfl rfl rfl).fail
    | panicked m => exact h.congr (v := { w with finished := rs.toArray }) rfl rfl rfl

theorem Bounded.reap {w : ParallelWriter} (h : w.Bounded n k) : (reap w).2.Bounded n k :=
  h.reap_go _

theorem Bounded.pump {w : ParallelWriter} (h : w.Bounded n k) (d : ByteArray) :
    ∀ (fuel start : Nat) (s : σ), (ParallelWriter.pump t d fuel start w s).2.1.Bounded n k := by
  intro fuel
  induction fuel generalizing w with
  | zero => intro start s; exact h
  | succ fuel ih =>
    intro start s
    simp only [ParallelWriter.pump]
    split
    · exact h
    · -- fill the chunk: it holds at most a chunk
      have hfill : ({ w with chunks := (w.chunks.fill d start).2 } : ParallelWriter).Bounded n k :=
        ⟨h.slots, h.pos, h.chunkSize, h.inFlight, h.chunk, by
          have := Accumulator.fill_buffer_le (h.chunkSize ▸ h.buffer) d start
          exact Nat.le_trans this (Nat.le_of_eq h.chunkSize)⟩
      split
      · -- a full chunk is handed over, then the task looks at the results and collects them
        have h₁ := hfill.dispatch (t := t) s
        generalize ParallelWriter.dispatch t _ s = p at h₁ ⊢
        obtain ⟨w₁, s₁⟩ := p
        have h₂ := h₁.look (t := t) s₁
        generalize ParallelWriter.look t w₁ s₁ = p at h₂ ⊢
        obtain ⟨w₂, s₂⟩ := p
        have h₃ := h₂.reap
        dsimp only
        split
        · next w₃ heq =>
          rw [heq] at h₃
          exact ih h₃ _ _
        · next heq => simpa only [heq] using h₃
      · exact ih hfill _ _

theorem Bounded.write {w : ParallelWriter} (h : w.Bounded n k) (d : ByteArray) (s : σ) :
    (ParallelWriter.write t w d s).2.1.Bounded n k := by
  unfold ParallelWriter.write
  split
  · exact h
  · have h₀ := h.look (t := t) s
    generalize ParallelWriter.look t w s = p at h₀ ⊢
    obtain ⟨w₀, s₀⟩ := p
    have h₁ := h₀.reap
    dsimp only
    split
    · next heq => simpa only [heq] using h₁
    · next heq => simpa only [heq] using h₁
    · next w₁ heq =>
      rw [heq] at h₁
      have h₂ := h₁.pump (t := t) d (d.size + 1) 0 s₀
      split <;> next heq' => simpa only [heq'] using h₂

theorem Bounded.joinAll {w : ParallelWriter} (h : w.Bounded n k) (first : Option StorageError) :
    ∀ (fuel : Nat) (s : σ), (ParallelWriter.joinAll t first fuel w s).2.1.Bounded n k := by
  intro fuel
  induction fuel generalizing w first with
  | zero => intro s; exact h
  | succ fuel ih =>
    intro s
    simp only [ParallelWriter.joinAll]
    -- each step first looks at the results
    have h₀ := h.look (t := t) s
    generalize ParallelWriter.look t w s = p at h₀ ⊢
    obtain ⟨w₀, s₀⟩ := p
    dsimp only
    split
    · next r rest hf =>
      split
      · -- the budget is spent: pause, then look at the result again
        have h₁ := (h₀.congr (v := { w₀ with finished := rest.toArray }) rfl rfl rfl).pause
          (t := t) false s₀
        generalize ParallelWriter.pause t false _ s₀ = p at h₁ ⊢
        obtain ⟨w₁, s₁⟩ := p
        dsimp only at h₁ ⊢
        exact ih (h₁.congr (v := { w₁ with finished := w₁.finished.push r }) rfl rfl rfl) first s₁
      · have h₁ : ({ w₀ with finished := rest.toArray, budget := w₀.budget - 1 } :
            ParallelWriter).Bounded n k := h₀.congr rfl rfl rfl
        cases r with
        | stored => exact ih h₁ first s₀
        | failed e => exact ih h₁ _ s₀
        | cancelled => exact ih h₁ _ s₀
        | panicked m => exact h₁
    · split
      · exact h₀
      · have h₁ := h₀.pause (t := t) true s₀
        generalize ParallelWriter.pause t true w₀ s₀ = p at h₁ ⊢
        obtain ⟨w₁, s₁⟩ := p
        dsimp only at h₁ ⊢
        exact ih h₁ first s₁

theorem Bounded.close {w : ParallelWriter} (h : w.Bounded n k) (s : σ) :
    (ParallelWriter.close t w s).2.1.Bounded n k := by
  unfold ParallelWriter.close
  split
  · exact h
  · have h₁ := (h.congr (v := { w with closed := true }) rfl rfl rfl).dispatch (t := t) s
    generalize ParallelWriter.dispatch t _ s = p at h₁ ⊢
    obtain ⟨w₁, s₁⟩ := p
    dsimp only at h₁ ⊢
    exact h₁.joinAll none _ s₁

theorem bounded_new (C W budget : Nat) (sch : Scheduler) :
    ({ new C W budget with scheduler := sch } : ParallelWriter).Bounded (max W 1) (max C 1) :=
  ⟨rfl, by omega, rfl, by simp [new], by simp [new], by simp [new, Accumulator.new]⟩

end ParallelWriter

/-- **The concurrent writer bounds its uploads.** For every chunk size `C`, concurrency `W`,
budget and scheduler, every writer that writes and closes lead to, from a new one and whatever
the origin does, holds at most `max W 1` uploads in flight, each of at most a chunk, and buffers
at most one chunk more. The same holds at every point inside a call: each upload run and each
pause of the writing task, whatever the scheduler runs during it, keeps the bound; and a chunk
is queued only after a slot is taken while one is free. -/
theorem parallel_writer_bounds_uploads {σ : Type} (t : Transport σ) (C W budget : Nat)
    (sch : Scheduler) (s₀ : σ) :
    let w₀ : ParallelWriter := { ParallelWriter.new C W budget with scheduler := sch }
    (∀ w s, Reaches (ParallelWriter.write t) (ParallelWriter.close t) (ParallelWriter.Finishes t)
        (w₀, s₀) (w, s) →
      w.queued.size ≤ max W 1 ∧ (∀ u ∈ w.queued.toList, u.data.size ≤ max C 1) ∧
        w.chunks.buffer.size ≤ max C 1 ∧ w.Bounded (max W 1) (max C 1)) ∧
    (∀ (w : ParallelWriter) s, w.Bounded (max W 1) (max C 1) →
      (∀ u, (ParallelWriter.runUpload t (w, s) u).1.Bounded (max W 1) (max C 1)) ∧
      (∀ waits, (w.pause t waits s).1.Bounded (max W 1) (max C 1)) ∧
      (w.look t s).1.Bounded (max W 1) (max C 1) ∧
      (w.takeSlot t s).1.queued.size < (w.takeSlot t s).1.slots ∧
      (w.dispatch t s).1.Bounded (max W 1) (max C 1)) := by
  intro w₀
  refine ⟨fun w s hreach => ?_, fun w s h => ?_⟩
  · -- every write and every close keeps the bound
    have hb : w.Bounded (max W 1) (max C 1) :=
      Reaches.rec_on_calls (fun q => q.1.Bounded (max W 1) (max C 1)) hreach
        (ParallelWriter.bounded_new C W budget sch) (fun q d hq => hq.write d q.2)
        (fun q hq => hq.close q.2) (fun _ _ hf hq => hq.finishes hf)
    exact ⟨hb.inFlight, hb.chunk, hb.buffer, hb⟩
  · exact ⟨fun u => h.runUpload s u, fun waits => h.pause waits s, h.look s,
      ParallelWriter.takeSlot_free h s, h.dispatch s⟩

end ChunkStore
