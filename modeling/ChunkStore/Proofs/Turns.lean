import ChunkStore.Proofs.Exclusion
import ChunkStore.Storage.Memory
/-!
# Renewals in turn

Whole runs of renewals side by side (`Renewals.run`), read through what each step did
(`RenewNote`). Renewals of one file get the file's lock in the order in which they asked for it,
and a renewal that notices the shutdown before it holds its lock ends cancelled and never
renews. Both rest on the invariant of the exclusion module and on one more fact: no step takes a
renewal back (`Stage.rank` only grows), so a step that needs a renewal at a low rank cannot come
once the renewal has gone past it.

The order of asking is carried by `Precedes a b`: `a` is past the lock's queue, or `b` gave up,
or both wait for one lock with `a` ahead of `b` in its line. Every step keeps it (lines only
grow at the back and lose members), and while it holds, `b` cannot be granted the lock before
`a` is past the queue.
-/

namespace ChunkStore

namespace Renewals

variable {σ : Type} {t : Transport σ} {s : Renewals σ}

/-! ## No step takes a renewal back -/

theorem step_calls (hs : s.Inv) {c : Nat} {call : RenewCall} (hc : s.calls c = some call)
    (e : RenewEvent) : (s.step t e).1.calls c = some call ∨ Moves t s c call (s.step t e) := by
  rcases step_cases t s e with h | h | ⟨key, nodes, h⟩ | ⟨c', call', hc', h⟩
  · exact .inl (by rw [h]; exact hc)
  · exact .inl (by rw [h]; exact hc)
  · exact .inl (by rw [h]; simp [Function.update_of_ne (Nat.ne_of_lt (hs.lt_started hc)), hc])
  · by_cases e' : c = c'
    · subst e'
      rw [hc, Option.some.injEq] at hc'
      subst hc'
      exact .inr h
    · exact .inl (by rw [h.calls_of_ne e', hc])

theorem rank_step (hs : s.Inv) {c : Nat} {call : RenewCall} (hc : s.calls c = some call)
    (e : RenewEvent) :
    ∃ call', (s.step t e).1.calls c = some call' ∧ call'.fileId = call.fileId ∧
      call.stage.rank ≤ call'.stage.rank := by
  rcases step_calls hs hc e with h | h
  · exact ⟨call, h, rfl, le_rfl⟩
  · obtain ⟨call', h₁, h₂, h₃⟩ := h.self hc
    exact ⟨call', h₁, h₂, h₃.le⟩

theorem rank_run (hs : s.Inv) {c : Nat} {call : RenewCall} (hc : s.calls c = some call)
    (es : List RenewEvent) :
    ∃ call', (s.run t es).1.calls c = some call' ∧ call'.fileId = call.fileId ∧
      call.stage.rank ≤ call'.stage.rank := by
  induction es generalizing s call with
  | nil => exact ⟨call, hc, rfl, le_rfl⟩
  | cons e es ih =>
    obtain ⟨call', h₁, h₂, h₃⟩ := rank_step hs hc e
    obtain ⟨call'', h₄, h₅, h₆⟩ := ih (hs.step e) h₁
    exact ⟨call'', h₄, h₅.trans h₂, h₃.trans h₆⟩

/-! ## Reading a run through its notes -/

/-- The steps before a note, the note's own step, and the steps after it. -/
theorem run_split {es : List RenewEvent} {n₁ n₂ : List RenewNote} {x : RenewNote}
    (h : (s.run t es).2 = n₁ ++ x :: n₂) :
    ∃ es₁ e es₂, es = es₁ ++ e :: es₂ ∧ (s.run t es₁).2 = n₁ ∧
      ((s.run t es₁).1.step t e).2 = x ∧ (((s.run t es₁).1.step t e).1.run t es₂).2 = n₂ ∧
      (s.run t es).1 = (((s.run t es₁).1.step t e).1.run t es₂).1 := by
  induction n₁ generalizing s es with
  | nil =>
    cases es with
    | nil => simp [run] at h
    | cons e es =>
      simp only [run, List.nil_append, List.cons.injEq] at h
      exact ⟨[], e, es, rfl, rfl, h.1, h.2, rfl⟩
  | cons y n₁ ih =>
    cases es with
    | nil => simp [run] at h
    | cons e es =>
      simp only [run, List.cons_append, List.cons.injEq] at h
      obtain ⟨es₁, e', es₂, rfl, h₁, h₂, h₃, h₄⟩ := ih h.2
      exact ⟨e :: es₁, e', es₂, rfl, by simp [run, h.1, h₁], h₂, h₃, h₄⟩

theorem step_note (t : Transport σ) (s : Renewals σ) (e : RenewEvent) :
    (s.step t e).2 = .quiet ∨ (∃ n, (s.step t e).2 = .started n) ∨
      ∃ c call, s.calls c = some call ∧ Moves t s c call (s.step t e) := by
  rcases step_cases t s e with h | h | ⟨key, nodes, h⟩ | h
  · exact .inl (by rw [h])
  · exact .inl (by rw [h])
  · exact .inr (.inl ⟨_, by rw [h]⟩)
  · exact .inr (.inr h)

theorem step_moves {e : RenewEvent} {x : RenewNote} (he : (s.step t e).2 = x)
    (hx : x ≠ .quiet ∧ ∀ n, x ≠ .started n) :
    ∃ c call, s.calls c = some call ∧ Moves t s c call (s.step t e) := by
  rcases step_note t s e with h | ⟨n, h⟩ | hmove
  · exact absurd (he.symm.trans h) hx.1
  · exact absurd (he.symm.trans h) (hx.2 n)
  · exact hmove

theorem step_enters (e : RenewEvent) {b : Nat} (he : (s.step t e).2.enters b) :
    ∃ call, s.calls b = some call ∧ call.stage.rank ≤ 2 ∧
      ∃ call', (s.step t e).1.calls b = some call' ∧ call'.stage.rank = 3 := by
  rcases step_note t s e with h | ⟨n, h⟩ | ⟨c, call, hc, h⟩
  · simp [h, RenewNote.enters] at he
  · simp [h, RenewNote.enters] at he
  · obtain ⟨rfl, hbefore, hafter⟩ := h.enters hc he
    refine ⟨call, hc, ?_, hafter⟩
    rcases hbefore with ⟨l, hst, -⟩ | ⟨l, hst, -⟩ <;> simp [hst, Stage.rank]

theorem step_renewed (e : RenewEvent) {b : Nat} {k : String} (he : (s.step t e).2 = .renewed b k) :
    ∃ call, s.calls b = some call ∧ call.stage.rank = 3 ∧
      ∃ call', (s.step t e).1.calls b = some call' ∧ call'.stage.rank = 4 := by
  obtain ⟨c, call, hc, h⟩ := step_moves he (by simp)
  obtain ⟨rfl, h₁, h₂⟩ := h.renewed he
  exact ⟨call, hc, h₁, h₂⟩

theorem step_cancelled (e : RenewEvent) {b : Nat} (he : (s.step t e).2 = .cancelled b) :
    ∃ call, s.calls b = some call ∧ s.cancelled = true ∧ call.stage.rank ≤ 2 ∧
      ∃ call', (s.step t e).1.calls b = some call' ∧
        (call'.stage = .leaving (.failed .cancelled) ∨ call'.stage = .done (.failed .cancelled)) := by
  obtain ⟨c, call, hc, h⟩ := step_moves he (by simp)
  obtain ⟨rfl, h₁, h₂, h₃⟩ := h.cancelled hc he
  exact ⟨call, hc, h₁, h₂, h₃⟩

/-- Steps of a kind that need renewal `a` at rank `m` or below do not come once `a` is past
rank `m`. -/
theorem not_mem_run_of_rank (hs : s.Inv) {a m : Nat} {p : RenewNote → Prop}
    (hp : ∀ (u : Renewals σ) (e : RenewEvent), p (u.step t e).2 →
      ∃ call, u.calls a = some call ∧ call.stage.rank ≤ m)
    {ca : RenewCall} (ha : s.calls a = some ca) (hm : m < ca.stage.rank) (es : List RenewEvent) :
    ∀ y ∈ (s.run t es).2, ¬ p y := by
  induction es generalizing s ca with
  | nil => simp [run]
  | cons e es ih =>
    intro y hy hpy
    rcases List.mem_cons.1 hy with rfl | hy
    · obtain ⟨call, hc, hle⟩ := hp s e hpy
      rw [ha, Option.some.injEq] at hc
      subst hc
      omega
    · obtain ⟨ca', h₁, -, h₂⟩ := rank_step hs ha e
      exact ih (hs.step e) h₁ (by omega) y hy hpy

/-- After a step of a kind that leaves renewal `a` at rank `m` or above, `a` stays there. -/
theorem rank_run_of_mem (hs : s.Inv) {a m : Nat} {p : RenewNote → Prop}
    (hp : ∀ (u : Renewals σ) (e : RenewEvent), p (u.step t e).2 →
      ∃ call, (u.step t e).1.calls a = some call ∧ m ≤ call.stage.rank)
    (es : List RenewEvent) {y : RenewNote} (hy : y ∈ (s.run t es).2) (hpy : p y) :
    ∃ call, (s.run t es).1.calls a = some call ∧ m ≤ call.stage.rank := by
  induction es generalizing s with
  | nil => simp [run] at hy
  | cons e es ih =>
    rcases List.mem_cons.1 hy with rfl | hy
    · obtain ⟨call, hc, hle⟩ := hp s e hpy
      obtain ⟨call', h₁, -, h₂⟩ := rank_run (hs.step e) hc es
      exact ⟨call', h₁, hle.trans h₂⟩
    · exact ih (hs.step e) hy

theorem not_enters_run (hs : s.Inv) {a : Nat} {ca : RenewCall} (ha : s.calls a = some ca)
    (h3 : 3 ≤ ca.stage.rank) (es : List RenewEvent) : ∀ y ∈ (s.run t es).2, ¬ y.enters a :=
  not_mem_run_of_rank hs (fun _ e he => (step_enters e he).imp fun _ h => ⟨h.1, h.2.1⟩) ha
    (by omega) es

/-! ## First come, first served -/

/-- Renewal `a` gets its lock before renewal `b` does: `a` is past the lock's queue, `b` gave
up, or both wait for one lock with `a` ahead of `b` in its line. -/
def Precedes (s : Renewals σ) (a b : Nat) : Prop :=
  (∃ ca, s.calls a = some ca ∧ 3 ≤ ca.stage.rank) ∨
  (∃ cb, s.calls b = some cb ∧ 5 ≤ cb.stage.rank) ∨
  ∃ l ca cb, s.calls a = some ca ∧ ca.stage = .waiting l ∧ s.calls b = some cb ∧
    cb.stage = .waiting l ∧ [a, b].Sublist (s.locks l).line

/-- Every step keeps `a` ahead of `b`, and `b` gets the lock only once `a` is past the queue. -/
theorem Precedes.step (hs : s.Inv) {a b : Nat} (hp : s.Precedes a b) (e : RenewEvent) :
    (s.step t e).1.Precedes a b ∧
      ((s.step t e).2.enters b → ∃ ca, s.calls a = some ca ∧ 3 ≤ ca.stage.rank) := by
  rcases hp with ⟨ca, ha, h3⟩ | ⟨cb, hb, h5⟩ | ⟨l, ca, cb, ha, hwa, hb, hwb, hsub⟩
  · obtain ⟨ca', h₁, -, h₂⟩ := rank_step hs ha e
    exact ⟨.inl ⟨ca', h₁, h3.trans h₂⟩, fun _ => ⟨ca, ha, h3⟩⟩
  · -- `b` gave up for good, so it is not granted the lock
    obtain ⟨cb', h₁, -, h₂⟩ := rank_step hs hb e
    refine ⟨.inr (.inl ⟨cb', h₁, h5.trans h₂⟩), fun he => ?_⟩
    obtain ⟨call, hc, hle, -⟩ := step_enters e he
    rw [hb, Option.some.injEq] at hc
    subst hc
    omega
  · have hab : a ≠ b := by simpa using (hs.nodup l).sublist hsub
    have hno := FairLock.owner_ne_of_sublist (hs.nodup l) hsub hab
    have hkeep : (s.step t e).1.calls a = s.calls a → (s.step t e).1.calls b = s.calls b →
        (s.step t e).1.locks l = s.locks l → (s.step t e).1.Precedes a b := fun h₁ h₂ h₃ =>
      .inr (.inr ⟨l, ca, cb, h₁ ▸ ha, hwa, h₂ ▸ hb, hwb, h₃ ▸ hsub⟩)
    rcases step_cases t s e with h | h | ⟨key, nodes, h⟩ | ⟨c, call, hc, h⟩
    · exact ⟨hkeep (by rw [h]) (by rw [h]) (by rw [h]), fun he => by simp [h, RenewNote.enters] at he⟩
    · exact ⟨hkeep (by rw [h]) (by rw [h]) (by rw [h]), fun he => by simp [h, RenewNote.enters] at he⟩
    · refine ⟨hkeep ?_ ?_ (by rw [h]), fun he => by simp [h, RenewNote.enters] at he⟩
      · simp [h, Function.update_of_ne (Nat.ne_of_lt (hs.lt_started ha))]
      · simp [h, Function.update_of_ne (Nat.ne_of_lt (hs.lt_started hb))]
    · by_cases hca : c = a
      · -- `a` moves on from waiting: it gets the lock or gives up
        subst hca
        rw [ha, Option.some.injEq] at hc
        subst hc
        obtain ⟨ca', h₁, -, h₂⟩ := h.self ha
        rw [hwa] at h₂
        exact ⟨.inl ⟨ca', h₁, h₂⟩,
          fun he => absurd (h.enters ha he).1 hab⟩
      by_cases hcb : c = b
      · -- `b` moves on from waiting: it cannot have been granted the lock, so it gave up
        subst hcb
        rw [hb, Option.some.injEq] at hc
        subst hc
        rcases h.of_waiting hb hwb with ho | ⟨cb', h₁, h₂⟩
        · exact absurd ho hno
        refine ⟨.inr (.inl ⟨cb', h₁, h₂⟩), fun he => ?_⟩
        rcases (h.enters hb he).2.1 with ⟨l', hst, -⟩ | ⟨l', hst, ho⟩
        · rw [hwb] at hst
          cases hst
        · rw [hwb, Stage.waiting.injEq] at hst
          subst hst
          exact absurd ho hno
      -- another renewal moves: its line changes only at the back or by losing it
      refine ⟨.inr (.inr ⟨l, ca, cb, by rw [h.calls_of_ne (Ne.symm hca)]; exact ha, hwa,
        by rw [h.calls_of_ne (Ne.symm hcb)]; exact hb, hwb, ?_⟩),
        fun he => absurd (h.enters hc he).1 hcb⟩
      rcases h.line hs l with hl | hl | hl <;> rw [hl]
      · exact hsub
      · exact hsub.trans (List.sublist_append_left _ _)
      · have hf := hsub.filter (· != c)
        simpa [List.filter_cons, Ne.symm hca, Ne.symm hcb] using hf

theorem Precedes.run (hs : s.Inv) {a b : Nat} (hp : s.Precedes a b) (es : List RenewEvent) :
    (s.run t es).1.Precedes a b := by
  induction es generalizing s with
  | nil => exact hp
  | cons e es ih => exact ih (hs.step e) (hp.step hs e).1

theorem Precedes.not_enters_after (hs : s.Inv) {a b : Nat} (hp : s.Precedes a b)
    {es : List RenewEvent} {n₁ n₂ : List RenewNote} {x : RenewNote}
    (h : (s.run t es).2 = n₁ ++ x :: n₂) (hx : x.enters b) : ∀ y ∈ n₂, ¬ y.enters a := by
  obtain ⟨es₁, e, es₂, rfl, -, hxe, hn₂, -⟩ := run_split h
  have hs₁ := hs.run (t := t) es₁
  obtain ⟨ca, ha, h3⟩ := ((hp.run hs es₁).step hs₁ e).2 (hxe ▸ hx)
  obtain ⟨ca', h₁, -, h₂⟩ := rank_step hs₁ ha e
  rw [← hn₂]
  exact not_enters_run (hs₁.step e) h₁ (h3.trans h₂) es₂

/-- When `b` asks the lock of `a`'s file after `a` did, `a` gets the lock first; in particular
`b` is not granted it at once unless `a` is already past the queue. -/
theorem precedes_of_asked (hs : s.Inv) {a b : Nat} {ca : RenewCall} (ha : s.calls a = some ca)
    (h2 : 2 ≤ ca.stage.rank) {e : RenewEvent} {l : Nat} {g : Bool}
    (he : (s.step t e).2 = .asked b ca.fileId l g) :
    (s.step t e).1.Precedes a b ∧ (g = true → 3 ≤ ca.stage.rank) := by
  obtain ⟨c, call, hc, h⟩ := step_moves he (by simp)
  obtain ⟨hcb, hkey, hcounted, hg, hlock, -, hcall⟩ := h.asked hc he
  subst hcb
  by_cases h3 : 3 ≤ ca.stage.rank
  · obtain ⟨ca', h₁, -, h₂⟩ := rank_step hs ha e
    exact ⟨.inl ⟨ca', h₁, h3.trans h₂⟩, fun _ => h3⟩
  -- `a` waits for the lock of its file, and the asker is counted for the same lock
  obtain ⟨l₀, hwa⟩ := Stage.eq_waiting_of_rank (by omega : ca.stage.rank = 2)
  have hac : a ≠ c := fun hac => by
    subst hac
    rw [ha, Option.some.injEq] at hc
    subst hc
    rw [hwa] at hcounted
    cases hcounted
  have hl : l₀ = l := by
    obtain ⟨sl, hsl, hla⟩ := hs.slot a ca ha (by simp [hwa, Stage.counts])
    obtain ⟨sl', hsl', hlc⟩ := hs.slot c call hc (by simp [hcounted, Stage.counts])
    rw [hkey, hsl, Option.some.injEq] at hsl'
    subst hsl'
    exact (hla l₀ (by simp [hwa, Stage.lock?])).symm.trans (hlc l (by simp [hcounted, Stage.lock?]))
  subst hl
  have hain : a ∈ (s.locks l₀).line := (hs.line l₀ a).2 ⟨ca, ha, by simp [hwa, Stage.inLine]⟩
  -- the lock is busy, so the asker queues behind `a`
  have hbusy : (s.locks l₀).owner ≠ none := fun ho => by
    rw [FairLock.line, ho, hs.idle l₀ ho] at hain
    simp at hain
  have hgf : g = false := by
    rw [hg]
    cases ho : (s.locks l₀).owner with
    | none => exact absurd ho hbusy
    | some o => rfl
  subst hgf
  refine ⟨.inr (.inr ⟨l₀, ca, { call with stage := .waiting l₀ },
    by rw [h.calls_of_ne hac]; exact ha, hwa, by simpa using hcall, rfl, ?_⟩), fun hg' => by cases hg'⟩
  rw [hlock, FairLock.line_ask _ _ (hs.idle l₀)]
  exact (List.singleton_sublist.2 hain).append_right [c]

/-- Renewals of one file get its lock in the order in which they asked for it: once a later
asker has the lock, an earlier one does not get it any more. -/
theorem Inv.enters_in_order (hs : s.Inv) {es : List RenewEvent} {n₁ n₂ n₃ : List RenewNote}
    {a b : Nat} {k : String} {la lb : Nat} {ga gb : Bool} {x : RenewNote}
    (h : (s.run t es).2 = n₁ ++ .asked a k la ga :: (n₂ ++ x :: n₃))
    (hb : .asked b k lb gb ∈ n₂ ++ [x]) (hx : x.enters b) : ∀ y ∈ n₃, ¬ y.enters a := by
  obtain ⟨es₁, e, es₂, rfl, -, hae, hrest, -⟩ := run_split h
  have hs₁ := hs.run (t := t) es₁
  -- after asking, `a` is at rank 2 at least, with file `k`
  obtain ⟨ca, hca, hk, hrank⟩ : ∃ ca, ((s.run t es₁).1.step t e).1.calls a = some ca ∧
      ca.fileId = k ∧ 2 ≤ ca.stage.rank := by
    obtain ⟨c, call, hc, h'⟩ := step_moves hae (by simp)
    obtain ⟨hca, hkey, -, -, -, -, hcall⟩ := h'.asked hc hae
    subst hca
    exact ⟨_, hcall, hkey, by split <;> simp [Stage.rank]⟩
  have hs₂ := hs₁.step (t := t) e
  rcases List.mem_append.1 hb with hbn | hbx
  · -- `b` asked between `a`'s asking and `x`: from then on `a` is ahead of `b`
    obtain ⟨m₁, m₂, rfl⟩ := List.append_of_mem hbn
    rw [List.append_assoc, List.cons_append] at hrest
    obtain ⟨f₁, e', f₂, rfl, -, hbe, hrest', -⟩ := run_split hrest
    have hs₃ := hs₂.run (t := t) f₁
    obtain ⟨ca₃, h₁, h₂, h₃⟩ := rank_run hs₂ hca f₁
    have hp := (precedes_of_asked hs₃ h₁ (hrank.trans h₃) (by rw [h₂, hk]; exact hbe)).1
    exact hp.not_enters_after (hs₃.step e') hrest' hx
  · -- `x` is `b`'s own asking, granted at once: `a` was already past the queue
    rw [List.mem_singleton] at hbx
    subst hbx
    obtain ⟨f₁, e', f₂, rfl, -, hbe, hrest', -⟩ := run_split hrest
    have hs₃ := hs₂.run (t := t) f₁
    have hg : gb = true := by simpa [RenewNote.enters] using hx
    obtain ⟨ca₃, h₁, h₂, h₃⟩ := rank_run hs₂ hca f₁
    have h3 := (precedes_of_asked hs₃ h₁ (hrank.trans h₃) (by rw [h₂, hk]; exact hbe)).2 hg
    obtain ⟨ca₄, h₄, -, h₅⟩ := rank_step hs₃ h₁ e'
    rw [← hrest']
    exact not_enters_run (hs₃.step e') h₄ (h3.trans h₅) f₂

/-! ## Shutdown -/

/-- A renewal that ended cancelled only uncounts itself, and stays cancelled. -/
theorem Moves.of_cancelled {c : Nat} {call : RenewCall} {r : Renewals σ × RenewNote}
    (hc : s.calls c = some call) (h : Moves t s c call r)
    (hcan : call.stage = .leaving (.failed .cancelled) ∨ call.stage = .done (.failed .cancelled)) :
    ∃ call', r.1.calls c = some call' ∧ call'.stage = .done (.failed .cancelled) := by
  cases h with
  | uncount hst =>
    rcases hcan with hcan | hcan <;> rw [hcan] at hst
    · cases hst
      simp [setStage, hc]
    · cases hst
  | cancelFresh hst _ => rcases hcan with hcan | hcan <;> rw [hcan] at hst <;> cases hst
  | count hst _ => rcases hcan with hcan | hcan <;> rw [hcan] at hst <;> cases hst
  | cancelCounted hst _ => rcases hcan with hcan | hcan <;> rw [hcan] at hst <;> cases hst
  | ask hst => rcases hcan with hcan | hcan <;> rw [hcan] at hst <;> cases hst
  | cancelWaiting hst _ => rcases hcan with hcan | hcan <;> rw [hcan] at hst <;> cases hst
  | enter hst _ _ => rcases hcan with hcan | hcan <;> rw [hcan] at hst <;> cases hst
  | renew _ hst => rcases hcan with hcan | hcan <;> rw [hcan] at hst <;> cases hst
  | release hst => rcases hcan with hcan | hcan <;> rw [hcan] at hst <;> cases hst

theorem cancelled_run (hs : s.Inv) {c : Nat} {call : RenewCall} (hc : s.calls c = some call)
    (hcan : call.stage = .leaving (.failed .cancelled) ∨ call.stage = .done (.failed .cancelled))
    (es : List RenewEvent) :
    ∃ call', (s.run t es).1.calls c = some call' ∧
      (call'.stage = .leaving (.failed .cancelled) ∨ call'.stage = .done (.failed .cancelled)) := by
  induction es generalizing s call with
  | nil => exact ⟨call, hc, hcan⟩
  | cons e es ih =>
    rcases step_calls hs hc e with h | h
    · exact ih (hs.step e) h hcan
    · obtain ⟨call', h₁, h₂⟩ := h.of_cancelled hc hcan
      exact ih (hs.step e) h₁ (.inr h₂)

/-- No renewal's step touches the shutdown flag. -/
theorem Moves.cancelled_flag {c : Nat} {call : RenewCall} {r : Renewals σ × RenewNote}
    (h : Moves t s c call r) : r.1.cancelled = s.cancelled := by
  cases h with
  | renew now _ =>
    rcases hr : refreshExpired t call.nodes now s.origin with ⟨out, nodes, o⟩
    simp [Renewals.renew, hr]
  | count _ _ =>
    unfold register
    split <;> rfl
  | uncount _ =>
    show (s.unregister call.fileId).cancelled = s.cancelled
    unfold unregister
    split <;> rfl
  | _ => rfl

/-- Once the store is shut down it stays shut down. -/
theorem cancelled_flag_run (hflag : s.cancelled = true) (es : List RenewEvent) :
    (s.run t es).1.cancelled = true := by
  induction es generalizing s with
  | nil => exact hflag
  | cons e es ih =>
    refine ih ?_
    rcases step_cases t s e with h | h | ⟨key, nodes, h⟩ | ⟨c, call, hc, h⟩
    · rw [h]
      exact hflag
    · rw [h]
    · rw [h]
      exact hflag
    · rw [h.cancelled_flag]
      exact hflag

theorem not_renewed_run (hs : s.Inv) {a : Nat} {ca : RenewCall} (ha : s.calls a = some ca)
    (h4 : 4 ≤ ca.stage.rank) (es : List RenewEvent) :
    ∀ y ∈ (s.run t es).2, ¬ ∃ k, y = .renewed a k :=
  not_mem_run_of_rank hs (p := fun y => ∃ k, y = .renewed a k)
    (fun _ e he => by
      obtain ⟨_, he⟩ := he
      obtain ⟨call, hc, h3, -⟩ := step_renewed e he
      exact ⟨call, hc, h3.le⟩) ha (by omega) es

/-- A renewal that notices the shutdown does so after the store was shut down and before it
ever held its lock; it never gets the lock and never renews, and it ends cancelled. -/
theorem Inv.cancelled_before_lock (hs : s.Inv) {es : List RenewEvent} {n₁ n₂ : List RenewNote}
    {c : Nat} (h : (s.run t es).2 = n₁ ++ .cancelled c :: n₂) :
    (s.run t es).1.cancelled = true ∧
    (∀ y ∈ n₁ ++ n₂, ¬ y.enters c ∧ ∀ k, y ≠ .renewed c k) ∧
    ∃ call, (s.run t es).1.calls c = some call ∧
      (call.stage = .leaving (.failed .cancelled) ∨ call.stage = .done (.failed .cancelled)) := by
  obtain ⟨es₁, e, es₂, rfl, hn₁, hce, hn₂, hfinal⟩ := run_split h
  have hs₁ := hs.run (t := t) es₁
  obtain ⟨call, hc, hflag, hle, call', hc', hcan⟩ := step_cancelled e hce
  have hs₂ := hs₁.step (t := t) e
  have h5 : 5 ≤ call'.stage.rank := by rcases hcan with h' | h' <;> simp [h', Stage.rank]
  have hflag' : ((s.run t es₁).1.step t e).1.cancelled = true := by
    rw [← cancelled_flag_run (t := t) hflag [e]]
    rfl
  rw [hfinal]
  refine ⟨cancelled_flag_run hflag' es₂, fun y hy => ?_, cancelled_run hs₂ hc' hcan es₂⟩
  rcases List.mem_append.1 hy with hy | hy
  · -- before it noticed the shutdown, the renewal was below rank 3 all along
    rw [← hn₁] at hy
    refine ⟨fun hey => ?_, fun k hk => ?_⟩
    · obtain ⟨call₁, h₁, h₂⟩ := rank_run_of_mem hs (m := 3) (p := fun y => y.enters c)
        (fun _ e he => by
          obtain ⟨_, -, -, call', h₁, h₂⟩ := step_enters e he
          exact ⟨call', h₁, h₂.ge⟩) es₁ hy hey
      rw [hc, Option.some.injEq] at h₁
      subst h₁
      omega
    · obtain ⟨call₁, h₁, h₂⟩ := rank_run_of_mem hs (m := 3) (p := fun y => ∃ k, y = .renewed c k)
        (fun _ e he => by
          obtain ⟨_, he⟩ := he
          obtain ⟨_, -, -, call', h₁, h₂⟩ := step_renewed e he
          exact ⟨call', h₁, by omega⟩) es₁ hy ⟨k, hk⟩
      rw [hc, Option.some.injEq] at h₁
      subst h₁
      omega
  · rw [← hn₂] at hy
    exact ⟨not_enters_run hs₂ hc' (by omega) es₂ y hy,
      fun k hk => not_renewed_run hs₂ hc' (by omega) es₂ y hy ⟨k, hk⟩⟩

end Renewals

/-- Renewals of file records running side by side, in any interleaving of their steps. At most
one renewal of a file holds the file's lock at a time, so no two renewals of one file renew (and
list the origin) at overlapping times; a renewal waits only behind renewals of its own file;
renewals of one file get the lock in the order in which they asked for it, so once a later
asker has the lock an earlier one does not get it any more; and a renewal that notices the
shutdown does so after the store was shut down, never holds its lock nor renews, and ends
cancelled. -/
theorem renewals_take_turns {σ : Type} (t : Transport σ) (origin : σ) (es : List RenewEvent) :
    let r := (Renewals.init origin).run t es
    (∀ c c' call call' l l', r.1.calls c = some call → r.1.calls c' = some call' →
      call.fileId = call'.fileId → call.stage.holds l → call'.stage.holds l' → c = c') ∧
    (∀ c call l c', r.1.calls c = some call → call.stage = .waiting l →
      ((r.1.locks l).owner = some c' ∨ c' ∈ (r.1.locks l).queue) →
      ∃ call', r.1.calls c' = some call' ∧ call'.fileId = call.fileId) ∧
    (∀ n₁ n₂ n₃ a b k la lb ga gb x, r.2 = n₁ ++ .asked a k la ga :: (n₂ ++ x :: n₃) →
      .asked b k lb gb ∈ n₂ ++ [x] → x.enters b → ∀ y ∈ n₃, ¬ y.enters a) ∧
    (∀ n₁ n₂ c, r.2 = n₁ ++ .cancelled c :: n₂ → r.1.cancelled = true ∧
      (∀ y ∈ n₁ ++ n₂, ¬ y.enters c ∧ ∀ k, y ≠ .renewed c k) ∧
      ∃ call, r.1.calls c = some call ∧
        (call.stage = .leaving (.failed .cancelled) ∨ call.stage = .done (.failed .cancelled))) := by
  intro r
  have hs : r.1.Inv := (Renewals.Inv.init origin).run es
  refine ⟨fun c c' call call' l l' hc hc' hkey hh hh' => hs.holder_unique hc hc' hkey hh hh',
    fun c call l c' hc hw hc'l => ?_,
    fun n₁ n₂ n₃ a b k la lb ga gb x h hb hx => (Renewals.Inv.init origin).enters_in_order h hb hx,
    fun n₁ n₂ c h => (Renewals.Inv.init origin).cancelled_before_lock h⟩
  exact hs.line_same_file hc (by simp [hw, Stage.inLine]) (FairLock.mem_line.2 hc'l)

/-- Two renewals of one file and a third after the shutdown: the second gets the lock once the
first released it, and the third ends cancelled. -/
theorem renewals_take_turns_two_then_shutdown :
    let es : List RenewEvent := [.start "f" #[], .start "f" #[], .poll 0, .ask 0, .poll 1, .ask 1,
      .renew 0 5, .release 0, .poll 1, .shutdown, .start "f" #[], .poll 2]
    let r := (Renewals.init ({} : MemoryOrigin)).run MemoryOrigin.transport es
    let first : List RenewNote := [.started 0, .started 1, .counted 0 "f" 0]
    let between : List RenewNote :=
      [.counted 1 "f" 0, .asked 1 "f" 0 false, .renewed 0 "f", .released 0]
    let after : List RenewNote := [.quiet, .started 2]
    (r.2 = first ++ .asked 0 "f" 0 true :: (between ++ .entered 1 "f" 0 :: (after ++ [.cancelled 2])) ∧
      RenewNote.asked 1 "f" 0 false ∈ between ++ [.entered 1 "f" 0] ∧
      (RenewNote.entered 1 "f" 0).enters 1 ∧ ∀ y ∈ after ++ [.cancelled 2], ¬ y.enters 0) ∧
    (r.2 = (first ++ .asked 0 "f" 0 true :: between ++ .entered 1 "f" 0 :: after) ++
        .cancelled 2 :: [] ∧
      r.1.cancelled = true ∧ ∃ call, r.1.calls 2 = some call ∧
        (call.stage = .leaving (.failed .cancelled) ∨ call.stage = .done (.failed .cancelled))) := by
  intro es r first between after
  have hrun : r.2 = first ++ .asked 0 "f" 0 true ::
      (between ++ .entered 1 "f" 0 :: (after ++ [.cancelled 2])) := by
    decide +kernel
  have hcan : r.2 = (first ++ .asked 0 "f" 0 true :: between ++ .entered 1 "f" 0 :: after) ++
      .cancelled 2 :: [] := by
    rw [hrun]
    rfl
  have hturns := renewals_take_turns MemoryOrigin.transport {} es
  have hend := hturns.2.2.2 _ [] 2 hcan
  exact ⟨⟨hrun, by decide +kernel, rfl,
    hturns.2.2.1 first between (after ++ [.cancelled 2]) 0 1 "f" 0 0 true false _ hrun
      (by decide +kernel) rfl⟩, hcan, hend.1, hend.2.2⟩

end ChunkStore
