import ChunkStore.Rate.Calls
/-!
# Quota accounting under interleaving

Requests share one limiter, and their steps (`Calls.step`) interleave in any order with the
clock's advances. A step acts on one bucket at most, the one of the key it names
(`Calls.step_bucket_of_ne`). Inside a window where a bucket is known and its refill time has not
come, one lemma says all a step can do to it (`Calls.step_bucket`): take a request for each
reserved admission and each unreserved permit settled without a quota, and admit a request
without reserving only when the bucket has no refill time at all. By induction over a run:

* the bucket holds what the last recorded quota left, less those takings (`Calls.run_bucket`);
* at most the requests left are admitted before the refill time (`Calls.run_admissions_le`);
* an acquire asleep until a refill time is admitted no earlier than that time, since every step
  keeps it asleep until then or later (`Calls.step_sleepsPast`).

The main statement is `limiter_counts_admissions`.
-/

namespace ChunkStore

namespace Limiter

@[simp] theorem bucket?_setBucket_self (l : Limiter) (k : String) (b : Bucket) :
    (l.setBucket k b).bucket? k = some b := by
  unfold setBucket bucket?
  split
  · -- the key is there: its entry now holds `b`
    rename_i h
    cases hf : l.buckets.find? (·.1 == k) with
    | none =>
      obtain ⟨x, hx, hk⟩ := List.any_eq_true.1 h
      exact absurd hk (List.find?_eq_none.1 hf x hx)
    | some x =>
      have hk : x.1 = k := by simpa using List.find?_some hf
      simp only [List.find?_map, Function.comp_def, hf, Option.map_some, hk, beq_self_eq_true, if_true]
  · -- the key is new: its entry is the last
    rename_i h
    have hn : l.buckets.find? (·.1 == k) = none :=
      List.find?_eq_none.2 fun x hx hk => h (List.any_eq_true.2 ⟨x, hx, hk⟩)
    simp [List.find?_append, hn]

theorem bucket?_setBucket_of_ne (l : Limiter) {k k' : String} (h : k' ≠ k) (b : Bucket) :
    (l.setBucket k' b).bucket? k = l.bucket? k := by
  unfold setBucket bucket?
  split
  · -- every entry keeps its key, and the entries under `k` keep their buckets
    simp only [List.find?_map, Function.comp_def]
    cases hf : l.buckets.find? (·.1 == k) with
    | none => simp
    | some x =>
      have hk : x.1 = k := by simpa using List.find?_some hf
      simp [hk, Ne.symm h]
  · simp [List.find?_append, h]

@[simp] theorem bucket?_cancel (l : Limiter) (k : String) : l.cancel.bucket? k = l.bucket? k :=
  rfl

end Limiter

namespace Bucket

theorem replenish_of_lt {b : Bucket} {now : Nat} (h : ∀ R, b.resetAt = some R → now < R) :
    b.replenish now = b := by
  unfold replenish
  split
  · rename_i reset hr
    rw [if_neg (by have := h reset hr; omega)]
  · rfl

/-- A bucket that still has a refill time after replenishing has not reached it. -/
theorem lt_of_replenish {b : Bucket} {now d : Nat} (h : (b.replenish now).resetAt = some d) :
    now < d := by
  unfold replenish at h
  split at h
  · rename_i reset hr
    split at h
    · simp at h
    · rw [hr] at h
      cases h
      omega
  · rename_i hr
    rw [hr] at h
    cases h

end Bucket

namespace Limiter

/-- The limiter an attempt leaves. -/
def Attempt.limiter : Attempt → Limiter
  | .granted _ l => l
  | .waitUntil _ l => l

theorem attempt_bucket_of_ne (l : Limiter) {key k : String} (h : key ≠ k) (now : Nat) :
    (l.attempt key now).limiter.bucket? k = l.bucket? k := by
  unfold attempt
  split
  · rfl
  · dsimp only
    split
    · exact bucket?_setBucket_of_ne l h _
    · split <;> exact bucket?_setBucket_of_ne l h _

theorem attempt_granted_key {l l' : Limiter} {key : String} {now : Nat} {p : Permit}
    (h : l.attempt key now = .granted p l') : p.key = key := by
  unfold attempt at h
  split at h
  · cases h; rfl
  · dsimp only at h
    split at h
    · cases h; rfl
    · split at h <;> cases h; rfl

/-- A look that waits, waits for a refill time still to come. -/
theorem attempt_waitUntil_lt {l l' : Limiter} {key : String} {now d : Nat}
    (h : l.attempt key now = .waitUntil d l') : now < d := by
  unfold attempt at h
  split at h
  · cases h
  · dsimp only at h
    split at h
    · cases h
    · split at h
      · rename_i reset hr
        cases h
        exact Bucket.lt_of_replenish hr
      · cases h

/-- What a look does to a known bucket whose refill time has not come: it reserves one of the
requests left, or, with none left, waits for the refill time or, if there is none, lets the
request go without reserving. -/
theorem attempt_of_bucket {l : Limiter} {k : String} {b : Bucket} (hb : l.bucket? k = some b)
    {now : Nat} (hdue : ∀ R, b.resetAt = some R → now < R) :
    (0 < b.remaining ∧
      l.attempt k now = .granted ⟨k, true⟩ (l.setBucket k { b with remaining := b.remaining - 1 })) ∨
    (b.remaining = 0 ∧ ∃ d, b.resetAt = some d ∧ l.attempt k now = .waitUntil d (l.setBucket k b)) ∨
    (b.remaining = 0 ∧ b.resetAt = none ∧ l.attempt k now = .granted ⟨k, false⟩ (l.setBucket k b)) := by
  have hr := Bucket.replenish_of_lt hdue
  unfold attempt
  rw [hb]
  dsimp only
  rw [hr]
  by_cases h0 : 0 < b.remaining
  · exact .inl ⟨h0, by rw [if_pos h0]⟩
  · rw [if_neg h0]
    cases hreset : b.resetAt with
    | some d => exact .inr (.inl ⟨by omega, d, rfl, rfl⟩)
    | none => exact .inr (.inr ⟨by omega, rfl, rfl⟩)

theorem settle_bucket_of_ne (l : Limiter) {p : Permit} {k : String} (h : p.key ≠ k) (now : Nat) :
    (l.settle p now).bucket? k = l.bucket? k := by
  unfold settle
  split
  · rfl
  · split
    · exact bucket?_setBucket_of_ne l h _
    · rfl

theorem settle_of_bucket {l : Limiter} {p : Permit} {b : Bucket} (hb : l.bucket? p.key = some b)
    {now : Nat} (hdue : ∀ R, b.resetAt = some R → now < R) :
    (l.settle p now).bucket? p.key =
      some { b with remaining := b.remaining - (if p.reserved then 0 else 1) } := by
  unfold settle
  by_cases hres : p.reserved
  · simp [hres, hb]
  · simp [hres, hb, Bucket.replenish_of_lt hdue]

theorem release_bucket_of_ne (l : Limiter) {p : Permit} {k : String} (h : p.key ≠ k)
    (q : Option Quota) (now : Nat) : (l.release p q now).1.bucket? k = l.bucket? k := by
  unfold release
  split
  · -- the quota is recorded in the permit's bucket, then a panic settles the permit too
    split
    split
    · rw [settle_bucket_of_ne _ h, bucket?_setBucket_of_ne _ h]
    · exact bucket?_setBucket_of_ne _ h _
  · exact settle_bucket_of_ne l h now

theorem release_quota_bucket (l : Limiter) (p : Permit) (q : Quota) (now : Nat) :
    ∃ b, (l.release p (some q) now).1.bucket? p.key = some b := by
  unfold release
  dsimp only
  split
  · unfold settle
    split
    · simp
    · simp
  · simp

end Limiter

/-! ## What a step tells -/

namespace CallReply

/-- Whether the reply hands a permit of `k`'s bucket to an acquire. -/
def grantsTo (k : String) : CallReply → Bool
  | .granted _ _ p => p.key == k
  | _ => false

/-- Whether the reply admits a request by reserving one of the requests left in `k`'s bucket. -/
def reservesFrom (k : String) : CallReply → Bool
  | .granted _ _ p => p.key == k && p.reserved
  | _ => false

/-- Whether the reply settles, without a quota, a permit of `k` that reserved nothing. -/
def failsUnreserved (k : String) : CallReply → Bool
  | .settled p reported _ => p.key == k && !p.reserved && !reported
  | _ => false

/-- Whether the reply settles a permit of `k` with the quota its response reported. -/
def reportsFor (k : String) : CallReply → Bool
  | .settled p reported _ => p.key == k && reported
  | _ => false

end CallReply

/-- The key whose bucket a step may touch in state `c`: that of the acquire that starts, of the
sleeping acquire polled, or of the permit settled. -/
def CallEvent.keyIn (c : Calls) : CallEvent → Option String
  | .acquire key => some key
  | .wake call => (c.sleeper? call).map (·.key)
  | .release n _ | .releaseFailed n | .drop n => (c.permit? n).map (·.key)
  | .abandon _ | .advance _ | .cancel => none

namespace Calls

/-- **Everything a look can do.** It ends the acquire when the limiter is cancelled; otherwise
the acquire sleeps until a refill time still to come, or is handed the next permit, of its own
key; either way the limiter is the one the look at the bucket left. -/
theorem look_cases (c : Calls) (call : Nat) (key : String) :
    (c.limiter.cancelled = true ∧ c.look call key = (c, .cancelled call)) ∨
    (c.limiter.cancelled = false ∧ ∃ d, c.clock < d ∧ c.look call key =
      ({ c with limiter := (c.limiter.attempt key c.clock).limiter,
                sleepers := c.sleepers ++ [⟨call, key, d⟩] }, .sleeping call d)) ∨
    (c.limiter.cancelled = false ∧ ∃ p, p.key = key ∧ c.look call key =
      ({ c with limiter := (c.limiter.attempt key c.clock).limiter,
                permits := c.permits ++ [⟨c.issued, p⟩], issued := c.issued + 1 },
        .granted call c.issued p)) := by
  unfold look
  cases hc : c.limiter.cancelled
  · right
    cases ha : c.limiter.attempt key c.clock with
    | granted p l =>
      exact .inr ⟨rfl, p, Limiter.attempt_granted_key ha, by simp [Limiter.Attempt.limiter]⟩
    | waitUntil d l =>
      exact .inl ⟨rfl, d, Limiter.attempt_waitUntil_lt ha, by simp [Limiter.Attempt.limiter]⟩
  · exact .inl ⟨rfl, rfl⟩

@[simp] theorem look_clock (c : Calls) (call : Nat) (key : String) :
    (c.look call key).1.clock = c.clock := by
  rcases c.look_cases call key with ⟨-, h⟩ | ⟨-, d, -, h⟩ | ⟨-, p, -, h⟩ <;> rw [h]

/-- A look leaves every bucket but its key's alone. On a known bucket of its key whose refill
time has not come, it takes a request exactly when it reserves one, and admits a request
without reserving only when the bucket has no refill time. It settles nothing. -/
theorem look_bucket {c : Calls} {k : String} {b : Bucket} (hb : c.limiter.bucket? k = some b)
    (hdue : ∀ R, b.resetAt = some R → c.clock < R) (call : Nat) (key : String) :
    (c.look call key).1.limiter.bucket? k = some { b with remaining :=
        b.remaining - (if (c.look call key).2.reservesFrom k then 1 else 0) } ∧
      (c.look call key).2.failsUnreserved k = false ∧
      (c.look call key).2.reportsFor k = false ∧
      ((c.look call key).2.grantsTo k = true →
        (c.look call key).2.reservesFrom k = true ∧ 0 < b.remaining ∨ b.resetAt = none) := by
  by_cases hkey : key = k
  · -- the look is at this bucket
    subst hkey
    unfold look
    by_cases hc : c.limiter.cancelled
    · simp [hc, hb, CallReply.reservesFrom, CallReply.failsUnreserved, CallReply.reportsFor,
        CallReply.grantsTo]
    · rw [if_neg hc]
      rcases Limiter.attempt_of_bucket hb hdue with ⟨h0, ha⟩ | ⟨-, d, -, ha⟩ | ⟨-, hd, ha⟩ <;>
        rw [ha]
      · -- a request left: it is reserved
        simp [h0, CallReply.reservesFrom, CallReply.failsUnreserved, CallReply.reportsFor,
          CallReply.grantsTo]
      · simp [CallReply.reservesFrom, CallReply.failsUnreserved, CallReply.reportsFor,
          CallReply.grantsTo]
      · -- none left and no refill time: let through without reserving
        simp only [CallReply.reservesFrom, CallReply.failsUnreserved, CallReply.reportsFor,
          CallReply.grantsTo, Limiter.bucket?_setBucket_self, Bool.and_false, Bool.false_eq_true,
          if_false, Nat.sub_zero]
        exact ⟨trivial, trivial, trivial, fun _ => .inr hd⟩
  · -- another bucket: this one is untouched and the reply is not about it
    have hne := c.limiter.attempt_bucket_of_ne hkey c.clock
    rcases c.look_cases call key with ⟨-, h⟩ | ⟨-, d, -, h⟩ | ⟨-, p, hp, h⟩ <;> rw [h]
    · simp [hb, CallReply.reservesFrom, CallReply.failsUnreserved, CallReply.reportsFor,
        CallReply.grantsTo]
    · simp [hne, hb, CallReply.reservesFrom, CallReply.failsUnreserved, CallReply.reportsFor,
        CallReply.grantsTo]
    · simp [hne, hb, hp, hkey, CallReply.reservesFrom, CallReply.failsUnreserved,
        CallReply.reportsFor, CallReply.grantsTo]

/-- Settling leaves every bucket but its permit's alone. Without a quota, on a known bucket
whose refill time has not come, it takes a request exactly when the permit reserved none. It
admits no request. -/
theorem settle_bucket {c : Calls} {k : String} {b : Bucket} (hb : c.limiter.bucket? k = some b)
    (hdue : ∀ R, b.resetAt = some R → c.clock < R) (n : Nat) (quota : Option Quota)
    (hq : (c.settle n quota).2.reportsFor k = false) :
    (c.settle n quota).1.limiter.bucket? k = some { b with remaining :=
        b.remaining - (if (c.settle n quota).2.failsUnreserved k then 1 else 0) } ∧
      (c.settle n quota).2.reservesFrom k = false ∧ (c.settle n quota).2.grantsTo k = false := by
  unfold settle at hq ⊢
  cases hp : c.permit? n with
  | none =>
    simp [hb, CallReply.reservesFrom, CallReply.failsUnreserved, CallReply.grantsTo]
  | some p =>
    simp only [hp] at hq ⊢
    cases hr : c.limiter.release p quota c.clock with
    | mk l panic =>
      simp only [hr] at hq ⊢
      by_cases hkey : p.key = k
      · subst hkey
        cases quota with
        | some q => simp [CallReply.reportsFor] at hq
        | none =>
          -- settled as failed: the bucket loses a request unless the permit reserved one
          have hl : l = c.limiter.settle p c.clock := by
            simp only [Limiter.release] at hr
            exact (Prod.mk.inj hr).1.symm
          rw [hl, Limiter.settle_of_bucket hb hdue]
          by_cases hres : p.reserved <;>
            simp [hres, CallReply.reservesFrom, CallReply.failsUnreserved, CallReply.grantsTo]
      · have hl := c.limiter.release_bucket_of_ne hkey quota c.clock
        rw [hr] at hl
        simp [hl, hb, hkey, CallReply.reservesFrom, CallReply.failsUnreserved,
          CallReply.grantsTo]

/-- A poll of an acquire finds it not asleep or still asleep, and changes nothing, or finds it
asleep and either the limiter cancelled or its sleep over, and takes it out of the sleepers to
look again. -/
theorem step_wake (c : Calls) (call : Nat) :
    c.step (.wake call) = (c, .quiet) ∨
    ∃ w, c.sleeper? call = some w ∧
      (c.limiter.cancelled = true ∨ nextTick w.deadline ≤ c.clock) ∧
      c.step (.wake call) =
        ({ c with sleepers := c.sleepers.filter (·.call != call) } : Calls).look call w.key := by
  simp only [step]
  cases hw : c.sleeper? call with
  | none => exact .inl rfl
  | some w =>
    dsimp only
    by_cases hgo : c.limiter.cancelled = true ∨ nextTick w.deadline ≤ c.clock
    · exact .inr ⟨w, rfl, hgo, by rw [if_pos (by simpa using hgo)]⟩
    · exact .inl (by rw [if_neg (by simpa using hgo)])

/-- **What a step does to a bucket.** In a state where bucket `k` is known and its refill time
has not come, a step that settles no permit of `k` with a quota takes one request from it for
each reserved admission and each unreserved permit settled without a quota, and nothing else;
it admits a request to `k` without reserving only when the bucket has no refill time. -/
theorem step_bucket {c : Calls} {k : String} {b : Bucket} (hb : c.limiter.bucket? k = some b)
    (hdue : ∀ R, b.resetAt = some R → c.clock < R) (e : CallEvent)
    (hq : (c.step e).2.reportsFor k = false) :
    (c.step e).1.limiter.bucket? k = some { b with remaining := b.remaining
        - (if (c.step e).2.reservesFrom k then 1 else 0)
        - (if (c.step e).2.failsUnreserved k then 1 else 0) } ∧
      ((c.step e).2.grantsTo k = true →
        (c.step e).2.reservesFrom k = true ∧ 0 < b.remaining ∨ b.resetAt = none) := by
  cases e with
  | acquire key =>
    obtain ⟨h₁, h₂, -, h₃⟩ :=
      @look_bucket { c with started := c.started + 1 } k b hb hdue c.started key
    simp only [step, h₂, Bool.false_eq_true, if_false, Nat.sub_zero]
    exact ⟨h₁, h₃⟩
  | wake call =>
    rcases c.step_wake call with h | ⟨w, -, -, h⟩ <;> rw [h]
    · simp [hb, CallReply.reservesFrom, CallReply.failsUnreserved, CallReply.grantsTo]
    · obtain ⟨h₁, h₂, -, h₃⟩ :=
        @look_bucket { c with sleepers := c.sleepers.filter (·.call != call) } k b hb hdue call w.key
      simp only [h₂, Bool.false_eq_true, if_false, Nat.sub_zero]
      exact ⟨h₁, h₃⟩
  | abandon call =>
    simp [step, hb, CallReply.reservesFrom, CallReply.failsUnreserved, CallReply.grantsTo]
  | release n quota =>
    obtain ⟨h₁, h₂, h₃⟩ := settle_bucket hb hdue n quota hq
    simp only [step, h₂, h₃, Bool.false_eq_true, if_false, Nat.sub_zero]
    exact ⟨h₁, False.elim⟩
  | releaseFailed n =>
    obtain ⟨h₁, h₂, h₃⟩ := settle_bucket hb hdue n none hq
    simp only [step, h₂, h₃, Bool.false_eq_true, if_false, Nat.sub_zero]
    exact ⟨h₁, False.elim⟩
  | drop n =>
    obtain ⟨h₁, h₂, h₃⟩ := settle_bucket hb hdue n none hq
    simp only [step, h₂, h₃, Bool.false_eq_true, if_false, Nat.sub_zero]
    exact ⟨h₁, False.elim⟩
  | advance ns => simp [step, hb, CallReply.reservesFrom, CallReply.failsUnreserved, CallReply.grantsTo]
  | cancel => simp [step, hb, CallReply.reservesFrom, CallReply.failsUnreserved, CallReply.grantsTo]

theorem look_bucket_of_ne (c : Calls) (call : Nat) {key k : String} (h : key ≠ k) :
    (c.look call key).1.limiter.bucket? k = c.limiter.bucket? k := by
  have hne := c.limiter.attempt_bucket_of_ne h c.clock
  rcases c.look_cases call key with ⟨-, h⟩ | ⟨-, d, -, h⟩ | ⟨-, p, -, h⟩ <;> rw [h]
  · exact hne
  · exact hne

theorem settle_bucket_of_ne (c : Calls) {n : Nat} {k : String}
    (h : (c.permit? n).map (·.key) ≠ some k) (quota : Option Quota) :
    (c.settle n quota).1.limiter.bucket? k = c.limiter.bucket? k := by
  unfold settle
  cases hp : c.permit? n with
  | none => rfl
  | some p =>
    rw [hp] at h
    have hkey : p.key ≠ k := fun he => h (by rw [Option.map_some, he])
    exact c.limiter.release_bucket_of_ne hkey quota c.clock

@[simp] theorem settle_clock (c : Calls) (n : Nat) (quota : Option Quota) :
    (c.settle n quota).1.clock = c.clock := by
  unfold settle
  split <;> rfl

/-- **Other keys' steps leave a bucket alone.** A step changes no bucket but that of the key it
acts on. -/
theorem step_bucket_of_ne (c : Calls) (e : CallEvent) {k : String} (h : e.keyIn c ≠ some k) :
    (c.step e).1.limiter.bucket? k = c.limiter.bucket? k := by
  cases e with
  | acquire key =>
    exact look_bucket_of_ne { c with started := c.started + 1 } c.started
      (fun he => h (by rw [he]; rfl))
  | wake call =>
    rcases c.step_wake call with hw | ⟨w, hs, -, hw⟩ <;> rw [hw]
    simp only [CallEvent.keyIn, hs, Option.map_some] at h
    exact look_bucket_of_ne { c with sleepers := c.sleepers.filter (·.call != call) } call
      (fun he => h (by rw [he]))
  | abandon call => rfl
  | release n quota => exact c.settle_bucket_of_ne h quota
  | releaseFailed n => exact c.settle_bucket_of_ne h none
  | drop n => exact c.settle_bucket_of_ne h none
  | advance ns => rfl
  | cancel => rfl

theorem step_wake_clock (c : Calls) (call : Nat) : (c.step (.wake call)).1.clock = c.clock := by
  rcases c.step_wake call with hw | ⟨w, -, -, hw⟩
  · rw [hw]
  · rw [hw, look_clock]

theorem clock_le_step (c : Calls) (e : CallEvent) : c.clock ≤ (c.step e).1.clock := by
  cases e with
  | acquire key => simp [step]
  | wake call => exact Nat.le_of_eq (c.step_wake_clock call).symm
  | advance ns => simp [step]
  | _ => simp [step]

theorem clock_le_of_mem_run :
    ∀ {evs : List CallEvent} {c : Calls} {x : Nat × CallReply}, x ∈ (c.run evs).2 → c.clock ≤ x.1
  | [], _, _, hx => by simp [run] at hx
  | e :: es, c, x, hx => by
    simp only [run, List.mem_cons] at hx
    rcases hx with rfl | hx
    · exact Nat.le_refl _
    · exact Nat.le_trans (c.clock_le_step e) (clock_le_of_mem_run hx)

theorem failsUnreserved_of_grantsTo {r : CallReply} {k : String} (h : r.grantsTo k = true) :
    r.failsUnreserved k = false := by
  cases r <;> simp_all [CallReply.grantsTo, CallReply.failsUnreserved]

/-- **The count of a bucket along a run.** From a state where bucket `k` is known, through steps
that all come before its refill time and settle no permit of `k` with a quota, the bucket keeps
its refill time and loses one request for each reserved admission and each unreserved permit
settled without a quota, down to none. -/
theorem run_bucket {k : String} : ∀ (evs : List CallEvent) {c : Calls} {b : Bucket},
    c.limiter.bucket? k = some b →
    (∀ x ∈ (c.run evs).2, x.2.reportsFor k = false ∧ ∀ R, b.resetAt = some R → x.1 < R) →
    (c.run evs).1.limiter.bucket? k = some { b with remaining := (b.remaining
      - (c.run evs).2.countP (·.2.reservesFrom k)
      - (c.run evs).2.countP (·.2.failsUnreserved k)) }
  | [], c, b, hb, _ => by simpa [run] using hb
  | e :: es, c, b, hb, hwin => by
    simp only [run, List.mem_cons, forall_eq_or_imp] at hwin ⊢
    obtain ⟨⟨hq, hdue⟩, hrest⟩ := hwin
    obtain ⟨hb', -⟩ := step_bucket hb hdue e hq
    rw [run_bucket es hb' hrest, List.countP_cons, List.countP_cons]
    -- the step's takings come first, then the rest of the run's
    simp only [Option.some.injEq, Bucket.mk.injEq, and_true, true_and]
    split <;> split <;> simp_all <;> omega

/-- **At most the requests left are admitted before the refill time.** From a state where, while
the clock is before `R`, bucket `k` is known with refill time `R` and at most `m` requests left,
a run that settles no permit of `k` with a quota before `R` admits at most `m` requests to `k`
before `R`. -/
theorem run_admissions_le {k : String} {R : Nat} : ∀ (evs : List CallEvent) {c : Calls} {m : Nat},
    (c.clock < R → ∃ b, c.limiter.bucket? k = some b ∧ b.resetAt = some R ∧ b.remaining ≤ m) →
    (∀ x ∈ (c.run evs).2, x.1 < R → x.2.reportsFor k = false) →
    (c.run evs).2.countP (fun x => decide (x.1 < R) && x.2.grantsTo k) ≤ m
  | [], _, _, _, _ => by simp [run]
  | e :: es, c, m, hinv, hq => by
    simp only [run, List.mem_cons, forall_eq_or_imp] at hq ⊢
    rw [List.countP_cons]
    by_cases hc : c.clock < R
    · obtain ⟨b, hb, hR, hm⟩ := hinv hc
      have hdue : ∀ R', b.resetAt = some R' → c.clock < R' := by
        intro R' h
        rw [hR] at h
        cases h
        exact hc
      obtain ⟨hb', hgrant⟩ := step_bucket hb hdue e (hq.1 hc)
      by_cases hg : (c.step e).2.grantsTo k = true
      · -- an admission before the refill time reserves one of the requests left
        obtain ⟨hres, h0⟩ := (hgrant hg).resolve_right (by rw [hR]; simp)
        have hrest := @run_admissions_le k R es (c.step e).1 (m - 1)
          (fun _ => ⟨_, hb', hR, by simp [hres, failsUnreserved_of_grantsTo hg]; omega⟩) hq.2
        simp only [hc, hg, decide_true, Bool.and_self, if_true]
        omega
      · have hrest := @run_admissions_le k R es (c.step e).1 m
          (fun _ => ⟨_, hb', hR, by simp only; omega⟩) hq.2
        simp only [hg, Bool.and_false, Bool.false_eq_true, if_false]
        omega
    · -- from the refill time on nothing counts, and the clock never goes back
      have hrest := @run_admissions_le k R es (c.step e).1 m
        (fun h => absurd (Nat.lt_of_le_of_lt (c.clock_le_step e) h) hc) hq.2
      simp only [hc, decide_false, Bool.false_and, Bool.false_eq_true, if_false]
      omega

/-! ## Sleepers wake no earlier than their refill time -/

theorem le_nextTick (t : Nat) : t ≤ nextTick t := by
  unfold nextTick
  omega

@[simp] theorem look_started (c : Calls) (call : Nat) (key : String) :
    (c.look call key).1.started = c.started := by
  rcases c.look_cases call key with ⟨-, h⟩ | ⟨-, d, -, h⟩ | ⟨-, p, -, h⟩ <;> rw [h]

@[simp] theorem settle_sleepers (c : Calls) (n : Nat) (quota : Option Quota) :
    (c.settle n quota).1.sleepers = c.sleepers := by
  unfold settle
  split <;> rfl

@[simp] theorem settle_started (c : Calls) (n : Nat) (quota : Option Quota) :
    (c.settle n quota).1.started = c.started := by
  unfold settle
  split <;> rfl

/-- Every acquire asleep started before the next acquire will. -/
def Numbered (c : Calls) : Prop := ∀ w ∈ c.sleepers, w.call < c.started

/-- Acquire `call` has started and, while asleep, sleeps until `R` or later. -/
def SleepsPast (call R : Nat) (c : Calls) : Prop :=
  call < c.started ∧ ∀ w ∈ c.sleepers, w.call = call → R ≤ w.deadline

theorem look_sleeper_or_same (c : Calls) (call : Nat) (key : String) :
    ((c.look call key).1.sleepers = c.sleepers ∨
      ∃ d, c.clock < d ∧ (c.look call key).1.sleepers = c.sleepers ++ [⟨call, key, d⟩]) ∧
    ∀ call' n p, (c.look call key).2 = .granted call' n p → call' = call := by
  rcases c.look_cases call key with ⟨-, h⟩ | ⟨-, d, hd, h⟩ | ⟨-, p, -, h⟩ <;> rw [h]
  · exact ⟨.inl rfl, by simp⟩
  · exact ⟨.inr ⟨d, hd, rfl⟩, by simp⟩
  · exact ⟨.inl rfl, by simp⟩

/-- Every step keeps the acquires asleep numbered below the next acquire. -/
theorem step_numbered {c : Calls} (h : c.Numbered) (e : CallEvent) : (c.step e).1.Numbered := by
  intro w hw
  cases e with
  | acquire key =>
    simp only [step, look_started] at hw ⊢
    rcases (look_sleeper_or_same { c with started := c.started + 1 } c.started key).1 with
      hs | ⟨d, -, hs⟩ <;> rw [hs] at hw
    · exact Nat.lt_succ_of_lt (h w hw)
    · rcases List.mem_append.1 hw with hw | hw
      · exact Nat.lt_succ_of_lt (h w hw)
      · simp at hw
        rw [hw]
        exact Nat.lt_succ_self _
  | wake call =>
    rcases c.step_wake call with hs | ⟨v, hv, -, hs⟩ <;> rw [hs] at hw ⊢
    · exact h w hw
    · rw [look_started]
      rcases (look_sleeper_or_same { c with sleepers := c.sleepers.filter (·.call != call) }
        call v.key).1 with hs' | ⟨d, -, hs'⟩ <;> rw [hs'] at hw
      · exact h w ((List.mem_filter.1 hw).1)
      · rcases List.mem_append.1 hw with hw | hw
        · exact h w ((List.mem_filter.1 hw).1)
        · -- the acquire that sleeps again was asleep before
          simp at hw
          rw [hw]
          have hmem := List.mem_of_find?_eq_some hv
          have hcall : v.call = call := by simpa using List.find?_some hv
          exact hcall ▸ h v hmem
  | abandon call => exact h w ((List.mem_filter.1 hw).1)
  | release n quota => simp only [step, settle_sleepers, settle_started] at hw ⊢; exact h w hw
  | releaseFailed n => simp only [step, settle_sleepers, settle_started] at hw ⊢; exact h w hw
  | drop n => simp only [step, settle_sleepers, settle_started] at hw ⊢; exact h w hw
  | advance ns => exact h w hw
  | cancel => exact h w hw

/-- A look keeps acquire `call` sleeping until `R` or later, and admits it only at `R` or later,
provided that when it is `call` that looks, the clock has reached `R` or the limiter is
cancelled. -/
theorem look_sleepsPast {c : Calls} {call R : Nat} (h : c.SleepsPast call R) (call' : Nat)
    (key : String) (hgo : call' = call → c.limiter.cancelled = false → R ≤ c.clock) :
    (c.look call' key).1.SleepsPast call R ∧
      ∀ n p, (c.look call' key).2 = .granted call n p → R ≤ c.clock := by
  obtain ⟨hlt, hsleep⟩ := h
  rcases c.look_cases call' key with ⟨-, hl⟩ | ⟨hc, d, hd, hl⟩ | ⟨hc, p, -, hl⟩ <;> rw [hl]
  · exact ⟨⟨hlt, hsleep⟩, by simp⟩
  · refine ⟨⟨hlt, fun w hw hwc => ?_⟩, by simp⟩
    rcases List.mem_append.1 hw with hw | hw
    · exact hsleep w hw hwc
    · -- the acquire put to sleep is `call` only once the clock has reached `R`
      simp only [List.mem_singleton] at hw
      subst hw
      have := hgo hwc hc
      dsimp only
      omega
  · refine ⟨⟨hlt, hsleep⟩, fun n p' hr => ?_⟩
    simp only [CallReply.granted.injEq] at hr
    exact hgo hr.1 hc

theorem settle_reply (c : Calls) (n : Nat) (quota : Option Quota) :
    (c.settle n quota).2 = .quiet ∨ ∃ p reported panic,
      (c.settle n quota).2 = .settled p reported panic := by
  unfold settle
  split
  · exact .inl rfl
  · exact .inr ⟨_, _, _, rfl⟩

theorem settle_none_reportsFor (c : Calls) (n : Nat) (k : String) :
    (c.settle n none).2.reportsFor k = false := by
  unfold settle
  split <;> simp [CallReply.reportsFor]

theorem settle_ne_granted (c : Calls) (n : Nat) (quota : Option Quota) (call m : Nat)
    (p : Permit) : (c.settle n quota).2 ≠ .granted call m p := by
  rcases c.settle_reply n quota with h | ⟨_, _, _, h⟩ <;> rw [h] <;> simp

/-- **A sleeper is not admitted early.** Every step keeps acquire `call` sleeping until `R` or
later, and admits it only at `R` or later. -/
theorem step_sleepsPast {c : Calls} {call R : Nat} (h : c.SleepsPast call R) (e : CallEvent) :
    (c.step e).1.SleepsPast call R ∧ ∀ n p, (c.step e).2 = .granted call n p → R ≤ c.clock := by
  obtain ⟨hlt, hsleep⟩ := h
  cases e with
  | acquire key =>
    -- the new acquire is numbered past `call`
    exact @look_sleepsPast { c with started := c.started + 1 } call R
      ⟨Nat.lt_succ_of_lt hlt, hsleep⟩ c.started key (fun he => absurd he (by omega))
  | wake call' =>
    rcases c.step_wake call' with hw | ⟨v, hv, hgo, hw⟩ <;> rw [hw]
    · exact ⟨⟨hlt, hsleep⟩, by simp⟩
    · -- a sleeper looks again only once cancelled or past its refill time
      have hvcall : v.call = call' := by simpa using List.find?_some hv
      refine @look_sleepsPast { c with sleepers := c.sleepers.filter (·.call != call') } call R
        ⟨hlt, fun w hw hwc => hsleep w (List.mem_filter.1 hw).1 hwc⟩ call' v.key fun he hc => ?_
      have hR : R ≤ v.deadline := hsleep v (List.mem_of_find?_eq_some hv) (hvcall.trans he)
      have := le_nextTick v.deadline
      have : nextTick v.deadline ≤ c.clock := hgo.resolve_left (by simpa using hc)
      dsimp only
      omega
  | abandon call' =>
    exact ⟨⟨hlt, fun w hw hwc => hsleep w (List.mem_filter.1 hw).1 hwc⟩, by simp [step]⟩
  | release n quota =>
    refine ⟨⟨by simpa [step] using hlt, by simpa [step] using hsleep⟩, fun m p hr => ?_⟩
    exact absurd hr (c.settle_ne_granted n quota call m p)
  | releaseFailed n =>
    refine ⟨⟨by simpa [step] using hlt, by simpa [step] using hsleep⟩, fun m p hr => ?_⟩
    exact absurd hr (c.settle_ne_granted n none call m p)
  | drop n =>
    refine ⟨⟨by simpa [step] using hlt, by simpa [step] using hsleep⟩, fun m p hr => ?_⟩
    exact absurd hr (c.settle_ne_granted n none call m p)
  | advance ns => exact ⟨⟨hlt, hsleep⟩, by simp [step]⟩
  | cancel => exact ⟨⟨hlt, hsleep⟩, by simp [step]⟩

theorem run_sleepsPast {call R : Nat} : ∀ (evs : List CallEvent) {c : Calls},
    c.SleepsPast call R → ∀ x ∈ (c.run evs).2, ∀ n p, x.2 = .granted call n p → R ≤ x.1
  | [], _, _ => by simp [run]
  | e :: es, c, h => by
    obtain ⟨h', hg⟩ := step_sleepsPast h e
    simp only [run, List.mem_cons, forall_eq_or_imp]
    exact ⟨hg, run_sleepsPast es h'⟩

theorem run_numbered : ∀ (evs : List CallEvent) {c : Calls}, c.Numbered → (c.run evs).1.Numbered
  | [], _, h => h
  | e :: es, _, h => run_numbered es (step_numbered h e)

/-- An acquire that goes to sleep until `R`, from a state whose sleepers are numbered, then
sleeps until `R`: no other acquire asleep has its number. -/
theorem sleepsPast_of_sleeping {c : Calls} (h : c.Numbered) {e : CallEvent} {call R : Nat}
    (hs : (c.step e).2 = .sleeping call R) : (c.step e).1.SleepsPast call R := by
  cases e with
  | acquire key =>
    simp only [step] at hs ⊢
    rcases (({ c with started := c.started + 1 } : Calls).look_cases c.started key) with
      ⟨-, hl⟩ | ⟨-, d, -, hl⟩ | ⟨-, p, -, hl⟩ <;> rw [hl] at hs ⊢ <;> simp at hs
    obtain ⟨rfl, rfl⟩ := hs
    refine ⟨Nat.lt_succ_self _, fun w hw hwc => ?_⟩
    rcases List.mem_append.1 hw with hw | hw
    · exact absurd (h w hw) (by omega)
    · simp only [List.mem_singleton] at hw
      subst hw
      exact Nat.le_refl _
  | wake call' =>
    rcases c.step_wake call' with hw | ⟨v, hv, -, hw⟩ <;> rw [hw] at hs ⊢
    · simp at hs
    · have hvcall : v.call = call' := by simpa using List.find?_some hv
      have hlt : call' < c.started := hvcall ▸ h v (List.mem_of_find?_eq_some hv)
      rcases (({ c with sleepers := c.sleepers.filter (·.call != call') } : Calls).look_cases
        call' v.key) with ⟨-, hl⟩ | ⟨-, d, -, hl⟩ | ⟨-, p, -, hl⟩ <;> rw [hl] at hs ⊢ <;>
        simp at hs
      obtain ⟨rfl, rfl⟩ := hs
      refine ⟨hlt, fun w hw hwc => ?_⟩
      rcases List.mem_append.1 hw with hw | hw
      · -- the acquire's earlier sleep was taken out before it looked again
        have := (List.mem_filter.1 hw).2
        simp [hwc] at this
      · simp only [List.mem_singleton] at hw
        subst hw
        exact Nat.le_refl _
  | abandon call' => simp [step] at hs
  | release n quota =>
    rcases c.settle_reply n quota with h' | ⟨_, _, _, h'⟩ <;> simp [step, h'] at hs
  | releaseFailed n =>
    rcases c.settle_reply n none with h' | ⟨_, _, _, h'⟩ <;> simp [step, h'] at hs
  | drop n =>
    rcases c.settle_reply n none with h' | ⟨_, _, _, h'⟩ <;> simp [step, h'] at hs
  | advance ns => simp [step] at hs
  | cancel => simp [step] at hs

/-- A step that settles a permit of `k` with a quota leaves `k`'s bucket known. -/
theorem bucket_of_reportsFor {c : Calls} {e : CallEvent} {k : String}
    (h : (c.step e).2.reportsFor k = true) : ∃ b, (c.step e).1.limiter.bucket? k = some b := by
  cases e with
  | release n quota =>
    simp only [step, settle] at h ⊢
    cases hp : c.permit? n with
    | none => simp [hp, CallReply.reportsFor] at h
    | some p =>
      simp only [hp] at h ⊢
      cases quota with
      | none => simp [CallReply.reportsFor] at h
      | some q =>
        have hk : p.key = k := by simpa [CallReply.reportsFor] using h
        subst hk
        exact c.limiter.release_quota_bucket p q c.clock
  | acquire key =>
    have hr := (look_cases { c with started := c.started + 1 } c.started key)
    rcases hr with ⟨-, hl⟩ | ⟨-, d, -, hl⟩ | ⟨-, p, -, hl⟩ <;>
      simp [step, hl, CallReply.reportsFor] at h
  | wake call =>
    rcases c.step_wake call with hw | ⟨v, -, -, hw⟩ <;> rw [hw] at h
    · simp [CallReply.reportsFor] at h
    · rcases (({ c with sleepers := c.sleepers.filter (·.call != call) } : Calls).look_cases
        call v.key) with ⟨-, hl⟩ | ⟨-, d, -, hl⟩ | ⟨-, p, -, hl⟩ <;>
        simp [hl, CallReply.reportsFor] at h
  | releaseFailed n => simp [step, c.settle_none_reportsFor] at h
  | drop n => simp [step, c.settle_none_reportsFor] at h
  | abandon call => simp [step, CallReply.reportsFor] at h
  | advance ns => simp [step, CallReply.reportsFor] at h
  | cancel => simp [step, CallReply.reportsFor] at h

theorem settle_reserved {c : Calls} {n : Nat} {p : Permit} (hp : c.permit? n = some p)
    (hres : p.reserved = true) : (c.settle n none).1.limiter = c.limiter := by
  simp [settle, hp, Limiter.release, Limiter.settle, hres]

end Calls

open Calls in
/-- **Quota accounting and the admission bound.** Requests share a limiter, their steps
interleaved in any order with the clock's advances:
* a step changes no bucket but that of the key it acts on;
* releasing without a quota, releasing as failed and dropping unsettled are one and the same,
  and they change no bucket when the permit reserved a request;
* after a settlement records a quota for key `k`, while no other settlement records one for `k`
  and the refill time of `k`'s bucket has not come, the bucket holds the requests that settlement
  left, less one for each reserved admission and each unreserved permit settled without a quota,
  down to none;
* so at most the requests it left are admitted to `k` before that refill time, unless another
  settlement records a quota for `k` before it;
* an acquire that finds no request left and sleeps until the refill time is admitted, if at all,
  no earlier than that time. -/
theorem limiter_counts_admissions :
    (∀ (c : Calls) (e : CallEvent) (k : String), e.keyIn c ≠ some k →
      (c.step e).1.limiter.bucket? k = c.limiter.bucket? k) ∧
    (∀ (c : Calls) (n : Nat), c.step (.drop n) = c.step (.releaseFailed n) ∧
      c.step (.release n none) = c.step (.releaseFailed n)) ∧
    (∀ (c : Calls) (n : Nat) (p : Permit), c.permit? n = some p → p.reserved = true →
      (c.step (.releaseFailed n)).1.limiter = c.limiter) ∧
    (∀ (c₀ c : Calls) (e : CallEvent) (r₀ : CallReply) (k : String) (evs : List CallEvent),
      c₀.step e = (c, r₀) → r₀.reportsFor k = true →
      ∃ b, c.limiter.bucket? k = some b ∧
        ((∀ x ∈ (c.run evs).2, x.2.reportsFor k = false ∧ ∀ R, b.resetAt = some R → x.1 < R) →
          ∃ b', (c.run evs).1.limiter.bucket? k = some b' ∧ b'.resetAt = b.resetAt ∧
            b'.remaining = b.remaining - (c.run evs).2.countP (·.2.reservesFrom k)
              - (c.run evs).2.countP (·.2.failsUnreserved k)) ∧
        (∀ R, b.resetAt = some R → (∀ x ∈ (c.run evs).2, x.1 < R → x.2.reportsFor k = false) →
          (c.run evs).2.countP (fun x => decide (x.1 < R) && x.2.grantsTo k) ≤ b.remaining)) ∧
    (∀ (l : Limiter) (t : Nat) (pre : List CallEvent) (c c' : Calls)
        (out : List (Nat × CallReply)) (e : CallEvent) (call R : Nat) (evs : List CallEvent),
      ({ limiter := l, clock := t } : Calls).run pre = (c, out) →
      c.step e = (c', .sleeping call R) →
      ∀ x ∈ (c'.run evs).2, ∀ n p, x.2 = .granted call n p → R ≤ x.1) := by
  refine ⟨fun c e k h => c.step_bucket_of_ne e h, fun c n => ⟨rfl, rfl⟩,
    fun c n p hp hres => settle_reserved hp hres, ?_, ?_⟩
  · intro c₀ c e r₀ k evs hstep hrep
    have hrep' : (c₀.step e).2.reportsFor k = true := by rw [hstep]; exact hrep
    obtain ⟨b, hb⟩ := bucket_of_reportsFor hrep'
    rw [hstep] at hb
    refine ⟨b, hb, fun hwin => ⟨_, run_bucket evs hb hwin, rfl, rfl⟩, fun R hR hq => ?_⟩
    exact run_admissions_le evs (fun _ => ⟨b, hb, hR, Nat.le_refl _⟩) hq
  · intro l t pre c c' out e call R evs hrun hstep x hx n p hx'
    -- the run from a fresh limiter keeps its sleepers numbered
    have hnum : c.Numbered := by
      have := @run_numbered pre { limiter := l, clock := t } (fun w hw => by simp at hw)
      rwa [hrun] at this
    have hs : (c.step e).2 = .sleeping call R := by rw [hstep]
    have hsp := sleepsPast_of_sleeping hnum hs
    rw [hstep] at hsp
    exact run_sleepsPast evs hsp x hx n p hx'

/-- The accounting at work. An acquire of another key leaves bucket `k` alone; a permit that
reserved a request changes nothing when it fails; a response that leaves one request and a
refill in a second leaves bucket `k` counting down from one; and after a response that leaves no
request, an acquire of `k` sleeps until the refill, a second later. -/
theorem limiter_counts_admissions_one_left :
    let c₀ : Calls := { permits := [⟨0, ⟨"k", false⟩⟩], issued := 1 }
    let c₁ : Calls := { permits := [⟨0, ⟨"k", true⟩⟩], issued := 1 }
    let q : Quota := { remaining := some 1, resetAfter := some ⟨1, 0⟩ }
    let c : Calls := { limiter := { buckets := [("k", ⟨1, 1, some 1000000000⟩)] }, issued := 1 }
    let r₀ : CallReply := .settled ⟨"k", false⟩ true none
    let evs : List CallEvent := [.acquire "k", .acquire "k", .advance 5]
    let pre : List CallEvent :=
      [.acquire "k", .release 0 (some { remaining := some 0, resetAfter := some ⟨1, 0⟩ })]
    let c₂ : Calls :=
      { limiter := { buckets := [("k", ⟨1, 0, some 1000000000⟩)] }, started := 1, issued := 1 }
    let out : List (Nat × CallReply) :=
      [(0, .granted 0 0 ⟨"k", false⟩), (0, .settled ⟨"k", false⟩ true none)]
    let c₃ : Calls := { c₂ with sleepers := [⟨1, "k", 1000000000⟩], started := 2 }
    ((CallEvent.acquire "j").keyIn c₀ ≠ some "k" ∧
      (c₀.step (.acquire "j")).1.limiter.bucket? "k" = c₀.limiter.bucket? "k") ∧
    (c₁.permit? 0 = some ⟨"k", true⟩ ∧ (c₁.step (.releaseFailed 0)).1.limiter = c₁.limiter) ∧
    (c₀.step (.release 0 (some q)) = (c, r₀) ∧ r₀.reportsFor "k" = true ∧
      ∃ b, c.limiter.bucket? "k" = some b ∧
        ((∀ x ∈ (c.run evs).2, x.2.reportsFor "k" = false ∧ ∀ R, b.resetAt = some R → x.1 < R) →
          ∃ b', (c.run evs).1.limiter.bucket? "k" = some b' ∧ b'.resetAt = b.resetAt ∧
            b'.remaining = b.remaining - (c.run evs).2.countP (·.2.reservesFrom "k")
              - (c.run evs).2.countP (·.2.failsUnreserved "k")) ∧
        (∀ R, b.resetAt = some R →
          (∀ x ∈ (c.run evs).2, x.1 < R → x.2.reportsFor "k" = false) →
          (c.run evs).2.countP (fun x => decide (x.1 < R) && x.2.grantsTo "k") ≤ b.remaining)) ∧
    (({ } : Calls).run pre = (c₂, out) ∧ c₂.step (.acquire "k") = (c₃, .sleeping 1 1000000000) ∧
      ∀ x ∈ (c₃.run evs).2, ∀ n p, x.2 = .granted 1 n p → 1000000000 ≤ x.1) := by
  intro c₀ c₁ q c r₀ evs pre c₂ out c₃
  have hkey : (CallEvent.acquire "j").keyIn c₀ ≠ some "k" := by decide
  have hperm : c₁.permit? 0 = some ⟨"k", true⟩ := by decide
  have hset : c₀.step (.release 0 (some q)) = (c, r₀) := by decide
  have hpre : ({ } : Calls).run pre = (c₂, out) := by decide +kernel
  have hsleep : c₂.step (.acquire "k") = (c₃, .sleeping 1 1000000000) := by decide
  refine ⟨⟨hkey, limiter_counts_admissions.1 c₀ _ "k" hkey⟩,
    ⟨hperm, limiter_counts_admissions.2.2.1 c₁ 0 _ hperm rfl⟩,
    ⟨hset, rfl, limiter_counts_admissions.2.2.2.1 c₀ c _ r₀ "k" evs hset rfl⟩,
    ⟨hpre, hsleep,
      limiter_counts_admissions.2.2.2.2 {} 0 pre c₂ c₃ out _ 1 1000000000 evs hpre hsleep⟩⟩

end ChunkStore
