import ChunkStore.Proofs.Admission
/-!
# Recording a response's quota

When the origin answers a request, the caller settles its permit with the answer's quota, and
the limiter records the quota in the permit's bucket (`Bucket.apply`). Two things are proved
about that record here.

**Pacing a retry after a 429.** `Quota.defersRetry` tells the caller whether to leave the pacing
of a retry to the limiter: it holds when the quota carries a positive back-off, or says the
bucket is empty with a positive refill delay. The limiter holds a request back when the bucket
it looks at has no request left and a refill time still to come (`Bucket.holdsBack`; a look
waits exactly then, `Limiter.attempt_waits_iff`). What a recorded quota leaves is computed by
`Bucket.holdsBack_apply`: the counts and the refill delay it names replace the bucket's, a
back-off empties the bucket until at least its end, and what the quota does not name the bucket
keeps. So a quota that defers the retry holds it back whatever the bucket knew before
(`holdsBack_of_defersRetry`), and for a bucket first seen in its answer the retry is held back
exactly when the quota defers it (`holdsBack_fresh_apply`), with one exception: a back-off of
zero beside a positive refill delay empties the bucket until the refill, which `defersRetry`
only sees when the quota also says no request is left. Since `defersRetry` reads the quota
alone, a bucket already empty until later can also hold back a retry it does not defer. The
main statement is `retry_deferral_agrees_with_limiter`; `retry_deferral_misses_held_buckets`
shows both gaps.

**The clock's range.** Instants count seconds in a signed 64-bit number, while a delay read from
a header may be any number of seconds below `2^64`. Recording a quota panics exactly when an
instant it names passes that range (`release_panics_exactly_past_clock`), so a long enough
back-off crashes the caller that settles its permit (`release_panics_on_long_backoff`).
-/

namespace ChunkStore

namespace Bucket

/-- The bucket holds the next request back at `now`: no request left, and a refill time still to
come. -/
def holdsBack (b : Bucket) (now : Nat) : Bool :=
  b.remaining == 0 && b.resetAt.any (now < ·)

theorem holdsBack_iff {b : Bucket} {now : Nat} :
    b.holdsBack now = true ↔ b.remaining = 0 ∧ ∃ R, b.resetAt = some R ∧ now < R := by
  unfold holdsBack
  cases b.resetAt <;> simp

theorem later_of_lt {now : Nat} {d : Duration}
    (h : (now + d.toNanos) / Duration.nanosPerSec < Nat.pow 2 63) :
    later now d = some (now + d.toNanos) := by
  unfold later
  exact if_neg (Nat.not_le.2 h)

end Bucket

namespace Limiter

/-- **A look at a known bucket waits exactly when the bucket holds the request back.** A bucket
whose refill time has come is refilled first, so it never waits. -/
theorem attempt_waits_iff {l : Limiter} {k : String} {b : Bucket} (hb : l.bucket? k = some b)
    (now : Nat) : (∃ d l', l.attempt k now = .waitUntil d l') ↔ b.holdsBack now = true := by
  rw [Bucket.holdsBack_iff]
  unfold attempt
  rw [hb]
  dsimp only
  cases hreset : b.resetAt with
  | none =>
    -- no refill time: the look lets the request go, reserved or not
    have hrep : b.replenish now = b := Bucket.replenish_of_lt (by simp [hreset])
    rw [hrep, hreset]
    split <;> simp
  | some R =>
    by_cases hdue : R ≤ now
    · -- the refill time has come: the bucket refills to at least one request
      have hrep : b.replenish now = { b with remaining := max b.limit 1, resetAt := none } := by
        simp [Bucket.replenish, hreset, hdue]
      rw [hrep, if_pos (by dsimp only; omega)]
      simp only [reduceCtorEq, exists_false, false_iff, not_and, Option.some.injEq]
      rintro - ⟨_, rfl, hlt⟩
      omega
    · have hrep : b.replenish now = b := Bucket.replenish_of_lt (by simp [hreset]; omega)
      rw [hrep, hreset]
      by_cases hrem : 0 < b.remaining
      · rw [if_pos hrem]
        simp only [reduceCtorEq, exists_false, false_iff, not_and]
        intro h
        omega
      · rw [if_neg hrem]
        simp only [Attempt.waitUntil.injEq, exists_and_left, exists_eq', and_true,
          Option.some.injEq, exists_eq_left', true_iff]
        omega

end Limiter

namespace Quota

/-- Recording the quota at `now` keeps every instant it names inside the clock's range, so the
record does not panic. -/
def FitsClock (q : Quota) (now : Nat) : Prop :=
  (∀ d, q.resetAfter = some d → (now + d.toNanos) / Duration.nanosPerSec < Nat.pow 2 63) ∧
    ∀ d, q.retryAfter = some d → (now + d.toNanos) / Duration.nanosPerSec < Nat.pow 2 63

/-- Whether the refill time a bucket has after recording `q` at `now`, leaving a back-off
aside, is still to come: the quota's own refill delay if it names one, else the bucket's own
refill time. -/
def refillsLater (q : Quota) (b : Bucket) (now : Nat) : Bool :=
  match q.resetAfter with
  | some a => a.toNanos != 0
  | none => b.resetAt.any (now < ·)

/-- A back-off of zero beside a positive refill delay, in a quota that does not say the bucket
is empty: the recorded bucket is empty until the refill, but `defersRetry` does not say so. -/
def zeroBackoffHidesRefill (q : Quota) : Bool :=
  q.retryAfter.any (·.toNanos == 0) && q.resetAfter.any (·.toNanos != 0) && q.remaining != some 0

theorem defersRetry_eq (q : Quota) :
    q.defersRetry = (q.retryAfter.any (·.toNanos != 0) ||
      (q.remaining == some 0 && q.resetAfter.any (·.toNanos != 0))) := by
  unfold defersRetry
  cases q.retryAfter <;> cases q.resetAfter <;> rfl

end Quota

namespace Bucket

/-- What recording a quota leaves when the clock reaches every instant it names, `instant d`
being the instant a delay `d` after the record: the counts the quota names, its refill time
(else the bucket's), and a back-off that empties the bucket until at least its end. -/
def recorded (q : Quota) (instant : Duration → Nat) (b : Bucket) : Bucket :=
  let resetAt := (q.resetAfter.map instant).or b.resetAt
  match q.retryAfter with
  | some d =>
    { limit := q.limit.getD b.limit, remaining := 0,
      resetAt := some ((resetAt.map (max · (instant d))).getD (instant d)) }
  | none => { limit := q.limit.getD b.limit, remaining := q.remaining.getD b.remaining, resetAt }

/-- Recording a quota whose instants the clock reaches leaves `recorded` and does not panic.
The clock `later now` is taken as any function `L` equal to it: the kernel then never computes
an instant of a symbolic delay, which would unfold the nanoseconds of a second one by one. -/
theorem apply_eq_recorded (b : Bucket) {q : Quota} {now : Nat} {L : Duration → Option Nat}
    (hL : later now = L) {instant : Duration → Nat}
    (hreset : ∀ a, q.resetAfter = some a → L a = some (instant a))
    (hretry : ∀ d, q.retryAfter = some d → L d = some (instant d)) :
    b.apply q now = (b.recorded q instant, none) := by
  rw [apply, hL, recorded]
  cases hra : q.resetAfter with
  | none =>
    cases hre : q.retryAfter with
    | none => cases q.limit <;> cases q.remaining <;> rfl
    | some d =>
      simp only [Option.map_none, hretry d hre]
      cases q.limit <;> cases q.remaining <;> cases b.resetAt <;> rfl
  | some a =>
    simp only [Option.map_some, hreset a hra]
    cases hre : q.retryAfter with
    | none => cases q.limit <;> cases q.remaining <;> rfl
    | some d =>
      simp only [hretry d hre]
      cases q.limit <;> cases q.remaining <;> rfl

/-- A recorded bucket holds a request back when a back-off emptied it or the count left is 0,
and the back-off ends later or the refill time is still to come. -/
theorem holdsBack_recorded (b : Bucket) (q : Quota) (instant : Duration → Nat) (now : Nat) :
    (b.recorded q instant).holdsBack now =
      ((q.retryAfter.isSome || q.remaining.getD b.remaining == 0) &&
        (q.retryAfter.any (now < instant ·) ||
          ((q.resetAfter.map instant).or b.resetAt).any (now < ·))) := by
  unfold recorded holdsBack
  cases q.retryAfter with
  | none => simp
  | some d =>
    cases (q.resetAfter.map instant).or b.resetAt with
    | none => simp
    | some r =>
      -- the bucket waits until the later of the refill and the back-off's end
      simp only [Option.isSome_some, Bool.true_or, Bool.true_and, Option.any_some,
        beq_self_eq_true]
      rw [Bool.eq_iff_iff]
      simp only [decide_eq_true_eq, Bool.or_eq_true, Option.map_some, Option.getD_some]
      omega

end Bucket

theorem Quota.FitsClock.apply_eq {q : Quota} {now : Nat} (hfit : q.FitsClock now) (b : Bucket) :
    b.apply q now = (b.recorded q (now + ·.toNanos), none) :=
  Bucket.apply_eq_recorded b rfl (fun a ha => Bucket.later_of_lt (hfit.1 a ha))
    (fun d hd => Bucket.later_of_lt (hfit.2 d hd))

namespace Bucket

section Record

variable {q : Quota} {now : Nat}

theorem lt_after_iff (d : Option Duration) :
    d.any (now < now + ·.toNanos) = d.any (·.toNanos != 0) := by
  cases d with
  | none => rfl
  | some d =>
    rw [Option.any_some, Option.any_some, Bool.eq_iff_iff]
    simp only [decide_eq_true_eq, bne_iff_ne, ne_eq]
    omega

/-- What recording a quota that fits the clock leaves, as far as holding a request back goes:
the bucket is empty when the quota carries a back-off or leaves no request (its own count, else
the bucket's), and its refill time is still to come when the back-off is positive or the refill
is later. -/
theorem holdsBack_apply (b : Bucket) (hfit : q.FitsClock now) :
    (b.apply q now).1.holdsBack now =
      ((q.retryAfter.isSome || q.remaining.getD b.remaining == 0) &&
        (q.retryAfter.any (·.toNanos != 0) || q.refillsLater b now)) := by
  rw [hfit.apply_eq, holdsBack_recorded, lt_after_iff]
  -- the refill time is the quota's when it names one, else the bucket's
  have hrefill : ((q.resetAfter.map (now + ·.toNanos)).or b.resetAt).any (now < ·) =
      q.refillsLater b now := by
    unfold Quota.refillsLater
    cases q.resetAfter with
    | none => rfl
    | some a =>
      simp only [Option.map_some, Option.some_or, Option.any_some]
      rw [Bool.eq_iff_iff]
      simp only [decide_eq_true_eq, bne_iff_ne, ne_eq]
      omega
  rw [hrefill]

theorem apply_snd (b : Bucket) (hfit : q.FitsClock now) : (b.apply q now).2 = none := by
  rw [hfit.apply_eq]

/-- **A quota that defers the retry holds it back, whatever the bucket knew before.** -/
theorem holdsBack_of_defersRetry (b : Bucket) (hfit : q.FitsClock now)
    (h : q.defersRetry = true) : (b.apply q now).1.holdsBack now = true := by
  rw [holdsBack_apply b hfit]
  rw [Quota.defersRetry_eq, Bool.or_eq_true, Bool.and_eq_true, beq_iff_eq] at h
  rcases h with hback | ⟨hrem, hreset⟩
  · -- a positive back-off empties the bucket until it ends
    have hsome : q.retryAfter.isSome = true := by
      cases hre : q.retryAfter with
      | none => simp [hre] at hback
      | some d => rfl
    simp [hsome, hback]
  · -- the quota says the bucket is empty and names a positive refill delay
    have hrefill : q.refillsLater b now = true := by
      cases hra : q.resetAfter with
      | none => simp [hra] at hreset
      | some a => simpa [Quota.refillsLater, hra] using hreset
    simp [hrem, hrefill]

/-- **A bucket first seen in a response holds the retry back exactly when the quota defers
it**, or pairs a back-off of zero with a positive refill delay without saying the bucket is
empty. -/
theorem holdsBack_fresh_apply (hfit : q.FitsClock now) :
    (fresh.apply q now).1.holdsBack now = (q.defersRetry || q.zeroBackoffHidesRefill) := by
  rw [holdsBack_apply fresh hfit]
  -- a fresh bucket has a request left and no refill time of its own
  have hfresh : q.refillsLater fresh now = q.resetAfter.any (·.toNanos != 0) := by
    unfold Quota.refillsLater
    cases q.resetAfter <;> rfl
  rw [hfresh]
  rw [Quota.defersRetry_eq]
  unfold Quota.zeroBackoffHidesRefill
  cases q.retryAfter with
  | none => cases q.resetAfter <;> cases q.remaining <;> simp [fresh]
  | some d =>
    -- a back-off empties the bucket, so only its length and the refill delay matter
    cases q.resetAfter <;> cases q.remaining <;> rw [Bool.eq_iff_iff] <;> simp <;> omega

end Record

end Bucket

namespace Limiter

theorem release_of_fits (l : Limiter) (p : Permit) {q : Quota} {now : Nat}
    (hfit : q.FitsClock now) :
    l.release p (some q) now =
      (l.setBucket p.key (((l.bucket? p.key).getD Bucket.fresh).recorded q (now + ·.toNanos)),
        none) := by
  unfold release
  dsimp only
  rw [hfit.apply_eq]

theorem release_attempt_waits_iff (l : Limiter) (p : Permit) {q : Quota} {now : Nat}
    (hfit : q.FitsClock now) :
    (∃ d l', (l.release p (some q) now).1.attempt p.key now = .waitUntil d l') ↔
      (((l.bucket? p.key).getD Bucket.fresh).apply q now).1.holdsBack now = true := by
  rw [release_of_fits l p hfit, attempt_waits_iff (bucket?_setBucket_self _ _ _) now,
    hfit.apply_eq]

end Limiter

/-- **`defersRetry` agrees with the limiter, as far as the quota alone decides.** Let a
response's quota fit the clock at `now`. If it defers the retry, then whatever the limiter held
before, once a permit is settled with it, the next look at the permit's bucket at `now` waits.
And for a bucket the limiter had not seen before, the next look waits exactly when the quota
defers the retry, unless the quota pairs a back-off of zero with a positive refill delay without
saying the bucket is empty. -/
theorem retry_deferral_agrees_with_limiter (q : Quota) (now : Nat)
    (hfit : q.FitsClock now) :
    (q.defersRetry = true → ∀ (l : Limiter) (p : Permit),
      ∃ d l', (l.release p (some q) now).1.attempt p.key now = .waitUntil d l') ∧
    (q.zeroBackoffHidesRefill = false → ∀ (l : Limiter) (p : Permit), l.bucket? p.key = none →
      ((∃ d l', (l.release p (some q) now).1.attempt p.key now = .waitUntil d l') ↔
        q.defersRetry = true)) := by
  refine ⟨fun h l p => ?_, fun hslip l p hnew => ?_⟩
  · rw [Limiter.release_attempt_waits_iff l p hfit]
    exact Bucket.holdsBack_of_defersRetry _ hfit h
  · -- a bucket not seen before is recorded from a fresh one
    rw [Limiter.release_attempt_waits_iff l p hfit, hnew, Option.getD_none,
      Bucket.holdsBack_fresh_apply hfit, hslip, Bool.or_false]

/-- An empty bucket with a refill a second away fits the clock at time 0, defers the retry, and
holds the retry back. -/
theorem retry_deferral_agrees_with_limiter_empty_bucket :
    let q : Quota := { remaining := some 0, resetAfter := some ⟨1, 0⟩ }
    q.FitsClock 0 ∧
    (q.defersRetry = true → ∀ (l : Limiter) (p : Permit),
      ∃ d l', (l.release p (some q) 0).1.attempt p.key 0 = .waitUntil d l') ∧
    (q.zeroBackoffHidesRefill = false → ∀ (l : Limiter) (p : Permit), l.bucket? p.key = none →
      ((∃ d l', (l.release p (some q) 0).1.attempt p.key 0 = .waitUntil d l') ↔
        q.defersRetry = true)) :=
  have hfit : ({ remaining := some 0, resetAfter := some ⟨1, 0⟩ } : Quota).FitsClock 0 :=
    ⟨fun d hd => by cases hd; decide, fun d hd => by cases hd⟩
  ⟨hfit, retry_deferral_agrees_with_limiter _ 0 hfit⟩

/-- `defersRetry` and the limiter disagree twice. A back-off of zero beside a refill a second
away does not defer the retry, yet the bucket it is recorded in, here one first seen, holds the
retry back. And a quota naming only a limit does not defer the retry, yet recorded over a bucket
empty until time 10 it leaves that bucket holding the retry back. -/
theorem retry_deferral_misses_held_buckets :
    let q₁ : Quota := { retryAfter := some ⟨0, 0⟩, resetAfter := some ⟨1, 0⟩ }
    let q₂ : Quota := { limit := some 5 }
    let held : Limiter := { buckets := [("a", ⟨1, 0, some 10⟩)] }
    q₁.defersRetry = false ∧
      (({} : Limiter).release ⟨"a", false⟩ (some q₁) 0).1.attempt "a" 0 =
        .waitUntil 1000000000 (({} : Limiter).release ⟨"a", false⟩ (some q₁) 0).1 ∧
    q₂.defersRetry = false ∧
      (held.release ⟨"a", false⟩ (some q₂) 0).1.attempt "a" 0 =
        .waitUntil 10 (held.release ⟨"a", false⟩ (some q₂) 0).1 := by
  exact ⟨rfl, rfl, rfl, rfl⟩

/-! ## The clock's range -/

namespace Quota

theorem fitsClock_iff {q : Quota} {now : Nat} :
    q.FitsClock now ↔
      q.resetAfter.all (fun d => (now + d.toNanos) / Duration.nanosPerSec < Nat.pow 2 63) = true ∧
        q.retryAfter.all (fun d => (now + d.toNanos) / Duration.nanosPerSec < Nat.pow 2 63) = true := by
  unfold FitsClock
  cases q.resetAfter <;> cases q.retryAfter <;> simp

instance (q : Quota) (now : Nat) : Decidable (q.FitsClock now) :=
  decidable_of_iff _ fitsClock_iff.symm

end Quota

namespace Bucket

variable {q : Quota} {now : Nat}

theorem later_eq_none_iff {d : Duration} :
    later now d = none ↔ ¬(now + d.toNanos) / Duration.nanosPerSec < Nat.pow 2 63 := by
  unfold later
  dsimp only
  split <;> simp only [reduceCtorEq, true_iff, false_iff, Nat.not_lt] <;> omega

theorem apply_snd_of_reset_past (b : Bucket) {a : Duration} (ha : q.resetAfter = some a)
    (hl : later now a = none) : (b.apply q now).2 = some overflowMessage := by
  unfold apply
  simp only [ha, Option.map_some, hl]

theorem apply_snd_of_retry_past (b : Bucket) {d : Duration} (hd : q.retryAfter = some d)
    (hl : later now d = none) : (b.apply q now).2 = some overflowMessage := by
  unfold apply
  cases hra : q.resetAfter with
  | none => simp only [Option.map_none, hd, hl]
  | some a =>
    cases hla : later now a with
    | none => simp only [Option.map_some, hla]
    | some t => simp only [Option.map_some, hla, hd, hl]

/-- **Recording a quota panics exactly when an instant it names passes the clock's range**, and
the panic is the overflow of an instant. -/
theorem apply_snd_eq (b : Bucket) (q : Quota) (now : Nat) :
    (b.apply q now).2 = if q.FitsClock now then none else some overflowMessage := by
  split
  case isTrue hfit => exact apply_snd b hfit
  case isFalse hpast =>
    -- one of the two delays is past the range
    simp only [Quota.FitsClock, Classical.not_and_iff_not_or_not, Classical.not_forall] at hpast
    rcases hpast with ⟨a, ha, hpast⟩ | ⟨d, hd, hpast⟩
    · exact apply_snd_of_reset_past b ha (later_eq_none_iff.2 hpast)
    · exact apply_snd_of_retry_past b hd (later_eq_none_iff.2 hpast)

end Bucket

theorem Limiter.release_snd (l : Limiter) (p : Permit) (q : Quota) (now : Nat) :
    (l.release p (some q) now).2 = (((l.bucket? p.key).getD Bucket.fresh).apply q now).2 := by
  unfold release
  dsimp only
  generalize ((l.bucket? p.key).getD Bucket.fresh).apply q now = r
  rcases r with ⟨b, _ | m⟩ <;> rfl

/-- **Settling a permit with a response's quota panics exactly when an instant the quota names
passes the clock's range**, whatever the limiter held and whichever permit is settled. The
panic is the overflow of an instant. -/
theorem release_panics_exactly_past_clock (l : Limiter) (p : Permit) (q : Quota) (now : Nat) :
    (l.release p (some q) now).2 =
      if q.FitsClock now then none else some Bucket.overflowMessage := by
  rw [Limiter.release_snd, Bucket.apply_snd_eq]

/-- A back-off of `10^19` seconds, below the `2^64` seconds a `retry-after` header may carry,
passes the clock's range at time 0: settling a permit with it panics. -/
theorem release_panics_on_long_backoff :
    let q : Quota := { retryAfter := some ⟨10000000000000000000, 0⟩ }
    ¬q.FitsClock 0 ∧
      (({} : Limiter).release ⟨"a", false⟩ (some q) 0).2 = some Bucket.overflowMessage :=
  ⟨by decide, rfl⟩

end ChunkStore
