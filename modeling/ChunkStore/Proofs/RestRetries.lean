import ChunkStore.Proofs.QuotaRecord
import ChunkStore.Storage.Rest
/-!
# Retrying requests to the origin

Each call of the HTTP transport tries again until something comes of a request that its policy
does not retry; that decides the call (`RetryPolicy.verdict`).

**The limiter's clock stays in range.** Settling a permit with an answer's quota panics when an
instant the quota names passes the clock's range. When every delay the answers name is at most
`D`, the clock and every refill time the limiter holds start at most `X`, and the clock has room
for `D` and a back-off per attempt, no settlement panics: an attempt moves the clock to a refill
time at most (`Limiter.acquire_two`), records refill times at most `D` later
(`Limiter.RefillsBy.release`) and backs off at most 5 s (`RestState.ClockBy`).
-/

namespace ChunkStore

/-- Each delay the quota names is at most `D` nanoseconds. -/
def Quota.DelaysWithin (D : Nat) (q : Quota) : Prop :=
  (∀ d, q.resetAfter = some d → d.toNanos ≤ D) ∧ ∀ d, q.retryAfter = some d → d.toNanos ≤ D

theorem Quota.DelaysWithin.fitsClock {q : Quota} {D now : Nat} (hq : q.DelaysWithin D)
    (hroom : now + D < Nat.pow 2 63 * Duration.nanosPerSec) : q.FitsClock now := by
  have hfit : ∀ d : Duration, d.toNanos ≤ D →
      (now + d.toNanos) / Duration.nanosPerSec < Nat.pow 2 63 := fun d hd =>
    (Nat.div_lt_iff_lt_mul (by decide)).2 (by omega)
  exact ⟨fun d hd => hfit d (hq.1 d hd), fun d hd => hfit d (hq.2 d hd)⟩

namespace Bucket

theorem resetAt_of_replenish {b : Bucket} {now R : Nat} (h : (b.replenish now).resetAt = some R) :
    b.resetAt = some R := by
  unfold replenish at h
  split at h
  · split at h
    · simp at h
    · assumption
  · exact h

/-- Recording a quota whose delays are at most `D` at `now` sets refill times at most `D`
later, keeping the bucket's own otherwise. -/
theorem recorded_resetAt_le {b : Bucket} {q : Quota} {now X D : Nat}
    (hb : ∀ R, b.resetAt = some R → R ≤ X) (hq : q.DelaysWithin D) :
    ∀ R, (b.recorded q (now + ·.toNanos)).resetAt = some R → R ≤ max X (now + D) := by
  -- the refill time before any back-off is the quota's, or else the bucket's
  have hreset : ∀ R, ((q.resetAfter.map (now + ·.toNanos)).or b.resetAt) = some R →
      R ≤ max X (now + D) := by
    intro R hR
    cases ha : q.resetAfter with
    | none =>
      rw [ha, Option.map_none, Option.none_or] at hR
      exact Nat.le_trans (hb R hR) (Nat.le_max_left _ _)
    | some a =>
      rw [ha, Option.map_some, Option.some_or, Option.some_inj] at hR
      have := hq.1 a ha
      omega
  intro R hR
  unfold recorded at hR
  cases hd : q.retryAfter with
  | none =>
    rw [hd] at hR
    exact hreset R hR
  | some d =>
    rw [hd] at hR
    have hdD := hq.2 d hd
    simp only [Option.some_inj] at hR
    cases hr : (q.resetAfter.map (now + ·.toNanos)).or b.resetAt with
    | none =>
      rw [hr, Option.map_none, Option.getD_none] at hR
      omega
    | some r =>
      rw [hr, Option.map_some, Option.getD_some] at hR
      have := hreset r hr
      omega

end Bucket

namespace Limiter

variable {l : Limiter} {X : Nat}

/-- Every refill time the limiter holds is at most `X`. -/
def RefillsBy (X : Nat) (l : Limiter) : Prop :=
  ∀ e ∈ l.buckets, ∀ R, e.2.resetAt = some R → R ≤ X

theorem mem_setBucket {k : String} {b : Bucket} {e : String × Bucket}
    (h : e ∈ (l.setBucket k b).buckets) : e ∈ l.buckets ∨ e.2 = b := by
  unfold setBucket at h
  split at h
  · obtain ⟨x, hx, rfl⟩ := List.mem_map.1 h
    by_cases hk : (x.1 == k) = true
    · exact .inr (by simp [hk])
    · exact .inl (by simpa [hk] using hx)
  · rcases List.mem_append.1 h with h | h
    · exact .inl h
    · exact .inr (by rw [List.mem_singleton.1 h])

@[simp] theorem cancelled_setBucket (k : String) (b : Bucket) :
    (l.setBucket k b).cancelled = l.cancelled := by
  unfold setBucket
  split <;> rfl

theorem RefillsBy.mono {Y : Nat} (h : l.RefillsBy X) (hXY : X ≤ Y) : l.RefillsBy Y :=
  fun e he R hR => Nat.le_trans (h e he R hR) hXY

theorem RefillsBy.setBucket (h : l.RefillsBy X) {k : String} {b : Bucket}
    (hb : ∀ R, b.resetAt = some R → R ≤ X) : (l.setBucket k b).RefillsBy X := fun e he R hR => by
  rcases mem_setBucket he with he | he
  · exact h e he R hR
  · exact hb R (he ▸ hR)

theorem RefillsBy.bucket (h : l.RefillsBy X) {k : String} {b : Bucket}
    (hb : l.bucket? k = some b) : ∀ R, b.resetAt = some R → R ≤ X := by
  obtain ⟨x, hx, rfl⟩ := Option.map_eq_some_iff.1 hb
  exact h x (List.mem_of_find?_eq_some hx)

theorem RefillsBy.cancel (h : l.RefillsBy X) : l.cancel.RefillsBy X := h

theorem nextTick_mono {a b : Nat} (h : a ≤ b) : nextTick a ≤ nextTick b := by
  unfold nextTick
  omega

theorem nextTick_le (t : Nat) : nextTick t ≤ t + 999999 := by
  unfold nextTick
  omega

@[simp] theorem cancelled_attempt (k : String) (now : Nat) :
    (l.attempt k now).limiter.cancelled = l.cancelled := by
  unfold attempt
  split
  · rfl
  · dsimp only
    split
    · simp [Attempt.limiter]
    · split <;> simp [Attempt.limiter]

@[simp] theorem cancelled_settle (p : Permit) (now : Nat) : (l.settle p now).cancelled = l.cancelled := by
  unfold settle
  split
  · rfl
  · split <;> simp

/-- A look at a bucket keeps every refill time at most `X`, and waits only for one of them. -/
theorem RefillsBy.attempt (h : l.RefillsBy X) (k : String) (now : Nat) :
    (l.attempt k now).limiter.RefillsBy X ∧
      ∀ d l', l.attempt k now = .waitUntil d l' → d ≤ X := by
  unfold Limiter.attempt
  split
  · exact ⟨h, fun d l' hw => by cases hw⟩
  · next b hb =>
    have hb' : ∀ R, (b.replenish now).resetAt = some R → R ≤ X := fun R hR =>
      h.bucket hb R (Bucket.resetAt_of_replenish hR)
    dsimp only
    split
    · exact ⟨h.setBucket hb', fun d l' hw => by cases hw⟩
    · split
      · next reset hreset => exact ⟨h.setBucket hb', fun d l' hw => by cases hw; exact hb' _ hreset⟩
      · exact ⟨h.setBucket hb', fun d l' hw => by cases hw⟩

/-- A look that waits has recorded its bucket with the refill time it waits for. -/
theorem attempt_waitUntil_eq {k : String} {now d : Nat} {l' : Limiter}
    (hw : l.attempt k now = .waitUntil d l') : ∃ b, l' = l.setBucket k b ∧ b.resetAt = some d := by
  unfold Limiter.attempt at hw
  split at hw
  · cases hw
  · dsimp only at hw
    split at hw
    · cases hw
    · split at hw
      · next reset hreset =>
        cases hw
        exact ⟨_, rfl, hreset⟩
      · cases hw

theorem attempt_of_due {k : String} {b : Bucket} {d t : Nat} (hb : l.bucket? k = some b)
    (hd : b.resetAt = some d) (ht : d ≤ t) : ∃ l', l.attempt k t = .granted ⟨k, true⟩ l' := by
  have hr : b.replenish t = { b with remaining := max b.limit 1, resetAt := none } := by
    unfold Bucket.replenish
    rw [hd]
    exact if_pos ht
  unfold Limiter.attempt
  rw [hb]
  dsimp only
  rw [hr, if_pos (show 0 < max b.limit 1 by omega)]
  exact ⟨_, rfl⟩

/-- **With the token not fired, an acquire hands out a permit of its bucket**: at once, or at the
tick after the refill time it waits for, which is at most `X`. -/
theorem RefillsBy.acquire_two (h : l.RefillsBy X) (hc : l.cancelled = false) (k : String)
    (now : Nat) :
    ∃ p t l', l.acquire k now 2 = .ok (p, t, l') ∧ p.key = k ∧ t ≤ max now (nextTick X) ∧
      l'.RefillsBy X ∧ l'.cancelled = false := by
  obtain ⟨hl, hwait⟩ := h.attempt k now
  have hc' := cancelled_attempt (l := l) k now
  cases ha : l.attempt k now with
  | granted p l₁ =>
    rw [ha] at hl hc'
    simp only [Attempt.limiter] at hl hc'
    refine ⟨p, now, l₁, ?_, attempt_granted_key ha, Nat.le_max_left _ _, hl, hc'.trans hc⟩
    simp [acquire, hc, ha]
  | waitUntil d l₁ =>
    rw [ha] at hl hc'
    simp only [Attempt.limiter] at hl hc'
    obtain ⟨b, rfl, hd⟩ := attempt_waitUntil_eq ha
    -- at the tick after the refill time the bucket has refilled
    obtain ⟨l₂, hg⟩ := attempt_of_due (bucket?_setBucket_self l k b) hd (Calls.le_nextTick d)
    obtain ⟨hl₂, -⟩ := hl.attempt k (nextTick d)
    have hc₂ := cancelled_attempt (l := l.setBucket k b) k (nextTick d)
    rw [hg] at hl₂ hc₂
    simp only [Attempt.limiter] at hl₂ hc₂
    refine ⟨⟨k, true⟩, nextTick d, l₂, ?_, rfl, ?_, hl₂, hc₂.trans (hc'.trans hc)⟩
    · simp [acquire, hc, ha, hg]
    · exact Nat.le_trans (nextTick_mono (hwait d _ ha)) (Nat.le_max_right _ _)

theorem RefillsBy.settle (h : l.RefillsBy X) (p : Permit) (now : Nat) :
    (l.settle p now).RefillsBy X := by
  unfold Limiter.settle
  split
  · exact h
  · split
    · next b hb => exact h.setBucket fun R hR => h.bucket hb R (Bucket.resetAt_of_replenish hR)
    · exact h

/-- **Settling a permit with a quota whose delays are at most `D`, the clock having room for
them, does not panic**, and leaves every refill time at most `D` after the settlement or as it
was. -/
theorem RefillsBy.release (h : l.RefillsBy X) (p : Permit) {q : Option Quota} {now D : Nat}
    (hq : ∀ q', q = some q' → q'.DelaysWithin D)
    (hroom : now + D < Nat.pow 2 63 * Duration.nanosPerSec) :
    (l.release p q now).2 = none ∧ (l.release p q now).1.RefillsBy (max X (now + D)) ∧
      (l.release p q now).1.cancelled = l.cancelled := by
  cases q with
  | none => exact ⟨rfl, (h.settle p now).mono (Nat.le_max_left _ _), cancelled_settle p now⟩
  | some q =>
    rw [release_of_fits l p ((hq q rfl).fitsClock hroom)]
    refine ⟨rfl, (h.mono (Nat.le_max_left _ _)).setBucket ?_, cancelled_setBucket _ _⟩
    -- the bucket recorded into is the permit's, or a fresh one with no refill time
    have hb : ∀ R, ((l.bucket? p.key).getD Bucket.fresh).resetAt = some R → R ≤ X := by
      cases hk : l.bucket? p.key with
      | none => intro R hR; cases hR
      | some b => exact h.bucket hk
    exact Bucket.recorded_resetAt_le hb (hq q rfl)

/-- An acquire hands out permits of its own bucket. -/
theorem acquire_key {k : String} {now : Nat} :
    ∀ {fuel : Nat} {l : Limiter} {p : Permit} {t : Nat} {l' : Limiter},
      l.acquire k now fuel = .ok (p, t, l') → p.key = k := by
  intro fuel
  induction fuel generalizing now with
  | zero => intro l p t l' h; cases h
  | succ fuel ih =>
    intro l p t l' h
    simp only [acquire] at h
    split at h
    · cases h
    · split at h
      · next p' l₁ ha =>
        cases h
        exact attempt_granted_key ha
      · exact ih h

end Limiter

/-! ## What decides a call -/

/-- What a call makes of what came of one request: its outcome, or none when it tries again.
`limited` says whether the attempt held a permit, which is what makes a 429 retried. -/
def RetryPolicy.verdict (policy : RetryPolicy) (limited : Bool) (finish : ByteStream → Outcome α) :
    Reply → Option (Outcome α)
  | .refused _ => none
  | .timedOut _ =>
    if policy.retriesTimeouts then none else some (.failed (.timeout policy.operation))
  | .failed e => some (.failed e)
  | .answered status _ body =>
    if limited && status == 429 || 500 ≤ status && status < 600 then none
    else if policy.accepts status then some (finish body)
    else some (.failed (.transport policy.operation status))

/-- What a call makes of one turn of its environment: a token fired before the request goes out
cancels the call. -/
def Turn.verdict (policy : RetryPolicy) (limited : Bool) (finish : ByteStream → Outcome α) :
    Turn → Option (Outcome α)
  | .cancelled | .cancelledAcquiring => some (.failed .cancelled)
  | .reply r => policy.verdict limited finish r

/-- The outcome an attempt ends the call with, if it does. -/
def AttemptEnd.verdict : AttemptEnd α → Option (Outcome α)
  | .done out => some out
  | .retry _ => none

/-- The headers of an answer. -/
def Reply.headers : Reply → Option HeaderMap
  | .answered _ headers _ => some headers
  | _ => none

/-- Each delay the quota of an answer names is at most `D`, whatever the wall-clock time. -/
def Reply.DelaysWithin (D : Nat) : Reply → Prop
  | .answered _ headers _ => ∀ wall q, Quota.fromHeaders headers wall = some q → q.DelaysWithin D
  | _ => True

/-- Each delay the quota of the turn's answer names, if any, is at most `D`. -/
def Turn.DelaysWithin (D : Nat) : Turn → Prop
  | .reply r => r.DelaysWithin D
  | _ => True

theorem Reply.DelaysWithin.headers {D : Nat} {r : Reply} (h : r.DelaysWithin D) {hs : HeaderMap}
    (hr : r.headers = some hs) (wall : Nat) {q : Quota} (hq : Quota.fromHeaders hs wall = some q) :
    q.DelaysWithin D := by
  cases r with
  | answered status headers body =>
    cases hr
    exact h wall q hq
  | _ => cases hr

/-- The reply of a turn on which the request goes out. -/
def Turn.reply? : Turn → Option Reply
  | .reply r => some r
  | _ => none

/-- The replies a call attempts on: those of its script up to the first turn that `decides`,
that one included, or of the whole script when none does. -/
def Turn.repliesUntil {β : Type} (decides : Turn → Option β) : List Turn → List Reply
  | [] => []
  | t :: ts => t.reply?.toList ++ if (decides t).isSome then [] else repliesUntil decides ts

/-- The calls of one attempt on reply `r` that sends its request on `pair`: on a credential and
channel it first takes a permit of their bucket and last settles it, with the answer's headers or
as failed; on none it only sends. -/
def attemptCalls (r : Reply) : Option (String × String) → List RestCall
  | none => [.sent none]
  | some (token, channel) =>
    [.acquired (bucketKey token channel), .sent (some (token, channel)),
      .settled (bucketKey token channel) r.headers]

/-- The calls of a run of attempts on the replies `rs`, in order: the calls of each attempt on its
reply, on a pair exactly when `limited`, each followed by a back-off or not. -/
inductive CallsOf (limited : Bool) : List Reply → List RestCall → Prop where
  | nil : CallsOf limited [] []
  | attempt {rs : List Reply} {calls : List RestCall} (r : Reply) {pair : Option (String × String)}
      (hpair : pair.isSome = limited) :
      CallsOf limited rs calls → CallsOf limited (r :: rs) (attemptCalls r pair ++ calls)
  | backOff {rs : List Reply} {calls : List RestCall} (r : Reply) {pair : Option (String × String)}
      (hpair : pair.isSome = limited) (nanos : Nat) :
      CallsOf limited rs calls →
        CallsOf limited (r :: rs) (attemptCalls r pair ++ .backedOff nanos :: calls)

theorem Reply.delaysWithin_answered_nil (D status : Nat) (body : ByteStream) :
    (Reply.answered status [] body).DelaysWithin D := fun wall _ hq => by
  rw [show Quota.fromHeaders [] wall = none from rfl] at hq
  cases hq

theorem backoffDelay_le (n : Nat) : backoffDelay n ≤ 5000000000 := Nat.min_le_right _ _

namespace RestState

variable {s : RestState} {X D : Nat} {policy : RetryPolicy} {finish : ByteStream → Outcome α}
  {limited : Bool} {pick : RestState → Option (String × String) × RestState}

/-- The limiter's clock and every refill time the limiter holds are at most `X`. -/
def ClockBy (X : Nat) (s : RestState) : Prop := s.clock ≤ X ∧ s.limiter.RefillsBy X

theorem ClockBy.mono {Y : Nat} (h : s.ClockBy X) (hXY : X ≤ Y) : s.ClockBy Y :=
  ⟨Nat.le_trans h.1 hXY, h.2.mono hXY⟩

theorem ClockBy.pause (h : s.ClockBy X) (n : Nat) : (s.pause n).ClockBy (X + n) :=
  ⟨Nat.add_le_add_right h.1 n, h.2.mono (Nat.le_add_right X n)⟩

/-- How a call picks the credential and channel of an attempt: always when `limited`, never
otherwise, turning only the pools. -/
def Picks (limited : Bool) (pick : RestState → Option (String × String) × RestState) : Prop :=
  ∀ s, (pick s).1.isSome = limited ∧ (pick s).2.limiter = s.limiter ∧
    (pick s).2.clock = s.clock ∧ (pick s).2.wall = s.wall

theorem picks_upload : Picks true pickUpload := fun _ => ⟨rfl, rfl, rfl, rfl⟩

theorem picks_list (channel : String) : Picks true (pickList channel) := fun _ => ⟨rfl, rfl, rfl, rfl⟩

theorem picks_fetch : Picks false fun s => (none, s) := fun _ => ⟨rfl, rfl, rfl, rfl⟩

/-- Settling changes only the limiter; with headers whose quota's delays are at most `D` and a
clock with room for them, it does not panic and keeps refill times at most `D` after `X`. -/
theorem ClockBy.settle (h : s.ClockBy X) (held : Option Permit) {headers : Option HeaderMap}
    (hq : ∀ hs q, headers = some hs → Quota.fromHeaders hs s.wall = some q → q.DelaysWithin D)
    (hroom : X + D < Nat.pow 2 63 * Duration.nanosPerSec) :
    ∃ l, (s.settle held headers).2.1 = { s with limiter := l } ∧ l.RefillsBy (X + D) ∧
      l.cancelled = s.limiter.cancelled ∧ (s.settle held headers).2.2 = none := by
  cases held with
  | none => exact ⟨s.limiter, rfl, h.2.mono (Nat.le_add_right X D), rfl, rfl⟩
  | some p =>
    have hq' : ∀ q', headers.bind (Quota.fromHeaders · s.wall) = some q' → q'.DelaysWithin D :=
      fun q' hb => by
        obtain ⟨hs, hhs, hq''⟩ := Option.bind_eq_some_iff.1 hb
        exact hq hs q' hhs hq''
    have hroom' : s.clock + D < Nat.pow 2 63 * Duration.nanosPerSec := by have := h.1; omega
    obtain ⟨hpanic, hl, hlc⟩ := h.2.release p hq' hroom'
    exact ⟨_, rfl, hl.mono (by have := h.1; omega), hlc, hpanic⟩

theorem exchange_calls_state (s : RestState) (held : Option Permit) (r : Reply) :
    (s.exchange policy finish held r).2 = ((s.settle held r.headers).1, (s.settle held r.headers).2.1) := by
  cases r with
  | answered status headers body =>
    simp only [exchange, Reply.headers]
    rcases s.settle held (some headers) with ⟨calls, s', _ | panic⟩ <;> rfl
  | _ => rfl

theorem settle_calls (s : RestState) (p : Permit) (headers : Option HeaderMap) :
    (s.settle (some p) headers).1 = [.settled p.key headers] := rfl

theorem exchange_calls (s : RestState) (held : Option Permit) (r : Reply) :
    (s.exchange policy finish held r).2.1 = (s.settle held r.headers).1 := by
  rw [exchange_calls_state]

/-- When settling does not panic, an attempt ends as the policy's verdict on the reply says. -/
theorem exchange_verdict (s : RestState) (held : Option Permit) (r : Reply)
    (hno : (s.settle held r.headers).2.2 = none) :
    (s.exchange policy finish held r).1.verdict = policy.verdict held.isSome finish r := by
  cases r with
  | refused => rfl
  | timedOut => cases h : policy.retriesTimeouts <;> simp [exchange, RetryPolicy.verdict, h, AttemptEnd.verdict]
  | failed => rfl
  | answered status headers body =>
    simp only [Reply.headers] at hno
    simp only [exchange]
    rcases hs : s.settle held (some headers) with ⟨calls, s', _ | panic⟩
    · simp only [RetryPolicy.verdict, Bool.or_eq_true]
      by_cases h429 : (held.isSome && status == 429) = true
      · rw [if_pos h429, if_pos (Or.inl h429)]
        rfl
      rw [if_neg h429]
      by_cases h5 : (decide (500 ≤ status) && decide (status < 600)) = true
      · rw [if_pos h5, if_pos (Or.inr h5)]
        rfl
      rw [if_neg h5, if_neg (not_or.2 ⟨h429, h5⟩)]
      cases policy.accepts status <;> rfl
    · rw [hs] at hno
      cases hno

/-- An exchange from a state whose clock and refill times are at most `X`, on a reply whose quota
delays at most `D` with room on the clock, ends with the policy's verdict on the reply and leaves
the clock and refill times at most `X + D` and the token as it was. -/
theorem ClockBy.exchange (h : s.ClockBy X) (policy : RetryPolicy) (finish : ByteStream → Outcome α)
    (held : Option Permit) {r : Reply}
    (hD : r.DelaysWithin D) (hroom : X + D < Nat.pow 2 63 * Duration.nanosPerSec) :
    (s.exchange policy finish held r).1.verdict = policy.verdict held.isSome finish r ∧
      (s.exchange policy finish held r).2.2.ClockBy (X + D) ∧
      (s.exchange policy finish held r).2.2.limiter.cancelled = s.limiter.cancelled := by
  obtain ⟨l, hs, hl, hlc, hno⟩ := h.settle held (fun _ _ hr hq => hD.headers hr s.wall hq) hroom
  refine ⟨exchange_verdict s held r hno, ?_, ?_⟩
  · rw [exchange_calls_state, hs]
    exact ⟨Nat.le_trans h.1 (Nat.le_add_right X D), hl⟩
  · rw [exchange_calls_state, hs]
    exact hlc

/-- **One attempt on a reply decides as the policy says.** With the token not fired, the clock
and refill times at most `X`, and the reply's quota delaying at most `D` with room on the clock,
the attempt ends with the policy's verdict on the reply, makes the calls of the pair it picks,
leaves the token unfired, and leaves the clock and refill times at most `X + 999999 + D`: a permit
is waited for until the tick after `X` at the latest. -/
theorem ClockBy.attempt_reply (hp : Picks limited pick) (h : s.ClockBy X) (policy : RetryPolicy)
    (finish : ByteStream → Outcome α) (hc : s.limiter.cancelled = false) {r : Reply}
    (hD : r.DelaysWithin D) (hroom : X + 999999 + D < Nat.pow 2 63 * Duration.nanosPerSec) :
    (s.attempt policy pick finish (.reply r)).1.verdict = policy.verdict limited finish r ∧
      (s.attempt policy pick finish (.reply r)).2.1 = attemptCalls r (pick s).1 ∧
      (s.attempt policy pick finish (.reply r)).2.2.ClockBy (X + 999999 + D) ∧
      (s.attempt policy pick finish (.reply r)).2.2.limiter.cancelled = false := by
  obtain ⟨hsome, hlim, hclock, -⟩ := hp s
  rcases hpk : pick s with ⟨_ | ⟨token, channel⟩, s₁⟩ <;> rw [hpk] at hsome hlim hclock <;>
    subst limited <;> simp only [attempt, hc, hpk, Bool.false_eq_true, if_false]
  · -- a call that takes no permit sends at once
    have h₁ : s₁.ClockBy (X + 999999) := ⟨hclock ▸ Nat.le_trans h.1 (Nat.le_add_right _ _),
      (hlim ▸ h.2).mono (Nat.le_add_right _ _)⟩
    obtain ⟨hv, hX, hc'⟩ := h₁.exchange policy finish none hD hroom
    refine ⟨hv, ?_, hX, hc'.trans (hlim ▸ hc)⟩
    show RestCall.sent none :: (s₁.exchange policy finish none r).2.1 = _
    rw [exchange_calls]
    rfl
  · -- a call that takes a permit waits for it first, until the tick after `X` at the latest
    obtain ⟨p, now, l, hacq, hkey, hnow, hl, hlc⟩ :=
      (hlim ▸ h.2 : s₁.limiter.RefillsBy X).acquire_two (hlim ▸ hc) (bucketKey token channel) s₁.clock
    rw [hacq]
    have h₂ : ({ s₁ with limiter := l, clock := now } : RestState).ClockBy (X + 999999) := by
      have htick := Limiter.nextTick_le X
      have hs₁ : s₁.clock ≤ X := hclock ▸ h.1
      exact ⟨show now ≤ X + 999999 by omega, hl.mono (Nat.le_add_right _ _)⟩
    obtain ⟨hv, hX, hc'⟩ := h₂.exchange policy finish (some p) hD hroom
    refine ⟨hv, ?_, hX, hc'.trans hlc⟩
    show RestCall.acquired p.key :: .sent (some (token, channel)) ::
      (RestState.exchange policy finish _ (some p) r).2.1 = _
    rw [exchange_calls, settle_calls, hkey]
    rfl

/-- An attempt that takes no permit, with the token not fired, ends with the policy's verdict on
its reply, only sends, and leaves the state as picking does. -/
theorem attempt_reply_unlimited (hp : Picks false pick) (policy : RetryPolicy)
    (finish : ByteStream → Outcome α) (hc : s.limiter.cancelled = false) (r : Reply) :
    (s.attempt policy pick finish (.reply r)).1.verdict = policy.verdict false finish r ∧
      (s.attempt policy pick finish (.reply r)).2.1 = attemptCalls r (pick s).1 ∧
      (s.attempt policy pick finish (.reply r)).2.2 = (pick s).2 := by
  obtain ⟨hsome, -⟩ := hp s
  rcases hpk : pick s with ⟨_ | ⟨token, channel⟩, s₁⟩ <;> rw [hpk] at hsome
  · simp only [attempt, hc, hpk, Bool.false_eq_true, if_false]
    refine ⟨exchange_verdict s₁ none r rfl, ?_, ?_⟩
    · show RestCall.sent none :: (s₁.exchange policy finish none r).2.1 = _
      rw [exchange_calls]
      rfl
    · show (s₁.exchange policy finish none r).2.2 = _
      rw [exchange_calls_state]
      rfl
  · cases hsome

section Runs

variable (P : List Turn → RestState → Prop)

/-- **A call ends on the first turn the policy decides, its calls pairing up attempt by
attempt.** `P turns s` is what holds of a state before the attempts on `turns`. If it keeps the
token unfired, and an attempt on a reply from it ends with the policy's verdict, makes the calls
of the pair it picks and leaves a state of which `P` holds for the rest of the turns, after a
back-off or none, then the call's outcome is the verdict of the first turn that has one (none
when no turn has), and its calls are those of its attempts on the replies of the script up to
there, in order. -/
theorem attempts_of_step (hp : Picks limited pick)
    (hfired : ∀ turns s, P turns s → s.limiter.cancelled = false)
    (hstep : ∀ r turns s, P (.reply r :: turns) s →
      (s.attempt policy pick finish (.reply r)).1.verdict = policy.verdict limited finish r ∧
      (s.attempt policy pick finish (.reply r)).2.1 = attemptCalls r (pick s).1 ∧
      ∀ n ≤ 5000000000, P turns ((s.attempt policy pick finish (.reply r)).2.2.pause n))
    {turns : List Turn} {tries : Nat} {s : RestState} (h : P turns s) :
    (attempts policy pick finish turns tries s).1 =
        turns.findSome? (Turn.verdict policy limited finish) ∧
      CallsOf limited (Turn.repliesUntil (Turn.verdict policy limited finish) turns)
        (attempts policy pick finish turns tries s).2.1 := by
  induction turns generalizing tries s with
  | nil => exact ⟨rfl, .nil⟩
  | cons turn turns ih =>
    have hc := hfired _ _ h
    rw [List.findSome?_cons, Turn.repliesUntil]
    cases turn with
    | cancelled | cancelledAcquiring =>
      refine ⟨by simp [attempts, attempt, hc, Turn.verdict], ?_⟩
      simpa [attempts, attempt, hc, Turn.verdict, Turn.reply?] using CallsOf.nil
    | reply r =>
      have hpair := (hp s).1
      obtain ⟨hv, hcalls, hnext⟩ := hstep r turns s h
      rcases ha : s.attempt policy pick finish (.reply r) with ⟨out | backOff, calls, s'⟩ <;>
        rw [ha] at hv hcalls hnext <;> dsimp only at hv hcalls hnext <;> rw [Turn.verdict, ← hv] <;>
        simp only [attempts, ha, Turn.reply?, AttemptEnd.verdict, Option.toList_some,
          Option.isSome_some, Option.isSome_none, Bool.false_eq_true, if_true, if_false,
          List.append_nil, List.singleton_append]
      · refine ⟨trivial, ?_⟩
        rw [hcalls, ← List.append_nil (attemptCalls r _)]
        exact .attempt r hpair .nil
      cases backOff with
      | false =>
        -- a retry without a back-off is the next attempt at once
        have hpause : s'.pause 0 = s' := rfl
        obtain ⟨hout, hcs⟩ := ih (hpause ▸ hnext 0 (Nat.zero_le _))
        exact ⟨hout, hcalls ▸ .attempt r hpair hcs⟩
      | true =>
        obtain ⟨hout, hcs⟩ := ih (hnext _ (backoffDelay_le tries))
        exact ⟨hout, hcalls ▸ .backOff r hpair _ hcs⟩

end Runs

/-- Room for the attempts on `turns`: the clock and refill times at most some `X`, the token not
fired, each turn's quota delaying at most `D`, and room on the clock for a tick, a delay and a
back-off per turn. -/
def RoomFor (D : Nat) (turns : List Turn) (s : RestState) : Prop :=
  ∃ X, s.ClockBy X ∧ s.limiter.cancelled = false ∧ (∀ t ∈ turns, t.DelaysWithin D) ∧
    X + turns.length * (D + 5001000000) < Nat.pow 2 63 * Duration.nanosPerSec

/-- An attempt with room for its script decides as the policy says, makes the calls of its pair,
and leaves room for the rest of the script after any back-off. -/
theorem RoomFor.step (hp : Picks limited pick) (policy : RetryPolicy)
    (finish : ByteStream → Outcome α) {r : Reply} {turns : List Turn}
    (h : s.RoomFor D (.reply r :: turns)) :
    (s.attempt policy pick finish (.reply r)).1.verdict = policy.verdict limited finish r ∧
      (s.attempt policy pick finish (.reply r)).2.1 = attemptCalls r (pick s).1 ∧
      ∀ n ≤ 5000000000, (s.attempt policy pick finish (.reply r)).2.2.pause n |>.RoomFor D turns := by
  obtain ⟨X, hX, hc, hD, hroom⟩ := h
  rw [List.length_cons, Nat.succ_mul] at hroom
  obtain ⟨hv, hcalls, hX', hc'⟩ :=
    hX.attempt_reply hp policy finish hc (hD _ List.mem_cons_self) (by omega)
  exact ⟨hv, hcalls, fun n hn => ⟨X + 999999 + D + n, hX'.pause n, hc',
    fun t ht => hD t (List.mem_cons_of_mem _ ht), by omega⟩⟩

/-- A call that takes a permit per attempt, with room for its script, ends with the verdict of
the first decisive turn, one permit taken and settled per attempt. -/
theorem RoomFor.attempts (hp : Picks limited pick) {turns : List Turn} {tries : Nat}
    (h : s.RoomFor D turns) :
    (attempts policy pick finish turns tries s).1 =
        turns.findSome? (Turn.verdict policy limited finish) ∧
      CallsOf limited (Turn.repliesUntil (Turn.verdict policy limited finish) turns)
        (attempts policy pick finish turns tries s).2.1 :=
  attempts_of_step (RoomFor D) hp (fun _ _ h => h.choose_spec.2.1)
    (fun _ _ _ h => h.step hp policy finish) h

/-- A call that takes no permit, the token not fired, ends with the verdict of the first decisive
turn, and only sends. -/
theorem attempts_unlimited (hp : Picks false pick) {turns : List Turn} {tries : Nat}
    (hc : s.limiter.cancelled = false) :
    (attempts policy pick finish turns tries s).1 =
        turns.findSome? (Turn.verdict policy false finish) ∧
      CallsOf false (Turn.repliesUntil (Turn.verdict policy false finish) turns)
        (attempts policy pick finish turns tries s).2.1 := by
  refine attempts_of_step (fun _ s => s.limiter.cancelled = false) hp (fun _ _ h => h)
    (fun r _ s h => ?_) hc
  obtain ⟨hv, hcalls, hs⟩ := attempt_reply_unlimited hp policy finish h r
  refine ⟨hv, hcalls, fun n _ => ?_⟩
  show (s.attempt policy pick finish (.reply r)).2.2.limiter.cancelled = false
  rw [hs, (hp s).2.1]
  exact h

theorem attempt_buckets_unlimited (hp : Picks false pick) (policy : RetryPolicy)
    (finish : ByteStream → Outcome α) (s : RestState) (turn : Turn) :
    (s.attempt policy pick finish turn).2.2.limiter.buckets = s.limiter.buckets := by
  cases hc : s.limiter.cancelled with
  | true => simp [attempt, hc]
  | false =>
    cases turn with
    | reply r => rw [(attempt_reply_unlimited hp policy finish hc r).2.2, (hp s).2.1]
    | _ => simp [attempt, hc, cancel, Limiter.cancel, (hp s).2.1]

/-- **A call that takes no permit never touches the limiter's buckets**, whatever its script. -/
theorem attempts_buckets_unlimited (hp : Picks false pick) (turns : List Turn) (tries : Nat)
    (s : RestState) :
    (attempts policy pick finish turns tries s).2.2.limiter.buckets = s.limiter.buckets := by
  induction turns generalizing tries s with
  | nil => rfl
  | cons turn turns ih =>
    have hstep := attempt_buckets_unlimited hp policy finish s turn
    rcases ha : s.attempt policy pick finish turn with ⟨out | backOff, calls, s'⟩ <;>
      rw [ha] at hstep <;> simp only [attempts, ha]
    · exact hstep
    · cases backOff
      · exact (ih tries s').trans hstep
      · exact (ih (tries + 1) _).trans hstep

end RestState

/-! ## What an accepted answer gives -/

theorem decodeBody_eq_error {d : Nat → Json.Decode α} {bytes : ByteArray} {e : StorageError}
    (h : decodeBody d bytes = .error e) : ∃ msg, e = .decode msg := by
  unfold decodeBody at h
  split at h
  · cases h
    exact ⟨_, rfl⟩
  · split at h
    · cases h
    · cases h
      exact ⟨_, rfl⟩

/-- An upload's accepted answer gives a chunk's record exactly when its body arrives whole and
decodes to a message with an attachment whose URL is a link of the origin: the record of that
link, of `size` bytes, in that message. -/
theorem uploadAnswer_eq_ok {size : Nat} {body : ByteStream} {n : Node} :
    uploadAnswer size body = .ok n ↔ ∃ bytes m a signed, body.collect = .ok bytes ∧
      decodeBody Json.Decode.message bytes = .ok m ∧ m.firstAttachment = some a ∧
      SignedUrl.fromOrigin a.url = .ok signed ∧ Node.ofSigned signed size m.id = n := by
  cases hb : body.collect with
  | error e => simp [uploadAnswer, hb]
  | ok bytes =>
    cases hm : decodeBody Json.Decode.message bytes with
    | error e => simp [uploadAnswer, hb, hm]
    | ok m =>
      cases ha : m.firstAttachment with
      | none => simp [uploadAnswer, hb, hm, ha]
      | some a =>
        cases hs : SignedUrl.fromOrigin a.url with
        | error e => simp [uploadAnswer, hb, hm, ha, hs]
        | ok signed => simp [uploadAnswer, hb, hm, ha, hs]

/-- An upload's accepted answer fails only with the error of a body that does not arrive whole, a
decode error, or a protocol error for a message with no attachment. -/
theorem uploadAnswer_eq_failed {size : Nat} {body : ByteStream} {e : StorageError}
    (h : uploadAnswer size body = .failed e) :
    body.collect = .error e ∨ (∃ msg, e = .decode msg) ∨ ∃ msg, e = .protocol msg := by
  cases hb : body.collect with
  | error e' =>
    simp only [uploadAnswer, hb, Outcome.failed.injEq] at h
    exact .inl (congrArg Except.error h)
  | ok bytes =>
    cases hm : decodeBody Json.Decode.message bytes with
    | error e' =>
      simp only [uploadAnswer, hb, hm, Outcome.failed.injEq] at h
      exact .inr (.inl (h ▸ decodeBody_eq_error hm))
    | ok m =>
      cases ha : m.firstAttachment with
      | none =>
        simp only [uploadAnswer, hb, hm, ha, Outcome.failed.injEq] at h
        exact .inr (.inr ⟨_, h.symm⟩)
      | some a =>
        cases hs : SignedUrl.fromOrigin a.url <;> simp [uploadAnswer, hb, hm, ha, hs] at h

/-- A listing's accepted answer gives the messages its body decodes to, and fails only with the
error of a body that does not arrive whole or a decode error. -/
theorem listAnswer_spec (body : ByteStream) :
    (∀ ms, listAnswer body = .ok ms ↔ ∃ bytes, body.collect = .ok bytes ∧
      decodeBody (Json.Decode.seq Json.Decode.message) bytes = .ok ms) ∧
    ∀ e, listAnswer body = .failed e → body.collect = .error e ∨ ∃ msg, e = .decode msg := by
  cases hb : body.collect with
  | error e => simp [listAnswer, hb]
  | ok bytes =>
    cases hm : decodeBody (Json.Decode.seq Json.Decode.message) bytes with
    | error e =>
      refine ⟨by simp [listAnswer, hb, hm], fun e' h => .inr ?_⟩
      simp only [listAnswer, hb, hm, Outcome.failed.injEq] at h
      exact h ▸ decodeBody_eq_error hm
    | ok ms => simp [listAnswer, hb, hm]

/-! ## The origin's three calls -/

/-- **Each call to the origin retries until its policy decides.** An upload and a listing, from a
state with room for the script, end with the verdict of the first turn that has one: a refused
connection, a 5xx and a 429 are retried; a timeout ends an upload and is retried by a listing; an
upload takes every 2xx, a listing only 200; and a token that fires cancels the call. Attempt by
attempt, on the replies up to there, they take a permit of the bucket of the credential and
channel they use, send, and settle the permit, with the answer's headers or as failed. A range
fetch of a link that parses, the token not fired, ends the same way by its own policy (a 429 is
not retried, only 206 is taken), only sends, and leaves the limiter's buckets as they were. An
upload's accepted answer gives the record of the first attachment of the message its body
decodes to, and otherwise fails with the body's error, a decode error or a protocol error; a
listing's gives the messages its body decodes to. -/
theorem origin_calls_retry_until_decided :
    (∀ (s : RestState) D turns (data : ByteArray), s.RoomFor D turns →
      (s.upload data turns).1 =
          turns.findSome? (Turn.verdict uploadPolicy true (uploadAnswer data.size)) ∧
        CallsOf true (Turn.repliesUntil (Turn.verdict uploadPolicy true (uploadAnswer data.size)) turns)
          (s.upload data turns).2.1) ∧
    (∀ (s : RestState) D turns channel, s.RoomFor D turns →
      (s.listMessages channel turns).1 = turns.findSome? (Turn.verdict listPolicy true listAnswer) ∧
        CallsOf true (Turn.repliesUntil (Turn.verdict listPolicy true listAnswer) turns)
          (s.listMessages channel turns).2.1) ∧
    (∀ (s : RestState) (node : Node) turns, (Url.parse node.signedUrl).isOk = true →
      s.limiter.cancelled = false →
      (s.rangeFetch node turns).1 = turns.findSome? (Turn.verdict fetchPolicy false .ok) ∧
        CallsOf false (Turn.repliesUntil (Turn.verdict fetchPolicy false .ok) turns)
          (s.rangeFetch node turns).2.1 ∧
        (s.rangeFetch node turns).2.2.limiter.buckets = s.limiter.buckets) ∧
    (∀ size body n, uploadAnswer size body = .ok n ↔ ∃ bytes m a signed,
      body.collect = .ok bytes ∧ decodeBody Json.Decode.message bytes = .ok m ∧
        m.firstAttachment = some a ∧ SignedUrl.fromOrigin a.url = .ok signed ∧
        Node.ofSigned signed size m.id = n) ∧
    (∀ size body e, uploadAnswer size body = .failed e →
      body.collect = .error e ∨ (∃ msg, e = .decode msg) ∨ ∃ msg, e = .protocol msg) ∧
    ∀ body, (∀ ms, listAnswer body = .ok ms ↔ ∃ bytes, body.collect = .ok bytes ∧
        decodeBody (Json.Decode.seq Json.Decode.message) bytes = .ok ms) ∧
      ∀ e, listAnswer body = .failed e → body.collect = .error e ∨ ∃ msg, e = .decode msg := by
  refine ⟨fun s _ _ _ h => h.attempts RestState.picks_upload,
    fun s _ _ channel h => h.attempts (RestState.picks_list channel),
    fun s node turns hurl hc => ?_, fun _ _ _ => uploadAnswer_eq_ok,
    fun _ _ _ => uploadAnswer_eq_failed, listAnswer_spec⟩
  -- a link that parses is fetched by attempts that take no permit
  cases hu : Url.parse node.signedUrl with
  | error e => rw [hu] at hurl; cases hurl
  | ok url =>
    simp only [RestState.rangeFetch, hu]
    exact ⟨(RestState.attempts_unlimited RestState.picks_fetch hc).1,
      (RestState.attempts_unlimited RestState.picks_fetch hc).2,
      RestState.attempts_buckets_unlimited RestState.picks_fetch turns 0 s⟩

/-- A request refused once and answered 503 once, then 403, fails each call with the 403. -/
theorem origin_calls_fail_forbidden_after_retries :
    let s : RestState := { tokens := ⟨["token"], 0, by decide⟩, channels := ⟨["channel"], 0, by decide⟩ }
    let script := [Turn.reply (.refused "refused"), .reply (.answered 503 [] []),
      .reply (.answered 403 [] [])]
    (s.upload .empty script).1 = some (.failed (.transport "upload_attachment" 403)) ∧
      (s.listMessages "channel" script).1 = some (.failed (.transport "list_messages" 403)) ∧
      (s.rangeFetch ⟨"x:a", 3, 7, 10, 5, "ab"⟩ script).1 =
        some (.failed (.transport "range_fetch" 403)) := by
  intro s script
  have hD : ∀ t ∈ script, t.DelaysWithin 0 := by
    intro t ht
    simp only [script, List.mem_cons, List.not_mem_nil, or_false] at ht
    rcases ht with rfl | rfl | rfl
    · trivial
    · exact Reply.delaysWithin_answered_nil 0 503 []
    · exact Reply.delaysWithin_answered_nil 0 403 []
  have hroom : s.RoomFor 0 script := ⟨0, ⟨Nat.le_refl 0, fun _ h => nomatch h⟩, rfl, hD, by decide⟩
  obtain ⟨hup, hlist, hfetch, -⟩ := origin_calls_retry_until_decided
  exact ⟨(hup s 0 script .empty hroom).1.trans rfl, (hlist s 0 script "channel" hroom).1.trans rfl,
    (hfetch s _ script (by decide) rfl).1.trans rfl⟩

end ChunkStore
