import ChunkStore.Rate.Quota
import ChunkStore.Storage.Error
/-!
# Rate limiting

Requests that share a credential and a channel share a bucket of the origin's quota. The
limiter learns each bucket from the quota that responses report and makes callers wait when a
bucket is empty until it refills.

Time is a count of nanoseconds on the limiter's clock. `acquire` hands out a permit: at once
when the bucket is unknown, has requests left (one is then reserved), or is empty with no refill
time; otherwise after waiting for the refill (a sleep ends on the next whole millisecond).
Settling a permit with a response's quota records that quota (creating the bucket); settling it
without one gives back nothing, except that a permit that reserved nothing still uses up one
request of a known bucket.
-/

namespace ChunkStore

/-- The rate-limit bucket of a credential and channel. -/
def bucketKey (token channel : String) : String := token ++ "/channels/" ++ channel ++ "/messages"

/-- What the limiter knows about one bucket. -/
structure Bucket where
  limit : Nat
  remaining : Nat
  /-- When the bucket refills, if known. -/
  resetAt : Option Nat
  deriving Repr, DecidableEq

namespace Bucket

/-- A bucket first seen in a response. -/
def fresh : Bucket := ⟨1, 1, none⟩

/-- Refill the bucket if its reset time has come. -/
def replenish (now : Nat) (b : Bucket) : Bucket :=
  match b.resetAt with
  | some reset => if now ≥ reset then { b with remaining := max b.limit 1, resetAt := none } else b
  | none => b

/-- The text of the panic when an instant would pass the clock's range. -/
def overflowMessage : String := "overflow when adding duration to instant"

/-- The instant `after` past `now`, if the clock can represent it: instants count seconds in a
signed 64-bit number. -/
def later (now : Nat) (after : Duration) : Option Nat :=
  let t := now + after.toNanos
  if t / Duration.nanosPerSec ≥ Nat.pow 2 63 then none else some t

/-- Record a response's quota: its counts, its refill delay, and a back-off that empties the
bucket until at least its end. An instant past the clock's range stops the update there with
a panic, leaving what was already recorded. -/
def apply (q : Quota) (now : Nat) (b : Bucket) : Bucket × Option String :=
  let b := match q.limit with
    | some l => { b with limit := l }
    | none => b
  let b := match q.remaining with
    | some r => { b with remaining := r }
    | none => b
  let reset : Option (Option Nat) := q.resetAfter.map (later now)
  match reset with
  | some none => (b, some overflowMessage)
  | _ =>
    let b := match reset with
      | some (some t) => { b with resetAt := some t }
      | _ => b
    match q.retryAfter with
    | some d =>
      match later now d with
      | none => (b, some overflowMessage)
      | some ends =>
        ({ b with remaining := 0, resetAt := some (match b.resetAt with
          | some r => max r ends
          | none => ends) }, none)
    | none => (b, none)

end Bucket

/-- A permission to send one request in a bucket; `reserved` when it used up one of the
bucket's remaining requests. -/
structure Permit where
  key : String
  reserved : Bool
  deriving Repr, DecidableEq

/-- The limiter: the buckets seen so far and whether it has been cancelled. -/
structure Limiter where
  buckets : List (String × Bucket) := []
  cancelled : Bool := false
  deriving Repr, DecidableEq

/-- The first whole millisecond at or after `t`. -/
def nextTick (t : Nat) : Nat := (t + 999999) / 1000000 * 1000000

namespace Limiter

/-- The bucket under a key. -/
def bucket? (l : Limiter) (key : String) : Option Bucket := (l.buckets.find? (·.1 == key)).map (·.2)

/-- Replace (or add) the bucket under a key. -/
def setBucket (l : Limiter) (key : String) (b : Bucket) : Limiter :=
  if l.buckets.any (·.1 == key) then
    { l with buckets := l.buckets.map fun (k, old) => (k, if k == key then b else old) }
  else { l with buckets := l.buckets ++ [(key, b)] }

/-- What one look at a bucket decides: a permit now, or a wait until the refill time. -/
inductive Attempt where
  | granted (p : Permit) (l : Limiter)
  | waitUntil (deadline : Nat) (l : Limiter)

/-- Look at the bucket once at time `now`. -/
def attempt (l : Limiter) (key : String) (now : Nat) : Attempt :=
  match l.bucket? key with
  | none => .granted ⟨key, false⟩ l
  | some b =>
    let b := b.replenish now
    if b.remaining > 0 then .granted ⟨key, true⟩ (l.setBucket key { b with remaining := b.remaining - 1 })
    else
      match b.resetAt with
      | some reset => .waitUntil reset (l.setBucket key b)
      | none => .granted ⟨key, false⟩ (l.setBucket key b)

/-- Acquire a permit at time `now`: the permit, the time it is granted, and the limiter. A
wait ends on the tick after the refill time, when the bucket has refilled, so `fuel` of two
looks suffices. -/
def acquire (l : Limiter) (key : String) (now : Nat) :
    Nat → Except StorageError (Permit × Nat × Limiter)
  | 0 => .error .cancelled
  | fuel + 1 =>
    if l.cancelled then .error .cancelled
    else
      match l.attempt key now with
      | .granted p l => .ok (p, now, l)
      | .waitUntil deadline l => acquire l key (nextTick deadline) fuel

/-- Settle a permit at time `now` without a quota: a permit that reserved nothing uses up one
request of a known bucket. -/
def settle (l : Limiter) (p : Permit) (now : Nat) : Limiter :=
  if p.reserved then l
  else
    match l.bucket? p.key with
    | some b =>
      let b := b.replenish now
      l.setBucket p.key { b with remaining := b.remaining - 1 }
    | none => l

/-- Settle a permit at time `now`, with the quota of its response if there is one. A panic while
recording the quota still settles the permit, as if it had failed. -/
def release (l : Limiter) (p : Permit) (quota : Option Quota) (now : Nat) :
    Limiter × Option String :=
  match quota with
  | some q =>
    let (b, panic) := ((l.bucket? p.key).getD Bucket.fresh).apply q now
    let l := l.setBucket p.key b
    match panic with
    | some m => (l.settle p now, some m)
    | none => (l, none)
  | none => (l.settle p now, none)

/-- Cancel the limiter: every later acquire fails. -/
def cancel (l : Limiter) : Limiter := { l with cancelled := true }

end Limiter

end ChunkStore
