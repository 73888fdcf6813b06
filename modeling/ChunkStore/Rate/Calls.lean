import ChunkStore.Rate.Limiter
/-!
# Requests sharing a limiter

Many requests share one limiter, each in a task of its own, so their steps interleave. An
acquire looks at its bucket and gets a permit, or sleeps until the bucket's refill time and then
looks again; it ends at once, asleep or not, when the limiter is cancelled. A permit is settled
later: with the quota its response reported, without one (the request failed), or by being
dropped unsettled, which settles it as failed. Meanwhile the clock moves on.

`Calls` is the state of all of this: the limiter, the clock, the acquires asleep (each with its
key and the refill time it sleeps until) and the permits handed out and not yet settled. Acquires
and permits are numbered in the order they start and are handed out. One `CallEvent` is one step
of one task, and `Calls.step` says what it does and what the task is told. A sleep ends on the
first whole millisecond at or after its refill time, as the runtime's timer ticks in
milliseconds.
-/

namespace ChunkStore

/-- An acquire asleep until its bucket's refill time. -/
structure Sleeper where
  call : Nat
  key : String
  deadline : Nat
  deriving Repr, DecidableEq

/-- A permit handed out and not yet settled, with its number. -/
structure Issued where
  number : Nat
  permit : Permit
  deriving Repr, DecidableEq

/-- Requests in flight on one limiter. -/
structure Calls where
  limiter : Limiter := {}
  /-- The clock, in nanoseconds. -/
  clock : Nat := 0
  sleepers : List Sleeper := []
  permits : List Issued := []
  /-- How many acquires have started. -/
  started : Nat := 0
  /-- How many permits have been handed out. -/
  issued : Nat := 0
  deriving Repr, DecidableEq

/-- One step of one task. -/
inductive CallEvent where
  /-- A new acquire for a key looks at its bucket. -/
  | acquire (key : String)
  /-- A sleeping acquire is polled. -/
  | wake (call : Nat)
  /-- A sleeping acquire is given up by its caller. -/
  | abandon (call : Nat)
  /-- A permit is settled with its response's quota, if the response reported one. -/
  | release (permit : Nat) (quota : Option Quota)
  | releaseFailed (permit : Nat)
  /-- A permit is dropped unsettled. -/
  | drop (permit : Nat)
  /-- The clock moves on by some nanoseconds. -/
  | advance (ns : Nat)
  | cancel
  deriving Repr, DecidableEq

/-- What a task is told by its step. -/
inductive CallReply where
  | granted (call number : Nat) (p : Permit)
  | sleeping (call deadline : Nat)
  | cancelled (call : Nat)
  /-- A permit settled, with or without a reported quota, and the panic that recording the
  quota raised, if any. -/
  | settled (p : Permit) (reported : Bool) (panic : Option String)
  /-- Nothing to tell: the clock moved, the limiter was cancelled, a sleep has not ended, or
  the acquire or permit named is not in flight. -/
  | quiet
  deriving Repr, DecidableEq

namespace Calls

/-- Acquire `call` looks at the bucket of `key`: it ends if the limiter is cancelled, and
otherwise is handed the next permit or goes to sleep until the refill time. -/
def look (c : Calls) (call : Nat) (key : String) : Calls × CallReply :=
  if c.limiter.cancelled then (c, .cancelled call)
  else
    match c.limiter.attempt key c.clock with
    | .granted p l =>
      ({ c with limiter := l, permits := c.permits ++ [⟨c.issued, p⟩], issued := c.issued + 1 },
        .granted call c.issued p)
    | .waitUntil d l =>
      ({ c with limiter := l, sleepers := c.sleepers ++ [⟨call, key, d⟩] }, .sleeping call d)

/-- The acquire `call`, if it is asleep. -/
def sleeper? (c : Calls) (call : Nat) : Option Sleeper := c.sleepers.find? (·.call == call)

/-- The unsettled permit numbered `n`. -/
def permit? (c : Calls) (n : Nat) : Option Permit :=
  (c.permits.find? (·.number == n)).map (·.permit)

/-- Settle permit `n`, with a quota or without, if it is still unsettled. -/
def settle (c : Calls) (n : Nat) (quota : Option Quota) : Calls × CallReply :=
  match c.permit? n with
  | none => (c, .quiet)
  | some p =>
    let (l, panic) := c.limiter.release p quota c.clock
    ({ c with limiter := l, permits := c.permits.filter (·.number != n) },
      .settled p quota.isSome panic)

/-- One step. A poll of a sleeping acquire looks again once the limiter is cancelled or the
sleep has ended, and otherwise finds it still asleep. Releasing without a quota, releasing as
failed and dropping unsettled all settle the permit as failed. -/
def step (c : Calls) : CallEvent → Calls × CallReply
  | .acquire key => ({ c with started := c.started + 1 } : Calls).look c.started key
  | .wake call =>
    match c.sleeper? call with
    | none => (c, .quiet)
    | some w =>
      if c.limiter.cancelled || nextTick w.deadline ≤ c.clock then
        ({ c with sleepers := c.sleepers.filter (·.call != call) } : Calls).look call w.key
      else (c, .quiet)
  | .abandon call => ({ c with sleepers := c.sleepers.filter (·.call != call) }, .quiet)
  | .release n quota => c.settle n quota
  | .releaseFailed n => c.settle n none
  | .drop n => c.settle n none
  | .advance ns => ({ c with clock := c.clock + ns }, .quiet)
  | .cancel => ({ c with limiter := c.limiter.cancel }, .quiet)

/-- Steps in turn: the state they reach, and what each task was told with the clock at its
step. -/
def run : Calls → List CallEvent → Calls × List (Nat × CallReply)
  | c, [] => (c, [])
  | c, e :: es =>
    (((c.step e).1.run es).1, (c.clock, (c.step e).2) :: ((c.step e).1.run es).2)

end Calls

end ChunkStore
