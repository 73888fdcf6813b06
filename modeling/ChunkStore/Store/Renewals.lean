import Mathlib.Logic.Function.Basic
import ChunkStore.Storage.Refresh
import ChunkStore.Storage.Locks
/-!
# Renewals side by side

Many renewals of file records run at once, each in a task of its own, and their steps
interleave. A renewal first looks whether the store is shut down, and ends cancelled if it is.
Otherwise it takes the lock of its file: it counts itself in the file's slot of the lock registry
(making the slot, with a new lock, if the file is not busy), then asks the slot's lock, and
renews once the lock is granted. A renewal that notices the shutdown while it waits gives up
the lock, or its place in the queue, and ends cancelled. A renewal that ends gives up the lock
first and then uncounts itself; the last one to leave removes the slot, and a later renewal of
the file makes a new slot with a new lock.

The locks are fair: a free lock is taken at once, a busy one queues the asker, and giving up a
lock hands it straight to the oldest waiter, even before that one notices.

`Renewals` is the state of all of this: the origin, the shutdown flag, the registry's slots by
file, the locks by number, and the renewals by number. One `RenewEvent` is one step of one task
(a poll, the continuation of a poll, or the renewal itself), and `Renewals.step` says what it
does and what happened (`RenewNote`). A lock is asked in the same poll that counted the
renewal, with no look at the shutdown flag in between (`ask`), or at a later poll, after a look
at it (`poll`).
-/

namespace ChunkStore

/-- The registry's entry for a busy file: the number of its lock, and how many renewals hold or
wait for it. -/
structure LockSlot where
  lock : Nat
  refs : Nat
  deriving Repr, DecidableEq

/-- Where a renewal is. -/
inductive Stage where
  /-- Not yet polled. -/
  | fresh
  /-- Counted in its file's slot, whose lock it will ask. -/
  | counted (lock : Nat)
  /-- Queued for the lock, or granted it without having noticed. -/
  | waiting (lock : Nat)
  /-- Holding the lock, about to renew. -/
  | renewing (lock : Nat)
  /-- Renewed, still holding the lock. -/
  | renewed (lock : Nat) (result : Outcome Nat)
  /-- Without the lock, still counted in the slot. -/
  | leaving (result : Outcome Nat)
  | done (result : Outcome Nat)

/-- A renewal of the records of one file. -/
structure RenewCall where
  fileId : String
  nodes : Array Node
  stage : Stage

/-- Renewals in flight on one store. -/
structure Renewals (σ : Type) where
  origin : σ
  cancelled : Bool := false
  slots : String → Option LockSlot := fun _ => none
  locks : Nat → FairLock := fun _ => {}
  /-- How many locks have been made; the next one gets this number. -/
  made : Nat := 0
  calls : Nat → Option RenewCall := fun _ => none
  /-- How many renewals have started; the next one gets this number. -/
  started : Nat := 0

/-- One step of one task. -/
inductive RenewEvent where
  /-- A renewal of a file's records starts. -/
  | start (fileId : String) (nodes : Array Node)
  /-- A renewal is polled: it looks at the shutdown flag first. -/
  | poll (call : Nat)
  /-- A counted renewal asks its lock, in the poll that counted it. -/
  | ask (call : Nat)
  /-- A renewal holding its lock renews the records lapsed at wall-clock time `now`. -/
  | renew (call : Nat) (now : Int)
  /-- A renewed renewal gives up its lock. -/
  | release (call : Nat)
  /-- A renewal without the lock uncounts itself from its file's slot, and ends. -/
  | uncount (call : Nat)
  | shutdown

/-- What a step did. -/
inductive RenewNote where
  | started (call : Nat)
  | counted (call : Nat) (fileId : String) (lock : Nat)
  /-- A renewal asked its file's lock, and was granted it at once or queued. -/
  | asked (call : Nat) (fileId : String) (lock : Nat) (granted : Bool)
  /-- A waiting renewal noticed the lock is granted to it. -/
  | entered (call : Nat) (fileId : String) (lock : Nat)
  /-- A renewal renewed its file's records, listing the origin. -/
  | renewed (call : Nat) (fileId : String)
  | released (call : Nat)
  /-- A renewal noticed the shutdown before it held its lock, and ends cancelled. -/
  | cancelled (call : Nat)
  | finished (call : Nat)
  /-- Nothing happened: the renewal named is not there, or not at a point where the step
  applies, or still waits. -/
  | quiet
  deriving Repr, DecidableEq

namespace Renewals

variable {σ : Type}

/-- Move renewal `c` to stage `st`. -/
def setStage (s : Renewals σ) (c : Nat) (st : Stage) : Renewals σ :=
  { s with calls := Function.update s.calls c ((s.calls c).map ({ · with stage := st })) }

/-- Count one more renewal in the slot of `key`, making the slot with a new lock if the file is
not busy; the slot's lock. -/
def register (s : Renewals σ) (key : String) : Renewals σ × Nat :=
  match s.slots key with
  | some slot =>
    ({ s with slots := Function.update s.slots key (some { slot with refs := slot.refs + 1 }) },
      slot.lock)
  | none =>
    ({ s with slots := Function.update s.slots key (some ⟨s.made, 1⟩),
              locks := Function.update s.locks s.made {}, made := s.made + 1 }, s.made)

/-- Count one renewal less in the slot of `key`, removing the slot when nobody is left. -/
def unregister (s : Renewals σ) (key : String) : Renewals σ :=
  match s.slots key with
  | some slot =>
    let left := if slot.refs - 1 = 0 then none else some { slot with refs := slot.refs - 1 }
    { s with slots := Function.update s.slots key left }
  | none => s

/-- Renewal `c` gives up lock `l`, or its place in the lock's queue. -/
def leaveLock (s : Renewals σ) (c l : Nat) : Renewals σ :=
  { s with locks := Function.update s.locks l ((s.locks l).leave c) }

/-- Counted renewal `c` asks lock `l`, and holds it at once if it is free. -/
def askLock (s : Renewals σ) (c : Nat) (call : RenewCall) (l : Nat) : Renewals σ × RenewNote :=
  let free := (s.locks l).owner.isNone
  let s' := { s with locks := Function.update s.locks l ((s.locks l).ask c) }
  (s'.setStage c (if free then .renewing l else .waiting l), .asked c call.fileId l free)

/-- A poll of renewal `c`: the shutdown is noticed first, unless the renewal holds its lock. -/
def poll (s : Renewals σ) (c : Nat) (call : RenewCall) : Renewals σ × RenewNote :=
  match call.stage with
  | .fresh =>
    if s.cancelled then (s.setStage c (.done (.failed .cancelled)), .cancelled c)
    else
      let (s', l) := s.register call.fileId
      (s'.setStage c (.counted l), .counted c call.fileId l)
  | .counted l =>
    if s.cancelled then (s.setStage c (.leaving (.failed .cancelled)), .cancelled c)
    else s.askLock c call l
  | .waiting l =>
    if s.cancelled then
      ((s.leaveLock c l).setStage c (.leaving (.failed .cancelled)), .cancelled c)
    else if (s.locks l).owner = some c then (s.setStage c (.renewing l), .entered c call.fileId l)
    else (s, .quiet)
  | _ => (s, .quiet)

/-- Renewal `c` renews its records at time `now` through transport `t`. -/
def renew (t : Transport σ) (s : Renewals σ) (c : Nat) (call : RenewCall) (l : Nat) (now : Int) :
    Renewals σ × RenewNote :=
  let (out, nodes, origin) := refreshExpired t call.nodes now s.origin
  ({ s with origin,
             calls := Function.update s.calls c (some { call with nodes, stage := .renewed l out }) },
    .renewed c call.fileId)

/-- One step. -/
def step (t : Transport σ) (s : Renewals σ) : RenewEvent → Renewals σ × RenewNote
  | .start key nodes =>
    ({ s with calls := Function.update s.calls s.started (some ⟨key, nodes, .fresh⟩),
              started := s.started + 1 }, .started s.started)
  | .poll c =>
    match s.calls c with
    | some call => s.poll c call
    | none => (s, .quiet)
  | .ask c =>
    match s.calls c with
    | some call =>
      match call.stage with
      | .counted l => s.askLock c call l
      | _ => (s, .quiet)
    | none => (s, .quiet)
  | .renew c now =>
    match s.calls c with
    | some call =>
      match call.stage with
      | .renewing l => s.renew t c call l now
      | _ => (s, .quiet)
    | none => (s, .quiet)
  | .release c =>
    match s.calls c with
    | some call =>
      match call.stage with
      | .renewed l r => ((s.leaveLock c l).setStage c (.leaving r), .released c)
      | _ => (s, .quiet)
    | none => (s, .quiet)
  | .uncount c =>
    match s.calls c with
    | some call =>
      match call.stage with
      | .leaving r => ((s.unregister call.fileId).setStage c (.done r), .finished c)
      | _ => (s, .quiet)
    | none => (s, .quiet)
  | .shutdown => ({ s with cancelled := true }, .quiet)

/-- Steps in turn: the state they reach, and what each did. -/
def run (t : Transport σ) : Renewals σ → List RenewEvent → Renewals σ × List RenewNote
  | s, [] => (s, [])
  | s, e :: es => (((s.step t e).1.run t es).1, (s.step t e).2 :: ((s.step t e).1.run t es).2)

end Renewals

end ChunkStore
