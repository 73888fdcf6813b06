/-!
# Per-file locks

Work on one file (renewing its signatures) is serialized by a lock per file key. The table keeps
an entry per key in use: a fair lock and the number of handles that hold or wait for it.

Taking the lock of a key is two steps, between which other callers' steps may run: the handle
counts itself in the key's entry, making the entry with a free lock if the key is not in use
(`count`), then asks the entry's lock (`ask`). A free lock is taken at once, a busy one queues
the asker. Letting go is two steps too: the handle gives up the lock, or its place in the queue
(`leave`), and then uncounts itself (`uncount`); the last one to go removes the entry. Giving up
a lock hands it straight to the oldest queued handle, so a later request waits behind it even
before that one notices. `lock` and `release` are the two steps of each, run back to back.

Requests are named by handles (natural numbers) chosen by the caller.
-/

namespace ChunkStore

/-- A fair lock. -/
structure FairLock where
  /-- The handle the lock is granted to, noticed or not. -/
  owner : Option Nat := none
  /-- Handles waiting for the lock, oldest first. -/
  queue : List Nat := []
  deriving Repr, DecidableEq

namespace FairLock

/-- Handle `c` asks the lock: granted at once if it is free, else queued. -/
def ask (l : FairLock) (c : Nat) : FairLock :=
  match l.owner with
  | none => { l with owner := some c }
  | some _ => { l with queue := l.queue ++ [c] }

/-- Handle `c` gives up the lock or its place in the queue; a lock granted to it passes to the
oldest waiter. -/
def leave (l : FairLock) (c : Nat) : FairLock :=
  if l.owner = some c then
    match l.queue with
    | next :: rest => { owner := some next, queue := rest }
    | [] => { owner := none, queue := [] }
  else { l with queue := l.queue.filter (· != c) }

end FairLock

/-- The entry of one key. -/
structure KeyLock where
  lock : FairLock
  /-- How many handles hold or wait for the lock. -/
  refs : Nat
  deriving Repr, DecidableEq

/-- The locks of all keys in use. -/
structure LockTable where
  slots : List (String × KeyLock) := []
  deriving Repr, DecidableEq

namespace LockTable

/-- The number of keys in use. -/
def len (t : LockTable) : Nat := t.slots.length

/-- The entry of a key. -/
def slot? (t : LockTable) (key : String) : Option KeyLock := (t.slots.find? (·.1 == key)).map (·.2)

/-- Replace the entry of a key, forgetting the key when nobody uses it. -/
def setSlot (t : LockTable) (key : String) (s : KeyLock) : LockTable :=
  let others := t.slots.filter (·.1 != key)
  if s.refs == 0 then { slots := others }
  else if t.slots.any (·.1 == key) then
    { slots := t.slots.map fun (k, old) => (k, if k == key then s else old) }
  else { slots := t.slots ++ [(key, s)] }

/-- Count one more handle in the entry of `key`, making the entry with a free lock if the key is
not in use. -/
def count (t : LockTable) (key : String) : LockTable :=
  let s := (t.slot? key).getD ⟨{}, 0⟩
  t.setSlot key { s with refs := s.refs + 1 }

/-- Handle `h`, counted in the entry of `key`, asks its lock. -/
def ask (t : LockTable) (key : String) (h : Nat) : LockTable :=
  match t.slot? key with
  | none => t
  | some s => t.setSlot key { s with lock := s.lock.ask h }

/-- Handle `h` gives up the lock of `key` or its place in the queue. -/
def leave (t : LockTable) (key : String) (h : Nat) : LockTable :=
  match t.slot? key with
  | none => t
  | some s => t.setSlot key { s with lock := s.lock.leave h }

/-- A handle uncounts itself from the entry of `key`; the last one removes the entry. -/
def uncount (t : LockTable) (key : String) : LockTable :=
  match t.slot? key with
  | none => t
  | some s => t.setSlot key { s with refs := s.refs - 1 }

/-- Request the lock of `key` for handle `h`: count it, then ask. -/
def lock (t : LockTable) (key : String) (h : Nat) : LockTable := (t.count key).ask key h

/-- Whether handle `h` has been granted the lock of `key`. -/
def isHeld (t : LockTable) (key : String) (h : Nat) : Bool :=
  match t.slot? key with
  | some s => s.lock.owner == some h
  | none => false

/-- Handle `h` lets go of the lock of `key`: it gives up the lock or its place in the queue, then
uncounts itself. -/
def release (t : LockTable) (key : String) (h : Nat) : LockTable := (t.leave key h).uncount key

end LockTable

end ChunkStore
