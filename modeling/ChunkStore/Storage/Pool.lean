import ChunkStore.Storage.Error
/-!
# Round-robin pools

A pool is a non-empty list with a cursor. `next` hands out the item under the cursor and moves
the cursor on, wrapping at the end, so `n` successive picks over `n` items visit each once.
-/

namespace ChunkStore

/-- A non-empty list handed out in rotation. -/
structure RoundRobin (α : Type) where
  items : List α
  cursor : Nat
  nonempty : 0 < items.length

namespace RoundRobin

/-- A pool over `items`; `kind` names the pool in the error for an empty list. -/
def new (kind : String) (items : List α) : Except StorageError (RoundRobin α) :=
  if h : 0 < items.length then .ok { items, cursor := 0, nonempty := h }
  else .error (.config (kind ++ " pool is empty"))

/-- The item under the cursor. -/
def current (p : RoundRobin α) : α :=
  p.items.get ⟨p.cursor % p.items.length, Nat.mod_lt _ p.nonempty⟩

/-- The pool with its cursor moved to the next item. -/
def advance (p : RoundRobin α) : RoundRobin α :=
  { p with cursor := (p.cursor + 1) % p.items.length }

/-- Hand out the current item and move on. -/
def next (p : RoundRobin α) : α × RoundRobin α := (p.current, p.advance)

/-- The first `n` picks, in order, and the pool after them. -/
def take (p : RoundRobin α) : Nat → List α × RoundRobin α
  | 0 => ([], p)
  | n + 1 =>
    let (rest, q) := p.advance.take n
    (p.current :: rest, q)

end RoundRobin

end ChunkStore
