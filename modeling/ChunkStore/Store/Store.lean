import ChunkStore.Store.Options
import ChunkStore.Storage.Reader
import ChunkStore.Storage.Writer
import ChunkStore.Storage.Refresh
import ChunkStore.Storage.Locks
/-!
# The store

A store ties an origin to its settings: it hands out writers (concurrent or sequential, as
configured) and readers over a file's records, and renews a file's lapsed signatures while
holding that file's lock. Shutting the store down cancels renewals that have not started.
-/

namespace ChunkStore

/-- A store over an origin reached through state `σ`. -/
structure Store (σ : Type) where
  origin : σ
  options : StoreOptions
  locks : LockTable := {}
  cancelled : Bool := false
  /-- What is left of the turn's budget of the task using the store (see `turnBudget`). -/
  budget : Nat := turnBudget
  /-- The runtime's choice of which background uploads run while the task pauses. -/
  scheduler : Scheduler := .currentThread

namespace Store

/-- A store over `origin`, if the settings' chunk size is in range. -/
def withTransport (origin : σ) (options : StoreOptions) : Except StorageError (Store σ) := do
  let options ← options.check
  pure { origin, options }

/-- A writer for a new file. -/
def writer (s : Store σ) : ChunkWriter :=
  if s.options.asyncWrite then
    .parallel { ParallelWriter.new s.options.chunkSize s.options.uploadConcurrency s.budget with
      scheduler := s.scheduler }
  else .sequential (SequentialWriter.new s.options.chunkSize)

/-- The store once a writer it handed out is done: the task keeps what the writer left of its
budget. -/
def afterWriting (s : Store σ) (w : ChunkWriter) : Store σ :=
  match w with
  | .parallel w => { s with budget := w.budget }
  | .sequential _ => s

/-- A reader over a file's records, starting at `start`. -/
def newReader (_s : Store σ) (nodes : List Node) (start : Nat) : Except StorageError ChunkReader :=
  ChunkReader.new nodes start

/-- Renew the lapsed records of file `fileId` at wall-clock time `now`, under the file's lock.
Taking the lock spends a unit of the task's budget, after a pause if none is left. -/
def updateNodes (t : Transport σ) (s : Store σ) (fileId : String) (nodes : Array Node)
    (now : Int) : Outcome Nat × Array Node × Store σ :=
  if s.cancelled then (.failed .cancelled, nodes, s)
  else
    let handle := 0
    let locks := s.locks.lock fileId handle
    let budget := (if s.budget = 0 then turnBudget else s.budget) - 1
    let (out, nodes, origin) := refreshExpired t nodes now s.origin
    (out, nodes, { s with origin, budget, locks := locks.release fileId handle })

/-- Stop the store: renewals that have not started are cancelled. -/
def shutdown (s : Store σ) : Store σ := { s with cancelled := true }

end Store

end ChunkStore
