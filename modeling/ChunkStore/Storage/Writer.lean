import ChunkStore.Storage.Transport
/-!
# Writing a file

Bytes written to a file are cut into chunks of the chunk size (at least one byte) and each
chunk is uploaded as it fills; closing uploads what is left. Every stored chunk is reported,
with its sequence number, to whoever assembles the file's records.

The sequential writer uploads each chunk before taking more bytes; a failed upload closes it.

The concurrent writer hands each full chunk to a background upload, at most `concurrency` at a
time. Which queued uploads run, when, and in what order, is the runtime's choice (a
`Scheduler`). On a runtime with worker threads, uploads run to the end while the writing task
runs on: before each look of the task at the results (`look`), and between two calls on the
writer (`Finishes`). The writing task also pauses, letting uploads run on its own thread: when
it waits for a free slot, when it waits for the uploads to finish on closing, and when it has
spent its turn's budget (`turnBudget` slots taken or results collected). The current-thread
runtime runs uploads only in pauses, at most `tasksPerPause` of them, oldest first. Finished
uploads are collected before and during each write; the first failure closes the writer and
cancels the uploads that have not run. Closing reports the first failure in the order the
results were collected. A panic inside an upload is re-raised when its result is collected.
-/

namespace ChunkStore

/-- A stored chunk and its place in the file. -/
structure ChunkUpload where
  sequence : Nat
  node : Node
  deriving Repr, DecidableEq

/-- Bytes waiting to fill the current chunk. -/
structure Accumulator where
  chunkSize : Nat
  buffer : ByteArray
  sequence : Nat
  written : Nat

namespace Accumulator

/-- An empty accumulator for chunks of `chunkSize` bytes (at least one). -/
def new (chunkSize : Nat) : Accumulator := ⟨max chunkSize 1, .empty, 0, 0⟩

/-- Take as many bytes as fit from `data` at `from`; how many were taken. -/
def fill (a : Accumulator) (data : ByteArray) (start : Nat) : Nat × Accumulator :=
  let take := min (a.chunkSize - a.buffer.size) (data.size - start)
  (take, { a with buffer := a.buffer ++ data.extract start (start + take),
                  written := a.written + take })

/-- Whether the current chunk is full. -/
def isFull (a : Accumulator) : Bool := a.buffer.size ≥ a.chunkSize

/-- Take the current chunk, if it holds anything, with its sequence number. -/
def take (a : Accumulator) : Option (Nat × ByteArray) × Accumulator :=
  if a.buffer.size = 0 then (none, a)
  else (some (a.sequence, a.buffer), { a with buffer := .empty, sequence := a.sequence + 1 })

end Accumulator

/-- How a writer operation ended. -/
abbrev WriteOutcome (α : Type) := Outcome α

/-! ## Sequential writer -/

/-- A writer that uploads each chunk as it fills. -/
structure SequentialWriter where
  chunks : Accumulator
  closed : Bool := false
  /-- Stored chunks reported so far, in order. -/
  sent : Array ChunkUpload := #[]

namespace SequentialWriter

/-- A writer for chunks of `chunkSize` bytes. -/
def new (chunkSize : Nat) : SequentialWriter := { chunks := Accumulator.new chunkSize }

/-- Upload the current chunk, if any. -/
def flush (t : Transport σ) (w : SequentialWriter) (s : σ) : Outcome Unit × SequentialWriter × σ :=
  match w.chunks.take with
  | (none, _) => (.ok (), w, s)
  | (some (sequence, data), chunks) =>
    let w := { w with chunks }
    match t.upload data s with
    | (.ok node, s) => (.ok (), { w with sent := w.sent.push ⟨sequence, node⟩ }, s)
    | (.failed e, s) => (.failed e, { w with closed := true }, s)
    | (.panicked m, s) => (.panicked m, w, s)

/-- Fill and flush from `data` at `start` until it is used up (`fuel` bounds the chunks). -/
def pump (t : Transport σ) (data : ByteArray) :
    Nat → Nat → SequentialWriter → σ → Outcome Unit × SequentialWriter × σ
  | 0, _, w, s => (.ok (), w, s)
  | fuel + 1, start, w, s =>
    if start ≥ data.size then (.ok (), w, s)
    else
      let (taken, chunks) := w.chunks.fill data start
      let w := { w with chunks }
      if chunks.isFull then
        match flush t w s with
        | (.ok (), w, s) => pump t data fuel (start + taken) w s
        | other => other
      else pump t data fuel (start + taken) w s

/-- Write bytes: all of them are taken, or the upload that failed is reported. -/
def write (t : Transport σ) (w : SequentialWriter) (data : ByteArray) (s : σ) :
    Outcome Nat × SequentialWriter × σ :=
  if w.closed then (.failed .closed, w, s)
  else
    match pump t data (data.size + 1) 0 w s with
    | (.ok (), w, s) => (.ok data.size, w, s)
    | (.failed e, w, s) => (.failed e, w, s)
    | (.panicked m, w, s) => (.panicked m, w, s)

/-- Upload what is left and close. -/
def close (t : Transport σ) (w : SequentialWriter) (s : σ) : Outcome Unit × SequentialWriter × σ :=
  if w.closed then (.failed .alreadyClosed, w, s)
  else
    let (out, w, s) := flush t w s
    (out, { w with closed := true }, s)

end SequentialWriter

/-! ## Concurrent writer -/

/-- The budget a task gets each time the scheduler runs it: every upload slot it takes and
every upload result it collects spends one unit, and with none left it must pause. -/
def turnBudget : Nat := 128

/-- How many background uploads the scheduler runs, oldest first, while the writing task
pauses, before it runs that task again. -/
def tasksPerPause : Nat := 61

/-- An upload handed to the background and not yet run. -/
structure QueuedUpload where
  sequence : Nat
  data : ByteArray

/-- How the runtime runs background uploads: some of the queued uploads run, in an order of its
choosing, and the rest stay queued. A pause in which the task waits for an upload to finish (for
a free slot, or for a result on closing) runs at least one. -/
structure Scheduler where
  /-- Given whether the task waits, the uploads that run while it pauses, in the order they
  run, and those left queued. -/
  pick : Bool → List QueuedUpload → List QueuedUpload × List QueuedUpload
  pick_perm : ∀ waits queue, ((pick waits queue).1 ++ (pick waits queue).2).Perm queue
  pick_progress : ∀ queue, queue ≠ [] → (pick true queue).1 ≠ []
  /-- The uploads that other threads run to the end while the task runs on, before its `n`-th
  look at the results, in the order they finish, and those left queued. -/
  finish : Nat → List QueuedUpload → List QueuedUpload × List QueuedUpload
  finish_perm : ∀ n queue, ((finish n queue).1 ++ (finish n queue).2).Perm queue

/-- The current-thread runtime: uploads run only while the task pauses, at most `tasksPerPause`
of them, oldest first. -/
def Scheduler.currentThread : Scheduler where
  pick _ queue := (queue.take tasksPerPause, queue.drop tasksPerPause)
  pick_perm _ queue := by rw [List.take_append_drop]
  pick_progress queue h := by simpa [tasksPerPause] using h
  finish _ queue := ([], queue)
  finish_perm _ queue := by rw [List.nil_append]

/-- The result of a background upload not yet collected. -/
inductive Finished where
  | stored
  | failed (e : StorageError)
  | panicked (message : String)
  | cancelled

/-- A writer that uploads chunks in the background. -/
structure ParallelWriter where
  chunks : Accumulator
  /-- How many uploads may be in flight. -/
  slots : Nat
  /-- What is left of the writing task's budget in its current turn. -/
  budget : Nat
  /-- Uploads handed to the background and not yet run, oldest first; each holds a slot. -/
  queued : Array QueuedUpload := #[]
  /-- Results of uploads that ran and were not yet collected, in the order they finished. -/
  finished : Array Finished := #[]
  closed : Bool := false
  sent : Array ChunkUpload := #[]
  /-- The runtime's choice of which uploads run, and when. -/
  scheduler : Scheduler := .currentThread
  /-- How many times the task has looked at the results. -/
  looks : Nat := 0

namespace ParallelWriter

/-- A writer for chunks of `chunkSize` bytes with `concurrency` upload slots (at least one),
driven by a task with `budget` left in its turn. -/
def new (chunkSize concurrency budget : Nat) : ParallelWriter :=
  { chunks := Accumulator.new chunkSize, slots := max concurrency 1, budget }

/-- Run one background upload. -/
def runUpload (t : Transport σ) (acc : ParallelWriter × σ) (u : QueuedUpload) :
    ParallelWriter × σ :=
  let (w, s) := acc
  match t.upload u.data s with
  | (.ok node, s) =>
    ({ w with finished := w.finished.push .stored, sent := w.sent.push ⟨u.sequence, node⟩ }, s)
  | (.failed e, s) => ({ w with finished := w.finished.push (.failed e) }, s)
  | (.panicked m, s) => ({ w with finished := w.finished.push (.panicked m) }, s)

/-- Run the queued uploads a choice of the runtime picks, in its order, and keep the rest
queued. -/
def runPicked (t : Transport σ) (pick : List QueuedUpload → List QueuedUpload × List QueuedUpload)
    (w : ParallelWriter) (s : σ) : ParallelWriter × σ :=
  let (now, later) := pick w.queued.toList
  now.foldl (runUpload t) ({ w with queued := later.toArray }, s)

/-- Pause the writing task (`waits` when it waits for an upload to finish): the uploads the
scheduler picks run, and the task comes back with a fresh budget. -/
def pause (t : Transport σ) (waits : Bool) (w : ParallelWriter) (s : σ) : ParallelWriter × σ :=
  let (w, s) := runPicked t (w.scheduler.pick waits) w s
  ({ w with budget := turnBudget }, s)

/-- The task looks at the results: the uploads that other threads finished meanwhile have run. -/
def look (t : Transport σ) (w : ParallelWriter) (s : σ) : ParallelWriter × σ :=
  let (w, s) := runPicked t (w.scheduler.finish w.looks) w s
  ({ w with looks := w.looks + 1 }, s)

/-- Between two calls, one queued upload, any of them, runs to the end on another thread. -/
inductive Finishes (t : Transport σ) : ParallelWriter × σ → ParallelWriter × σ → Prop
  | run (w : ParallelWriter) (s : σ) (i : Nat) (hi : i < w.queued.size) :
      Finishes t (w, s) (runUpload t ({ w with queued := w.queued.eraseIdx i }, s) w.queued[i])

/-- Close after a failure: queued uploads are cancelled without running. -/
def fail (w : ParallelWriter) : ParallelWriter :=
  { w with closed := true, queued := #[],
           finished := w.finished ++ w.queued.map fun _ => .cancelled }

/-- Take an upload slot, pausing first when the budget is spent and when every slot is held
by a queued upload (a pause runs at least one, which frees its slot). -/
def takeSlot (t : Transport σ) (w : ParallelWriter) (s : σ) : ParallelWriter × σ :=
  let (w, s) := if w.budget = 0 then pause t false w s else (w, s)
  let (w, s) := if w.queued.size ≥ w.slots then pause t true w s else (w, s)
  ({ w with budget := w.budget - 1 }, s)

/-- Hand the current chunk to the background once a slot is free. -/
def dispatch (t : Transport σ) (w : ParallelWriter) (s : σ) : ParallelWriter × σ :=
  match w.chunks.take with
  | (none, _) => (w, s)
  | (some (sequence, data), chunks) =>
    let (w, s) := takeSlot t { w with chunks } s
    ({ w with queued := w.queued.push ⟨sequence, data⟩ }, s)

/-- Collect finished uploads, which costs no budget; the first failure closes the writer. -/
def reap (w : ParallelWriter) : Outcome Unit × ParallelWriter :=
  let rec go : List Finished → ParallelWriter → Outcome Unit × ParallelWriter
    | [], w => (.ok (), { w with finished := #[] })
    | .stored :: rest, w => go rest w
    | .failed e :: rest, w => (.failed e, fail { w with finished := rest.toArray })
    | .cancelled :: rest, w => (.failed .cancelled, fail { w with finished := rest.toArray })
    | .panicked m :: rest, w => (.panicked m, { w with finished := rest.toArray })
  go w.finished.toList w

/-- Fill, dispatch and collect from `data` at `start` (`fuel` bounds the chunks). -/
def pump (t : Transport σ) (data : ByteArray) :
    Nat → Nat → ParallelWriter → σ → Outcome Unit × ParallelWriter × σ
  | 0, _, w, s => (.ok (), w, s)
  | fuel + 1, start, w, s =>
    if start ≥ data.size then (.ok (), w, s)
    else
      let (taken, chunks) := w.chunks.fill data start
      let w := { w with chunks }
      if chunks.isFull then
        let (w, s) := dispatch t w s
        let (w, s) := look t w s
        match reap w with
        | (.ok (), w) => pump t data fuel (start + taken) w s
        | (out, w) => (out, w, s)
      else pump t data fuel (start + taken) w s

/-- Write bytes. -/
def write (t : Transport σ) (w : ParallelWriter) (data : ByteArray) (s : σ) :
    Outcome Nat × ParallelWriter × σ :=
  if w.closed then (.failed .closed, w, s)
  else
    let (w, s) := look t w s
    match reap w with
    | (.failed e, w) => (.failed e, w, s)
    | (.panicked m, w) => (.panicked m, w, s)
    | (.ok (), w) =>
      match pump t data (data.size + 1) 0 w s with
      | (.ok (), w, s) => (.ok data.size, w, s)
      | (.failed e, w, s) => (.failed e, w, s)
      | (.panicked m, w, s) => (.panicked m, w, s)

/-- Wait for every upload, collecting results in the order they finished and keeping the first
failure; a panic is re-raised at once. Each step looks at the results first. Collecting a result
spends budget. A result met with the budget spent is put back behind those that finish during
the pause that follows. When no result is ready the task pauses for the queued uploads. (`fuel`
bounds the steps.) -/
def joinAll (t : Transport σ) (first : Option StorageError) :
    Nat → ParallelWriter → σ → Outcome Unit × ParallelWriter × σ
  | 0, w, s => (match first with | some e => .failed e | none => .ok (), w, s)
  | fuel + 1, w, s =>
    let (w, s) := look t w s
    match w.finished.toList with
    | r :: rest =>
      if w.budget = 0 then
        let (w, s) := pause t false { w with finished := rest.toArray } s
        joinAll t first fuel { w with finished := w.finished.push r } s
      else
        let w := { w with finished := rest.toArray, budget := w.budget - 1 }
        match r with
        | .stored => joinAll t first fuel w s
        | .failed e => joinAll t (first <|> some e) fuel w s
        | .cancelled => joinAll t (first <|> some .cancelled) fuel w s
        | .panicked m => (.panicked m, w, s)
    | [] =>
      if w.queued.isEmpty then (match first with | some e => .failed e | none => .ok (), w, s)
      else
        let (w, s) := pause t true w s
        joinAll t first fuel w s

/-- Upload what is left, wait for every upload, and close. -/
def close (t : Transport σ) (w : ParallelWriter) (s : σ) : Outcome Unit × ParallelWriter × σ :=
  if w.closed then (.failed .alreadyClosed, w, s)
  else
    let (w, s) := dispatch t { w with closed := true } s
    joinAll t none (3 * (w.finished.size + w.queued.size) + 3) w s

end ParallelWriter

/-! ## Either writer -/

/-- A writer of either kind. -/
inductive ChunkWriter where
  | sequential (w : SequentialWriter)
  | parallel (w : ParallelWriter)

namespace ChunkWriter

/-- Write bytes. -/
def write (t : Transport σ) (w : ChunkWriter) (data : ByteArray) (s : σ) :
    Outcome Nat × ChunkWriter × σ :=
  match w with
  | .sequential w => let (o, w, s) := w.write t data s; (o, .sequential w, s)
  | .parallel w => let (o, w, s) := w.write t data s; (o, .parallel w, s)

/-- Close the writer. -/
def close (t : Transport σ) (w : ChunkWriter) (s : σ) : Outcome Unit × ChunkWriter × σ :=
  match w with
  | .sequential w => let (o, w, s) := w.close t s; (o, .sequential w, s)
  | .parallel w => let (o, w, s) := w.close t s; (o, .parallel w, s)

/-- How many bytes the writer has taken. -/
def bytesWritten : ChunkWriter → Nat
  | .sequential w => w.chunks.written
  | .parallel w => w.chunks.written

/-- The stored chunks reported so far. -/
def sent : ChunkWriter → Array ChunkUpload
  | .sequential w => w.sent
  | .parallel w => w.sent

/-- The size of the pieces `copyFrom` reads. -/
def copyBufferSize : Nat := 64 * 1024

/-- Copy all of `data` into the writer in pieces of `copyBufferSize` bytes; how many bytes were
copied (`fuel` bounds the pieces). -/
def copyFrom (t : Transport σ) (data : ByteArray) :
    Nat → Nat → ChunkWriter → σ → Outcome Nat × ChunkWriter × σ
  | 0, start, w, s => (.ok start, w, s)
  | fuel + 1, start, w, s =>
    if start ≥ data.size then (.ok start, w, s)
    else
      let piece := data.extract start (start + copyBufferSize)
      match w.write t piece s with
      | (.ok _, w, s) => copyFrom t data fuel (start + piece.size) w s
      | (.failed e, w, s) => (.failed e, w, s)
      | (.panicked m, w, s) => (.panicked m, w, s)

end ChunkWriter

end ChunkStore
