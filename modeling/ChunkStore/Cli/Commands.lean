import ChunkStore.Cli.Args
import ChunkStore.Store.Store
import ChunkStore.Manifest
import ChunkStore.Text.Utf8
/-!
# Running a command

Each command is a pure function of the store, the files it may read and the wall clock; it
gives the files it writes (in order), what it prints, and how it stopped. Files are read up
front, so a missing file here is a file that did not exist when the command started.

* `put` copies a file into a writer in 64 KiB pieces, closes it, assembles the manifest from
  the uploads and writes it, after checking that the manifest accounts for every byte read.
* `refresh` renews the lapsed signatures of a manifest's chunks, under the store's lock for
  the manifest's path, and rewrites the manifest when any record changed.
* `get` refreshes, then streams the file from `offset` to standard output or to a file.

A failure carries its chain of messages, outermost context first: `brief` joins them with
`": "`, and `report` lists the causes below the first message.
-/

namespace ChunkStore.Cli

/-- The files a command may read: path and contents. -/
abbrev Files := List (String × ByteArray)

/-- How a command stopped early. -/
inductive Stop where
  /-- An error and its causes, outermost context first. -/
  | failed (chain : List String)
  /-- A panic with its message. -/
  | panicked (message : String)
  deriving Repr, DecidableEq

/-- The messages of a chain joined as one line. -/
def brief (chain : List String) : String := ": ".intercalate chain

/-- A chain as an error report: the first message, then its causes, numbered when there are
several. -/
def report : List String → String
  | [] => ""
  | [only] => only
  | first :: [cause] => first ++ "\n\nCaused by:\n    " ++ cause
  | first :: causes =>
    first ++ "\n\nCaused by:" ++
      String.join ((List.range causes.length).zip causes |>.map fun (i, c) =>
        "\n" ++ (if i < 10 then "    " else "   ") ++ toString i ++ ": " ++ c)

/-- What a command did: the files it wrote, in order, what it printed, and how it stopped
(`none` when it finished). -/
structure Effects where
  writes : List (String × ByteArray) := []
  stdout : ByteArray := .empty
  stop : Option Stop := none

/-- The causes below a storage error's own message. -/
def StorageError.causes : StorageError → List String
  | .refresh _ source => source.message :: StorageError.causes source
  | .io e => [e.message]
  | .decode detail => [detail]
  | .http detail => [detail]
  | _ => []

/-- A storage error under a context. -/
def storageChain (context : String) (e : StorageError) : List String :=
  context :: e.message :: StorageError.causes e

/-- The message of a file that does not exist. -/
def notFound : String := "No such file or directory (os error 2)"

/-- The last name of a path: none for a path that ends in `..` or names no file. -/
def fileName (path : String) : Option String :=
  match ((path.splitOn "/").filter fun p => !p.isEmpty && p != ".").getLast? with
  | some ".." | none => none
  | some n => some n

/-- The contents of a file, if it exists. -/
def Files.get? (files : Files) (path : String) : Option ByteArray :=
  (files.find? (·.1 == path)).map (·.2)

/-- The stream a command prints, as bytes. -/
def textBytes (s : String) : ByteArray := s.toUTF8

/-- A manifest as the bytes of its file, written by the JSON library `J`. -/
def manifestBytes (J : JsonCodec) (m : Manifest) : ByteArray := (m.saveText J).toUTF8

/-- The chain of a manifest error. -/
def manifestChain : ManifestError → List String
  | .unreadable path detail => ["failed to parse manifest " ++ path, detail]
  | e => [e.message]

/-- Read a manifest file through the JSON library `J`. -/
def readManifest (J : JsonCodec) (files : Files) (path : String) : Except Stop Manifest :=
  match files.get? path with
  | none => .error (.failed ["failed to read manifest " ++ path, notFound])
  | some bytes =>
    match Manifest.loadWith J path (Text.decodeLossy bytes) with
    | .ok m => .ok m
    | .error e => .error (.failed (manifestChain e))

/-- The end of a renewal: the manifest with its records, how many were rewritten, and the
manifest's new file when anything changed. -/
structure Refreshed (σ : Type) where
  manifest : Manifest
  rewritten : Nat
  writes : List (String × ByteArray)
  store : Store σ

/-- Renew a manifest's lapsed records at wall-clock time `now`. -/
def refreshManifest (J : JsonCodec) (t : Transport σ) (store : Store σ) (files : Files)
    (path : String) (now : Int) : Except Stop (Refreshed σ) := do
  let m ← readManifest J files path
  match store.updateNodes t path m.nodes.toArray now with
  | (.failed e, _, _) => throw (.failed (storageChain "failed to refresh expired chunks" e))
  | (.panicked msg, _, _) => throw (.panicked msg)
  | (.ok rewritten, nodes, store) =>
    let m := { m with nodes := nodes.toList }
    let writes := if rewritten > 0 then [(path, manifestBytes J m)] else []
    pure ⟨m, rewritten, writes, store⟩

/-- Effects of a command that stopped before writing anything. -/
def stopped (s : Stop) : Effects := { stop := some s }

/-- Upload `file` and write its manifest to `manifestPath`. -/
def put (J : JsonCodec) (t : Transport σ) (store : Store σ) (files : Files)
    (file manifestPath : String) (name : Option String) : Effects :=
  match name <|> fileName file with
  | none => stopped (.failed [file ++ " has no file name"])
  | some name =>
    match files.get? file with
    | none => stopped (.failed ["failed to open " ++ file, notFound])
    | some data =>
      let w := store.writer
      match ChunkWriter.copyFrom t data (data.size / ChunkWriter.copyBufferSize + 2) 0 w store.origin with
      | (.failed e, _, _) => stopped (.failed (storageChain "upload failed" e))
      | (.panicked m, _, _) => stopped (.panicked m)
      | (.ok copied, w, origin) =>
        match w.close t origin with
        | (.failed e, _, _) => stopped (.failed (storageChain "upload failed" e))
        | (.panicked m, _, _) => stopped (.panicked m)
        | (.ok (), w, _) =>
          match Manifest.fromUploads name w.sent.toList with
          | .error e => stopped (.failed (manifestChain e))
          | .ok m =>
            if m.size ≠ copied then
              stopped (.failed [s!"uploaded {m.size} bytes but read {copied} from {file}"])
            else { writes := [(manifestPath, manifestBytes J m)] }

/-- Renew a manifest and report how many of its chunks were rewritten. -/
def refresh (J : JsonCodec) (t : Transport σ) (store : Store σ) (files : Files)
    (manifestPath : String) (now : Int) : Effects :=
  match refreshManifest J t store files manifestPath now with
  | .error s => stopped s
  | .ok r =>
    { writes := r.writes,
      stdout := textBytes s!"refreshed {r.rewritten} of {r.manifest.nodes.length} chunks\n" }

/-- The size of the pieces a download reads. -/
def downloadBufferSize : Nat := 8 * 1024

/-- Read to the end of the file: the bytes read and the failure that stopped it, if any
(`fuel` bounds the reads; each read that is not the last gives at least one byte). -/
def readToEnd (t : Transport σ) : Nat → ChunkReader → σ → ByteArray →
    ByteArray × Option IoError × ChunkReader × σ
  | 0, r, s, acc => (acc, none, r, s)
  | fuel + 1, r, s, acc =>
    match r.read t downloadBufferSize s with
    | (.error e, r, s) => (acc, some e, r, s)
    | (.ok bytes, r, s) =>
      if bytes.size = 0 then (acc, none, r, s) else readToEnd t fuel r s (acc ++ bytes)

/-- Download the file of a manifest from `offset`, to `output` or to standard output. -/
def get (J : JsonCodec) (t : Transport σ) (store : Store σ) (files : Files)
    (manifestPath : String) (offset : Nat) (output : Option String) (now : Int) : Effects :=
  match refreshManifest J t store files manifestPath now with
  | .error s => stopped s
  | .ok r =>
    match r.store.newReader r.manifest.nodes offset with
    | .error e =>
      { writes := r.writes,
        stop := some (.failed (storageChain
          s!"cannot read {r.manifest.name} from offset {offset}" e)) }
    | .ok reader =>
      let (bytes, failure, reader, _) :=
        readToEnd t (reader.size + 2) reader r.store.origin .empty
      let (writes, stdout) := match output with
        | some path => (r.writes ++ [(path, bytes)], ByteArray.empty)
        | none => (r.writes, bytes)
      let stop := match failure with
        | some e => some (.failed [e.message])
        | none =>
          match reader.close with
          | .ok _ => none
          | .error e => some (.failed (storageChain "failed to close reader" e))
      { writes, stdout, stop }

/-- Run a command at wall-clock time `now` (in seconds), with manifests written and read by the
JSON library `J`. -/
def runCommand (J : JsonCodec) (t : Transport σ) (store : Store σ) (files : Files) (now : Int) :
    Command → Effects
  | .put file manifest name => put J t store files file manifest name
  | .get manifest offset output => get J t store files manifest offset output now
  | .refresh manifest => refresh J t store files manifest now

/-- The files a command may read. -/
def Command.reads : Command → List String
  | .put file _ _ => [file]
  | .get manifest _ _ => [manifest]
  | .refresh manifest => [manifest]

/-- The message of requests that cannot reach the network. -/
def unreachable : StorageError := .http "error sending request"

/-- An origin that cannot be reached: every request fails as a request that was never sent. -/
def offline : Transport Unit where
  name := "rest"
  upload _ s := (.failed unreachable, s)
  rangeFetch _ _ _ s := (.error unreachable, s)
  listMessages _ _ _ s := (.error unreachable, s)

end ChunkStore.Cli
