import ChunkStore.Storage.Writer
/-!
# Manifests

A manifest names a stored file and lists its chunk records in order, with the file's size. It
is built from the stored chunks reported by a writer, which must be numbered `0, 1, …` without
gaps or repeats once sorted; the size is the sum of the chunk sizes taken modulo `2^64`.

A manifest is saved as pretty JSON (`name`, `size`, `nodes`). Loading one checks that the text
decodes and that the declared size matches the chunks.
-/

namespace ChunkStore

/-- A stored file: its name, size and chunk records. -/
structure Manifest where
  name : String
  size : Nat
  nodes : List Node
  deriving Repr, DecidableEq

/-- Why a manifest could not be built or loaded. -/
inductive ManifestError where
  /-- A sequence number is missing (or repeated) in the uploads. -/
  | missingChunk (expected : Nat)
  /-- The text at `path` is not a manifest. -/
  | unreadable (path detail : String)
  /-- The manifest at `path` declares a size its chunks do not hold. -/
  | sizeMismatch (path : String) (declared total : Nat)
  deriving Repr, DecidableEq

/-- The text of a manifest error. -/
def ManifestError.message : ManifestError → String
  | .missingChunk expected => s!"chunk {expected} is missing from the upload"
  | .unreadable path detail => s!"failed to parse manifest {path}: " ++ detail
  | .sizeMismatch path declared total =>
    s!"manifest {path} declares {declared} bytes but its chunks hold {total}"

/-- The total size of chunks, modulo `2^64`. -/
def chunkTotal (nodes : List Node) : Nat := nodes.foldl (fun acc n => (acc + n.size) % Nat.pow 2 64) 0

/-- Check that sorted sequence numbers run `start, start + 1, …`. -/
def checkSequence : Nat → List ChunkUpload → Except ManifestError Unit
  | _, [] => .ok ()
  | expected, u :: rest =>
    if u.sequence = expected then checkSequence (expected + 1) rest
    else .error (.missingChunk expected)

namespace Manifest

/-- The manifest of a file from its stored chunks, in any order. -/
def fromUploads (name : String) (uploads : List ChunkUpload) : Except ManifestError Manifest := do
  let sorted := uploads.mergeSort fun a b => a.sequence ≤ b.sequence
  checkSequence 0 sorted
  let nodes := sorted.map (·.node)
  pure { name, size := chunkTotal nodes, nodes }

/-- The manifest as JSON. -/
def toJson (m : Manifest) : Json :=
  .obj [("name", .str m.name), ("size", Json.nat m.size), ("nodes", .arr (m.nodes.map Node.toJson))]

/-- The saved text of a manifest, written by the library `J`. -/
def saveText (J : JsonCodec) (m : Manifest) : String := J.pretty m.toJson

end Manifest

/-- A manifest being decoded. -/
structure ManifestDraft where
  name : Option String := none
  size : Option Nat := none
  nodes : Option (List Node) := none

namespace Json.Decode

variable (J : JsonCodec)

/-- The fields of a manifest, all required. -/
def manifestFields : List (Field ManifestDraft) :=
  [ ⟨"name", true, (·.name.isSome), fun _ s => do pure { s with name := some (← J.text) }⟩,
    ⟨"size", true, (·.size.isSome), fun _ s => do pure { s with size := some (← J.u64) }⟩,
    ⟨"nodes", true, (·.nodes.isSome), fun b s => do
      pure { s with nodes := some (← J.seq (nodeWith J) b) }⟩ ]

/-- A manifest, read through the library `J`. -/
def manifestWith (budget : Nat) : Decode Manifest := do
  let d ← J.struct "Manifest" (manifestFields J) {} budget
  pure { name := d.name.getD "", size := d.size.getD 0, nodes := d.nodes.getD [] }

/-- A manifest, read through the library the program runs with. -/
def manifest (budget : Nat) : Decode Manifest := manifestWith Json.library budget

end Json.Decode

/-- Load a manifest from the text of the file at `path`, read through the library `J`. -/
def Manifest.loadWith (J : JsonCodec) (path text : String) : Except ManifestError Manifest := do
  let m ← match J.run (Json.Decode.manifestWith J) text with
    | .ok m => pure m
    | .error e => throw (.unreadable path e.message)
  let total := chunkTotal m.nodes
  if total != m.size then throw (.sizeMismatch path m.size total)
  pure m

/-- Load a manifest from the text of the file at `path`. -/
def Manifest.load (path text : String) : Except ManifestError Manifest :=
  Manifest.loadWith Json.library path text

end ChunkStore
