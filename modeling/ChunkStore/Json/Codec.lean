import ChunkStore.Json.Decode
/-!
# What the records ask of a JSON library

Chunk records, messages, manifests and the configuration are written and read through a JSON
library: a printer of values, compact or indented, and the readers that derived deserializers
are built from (strings, 64-bit numbers, booleans, optional values, arrays, records by field
name, values matched against shapes) with a reader of whole texts. `JsonCodec` names these
operations; each record's reader is made from them, so it reads through whichever library it is
given.

The library the program runs with is `Json.library`: the printers of `Json.Value` and the
readers of `Json.Decode`. What a record's reading relies on of a library is stated with the
grammar of JSON texts, in `JsonCodec.Lawful`.
-/

namespace ChunkStore

open Json

/-- The operations of a JSON library that the records are written and read with. -/
structure JsonCodec where
  /-- The text of a value with no blanks. -/
  compact : Json → String
  /-- The text of a value indented by two spaces a level. -/
  pretty : Json → String
  text : Decode String
  u64 : Decode Nat
  usize : Decode Nat
  i64 : Decode Int
  bool : Decode Bool
  /-- `null` as `none`, anything else through the inner reader. -/
  option : {α : Type} → Decode α → Decode (Option α)
  /-- An array of elements, each read with the nesting budget left inside the array. -/
  seq : {α : Type} → (Nat → Decode α) → Nat → Decode (List α)
  /-- A record named by the text, from the fields it knows, starting from the empty record. -/
  struct : {σ : Type} → String → List (Decode.Field σ) → σ → Nat → Decode σ
  /-- A value read whole and matched against the shapes the function accepts. -/
  untagged : {α : Type} → String → (Json → Option α) → Nat → Decode α
  /-- Read a whole text: the value, then nothing but blanks. -/
  run : {α : Type} → (Nat → Decode α) → String → Except DecodeError α

/-- The JSON library the program runs with. -/
def Json.library : JsonCodec where
  compact := Json.compact
  pretty := Json.pretty 0
  text := Decode.text
  u64 := Decode.u64
  usize := Decode.usize
  i64 := Decode.i64
  bool := Decode.bool
  option := Decode.option
  seq := Decode.seq
  struct := Decode.struct
  untagged := Decode.untagged
  run := Decode.run

end ChunkStore
