import ChunkStore.Proofs.JsonValues
import ChunkStore.Json.Codec
/-!
# The laws of a JSON library

What the records' readers rely on of a JSON library, stated with the grammar of written JSON
(`Written`) and with what it means for a reader to read every written text of a value
(`Decodes`):

* both printers write a text of the value they are given;
* a whole text that is a written value between blanks is read as its top-level reader reads the
  value;
* a string reads back through its escaping, a 64-bit number from its decimal text, a boolean
  from its word;
* `null` reads as `none` and anything else through the inner reader; an array reads as its
  items; a record reads from an object member by member, as `ReadsFields` describes; a value
  matched against shapes reads as the shape it has.

These are the behaviours the JSON standard and the derived readers document, and the
theorems about records take them as hypotheses. The library the program runs with keeps every
one (`Json.library_lawful`).
-/

namespace ChunkStore

open Json Json.Decode

namespace JsonCodec

/-- What the records' readers rely on of a JSON library. -/
structure Lawful (J : JsonCodec) : Prop where
  compact_written : ∀ j, Written j (textBytes (J.compact j))
  pretty_written : ∀ j, Written j (textBytes (J.pretty j))
  /-- A written value between blanks is read whole as the top-level reader reads the value. -/
  run_decodes : ∀ {α : Type} {d : Nat → Decode α} {j : Json} {a : α}, Decodes (d topBudget) j a →
    ∀ {text : String} {bl t bl' : List UInt8}, Blanks bl → Written j t → Blanks bl' →
    textBytes text = bl ++ t ++ bl' → J.run d text = .ok a
  text_decodes : ∀ s, Decodes J.text (.str s) s
  u64_decodes : ∀ {n : Nat}, n < Nat.pow 2 64 → Decodes J.u64 (Json.nat n) n
  usize_decodes : ∀ {n : Nat}, n < Nat.pow 2 64 → Decodes J.usize (Json.nat n) n
  i64_decodes : ∀ {v : Int}, -(Nat.pow 2 63 : Int) ≤ v → v < (Nat.pow 2 63 : Int) →
    Decodes J.i64 (Json.int v) v
  bool_decodes : ∀ b, Decodes J.bool (.bool b) b
  option_decodes_some : ∀ {α : Type} {inner : Decode α} {j : Json} {a : α}, Decodes inner j a →
    j ≠ .null → (∀ x, j ≠ .num (.float x)) → Decodes (J.option inner) j (some a)
  option_decodes_null : ∀ {α : Type} (inner : Decode α), Decodes (J.option inner) .null none
  /-- An array reads as its items, each read one level further in. -/
  seq_decodes : ∀ {α : Type} {elem : Nat → Decode α} {budget : Nat}, 2 ≤ budget →
    ∀ {items : List Json} {as : List α}, List.Forall₂ (fun j a => Decodes (elem (budget - 1)) j a) items as →
    (∀ j ∈ items, ∀ x, j ≠ .num (.float x)) → Decodes (J.seq elem budget) (.arr items) as
  /-- A record reads from an object whose members its fields read one level further in. -/
  struct_decodes : ∀ {σ : Type} (record : String) (fields : List (Decode.Field σ)) (init : σ)
    {budget : Nat}, 2 ≤ budget → ∀ {ms : List (String × Json)} {s' : σ},
    ReadsFields fields (budget - 1) ms init s' →
    Decodes (J.struct record fields init budget) (.obj ms) s'
  /-- A value read whole reads as the shape it is given, when the reader keeps it as written. -/
  untagged_decodes : ∀ {α : Type} (typeName : String) {choose : Json → Option α} {budget : Nat}
    {j : Json} {a : α}, readable budget j = true → choose j = some a →
    Decodes (J.untagged typeName choose budget) j a

variable {J : JsonCodec}

theorem Lawful.run_compact (hJ : J.Lawful) {α : Type} {d : Nat → Decode α} {j : Json} {a : α}
    (hd : Decodes (d topBudget) j a) : J.run d (J.compact j) = .ok a :=
  hJ.run_decodes hd blanks_nil (hJ.compact_written j) blanks_nil
    (by rw [List.nil_append, List.append_nil])

theorem Lawful.run_pretty (hJ : J.Lawful) {α : Type} {d : Nat → Decode α} {j : Json} {a : α}
    (hd : Decodes (d topBudget) j a) : J.run d (J.pretty j) = .ok a :=
  hJ.run_decodes hd blanks_nil (hJ.pretty_written j) blanks_nil
    (by rw [List.nil_append, List.append_nil])

end JsonCodec

/-- The JSON library the program runs with keeps every law. -/
theorem Json.library_lawful : Json.library.Lawful where
  compact_written := written_compact
  pretty_written := written_pretty 0
  run_decodes := Json.run_decodes
  text_decodes := text_decodes
  u64_decodes := u64_decodes
  usize_decodes hn := natBelow_decodes "usize" hn (Nat.le_refl _)
  i64_decodes := i64_decodes
  bool_decodes := bool_decodes
  option_decodes_some := option_decodes_some
  option_decodes_null := option_decodes_null
  seq_decodes := seq_decodes
  struct_decodes := struct_decodes
  untagged_decodes := untagged_decodes

end ChunkStore
