/-!
# Tables of code point spans

A Unicode property is stored as spans: a list of starting code points in increasing order, each
span running up to the start of the next. A table is written as text, entries separated by
spaces, each a start in lowercase hex followed by an uppercase tag letter and the tag's payload.
The text is read once into an array, and a lookup bisects it for the last span starting at or
before the code point.

The same reader serves exact-key tables (decompositions, compositions), where only an entry
whose start equals the key counts.
-/

namespace ChunkStore.Text

/-- A span of a table: where it starts and the value it gives. -/
structure Span (α : Type) where
  start : Nat
  value : α

/-- The value of a lowercase hex digit. -/
def lowerHexValue (c : Char) : Option Nat :=
  if '0' ≤ c ∧ c ≤ '9' then some (c.toNat - '0'.toNat)
  else if 'a' ≤ c ∧ c ≤ 'f' then some (c.toNat - 'a'.toNat + 10)
  else none

/-- The lowercase hex number at the front of `cs` (zero if there is none) and what follows it. -/
def hexPrefix (acc : Nat) : List Char → Nat × List Char
  | [] => (acc, [])
  | c :: rest =>
    match lowerHexValue c with
    | some d => hexPrefix (acc * 16 + d) rest
    | none => (acc, c :: rest)

/-- A lowercase hex number filling all of `cs`. -/
def hexNumber (cs : List Char) : Nat := (hexPrefix 0 cs).1

/-- A hex number with an optional leading `-`. -/
def signedHex : List Char → Int
  | '-' :: cs => -(hexNumber cs : Int)
  | cs => hexNumber cs

/-- Hex numbers separated by dots, as in a code point sequence `66.69`. -/
def hexSequence (cs : List Char) : List Nat :=
  (cs.splitOn '.').map hexNumber

/-- Read a table: each entry's start, and its value from the tag and payload by `tag`; entries
whose tag is not understood are left out. -/
def readSpans {α : Type} (tag : Char → List Char → Option α) (text : String) : Array (Span α) :=
  (text.splitOn " ").toArray.filterMap fun entry =>
    match hexPrefix 0 entry.toList with
    | (start, t :: payload) => (tag t payload).map fun v => ⟨start, v⟩
    | (_, []) => none

/-- The index of the last span among `lo ≤ i < hi` that starts at or before `cp`, assuming span
`lo` does (bisection). -/
def lastStartingBy {α : Type} (table : Array (Span α)) (cp lo hi : Nat) : Nat :=
  if lo + 1 < hi then
    let mid := (lo + hi) / 2
    if ((table[mid]?).map (·.start)).getD 0 ≤ cp then lastStartingBy table cp mid hi
    else lastStartingBy table cp lo mid
  else lo
termination_by hi - lo
decreasing_by all_goals omega

/-- The span holding `cp`: the last one starting at or before it. -/
def spanAt? {α : Type} (table : Array (Span α)) (cp : Nat) : Option (Span α) :=
  match table[0]? with
  | some first => if first.start ≤ cp then table[lastStartingBy table cp 0 table.size]? else none
  | none => none

/-- The value a table gives `cp`, or `fallback` before its first span. -/
def valueAt {α : Type} (table : Array (Span α)) (fallback : α) (cp : Nat) : α :=
  match spanAt? table cp with
  | some s => s.value
  | none => fallback

/-- The value of the entry keyed exactly by `key`, if there is one. -/
def entryAt? {α : Type} (table : Array (Span α)) (key : Nat) : Option α :=
  match spanAt? table key with
  | some s => if s.start = key then some s.value else none
  | none => none

end ChunkStore.Text
