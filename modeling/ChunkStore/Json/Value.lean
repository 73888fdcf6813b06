import ChunkStore.Decimal.Format
/-!
# JSON values and their text

A JSON number is kept in the form it was read in: a natural below `2^64`, a negative integer
of at least `-2^63`, or a double. Objects keep their members in order; `Json.sortKeys` puts them
in key order with the last of equal keys kept, which is how a map-backed value prints.

Text is written compactly (no blanks) or pretty (two-space indent, `": "` between key and value,
empty containers as `[]` and `{}`). Strings escape `"`, `\`, and control characters, the common
ones by letter and the rest as `\u00XX`; everything else is written as is.
-/

namespace ChunkStore

/-- A JSON number as it was read or built. -/
inductive JsonNumber where
  /-- A non-negative integer below `2^64`. -/
  | nat (n : Nat)
  /-- A negative integer of at least `-2^63`. -/
  | neg (n : Int)
  /-- Any other number, as a double. -/
  | float (x : Float)

/-- A JSON value. -/
inductive Json where
  | null
  | bool (b : Bool)
  | num (n : JsonNumber)
  | str (s : String)
  | arr (items : List Json)
  | obj (fields : List (String × Json))

namespace Json

/-- An integer as a JSON number, by sign. -/
def int (i : Int) : Json :=
  if i < 0 then .num (.neg i) else .num (.nat i.toNat)

/-- A natural as a JSON number. -/
def nat (n : Nat) : Json := .num (.nat n)

/-- The member `key` of an object, the first if there are several. -/
def get? (j : Json) (key : String) : Option Json :=
  match j with
  | .obj fields => (fields.find? (·.1 == key)).map (·.2)
  | _ => none

end Json

/-- The text of a JSON number. -/
def JsonNumber.text : JsonNumber → String
  | .nat n => toString n
  | .neg n => toString n
  | .float x => Decimal.jsonFloatText x

/-- Four lowercase hex digits of a code unit below `2^16`. -/
def hex4 (n : Nat) : String :=
  let digit (d : Nat) : Char := if d < 10 then Char.ofNat (48 + d) else Char.ofNat (87 + d)
  String.ofList [digit (n / 4096 % 16), digit (n / 256 % 16), digit (n / 16 % 16), digit (n % 16)]

/-- One character of a JSON string body. -/
def escapeJsonChar (c : Char) : String :=
  match c with
  | '"' => "\\\""
  | '\\' => "\\\\"
  | '\n' => "\\n"
  | '\r' => "\\r"
  | '\t' => "\\t"
  | '\x08' => "\\b"
  | '\x0c' => "\\f"
  | c => if c.toNat < 0x20 then "\\u" ++ hex4 c.toNat else c.toString

/-- A string as a JSON string literal. -/
def jsonQuote (s : String) : String :=
  s.foldl (fun acc c => acc ++ escapeJsonChar c) "\""  ++ "\""

namespace Json

mutual
/-- Compact text of a value. -/
def compact : Json → String
  | .null => "null"
  | .bool true => "true"
  | .bool false => "false"
  | .num n => n.text
  | .str s => jsonQuote s
  | .arr items => "[" ++ compactItems items ++ "]"
  | .obj fields => "\x7b" ++ compactFields fields ++ "\x7d"

/-- Compact text of array items, comma-separated. -/
def compactItems : List Json → String
  | [] => ""
  | [j] => compact j
  | j :: rest => compact j ++ "," ++ compactItems rest

/-- Compact text of object members, comma-separated. -/
def compactFields : List (String × Json) → String
  | [] => ""
  | [(k, j)] => jsonQuote k ++ ":" ++ compact j
  | (k, j) :: rest => jsonQuote k ++ ":" ++ compact j ++ "," ++ compactFields rest
end

/-- Two blanks per nesting level. -/
def indent (depth : Nat) : String := String.ofList (List.replicate (2 * depth) ' ')

mutual
/-- Pretty text of a value whose first line starts at nesting level `depth`. -/
def pretty (depth : Nat) : Json → String
  | .arr [] => "[]"
  | .obj [] => "\x7b\x7d"
  | .arr items => "[\n" ++ prettyItems (depth + 1) items ++ "\n" ++ indent depth ++ "]"
  | .obj fields => "\x7b\n" ++ prettyFields (depth + 1) fields ++ "\n" ++ indent depth ++ "\x7d"
  | j => compact j

/-- Pretty array items, one per line. -/
def prettyItems (depth : Nat) : List Json → String
  | [] => ""
  | [j] => indent depth ++ pretty depth j
  | j :: rest => indent depth ++ pretty depth j ++ ",\n" ++ prettyItems depth rest

/-- Pretty object members, one per line. -/
def prettyFields (depth : Nat) : List (String × Json) → String
  | [] => ""
  | [(k, j)] => indent depth ++ jsonQuote k ++ ": " ++ pretty depth j
  | (k, j) :: rest =>
    indent depth ++ jsonQuote k ++ ": " ++ pretty depth j ++ ",\n" ++ prettyFields depth rest
end

/-- Insert a member into a key-ordered member list, replacing an equal key. -/
def insertSorted (k : String) (v : Json) : List (String × Json) → List (String × Json)
  | [] => [(k, v)]
  | (k', v') :: rest =>
    if k < k' then (k, v) :: (k', v') :: rest
    else if k == k' then (k, v) :: rest
    else (k', v') :: insertSorted k v rest

mutual
/-- The value with every object's members in key order, later equal keys winning. -/
def sortKeys : Json → Json
  | .arr items => .arr (sortItems items)
  | .obj fields => .obj (sortFields [] fields)
  | j => j

/-- `sortKeys` on each item. -/
def sortItems : List Json → List Json
  | [] => []
  | j :: rest => sortKeys j :: sortItems rest

/-- Members inserted one by one into `acc` in key order. -/
def sortFields (acc : List (String × Json)) : List (String × Json) → List (String × Json)
  | [] => acc
  | (k, j) :: rest => sortFields (insertSorted k (sortKeys j) acc) rest
end

end Json

end ChunkStore
