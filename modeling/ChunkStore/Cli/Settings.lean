import ChunkStore.Config
import ChunkStore.Decimal.Parse
/-!
# Settings from a file and the environment

The command line reads its configuration from a TOML file, when the file exists, and then from
the `RELAYDRIVE_*` environment variables, which win. A variable's name after the prefix is the
key, lowercased, with `__` marking a nested key; its value is read as a TOML value when it is
one and as text otherwise. Both sources are merged into one JSON object that is decoded as a
store configuration and then validated.

The TOML reader covers what a settings file needs: `key = value` lines with bare, quoted or
dotted keys, `[table]` headers, comments, basic and literal strings, integers, floats,
booleans, arrays and inline tables.
-/

namespace ChunkStore.Cli

open Json

/-- A TOML parse failure: what went wrong and the input left where it was noticed. -/
structure TomlFault where
  message : String
  rest : List Char

/-- Skip spaces and tabs. -/
def skipBlank : List Char → List Char
  | ' ' :: r | '\t' :: r => skipBlank r
  | cs => cs

/-- Skip blanks, line breaks and comments (`inComment` is true inside a comment). -/
def skipLayout : Bool → List Char → List Char
  | true, '\n' :: r => skipLayout false r
  | true, _ :: r => skipLayout true r
  | false, ' ' :: r | false, '\t' :: r | false, '\n' :: r | false, '\r' :: r => skipLayout false r
  | false, '#' :: r => skipLayout true r
  | _, cs => cs

/-- The value of a hex digit. -/
def hexValue (c : Char) : Option Nat :=
  if c.isDigit then some (c.toNat - 48)
  else if 'a' ≤ c && c ≤ 'f' then some (c.toNat - 87)
  else if 'A' ≤ c && c ≤ 'F' then some (c.toNat - 55)
  else none

/-- The code point of `n` hex digits at the front, and the input after them. -/
def hexCode (n : Nat) (cs : List Char) : Option (Char × List Char) := do
  let digits ← (cs.take n).mapM hexValue
  if digits.length != n then none
  let code := digits.foldl (fun acc d => acc * 16 + d) 0
  if code ≥ 0x110000 || (0xD800 ≤ code && code < 0xE000) then none
  pure (Char.ofNat code, cs.drop n)

/-- The rest of a basic string after its opening quote. -/
def basicString (acc : String) : List Char → Except TomlFault (String × List Char)
  | [] => .error ⟨"unterminated string", []⟩
  | '"' :: r => .ok (acc, r)
  | '\n' :: r => .error ⟨"newline in a string", r⟩
  | '\\' :: c :: r =>
    let simple := match c with
      | 'n' => some '\n' | 't' => some '\t' | 'r' => some '\r' | 'b' => some '\x08'
      | 'f' => some '\x0c' | '"' => some '"' | '\\' => some '\\' | 'e' => some '\x1b'
      | _ => none
    match simple with
    | some e => basicString (acc.push e) r
    | none =>
      let width := if c == 'u' then 4 else if c == 'U' then 8 else 0
      if width == 0 then .error ⟨s!"invalid escape sequence \\{c}", r⟩
      else
        match hexCode width r with
        | some (e, _) => basicString (acc.push e) (r.drop width)
        | none => .error ⟨"invalid unicode escape", r⟩
  | c :: r => basicString (acc.push c) r
termination_by cs => cs.length
decreasing_by all_goals simp only [List.length_drop, List.length_cons]; omega

/-- The rest of a literal string after its opening apostrophe. -/
def literalString (acc : String) : List Char → Except TomlFault (String × List Char)
  | [] => .error ⟨"unterminated string", []⟩
  | '\'' :: r => .ok (acc, r)
  | '\n' :: r => .error ⟨"newline in a string", r⟩
  | c :: r => literalString (acc.push c) r

/-- Whether a character may appear in a bare key. -/
def isBareKeyChar (c : Char) : Bool := c.isAlphanum || c == '_' || c == '-'

/-- One key part: bare, basic-quoted or literal-quoted. -/
def keyPart : List Char → Except TomlFault (String × List Char)
  | '"' :: r => basicString "" r
  | '\'' :: r => literalString "" r
  | cs =>
    let bare := cs.takeWhile isBareKeyChar
    if bare.isEmpty then .error ⟨"expected a key", cs⟩
    else .ok (String.ofList bare, cs.drop bare.length)

/-- A dotted key: parts separated by `.`, with blanks around the dots. -/
def dottedKey : Nat → List Char → Except TomlFault ((List String) × List Char)
  | 0, cs => .error ⟨"key nested too deeply", cs⟩
  | fuel + 1, cs => do
    let (part, r) ← keyPart (skipBlank cs)
    match skipBlank r with
    | '.' :: more =>
      let (parts, r) ← dottedKey fuel more
      pure (part :: parts, r)
    | r => pure ([part], r)

/-- Whether a character ends an unquoted value. -/
def endsScalar (c : Char) : Bool :=
  c == ',' || c == ']' || c == '}' || c == ' ' || c == '\t' || c == '\n' || c == '\r' ||
    c == '#'

/-- An unquoted value: a boolean, an integer (underscores allowed between digits) or a float. -/
def scalar (cs : List Char) : Except TomlFault (Json × List Char) :=
  let token := cs.takeWhile (!endsScalar ·)
  let rest := cs.drop token.length
  let text := String.ofList token
  let digits := String.ofList (token.filter (· != '_'))
  let unsigned := (digits.dropWhile (fun c => c == '+' || c == '-')).toString
  let negative := digits.startsWith "-"
  if token.isEmpty then .error ⟨"expected a value", cs⟩
  else if text == "true" then .ok (.bool true, rest)
  else if text == "false" then .ok (.bool false, rest)
  else if !unsigned.isEmpty && unsigned.all Char.isDigit && unsigned.length + 1 ≥ digits.length then
    let n := unsigned.toNat!
    if negative then
      (if n ≤ Nat.pow 2 63 then .ok (if n = 0 then .nat 0 else .num (.neg (-(n : Int))), rest)
       else .error ⟨"integer out of range", cs⟩)
    else if n < Nat.pow 2 63 then .ok (.nat n, rest)
    else .error ⟨"integer out of range", cs⟩
  else
    match Decimal.parseFloat digits with
    | some x => if x.isFinite then .ok (.num (.float x), rest) else .error ⟨"invalid number", cs⟩
    | none => .error ⟨"invalid value", cs⟩

/-- Set `value` at a key path inside an object. Without `overwrite`, a key that already holds a
value is an error; a key on the path that holds something other than a table is one too, unless
`overwrite` replaces it by a table. -/
def setPath (overwrite : Bool) : List String → Json → Json → Except String Json
  | [], _, value => .ok value
  | key :: more, j, value =>
    let fields := match j with
      | .obj fs => fs
      | _ => []
    let present := (fields.find? (·.1 == key)).map (·.2)
    let place := fun (v : Json) =>
      if present.isSome then fields.map fun (k, old) => if k == key then (k, v) else (k, old)
      else fields ++ [(key, v)]
    match more, present with
    | [], some _ =>
      if overwrite then .ok (.obj (place value)) else .error s!"duplicate key {Text.quote key}"
    | [], none => .ok (.obj (place value))
    | _ :: _, some (.obj inner) => do
      pure (.obj (place (← setPath overwrite more (.obj inner) value)))
    | _ :: _, some _ =>
      if overwrite then do pure (.obj (place (← setPath overwrite more (.obj []) value)))
      else .error s!"key {Text.quote key} is not a table"
    | _ :: _, none => do pure (.obj (place (← setPath overwrite more (.obj []) value)))

/-- Read a TOML value (`fuel` bounds the nesting). -/
def tomlValue : Nat → List Char → Except TomlFault (Json × List Char)
  | 0, cs => .error ⟨"value nested too deeply", cs⟩
  | fuel + 1, cs =>
    match cs with
    | '"' :: r => do
      let (s, r) ← basicString "" r
      pure (.str s, r)
    | '\'' :: r => do
      let (s, r) ← literalString "" r
      pure (.str s, r)
    | '[' :: r => tomlArray fuel [] r.length r
    | '{' :: r => inlineTable fuel (.obj []) r.length r
    | _ => scalar cs
where
  /-- The items of an array after its opening bracket (`steps` bounds the items). -/
  tomlArray (fuel : Nat) (acc : List Json) : Nat → List Char → Except TomlFault (Json × List Char)
    | 0, cs => .error ⟨"unterminated array", cs⟩
    | steps + 1, cs =>
      match skipLayout false cs with
      | ']' :: r => .ok (.arr acc.reverse, r)
      | r => do
        let (v, r) ← tomlValue fuel r
        match skipLayout false r with
        | ',' :: r => tomlArray fuel (v :: acc) steps r
        | ']' :: r => pure (.arr (v :: acc).reverse, r)
        | r => throw ⟨"expected a comma or the end of the array", r⟩
  /-- The pairs of an inline table after its opening brace (`steps` bounds the pairs). -/
  inlineTable (fuel : Nat) (acc : Json) : Nat → List Char → Except TomlFault (Json × List Char)
    | 0, cs => .error ⟨"unterminated inline table", cs⟩
    | steps + 1, cs =>
      match skipBlank cs with
      | '}' :: r => .ok (acc, r)
      | r => do
        let (path, r) ← dottedKey (r.length + 1) r
        let r ← match skipBlank r with
          | '=' :: r => pure r
          | r => throw ⟨"expected an equals sign", r⟩
        let (v, r) ← tomlValue fuel (skipBlank r)
        let acc ← match setPath false path acc v with
          | .ok j => pure j
          | .error m => throw ⟨m, r⟩
        match skipBlank r with
        | ',' :: r => inlineTable fuel acc steps r
        | '}' :: r => pure (acc, r)
        | r => throw ⟨"expected a comma or the end of the table", r⟩

/-- After a value or header: blanks, an optional comment, then a line break or the end. -/
def lineEnd (cs : List Char) : Except TomlFault (List Char) :=
  match skipBlank cs with
  | [] => .ok []
  | '\n' :: r => .ok r
  | '\r' :: '\n' :: r => .ok r
  | '#' :: r => .ok (r.dropWhile (· != '\n'))
  | r => .error ⟨"expected a line break", r⟩

/-- The statements of a document: `table` is the path of the last header (`fuel` bounds the
statements). -/
def tomlStatements : Nat → List String → Json → List Char → Except TomlFault Json
  | 0, _, acc, _ => .ok acc
  | fuel + 1, table, acc, cs =>
    match skipLayout false cs with
    | [] => .ok acc
    | '[' :: r => do
      let (path, r) ← dottedKey (r.length + 1) r
      let r ← match skipBlank r with
        | ']' :: r => pure r
        | r => throw ⟨"expected the end of the table header", r⟩
      let r ← lineEnd r
      let acc ← match setPath true path acc (.obj []) with
        | .ok j => pure j
        | .error m => throw ⟨m, r⟩
      tomlStatements fuel path acc r
    | r => do
      let (path, r) ← dottedKey (r.length + 1) r
      let r ← match skipBlank r with
        | '=' :: r => pure r
        | r => throw ⟨"expected an equals sign", r⟩
      let (v, r) ← tomlValue (r.length + 1) (skipBlank r)
      let acc ← match setPath false (table ++ path) acc v with
        | .ok j => pure j
        | .error m => throw ⟨m, r⟩
      tomlStatements fuel table acc (← lineEnd r)

/-- The line (counted from 1) where `rest` starts within `text`. -/
def lineOf (text : List Char) (rest : List Char) : Nat :=
  (text.take (text.length - rest.length)).count '\n' + 1

/-- A TOML document as a JSON object, or the failure and its line. -/
def parseToml (text : String) : Except String Json :=
  let cs := text.toList
  match tomlStatements (cs.length + 1) [] (.obj []) cs with
  | .ok j => .ok j
  | .error f => .error s!"{f.message} at line {lineOf cs f.rest}"

/-- The prefix of the variables the settings read. -/
def envPrefix : String := "RELAYDRIVE_"

/-- The key path of a variable, if it has the prefix (in any case) and a key after it. -/
def envKey (name : String) : Option (List String) :=
  if (name.take envPrefix.length).toString.toUpper == envPrefix then
    let key := (name.drop envPrefix.length).toString.toLower
    let parts := ((key.splitOn "__").flatMap (·.splitOn ".")).filter (!·.isEmpty)
    if parts.isEmpty then none else some parts
  else none

/-- The value of a variable: a TOML value when the whole text is one, else the text. -/
def envValue (text : String) : Json :=
  let cs := text.trimAscii.toString.toList
  match tomlValue (cs.length + 1) cs with
  | .ok (v, []) => v
  | _ => .str text

/-- Merge the variables into the settings; later variables win. -/
def mergeEnv (base : Json) (env : List (String × String)) : Json :=
  env.foldl (fun acc (name, value) =>
    match envKey name with
    | some path =>
      match setPath true path acc (envValue value) with
      | .ok j => j
      | .error _ => acc
    | none => acc) base

/-- Why the settings could not be loaded: the context and its cause. -/
structure SettingsError where
  context : String
  cause : String

/-- Load the settings: the file text when the file exists, then the environment; the result is
decoded as a store configuration and validated. -/
def loadSettings (path : String) (fileText : Option String) (env : List (String × String)) :
    Except SettingsError StoreConfig := do
  let context := "failed to load configuration from " ++ path
  let fromFile ← match fileText with
    | none => pure (.obj [])
    | some text =>
      match parseToml text with
      | .ok j => pure j
      | .error m => throw ⟨context, m ++ " in " ++ path ++ " TOML file"⟩
  let merged := mergeEnv fromFile env
  let config ← match Json.Decode.run Json.Decode.config merged.compact with
    | .ok c => pure c
    | .error e => throw ⟨context, e.fault.message⟩
  match config.validate with
  | .ok () => pure config
  | .error e => throw ⟨"invalid configuration", e.message⟩

end ChunkStore.Cli
