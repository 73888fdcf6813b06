import ChunkStore.Json.Scan
/-!
# Decoding typed values from JSON text

`Decode α` reads a value of type `α` from a JSON text while moving an index through it, the way
a streaming reader does: a decoder looks at the next byte, consumes what it understands, and
stops at the first problem. An error keeps the index at which it was raised.

Where an error is reported matters, so the rules are those of a streaming reader:

* a fault of the text is reported where it was seen;
* a value of the wrong type is reported after the value if it is a scalar (which is consumed),
  and on its opening bracket if it is an array or object;
* an error with no place of its own (a missing field, too few elements, no matching variant)
  takes the place where the enclosing array or object was left: after its closing bracket when
  that follows at once, else at the next non-blank byte;
* arrays and objects nest at most 127 deep.
-/

namespace ChunkStore.Json

/-- Decoding: the text, an index into it, and an error that keeps the index. -/
abbrev Decode := ReaderT ByteArray (ExceptT DecodeError (StateM Nat))

namespace Decode

/-- Raise a fault located at index `i`. -/
def errorAt (f : Fault) (i : Nat) : Decode α := do
  throw ⟨f, some (positionOf (← read) i)⟩

/-- Raise a syntax fault at the current index. -/
def fail (f : SyntaxFault) : Decode α := do
  errorAt (.malformed f) (← get)

/-- Raise a syntax fault noticed by looking at the next byte: one past the current index. -/
def failAhead (f : SyntaxFault) : Decode α := do
  errorAt (.malformed f) (lookIndex (← read) (← get))

/-- Raise a scanner's fault where it locates it. -/
def slip (s : Slip) : Decode α := errorAt (.malformed s.fault) s.index

/-- Raise a fault whose place is decided by the enclosing container. -/
def raise (f : Fault) : Decode α := throw ⟨f, none⟩

/-- Give an error without a place the current index. -/
def fixPosition (e : DecodeError) : Decode DecodeError := do
  match e.position with
  | some _ => pure e
  | none => pure { e with position := some (positionOf (← read) (← get)) }

/-- Run a decoder, giving any error without a place the index where it stopped. -/
def fixing (x : Decode α) : Decode α :=
  tryCatch x fun e => do throw (← fixPosition e)

/-- Skip blanks and look at the next byte. -/
def peekBlank : Decode (Option UInt8) := do
  let bs ← read
  let i := skipBlanks bs (← get)
  set i
  pure (byteAt? bs i)

/-- Step over one byte. -/
def eatByte : Decode Unit := modify (· + 1)

/-- Fuel for loops that consume at least one byte per round. -/
def fuel : Decode Nat := do pure ((← read).size + 1)

/-- The rest of a literal word whose first byte is at the index. -/
def word (rest : List UInt8) : Decode Unit := do
  match scanWord (← read) ((← get) + 1) rest with
  | .ok j => set j
  | .error s => slip s

/-- A number whose first digit is at the index (any minus sign already consumed). -/
def number (positive : Bool) : Decode Scanned := do
  match scanNumber (← read) positive (← get) with
  | .ok (n, j) => set j; pure n
  | .error s => slip s

/-- A string whose opening quote is at the index. -/
def string : Decode String := do
  match scanString (← read) ((← get) + 1) with
  | .ok (s, j) => set j; pure s
  | .error e => slip e

/-- What a scanned number is. -/
def Scanned.found : Scanned → Found
  | .unsigned n => .unsigned n
  | .signed i => .signed i
  | .float x => .float x

/-- The value at the index is not of the `expected` kind: consume it if it is a scalar, and
report it after the scalar or on the bracket. -/
def invalidType (expected : String) : Decode α := do
  let bs ← read
  let i ← get
  let found : Found ← match byteAt? bs i with
    | some 110 => do word [117, 108, 108]; pure .null
    | some 116 => do word [114, 117, 101]; pure (.bool true)
    | some 102 => do word [97, 108, 115, 101]; pure (.bool false)
    | some 45 => do eatByte; pure (Scanned.found (← number false))
    | some 34 => do pure (.str (← string))
    | some 91 => pure .seq
    | some 123 => pure .map
    | some b =>
      if isDigitByte b then do pure (Scanned.found (← number true))
      else failAhead .expectedValue
    | none => failAhead .expectedValue
  errorAt (.invalidType found expected) (← get)

/-- Run `body` and then `close` whatever `body` did; the first error wins. -/
def closing (body : Decode α) (close : Decode Unit) : Decode α := do
  let r ← tryCatch (do let a ← body; pure (Except.ok a)) fun e => pure (Except.error e)
  let c ← tryCatch (do close; pure none) fun e => pure (some e)
  match r, c with
  | .ok a, none => pure a
  | .error e, _ => throw e
  | .ok _, some e => throw e

/-- Enter an array or object on its opening bracket, with `budget` levels left. -/
def enter (budget : Nat) : Decode Nat := do
  if budget ≤ 1 then failAhead .recursionLimit
  eatByte
  pure (budget - 1)

/-- Whether another array item follows. -/
def nextItem (first : Bool) : Decode Bool := do
  match ← peekBlank with
  | none => failAhead .eofList
  | some 93 => pure false
  | some b =>
    if first then pure true
    else if b == 44 then
      eatByte
      match ← peekBlank with
      | some 93 => failAhead .trailingComma
      | some _ => pure true
      | none => failAhead .eofValue
    else failAhead .expectedListCommaOrEnd

/-- The end of an array. -/
def endArray : Decode Unit := do
  match ← peekBlank with
  | some 93 => eatByte
  | some 44 =>
    eatByte
    match ← peekBlank with
    | some 93 => failAhead .trailingComma
    | _ => failAhead .trailingCharacters
  | some _ => failAhead .trailingCharacters
  | none => failAhead .eofList

/-- Whether another object member follows (its key's quote is next). -/
def nextKey (first : Bool) : Decode Bool := do
  match ← peekBlank with
  | none => failAhead .eofObject
  | some 125 => pure false
  | some b =>
    if first then
      if b == 34 then pure true else failAhead .keyMustBeString
    else if b == 44 then
      eatByte
      match ← peekBlank with
      | some 34 => pure true
      | some 125 => failAhead .trailingComma
      | some _ => failAhead .keyMustBeString
      | none => failAhead .eofValue
    else failAhead .expectedObjectCommaOrEnd

/-- The colon after a key. -/
def colon : Decode Unit := do
  match ← peekBlank with
  | some 58 => eatByte
  | some _ => failAhead .expectedColon
  | none => failAhead .eofObject

/-- The end of an object. -/
def endObject : Decode Unit := do
  match ← peekBlank with
  | some 125 => eatByte
  | some 44 => failAhead .trailingComma
  | some _ => failAhead .trailingCharacters
  | none => failAhead .eofObject

/-- Skip one value of any shape. -/
def skip : Decode Unit := do
  match skipValue (← read) (← get) with
  | .ok j => set j
  | .error s => slip s

mutual
/-- Any JSON value, with `budget` nesting levels left. -/
def value : Nat → Decode Json
  | 0 => failAhead .recursionLimit
  | budget + 1 => fixing do
    match ← peekBlank with
    | none => failAhead .eofValue
    | some 110 => word [117, 108, 108]; pure .null
    | some 116 => word [114, 117, 101]; pure (.bool true)
    | some 102 => word [97, 108, 115, 101]; pure (.bool false)
    | some 45 => eatByte; pure (.num (numberJson (← number false)))
    | some 34 => pure (.str (← string))
    | some 91 =>
      let _ ← enter (budget + 1)
      closing (do pure (.arr (← items budget true [] (← fuel)))) endArray
    | some 123 =>
      let _ ← enter (budget + 1)
      closing (do pure (.obj (← members budget true [] (← fuel)))) endObject
    | some b =>
      if isDigitByte b then pure (.num (numberJson (← number true)))
      else failAhead .expectedValue

/-- Array items up to the closing bracket. -/
def items (budget : Nat) (first : Bool) (acc : List Json) : Nat → Decode (List Json)
  | 0 => pure acc.reverse
  | n + 1 => do
    if ← nextItem first then
      let v ← value budget
      items budget false (v :: acc) n
    else pure acc.reverse

/-- Object members up to the closing brace. -/
def members (budget : Nat) (first : Bool) (acc : List (String × Json)) :
    Nat → Decode (List (String × Json))
  | 0 => pure acc.reverse
  | n + 1 => do
    if ← nextKey first then
      let k ← string
      colon
      let v ← value budget
      members budget false ((k, v) :: acc) n
    else pure acc.reverse

/-- A scanned number as a JSON number. -/
def numberJson : Scanned → JsonNumber
  | .unsigned n => .nat n
  | .signed i => .neg i
  | .float x => .float x
end

/-- A natural below `bound`; `expected` names the kind in errors. -/
def natBelow (bound : Nat) (expected : String) : Decode Nat := fixing do
  let visit : Scanned → Decode Nat
    | .unsigned n => if n < bound then pure n else raise (.invalidValue (.unsigned n) expected)
    | .signed i => raise (.invalidValue (.signed i) expected)
    | .float x => raise (.invalidType (.float x) expected)
  match ← peekBlank with
  | none => failAhead .eofValue
  | some 45 => eatByte; visit (← number false)
  | some b => if isDigitByte b then visit (← number true) else invalidType expected

/-- A 64-bit unsigned integer. -/
def u64 : Decode Nat := natBelow (Nat.pow 2 64) "u64"

/-- A machine-sized unsigned integer (64 bits). -/
def usize : Decode Nat := natBelow (Nat.pow 2 64) "usize"

/-- A 64-bit signed integer. -/
def i64 : Decode Int := fixing do
  let visit : Scanned → Decode Int
    | .unsigned n => if n < Nat.pow 2 63 then pure n else raise (.invalidValue (.unsigned n) "i64")
    | .signed i => pure i
    | .float x => raise (.invalidType (.float x) "i64")
  match ← peekBlank with
  | none => failAhead .eofValue
  | some 45 => eatByte; visit (← number false)
  | some b => if isDigitByte b then visit (← number true) else invalidType "i64"

/-- A boolean. -/
def bool : Decode Bool := fixing do
  match ← peekBlank with
  | none => failAhead .eofValue
  | some 116 => word [114, 117, 101]; pure true
  | some 102 => word [97, 108, 115, 101]; pure false
  | some _ => invalidType "a boolean"

/-- A string. -/
def text : Decode String := fixing do
  match ← peekBlank with
  | none => failAhead .eofValue
  | some 34 => string
  | some _ => invalidType "a string"

/-- `null` as `none`, anything else through `inner`. -/
def option (inner : Decode α) : Decode (Option α) := do
  match ← peekBlank with
  | some 110 => word [117, 108, 108]; pure none
  | _ => some <$> inner

/-- Items of `elem` up to the closing bracket. -/
def seqItems (elem : Nat → Decode α) (budget : Nat) (first : Bool) (acc : List α) :
    Nat → Decode (List α)
  | 0 => pure acc.reverse
  | n + 1 => do
    if ← nextItem first then
      let v ← elem budget
      seqItems elem budget false (v :: acc) n
    else pure acc.reverse

/-- An array of `elem` (which gets the nesting budget left inside the array). -/
def seq (elem : Nat → Decode α) (budget : Nat) : Decode (List α) := fixing do
  match ← peekBlank with
  | none => failAhead .eofValue
  | some 91 =>
    let inner ← enter budget
    closing (do seqItems elem inner true [] (← fuel)) endArray
  | some _ => invalidType "a sequence"

/-- One field of a record being decoded into the partial record `σ`. -/
structure Field (σ : Type) where
  /-- The key of the field in an object. -/
  name : String
  /-- Whether the record cannot be built without it. -/
  required : Bool
  /-- Whether the partial record already holds it. -/
  isSet : σ → Bool
  /-- Decode the field's value (with a nesting budget) into the partial record. -/
  decode : Nat → σ → Decode σ

/-- Fields read by position from an array; a missing required one is an error naming its index
and the record's size. -/
def fieldsByPosition (record : String) (total : Nat) (budget : Nat) :
    Nat → Bool → List (Field σ) → σ → Decode σ
  | _, _, [], s => pure s
  | i, first, f :: rest, s => do
    if ← nextItem first then
      let s ← f.decode budget s
      fieldsByPosition record total budget (i + 1) false rest s
    else if f.required then
      raise (.invalidLength i ("struct " ++ record ++ " with " ++ toString total ++ " elements"))
    else fieldsByPosition record total budget (i + 1) first rest s

/-- Object members into the partial record: known keys decode their field (a second occurrence
is an error before its value is read), unknown keys are skipped. -/
def fieldsByName (fields : List (Field σ)) (budget : Nat) (first : Bool) (s : σ) : Nat → Decode σ
  | 0 => pure s
  | n + 1 => do
    if ← nextKey first then
      let key ← string
      match fields.find? (·.name == key) with
      | some f =>
        if f.isSet s then raise (.duplicateField f.name)
        colon
        let s ← f.decode budget s
        fieldsByName fields budget false s n
      | none =>
        colon
        skip
        fieldsByName fields budget false s n
    else
      match fields.find? fun f => f.required && !f.isSet s with
      | some f => raise (.missingField f.name)
      | none => pure s

/-- A record named `record`, from an object or from an array of its fields in order. -/
def struct (record : String) (fields : List (Field σ)) (init : σ) (budget : Nat) : Decode σ :=
  fixing do
    match ← peekBlank with
    | none => failAhead .eofValue
    | some 91 =>
      let inner ← enter budget
      closing (fieldsByPosition record fields.length inner 0 true fields init) endArray
    | some 123 =>
      let inner ← enter budget
      closing (do fieldsByName fields inner true init (← fuel)) endObject
    | some _ => invalidType ("struct " ++ record)

/-- A value that is read whole and then matched against the shapes `choose` accepts; none
matching is an error naming the alternatives' type. -/
def untagged (typeName : String) (choose : Json → Option α) (budget : Nat) : Decode α := do
  let v ← value budget
  match choose v with
  | some a => pure a
  | none => raise (.custom ("data did not match any variant of untagged enum " ++ typeName))

/-- The nesting budget of a whole text. -/
def topBudget : Nat := 128

/-- Decode a whole text: the value, then nothing but blanks. -/
def run (d : Nat → Decode α) (text : String) : Except DecodeError α :=
  let bs := text.toUTF8
  let whole : Decode α := do
    let a ← d topBudget
    match ← peekBlank with
    | some _ => failAhead .trailingCharacters
    | none => pure a
  (StateT.run (ExceptT.run (ReaderT.run whole bs)) 0).1

end Decode

end ChunkStore.Json
