import ChunkStore.Url.Idna
/-!
# Hosts

A host is a domain, an IPv4 address or an IPv6 address. Hosts of special schemes are
percent-decoded, brought to ASCII by IDNA processing (which fails the host when it is not a
valid domain name), and read as an IPv4 address when the last label is a number. Hosts of
other schemes are kept as written, percent-encoding what is not ASCII.

An IPv4 address accepts one to four parts in decimal, octal (leading `0`) or hex (`0x`), the
last part filling the remaining bytes. An IPv6 address is eight 16-bit pieces with one `::` for
a run of zeros and an optional dotted IPv4 tail; it is written back with the first longest run
of two or more zero pieces compressed.
-/

namespace ChunkStore.Url

/-- Why a text is not a URL. -/
inductive ParseError where
  | emptyHost
  | idna
  | invalidPort
  | invalidIpv4
  | invalidIpv6
  | invalidDomainCharacter
  | relativeWithoutBase
  deriving Repr, DecidableEq

/-- The wording of a URL error. -/
def ParseError.message : ParseError → String
  | .emptyHost => "empty host"
  | .idna => "invalid international domain name"
  | .invalidPort => "invalid port number"
  | .invalidIpv4 => "invalid IPv4 address"
  | .invalidIpv6 => "invalid IPv6 address"
  | .invalidDomainCharacter => "invalid domain character"
  | .relativeWithoutBase => "relative URL without a base"

/-- A parsed host. -/
inductive Host where
  /-- A domain or, for non-special schemes, an opaque host; never empty. -/
  | domain (name : String)
  | ipv4 (address : Nat)
  | ipv6 (pieces : List Nat)
  deriving Repr, DecidableEq

/-! ## IPv4 -/

/-- The value of a digit character in a radix of at most 16. -/
def radixDigit (radix : Nat) (c : Char) : Option Nat :=
  let d :=
    if '0' ≤ c ∧ c ≤ '9' then some (c.toNat - 48)
    else if 'a' ≤ c ∧ c ≤ 'f' then some (c.toNat - 87)
    else if 'A' ≤ c ∧ c ≤ 'F' then some (c.toNat - 55)
    else none
  d.filter (· < radix)

/-- One part of an IPv4 address: `none` if it is not a number, `some none` if it is a number
of 32 bits or more. -/
def ipv4Number (part : List Char) : Option (Option Nat) :=
  if part.isEmpty then none
  else
    let (radix, digits) :=
      match part with
      | '0' :: 'x' :: rest => (16, rest)
      | '0' :: 'X' :: rest => (16, rest)
      | '0' :: rest@(_ :: _) => (8, rest)
      | _ => (10, part)
    if digits.isEmpty then some (some 0)
    else
      let values := digits.map (radixDigit radix)
      if values.all Option.isSome then
        let n := values.foldl (fun acc d => acc * radix + d.getD 0) 0
        some (if n < Nat.pow 2 32 then some n else none)
      else none

/-- Whether a domain's last label (ignoring one trailing dot) is a number, so that the whole
domain must be an IPv4 address. -/
def endsInNumber (cs : List Char) : Bool :=
  let parts := (splitWhere (· == '.') cs).reverse
  let last? := match parts with
    | [] :: prev :: _ => some prev
    | [] :: [] => none
    | last :: _ => some last
    | [] => none
  match last? with
  | none => false
  | some last =>
    (!last.isEmpty && last.all fun c => '0' ≤ c ∧ c ≤ '9') || (ipv4Number last).isSome

/-- Read an IPv4 address. -/
def parseIpv4 (cs : List Char) : Except ParseError Nat := do
  let parts := splitWhere (· == '.') cs
  let parts := if parts.getLast? == some [] then parts.dropLast else parts
  if parts.length > 4 then throw .invalidIpv4
  let numbers ← parts.mapM fun p =>
    match ipv4Number p with
    | some (some n) => pure n
    | _ => throw ParseError.invalidIpv4
  match numbers.reverse with
  | [] => throw .invalidIpv4
  | last :: revFront =>
    let front := revFront.reverse
    if last ≥ Nat.pow 256 (4 - front.length) then throw .invalidIpv4
    if front.any (· > 255) then throw .invalidIpv4
    pure (front.zipIdx.foldl (fun acc (n, i) => acc + n * Nat.pow 256 (3 - i)) last)

/-- An IPv4 address in dotted decimal. -/
def ipv4Text (a : Nat) : String :=
  ".".intercalate ([3, 2, 1, 0].map fun k => toString (a / Nat.pow 256 k % 256))

/-! ## IPv6 -/

/-- Up to four hex digits at the front: their value, how many, and the rest. -/
def hexPiece (cs : List Char) : Nat × Nat × List Char :=
  let ds := (cs.take 4).takeWhile fun c => (radixDigit 16 c).isSome
  (ds.foldl (fun acc c => acc * 16 + (radixDigit 16 c).getD 0) 0, ds.length, cs.drop ds.length)

/-- Where reading an IPv6 address stands: the eight pieces, the position of the next piece,
and the position after `::` once one has been read. A `::` takes up a position of its own, left
zero, so at most seven pieces may stand beside it. -/
structure Ipv6Reader where
  pieces : List Nat := List.replicate 8 0
  pointer : Nat := 0
  compress : Option Nat := none

namespace Ipv6Reader

/-- Write the piece at the current position and move on. -/
def push (r : Ipv6Reader) (value : Nat) : Ipv6Reader :=
  { r with pieces := r.pieces.set r.pointer value, pointer := r.pointer + 1 }

/-- Read hex pieces separated by colons, and at most one `::`. Stops at the end of the text, or
at a piece followed by `.`, which starts a dotted IPv4 tail (returned from the start of that
piece). A piece or `::` once all eight positions are taken is refused. -/
def hexPieces (r : Ipv6Reader) (cs : List Char) :
    Except ParseError (Ipv6Reader × Option (List Char)) :=
  match cs with
  | [] => pure (r, none)
  | c :: rest =>
    if r.pointer = 8 then throw .invalidIpv6
    else if c = ':' then
      if r.compress.isSome then throw .invalidIpv6
      else hexPieces { r with pointer := r.pointer + 1, compress := some (r.pointer + 1) } rest
    else
      let (value, count, _) := hexPiece (c :: rest)
      match _hdrop : (c :: rest).drop count with
      | [] => pure (r.push value, none)
      | '.' :: _ =>
        if count = 0 || r.pointer > 6 then throw .invalidIpv6 else pure (r, some (c :: rest))
      | ':' :: more =>
        if more.isEmpty then throw .invalidIpv6 else hexPieces (r.push value) more
      | _ :: _ => throw .invalidIpv6
termination_by cs.length
decreasing_by
  all_goals first
    | (simp only [List.length_cons]; omega)
    | (have hl := congrArg List.length _hdrop
       simp only [List.length_drop, List.length_cons] at hl
       simp only [List.length_cons]
       omega)

/-- The digits of one number of an IPv4 tail: no leading zero before another digit, and at most
255; `none` when there are no digits. -/
def octet (digits : List Char) : Except ParseError (Option Nat) :=
  digits.foldlM (fun acc d => do
    let v := d.toNat - '0'.toNat
    match acc with
    | none => pure (some v)
    | some 0 => throw .invalidIpv6
    | some n => if n * 10 + v > 255 then throw .invalidIpv6 else pure (some (n * 10 + v))) none

/-- Read the dotted IPv4 tail: numbers folded byte by byte into the pieces at the current
position, which moves on after the second and the fourth number. Each of the first three must be
followed by `.`; after the fourth, the character that follows it is skipped and nothing may come
after that. `dots` counts the numbers read. -/
def ipv4Tail (r : Ipv6Reader) (dots : Nat) (cs : List Char) : Except ParseError Ipv6Reader :=
  match cs with
  | [] => pure r
  | c :: rest => do
    let digits := (c :: rest).takeWhile Char.isDigit
    let after := (c :: rest).dropWhile Char.isDigit
    let value ← octet digits
    if dots < 3 && after.head? != some '.' then throw .invalidIpv6
    match value with
    | none => throw .invalidIpv6
    | some v =>
      let r := { r with pieces := r.pieces.set r.pointer (r.pieces.getD r.pointer 0 * 256 + v) }
      let r := if dots = 1 ∨ dots = 3 then { r with pointer := r.pointer + 1 } else r
      if dots = 3 && after.length > 1 then throw .invalidIpv6
      ipv4Tail r (dots + 1) (after.drop 1)
termination_by cs.length
decreasing_by
  have h1 : ((c :: rest).dropWhile Char.isDigit).length ≤ (c :: rest).length :=
    (List.dropWhile_suffix Char.isDigit).length_le
  simp only [List.length_drop, List.length_cons] at *
  omega

/-- Exchange the pieces at two positions. -/
def swapPieces (pieces : List Nat) (i j : Nat) : List Nat :=
  (pieces.set i (pieces.getD j 0)).set j (pieces.getD i 0)

/-- Expand `::`: the pieces from the compressed position up to the pointer move to the end, one
at a time from the last, exchanging places with what stands there. -/
def moveToEnd (pieces : List Nat) (target compress : Nat) : Nat → List Nat
  | 0 => pieces
  | swaps + 1 => moveToEnd (swapPieces pieces target (compress + swaps)) (target - 1) compress swaps

end Ipv6Reader

/-- Read an IPv6 address (the text between the brackets). -/
def parseIpv6 (cs : List Char) : Except ParseError (List Nat) := do
  if cs.length < 2 then throw .invalidIpv6
  let (start, r) ← match cs with
    | ':' :: ':' :: rest => pure (rest, ({ pointer := 1, compress := some 1 } : Ipv6Reader))
    | ':' :: _ => throw ParseError.invalidIpv6
    | _ => pure (cs, ({} : Ipv6Reader))
  let (r, tail) ← r.hexPieces start
  let r ← match tail with
    | some t => r.ipv4Tail 0 t
    | none => pure r
  match r.compress with
  | some c => pure (Ipv6Reader.moveToEnd r.pieces 7 c (r.pointer - c))
  | none => if r.pointer = 8 then pure r.pieces else throw .invalidIpv6

/-- The first longest run of at least two zero pieces, as `(start, length)`. -/
def longestZeroRun (pieces : List Nat) : Option (Nat × Nat) :=
  let runs := (List.range 8).filterMap fun i =>
    if pieces.getD i 1 == 0 && (i == 0 || pieces.getD (i - 1) 1 != 0) then
      some (i, ((pieces.drop i).takeWhile (· == 0)).length)
    else none
  runs.foldl (fun best r =>
    if r.2 < 2 then best
    else match best with
      | some b => if r.2 > b.2 then some r else best
      | none => some r) none

/-- Lowercase hex digits of a piece. -/
def pieceText (n : Nat) : String := String.ofList (Nat.toDigits 16 n)

/-- An IPv6 address in its shortest form, without brackets. -/
def ipv6Text (pieces : List Nat) : String :=
  match longestZeroRun pieces with
  | none => ":".intercalate (pieces.map pieceText)
  | some (start, len) =>
    ":".intercalate ((pieces.take start).map pieceText) ++ "::" ++
      ":".intercalate ((pieces.drop (start + len)).map pieceText)

/-- The host of a special scheme. -/
def parseSpecialHost (cs : List Char) : Except ParseError Host := do
  match cs with
  | '[' :: rest =>
    match rest.getLast? with
    | some ']' => pure (.ipv6 (← parseIpv6 rest.dropLast))
    | _ => throw .invalidIpv6
  | _ =>
    let bytes := percentDecode (String.ofList cs).toUTF8
    let text ← match String.fromUTF8? bytes with
      | some t => pure t
      | none => throw ParseError.idna
    let ascii ← match domainToAscii text.toList with
      | some a => pure a
      | none => throw ParseError.idna
    if ascii.isEmpty then throw .emptyHost
    if endsInNumber ascii.toList then pure (.ipv4 (← parseIpv4 ascii.toList))
    else pure (.domain ascii)

/-- Whether a character may not appear in an opaque host. -/
def forbiddenInHost (c : Char) : Bool :=
  c.toNat == 0 || c == '\t' || c == '\n' || c == '\r' || c == ' ' || c == '#' || c == '/' ||
    c == ':' || c == '<' || c == '>' || c == '?' || c == '@' || c == '[' || c == '\\' ||
    c == ']' || c == '^' || c == '|'

/-- The host of a non-special scheme; `none` for an empty one. -/
def parseOpaqueHost (cs : List Char) : Except ParseError (Option Host) := do
  match cs with
  | '[' :: rest =>
    match rest.getLast? with
    | some ']' => pure (some (.ipv6 (← parseIpv6 rest.dropLast)))
    | _ => throw .invalidIpv6
  | _ =>
    if cs.any forbiddenInHost then throw .invalidDomainCharacter
    let text := encodeWith controls cs
    pure (if text.isEmpty then none else some (.domain text))

/-- The text of a host. -/
def Host.text : Host → String
  | .domain d => d
  | .ipv4 a => ipv4Text a
  | .ipv6 p => "[" ++ ipv6Text p ++ "]"

end ChunkStore.Url
