import ChunkStore.Json.Error
/-!
# Scanning JSON text

Pure functions from a byte index to the index after a token: blanks, literal words, strings and
numbers, and skipping a whole value. A fault is reported with the index whose line and column
name it (`Slip`): the index after the offending byte for most faults, one past the next byte for
faults noticed by looking ahead.

Numbers follow the usual reading of JSON numbers into machine values: an integer without point
or exponent is kept exactly while it fits in 64 bits (negative ones down to `-2^63`); anything
else becomes a double built from at most nineteen significant digits and a power of ten, and a
finite mantissa with a huge positive exponent is out of range rather than infinite.
-/

namespace ChunkStore.Json

/-- A syntax fault and the index that locates it. -/
structure Slip where
  fault : SyntaxFault
  index : Nat

/-- A number as scanned. -/
inductive Scanned where
  | unsigned (n : Nat)
  | signed (i : Int)
  | float (x : Float)

/-- The byte at `i`, if there is one. -/
def byteAt? (bs : ByteArray) (i : Nat) : Option UInt8 :=
  if h : i < bs.size then some bs[i] else none

/-- Whether a byte is an ASCII digit. -/
def isDigitByte (b : UInt8) : Bool := 48 ≤ b && b ≤ 57

/-- The byte at `i` if it is a digit. -/
def digitAt? (bs : ByteArray) (i : Nat) : Option Nat :=
  match byteAt? bs i with
  | some b => if isDigitByte b then some (b.toNat - 48) else none
  | none => none

/-- The index that a look-ahead fault at `i` reports: one past it, within the text. -/
def lookIndex (bs : ByteArray) (i : Nat) : Nat := min bs.size (i + 1)

/-- The first index at or after `i` that is not a blank (space, tab, newline, return). -/
def skipBlanks (bs : ByteArray) (i : Nat) : Nat :=
  if h : i < bs.size then
    let b := bs[i]
    if b == 32 || b == 10 || b == 9 || b == 13 then skipBlanks bs (i + 1) else i
  else i
termination_by bs.size - i

/-- The first index at or after `i` that is not a digit. -/
def skipDigits (bs : ByteArray) (i : Nat) : Nat :=
  if h : i < bs.size then
    if isDigitByte bs[i] then skipDigits bs (i + 1) else i
  else i
termination_by bs.size - i

/-- The line and column of index `i`: lines are counted from 1, columns are the bytes since the
last newline before `i`. -/
def positionOf (bs : ByteArray) (i : Nat) : Position :=
  let before := (bs.extract 0 i).toList
  let lineStart := before.length - (before.reverse.takeWhile (· != 10)).length
  ⟨1 + (before.take lineStart).count 10, i - lineStart⟩

/-- Read the rest of a literal word (`ull` after `n`, …) at `i`. -/
def scanWord (bs : ByteArray) (i : Nat) : List UInt8 → Except Slip Nat
  | [] => .ok i
  | w :: rest =>
    match byteAt? bs i with
    | none => .error ⟨.eofValue, i⟩
    | some b => if b == w then scanWord bs (i + 1) rest else .error ⟨.expectedIdent, i + 1⟩

/-- The value of a hex digit byte. -/
def hexValue (b : UInt8) : Option Nat :=
  if 48 ≤ b && b ≤ 57 then some (b.toNat - 48)
  else if 97 ≤ b && b ≤ 102 then some (b.toNat - 87)
  else if 65 ≤ b && b ≤ 70 then some (b.toNat - 55)
  else none

/-- Four hex digits at `i`, and the index after them. Fewer than four bytes left is the end of
the string; four bytes that are not all hex digits are a bad escape. -/
def scanHex4 (bs : ByteArray) (i : Nat) : Except Slip (Nat × Nat) :=
  if i + 4 ≤ bs.size then
    let ds := [0, 1, 2, 3].map fun k => (byteAt? bs (i + k)).bind hexValue
    match ds with
    | [some a, some b, some c, some d] => .ok (((a * 16 + b) * 16 + c) * 16 + d, i + 4)
    | _ => .error ⟨.invalidEscape, i + 4⟩
  else .error ⟨.eofString, bs.size⟩

/-- The UTF-8 bytes of a code point. -/
def utf8Of (c : Nat) : ByteArray := (String.singleton (Char.ofNat c)).toUTF8

/-- A `\u` escape at `i` (after the `u`): a code point outside the surrogates, or a leading
surrogate followed at once by `\u` and a trailing one. -/
def scanUnicodeEscape (bs : ByteArray) (i : Nat) : Except Slip (ByteArray × Nat) := do
  let (n, j) ← scanHex4 bs i
  if 0xDC00 ≤ n ∧ n ≤ 0xDFFF then throw ⟨.loneLeadingSurrogate, j⟩
  if n < 0xD800 ∨ 0xDBFF < n then return (utf8Of n, j)
  match byteAt? bs j with
  | none => throw ⟨.eofString, j⟩
  | some b =>
    if b != 92 then throw ⟨.unexpectedEndOfHexEscape, j + 1⟩
    match byteAt? bs (j + 1) with
    | none => throw ⟨.eofString, j + 1⟩
    | some u =>
      if u != 117 then throw ⟨.unexpectedEndOfHexEscape, j + 2⟩
      let (n2, k) ← scanHex4 bs (j + 2)
      if n2 < 0xDC00 ∨ 0xDFFF < n2 then throw ⟨.loneLeadingSurrogate, k⟩
      return (utf8Of (((n - 0xD800) * 1024 ||| (n2 - 0xDC00)) + 0x10000), k)

/-- The byte a one-letter escape stands for. -/
def simpleEscape (b : UInt8) : Option UInt8 :=
  if b == 34 then some 34
  else if b == 92 then some 92
  else if b == 47 then some 47
  else if b == 98 then some 8
  else if b == 102 then some 12
  else if b == 110 then some 10
  else if b == 114 then some 13
  else if b == 116 then some 9
  else none

/-- The body of a string from `i` (after the opening quote), collected into `acc`, and the index
after the closing quote. Each step consumes at least one byte, so `fuel` of the text's length
plus one suffices. -/
def scanStringBody (bs : ByteArray) (i : Nat) (acc : ByteArray) : Nat → Except Slip (ByteArray × Nat)
  | 0 => .error ⟨.eofString, bs.size⟩
  | fuel + 1 =>
    match byteAt? bs i with
    | none => .error ⟨.eofString, bs.size⟩
    | some b =>
      if b == 34 then .ok (acc, i + 1)
      else if b == 92 then
        match byteAt? bs (i + 1) with
        | none => .error ⟨.eofString, i + 1⟩
        | some c =>
          if c == 117 then
            match scanUnicodeEscape bs (i + 2) with
            | .ok (u, j) => scanStringBody bs j (acc ++ u) fuel
            | .error e => .error e
          else
            match simpleEscape c with
            | some e => scanStringBody bs (i + 2) (acc.push e) fuel
            | none => .error ⟨.invalidEscape, i + 2⟩
      else if b < 32 then .error ⟨.controlCharacter, i + 1⟩
      else scanStringBody bs (i + 1) (acc.push b) fuel

/-- A string from `i` (after the opening quote) and the index after the closing quote. -/
def scanString (bs : ByteArray) (i : Nat) : Except Slip (String × Nat) :=
  match scanStringBody bs i ByteArray.empty (bs.size + 1) with
  | .ok (body, j) => .ok ((String.fromUTF8? body).getD "", j)
  | .error e => .error e

/-- Skip the body of a string from `i`: escapes are checked for form only. -/
def skipStringBody (bs : ByteArray) (i : Nat) : Nat → Except Slip Nat
  | 0 => .error ⟨.eofString, bs.size⟩
  | fuel + 1 =>
    match byteAt? bs i with
    | none => .error ⟨.eofString, bs.size⟩
    | some b =>
      if b == 34 then .ok (i + 1)
      else if b == 92 then
        match byteAt? bs (i + 1) with
        | none => .error ⟨.eofString, i + 1⟩
        | some c =>
          if c == 117 then
            match scanHex4 bs (i + 2) with
            | .ok (_, j) => skipStringBody bs j fuel
            | .error e => .error e
          else if (simpleEscape c).isSome then skipStringBody bs (i + 2) fuel
          else .error ⟨.invalidEscape, i + 2⟩
      else if b < 32 then .error ⟨.controlCharacter, i⟩
      else skipStringBody bs (i + 1) fuel

/-- The largest 64-bit unsigned integer. -/
def u64Max : Nat := Nat.pow 2 64 - 1

/-- The largest 32-bit signed integer. -/
def i32Max : Nat := Nat.pow 2 31 - 1

/-- Clamp to the 32-bit signed range. -/
def clampI32 (x : Int) : Int := max (-(Nat.pow 2 31 : Int)) (min (Nat.pow 2 31 - 1 : Int) x)

/-- `10^k` as the nearest double. -/
def pow10 (k : Nat) : Float := Float.ofScientific 1 false k

/-- `significand · 10^exponent` as a double: the significand rounded to a double and then
multiplied or divided by a power of ten (at most `10^308` at a time). A finite significand
that overflows is out of range; `errAt` locates that fault. -/
def floatOfParts (positive : Bool) (significand : Nat) (exponent : Int) (errAt : Nat) :
    Except Slip Float :=
  let rec go (f : Float) (e : Int) : Nat → Except Slip Float
    | 0 => .ok f
    | fuel + 1 =>
      if e.natAbs ≤ 308 then
        let p := pow10 e.natAbs
        if 0 ≤ e then
          let g := f * p
          if g.isInf then .error ⟨.numberOutOfRange, errAt⟩ else .ok g
        else .ok (f / p)
      else if f == 0.0 then .ok f
      else if 0 ≤ e then .error ⟨.numberOutOfRange, errAt⟩
      else go (f / pow10 308) (e + 308) fuel
  match go significand.toUInt64.toFloat exponent 8 with
  | .ok f => .ok (if positive then f else -f)
  | .error e => .error e

/-- The exponent part at `i` (on the `e`), applied to `significand · 10^start`. -/
def scanExponent (bs : ByteArray) (positive : Bool) (significand : Nat) (start : Int) (i : Nat) :
    Except Slip (Float × Nat) :=
  let (positiveExp, p) := match byteAt? bs (i + 1) with
    | some 43 => (true, i + 2)
    | some 45 => (false, i + 2)
    | _ => (true, i + 1)
  match byteAt? bs p with
  | none => .error ⟨.eofValue, p⟩
  | some c =>
    if !isDigitByte c then .error ⟨.invalidNumber, p + 1⟩
    else
      let rec digits (exp : Nat) (q : Nat) : Nat → Except Slip (Float × Nat)
        | 0 => .error ⟨.eofValue, bs.size⟩
        | fuel + 1 =>
          match digitAt? bs q with
          | some d =>
            if exp * 10 + d > i32Max then
              -- an exponent past 32 bits: out of range upwards, zero downwards
              if significand != 0 && positiveExp then .error ⟨.numberOutOfRange, q + 1⟩
              else .ok (if positive then 0.0 else -0.0, skipDigits bs (q + 1))
            else digits (exp * 10 + d) (q + 1) fuel
          | none =>
            let final := if positiveExp then clampI32 (start + exp) else clampI32 (start - exp)
            match floatOfParts positive significand final q with
            | .ok f => .ok (f, q)
            | .error e => .error e
      digits (c.toNat - 48) (p + 1) (bs.size + 1)

/-- The fraction at `i` (on the point) of a number whose digits so far are `significand` with
`before` digits dropped from the integer part. Digits past the 64-bit significand are read and
ignored. -/
def scanFraction (bs : ByteArray) (positive : Bool) (significand : Nat) (before : Int) (i : Nat) :
    Except Slip (Float × Nat) :=
  let rec finish (sig : Nat) (exp : Int) (m : Nat) : Except Slip (Float × Nat) :=
    match byteAt? bs m with
    | some 101 | some 69 => scanExponent bs positive sig exp m
    | _ =>
      match floatOfParts positive sig exp m with
      | .ok f => .ok (f, m)
      | .error e => .error e
  let rec digits (sig : Nat) (after : Nat) (m : Nat) : Nat → Except Slip (Float × Nat)
    | 0 => .error ⟨.eofValue, bs.size⟩
    | fuel + 1 =>
      match digitAt? bs m with
      | some d =>
        if sig * 10 + d > u64Max then finish sig (before - after) (skipDigits bs m)
        else digits (sig * 10 + d) (after + 1) (m + 1) fuel
      | none =>
        if after = 0 then
          match byteAt? bs m with
          | some _ => .error ⟨.invalidNumber, lookIndex bs m⟩
          | none => .error ⟨.eofValue, lookIndex bs m⟩
        else finish sig (before - after) m
  digits significand 0 (i + 1) (bs.size + 1)

/-- What follows the integer digits at `k`: a fraction, an exponent, or the end of an integer. -/
def scanAfterInteger (bs : ByteArray) (positive : Bool) (significand : Nat) (k : Nat) :
    Except Slip (Scanned × Nat) :=
  match byteAt? bs k with
  | some 46 => (scanFraction bs positive significand 0 k).map fun (f, j) => (.float f, j)
  | some 101 | some 69 => (scanExponent bs positive significand 0 k).map fun (f, j) => (.float f, j)
  | _ =>
    if positive then .ok (.unsigned significand, k)
    else if significand = 0 then .ok (.float (-0.0), k)
    else if significand ≤ Nat.pow 2 63 then .ok (.signed (-(significand : Int)), k)
    else .ok (.float (-(significand.toUInt64.toFloat)), k)

/-- Integer digits past 64 bits from `m`: each one raises the exponent. -/
def scanLongInteger (bs : ByteArray) (positive : Bool) (significand : Nat) (m : Nat) :
    Except Slip (Scanned × Nat) :=
  let end_ := skipDigits bs m
  let exp : Int := end_ - m
  let result := match byteAt? bs end_ with
    | some 46 => scanFraction bs positive significand exp end_
    | some 101 | some 69 => scanExponent bs positive significand exp end_
    | _ =>
      match floatOfParts positive significand exp end_ with
      | .ok f => .ok (f, end_)
      | .error e => .error e
  result.map fun (f, j) => (.float f, j)

/-- A number at `i` (after any minus sign): an integer part without leading zeros, then an
optional fraction and exponent. -/
def scanNumber (bs : ByteArray) (positive : Bool) (i : Nat) : Except Slip (Scanned × Nat) :=
  match byteAt? bs i with
  | none => .error ⟨.eofValue, i⟩
  | some c =>
    if c == 48 then
      match digitAt? bs (i + 1) with
      | some _ => .error ⟨.invalidNumber, lookIndex bs (i + 1)⟩
      | none => scanAfterInteger bs positive 0 (i + 1)
    else if isDigitByte c then
      let rec digits (sig : Nat) (k : Nat) : Nat → Except Slip (Scanned × Nat)
        | 0 => .error ⟨.eofValue, bs.size⟩
        | fuel + 1 =>
          match digitAt? bs k with
          | some d =>
            if sig * 10 + d > u64Max then scanLongInteger bs positive sig k
            else digits (sig * 10 + d) (k + 1) fuel
          | none => scanAfterInteger bs positive sig k
      digits (c.toNat - 48) (i + 1) (bs.size + 1)
    else .error ⟨.invalidNumber, i + 1⟩

/-- Skip an exponent at `i` (on the `e`). -/
def skipExponent (bs : ByteArray) (i : Nat) : Except Slip Nat :=
  let p := match byteAt? bs (i + 1) with
    | some 43 | some 45 => i + 2
    | _ => i + 1
  match byteAt? bs p with
  | some c => if isDigitByte c then .ok (skipDigits bs (p + 1)) else .error ⟨.invalidNumber, p + 1⟩
  | none => .error ⟨.invalidNumber, p⟩

/-- Skip a number at `i` (after any minus sign), checking its form only. -/
def skipNumber (bs : ByteArray) (i : Nat) : Except Slip Nat :=
  let afterInt : Except Slip Nat :=
    match byteAt? bs i with
    | some 48 =>
      match digitAt? bs (i + 1) with
      | some _ => .error ⟨.invalidNumber, lookIndex bs (i + 1)⟩
      | none => .ok (i + 1)
    | some c => if isDigitByte c then .ok (skipDigits bs (i + 1)) else .error ⟨.invalidNumber, i + 1⟩
    | none => .error ⟨.invalidNumber, i⟩
  match afterInt with
  | .error e => .error e
  | .ok k =>
    match byteAt? bs k with
    | some 46 =>
      let m := skipDigits bs (k + 1)
      if m = k + 1 then .error ⟨.invalidNumber, lookIndex bs m⟩
      else
        match byteAt? bs m with
        | some 101 | some 69 => skipExponent bs m
        | _ => .ok m
    | some 101 | some 69 => skipExponent bs k
    | _ => .ok k

/-- Skip one whole value at `i`, nested arrays and objects included, checking its syntax. Open
containers are kept on a stack (`true` for an object). -/
def skipValue (bs : ByteArray) (i : Nat) : Except Slip Nat :=
  value i [] (bs.size + 1)
where
  /-- One value from `i` with the open containers `stack`. -/
  value (i : Nat) (stack : List Bool) : Nat → Except Slip Nat
    | 0 => .error ⟨.eofValue, bs.size⟩
    | fuel + 1 =>
      let p := skipBlanks bs i
      let opened : Except Slip (Option Bool × Nat) :=
        match byteAt? bs p with
        | none => .error ⟨.eofValue, lookIndex bs p⟩
        | some b =>
          if b == 110 then (scanWord bs (p + 1) [117, 108, 108]).map (none, ·)
          else if b == 116 then (scanWord bs (p + 1) [114, 117, 101]).map (none, ·)
          else if b == 102 then (scanWord bs (p + 1) [97, 108, 115, 101]).map (none, ·)
          else if b == 45 then (skipNumber bs (p + 1)).map (none, ·)
          else if isDigitByte b then (skipNumber bs p).map (none, ·)
          else if b == 34 then (skipStringBody bs (p + 1) (bs.size + 1)).map (none, ·)
          else if b == 91 then .ok (some false, p + 1)
          else if b == 123 then .ok (some true, p + 1)
          else .error ⟨.expectedValue, lookIndex bs p⟩
      match opened with
      | .error e => .error e
      | .ok (frame?, j) =>
        let start : Option (Bool × Bool × List Bool) :=
          match frame? with
          | some f => some (false, f, stack)
          | none =>
            match stack with
            | f :: rest => some (true, f, rest)
            | [] => none
        match start with
        | none => .ok j
        | some (acceptComma, frame, rest) =>
          match closers j acceptComma frame rest (bs.size + 1) with
          | .error e => .error e
          | .ok (.inl done) => .ok done
          | .ok (.inr (k, frame, rest)) =>
            if frame then
              let r := skipBlanks bs k
              match byteAt? bs r with
              | none => .error ⟨.eofObject, lookIndex bs r⟩
              | some 34 =>
                match skipStringBody bs (r + 1) (bs.size + 1) with
                | .error e => .error e
                | .ok r' =>
                  let s := skipBlanks bs r'
                  match byteAt? bs s with
                  | some 58 => value (s + 1) (frame :: rest) fuel
                  | some _ => .error ⟨.expectedColon, lookIndex bs s⟩
                  | none => .error ⟨.eofObject, lookIndex bs s⟩
              | some _ => .error ⟨.keyMustBeString, lookIndex bs r⟩
            else value k (frame :: rest) fuel
  /-- After a value inside `frame`: close containers while their closing bracket follows, and
  stop after a comma (or before the first item of a fresh container). `inl` is the end of the
  outermost value; `inr` carries the index and the container the next value goes into. -/
  closers (j : Nat) (acceptComma : Bool) (frame : Bool) (rest : List Bool) :
      Nat → Except Slip (Nat ⊕ (Nat × Bool × List Bool))
    | 0 => .error ⟨.eofValue, bs.size⟩
    | fuel + 1 =>
      let q := skipBlanks bs j
      match byteAt? bs q with
      | none => .error ⟨if frame then .eofObject else .eofList, lookIndex bs q⟩
      | some b =>
        if b == 44 && acceptComma then .ok (.inr (q + 1, frame, rest))
        else if (b == 93 && !frame) || (b == 125 && frame) then
          match rest with
          | [] => .ok (.inl (q + 1))
          | f :: rest' => closers (q + 1) true f rest' fuel
        else if acceptComma then
          .error ⟨if frame then .expectedObjectCommaOrEnd else .expectedListCommaOrEnd,
            lookIndex bs q⟩
        else .ok (.inr (q, frame, rest))

end ChunkStore.Json
