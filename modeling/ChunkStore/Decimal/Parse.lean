/-!
# Reading numbers from text

Integers: an optional `+`, then digits of the radix, nothing else; `-` is not a digit of an
unsigned number. The text is read left to right and the first fault decides the error: a
character that is no digit, or a value that no longer fits below the bound.

Decimals: an optional sign, then `inf`, `infinity` or `nan` in any case, or digits with an
optional point and an optional exponent, with at least one digit before the exponent. The value
is the nearest double.
-/

namespace ChunkStore.Decimal

/-- Why a text is not an integer of a given width. -/
inductive IntError where
  | empty
  | invalidDigit
  | overflow
  deriving Repr, DecidableEq

/-- The wording of an integer error. -/
def IntError.message : IntError → String
  | .empty => "cannot parse integer from empty string"
  | .invalidDigit => "invalid digit found in string"
  | .overflow => "number too large to fit in target type"

/-- The value of one digit in the given radix (up to 36), if it is one. -/
def digitValue (radix : Nat) (c : Char) : Option Nat :=
  let v :=
    if '0' ≤ c ∧ c ≤ '9' then some (c.toNat - '0'.toNat)
    else if 'a' ≤ c ∧ c ≤ 'z' then some (c.toNat - 'a'.toNat + 10)
    else if 'A' ≤ c ∧ c ≤ 'Z' then some (c.toNat - 'A'.toNat + 10)
    else none
  match v with
  | some d => if d < radix then some d else none
  | none => none

/-- Fold the digits into a value below `bound`, failing at the first non-digit or at the first
step past the bound. -/
def accumulateDigits (radix bound : Nat) : Nat → List Char → Except IntError Nat
  | acc, [] => .ok acc
  | acc, c :: rest =>
    match digitValue radix c with
    | none => .error .invalidDigit
    | some d =>
      let next := acc * radix + d
      if next < bound then accumulateDigits radix bound next rest else .error .overflow

/-- Read an unsigned integer below `bound` in `radix`. -/
def parseUnsigned (radix bound : Nat) (s : String) : Except IntError Nat :=
  match s.toList with
  | [] => .error .empty
  | ['+'] => .error .invalidDigit
  | ['-'] => .error .invalidDigit
  | '+' :: rest => accumulateDigits radix bound 0 rest
  | cs => accumulateDigits radix bound 0 cs

/-- Read a 32-bit unsigned integer in `radix`. -/
def parseU32 (radix : Nat) (s : String) : Except IntError Nat := parseUnsigned radix (Nat.pow 2 32) s

/-- Read a 64-bit unsigned decimal integer. -/
def parseU64 (s : String) : Except IntError Nat := parseUnsigned 10 (Nat.pow 2 64) s

/-- Whether two texts agree ignoring ASCII case. -/
def equalsIgnoreCase (a b : String) : Bool :=
  a.toList.map Char.toLower == b.toList.map Char.toLower

/-- `num / den` rounded to the nearest natural, ties to even. -/
def roundHalfEven (num den : Nat) : Nat :=
  let q := num / den
  let r := num % den
  if 2 * r > den then q + 1
  else if 2 * r < den then q
  else if q % 2 = 0 then q else q + 1

/-- `⌊log₂ (num / den)⌋` for positive `num` and `den`. -/
def binaryExponent (num den : Nat) : Int :=
  let q : Int := (Nat.log2 num : Int) - Nat.log2 den
  let fits := num * Nat.pow 2 (-q).toNat ≥ den * Nat.pow 2 q.toNat
  if fits then q else q - 1

/-- The double nearest to the positive fraction `num / den`, ties to even: the significand is
rounded at the precision of the binade (or of the subnormals), and a carry into the next
binade or past the largest exponent is handled. -/
def nearestDouble (num den : Nat) : Float :=
  let q := binaryExponent num den
  let e2 : Int := if q < -1022 then -1074 else q - 52
  let sig := roundHalfEven (num * Nat.pow 2 (-e2).toNat) (den * Nat.pow 2 e2.toNat)
  let (sig, e2) := if sig = Nat.pow 2 53 then (Nat.pow 2 52, e2 + 1) else (sig, e2)
  if e2 > 971 then Float.ofBits 0x7FF0000000000000
  else if sig < Nat.pow 2 52 then Float.ofBits sig.toUInt64
  else Float.ofBits (((e2 + 1075).toNat * Nat.pow 2 52 + (sig - Nat.pow 2 52)).toUInt64)

/-- The nearest double to `mantissa · 10^exponent`, with exponents far outside the range of
doubles settled without computing the power. -/
def decimalToFloat (mantissa : Nat) (exponent : Int) : Float :=
  if mantissa = 0 then 0.0
  else
    let lead := exponent + (toString mantissa).length
    if lead > 310 then Float.ofBits 0x7FF0000000000000
    else if lead < -330 then 0.0
    else if exponent ≥ 0 then nearestDouble (mantissa * Nat.pow 10 exponent.toNat) 1
    else nearestDouble mantissa (Nat.pow 10 (-exponent).toNat)

/-- Digits with an optional point and an optional exponent, as `(mantissa, exponent)`. -/
def parseDecimalBody (cs : List Char) : Option (Nat × Int) :=
  let intDigits := cs.takeWhile Char.isDigit
  let rest := cs.dropWhile Char.isDigit
  let (fracDigits, rest) := match rest with
    | '.' :: r => (r.takeWhile Char.isDigit, r.dropWhile Char.isDigit)
    | r => ([], r)
  if intDigits.isEmpty && fracDigits.isEmpty then none
  else
    let digits := intDigits ++ fracDigits
    let mantissa := digits.foldl (fun acc c => acc * 10 + (c.toNat - '0'.toNat)) 0
    let scale : Int := -(fracDigits.length : Int)
    match rest with
    | [] => some (mantissa, scale)
    | e :: r =>
      if e = 'e' ∨ e = 'E' then
        let (neg, ds) := match r with
          | '+' :: d => (false, d)
          | '-' :: d => (true, d)
          | d => (false, d)
        if ds.isEmpty || !ds.all Char.isDigit then none
        else
          let v : Nat := ds.foldl (fun acc c => acc * 10 + (c.toNat - '0'.toNat)) 0
          some (mantissa, scale + (if neg then -(v : Int) else v))
      else none

/-- Read a double: sign, then `inf`/`infinity`/`nan` or a decimal. -/
def parseFloat (s : String) : Option Float :=
  let cs := s.toList
  let (neg, body) := match cs with
    | '+' :: r => (false, r)
    | '-' :: r => (true, r)
    | r => (false, r)
  let word := String.ofList body
  let magnitude : Option Float :=
    if equalsIgnoreCase word "inf" || equalsIgnoreCase word "infinity" then
      some (Float.ofBits 0x7FF0000000000000)
    else if equalsIgnoreCase word "nan" then some (0.0 / 0.0)
    else (parseDecimalBody body).map fun (m, e) => decimalToFloat m e
  magnitude.map fun x => if neg then -x else x

end ChunkStore.Decimal
