import ChunkStore.Decimal.Shortest
/-!
# Writing a shortest decimal

Two layouts of the same digits. JSON numbers are positional while the leading digit stays below
`10^16` and above `10^-5`, keep a `.0` on whole numbers, and otherwise switch to `d.ddde±x`,
the exponent always signed. Human-readable values are always positional and drop the `.0`.
-/

namespace ChunkStore.Decimal

/-- `n` zeros. -/
def zeros (n : Nat) : String := String.ofList (List.replicate n '0')

/-- The digits of `d` in base ten. -/
def digitsText (d : Nat) : String := toString d

/-- JSON layout of a nonzero decimal, as `digits · 10^exponent`. With `kk` the position of the
decimal point relative to the first digit: whole numbers below `10^16` are written out with `.0`,
a point inside the first sixteen digits is written in place, down to four leading zeros after
the point the value stays positional, and anything else is scientific. -/
def Scientific.jsonText (s : Scientific) : String :=
  let ds := digitsText s.digits
  let len : Int := ds.length
  let k := s.exponent
  let kk := len + k
  if 0 ≤ k ∧ kk ≤ 16 then
    ds ++ zeros k.toNat ++ ".0"
  else if 0 < kk ∧ kk ≤ 16 then
    String.ofList (ds.toList.take kk.toNat) ++ "." ++ String.ofList (ds.toList.drop kk.toNat)
  else if -5 < kk ∧ kk ≤ 0 then
    "0." ++ zeros (-kk).toNat ++ ds
  else
    let mantissa := if len = 1 then ds
      else String.ofList (ds.toList.take 1) ++ "." ++ String.ofList (ds.toList.drop 1)
    mantissa ++ "e" ++ (if kk - 1 < 0 then "" else "+") ++ toString (kk - 1)

/-- Positional layout of a decimal: the digits, then zeros up to the point, or a point inside or
before them. No trailing `.0`. -/
def Scientific.plainText (s : Scientific) : String :=
  let ds := digitsText s.digits
  let len : Int := ds.length
  let k := s.exponent
  if 0 ≤ k then ds ++ zeros k.toNat
  else if -k < len then
    let cut := (len + k).toNat
    String.ofList (ds.toList.take cut) ++ "." ++ String.ofList (ds.toList.drop cut)
  else "0." ++ zeros (-k - len).toNat ++ ds

/-- Whether a float is neither infinite nor NaN. -/
def isFiniteFloat (x : Float) : Bool := !x.isNaN && !x.isInf

/-- Whether the sign bit of a float is set (so `-0.0` counts as negative). -/
def signBit (x : Float) : Bool := x.toBits >>> 63 == 1

/-- A float as a JSON number: shortest digits in the JSON layout, `0.0` for zero, and `null`
for values JSON cannot hold. -/
def jsonFloatText (x : Float) : String :=
  if !isFiniteFloat x then "null"
  else
    let sign := if signBit x then "-" else ""
    let s := shortestOf x
    if s.digits = 0 then sign ++ "0.0" else sign ++ s.jsonText

/-- A float in positional notation with the fewest digits that read back (`1.5`, `100`, `-0`,
`inf`, `NaN`). -/
def plainFloatText (x : Float) : String :=
  if x.isNaN then "NaN"
  else
    let sign := if signBit x then "-" else ""
    if x.isInf then sign ++ "inf"
    else sign ++ (shortestOf x).plainText

/-- A float as a value in a message: positional, with `.0` added when no point was written. -/
def pointedFloatText (x : Float) : String :=
  let t := plainFloatText x
  if isFiniteFloat x && !t.contains '.' then t ++ ".0" else t

end ChunkStore.Decimal
