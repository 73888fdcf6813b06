/-!
# Shortest decimal digits of a double

A finite double is `m · 2^e`. The reals that round back to it form an interval around it whose
ends are halfway to the neighbouring doubles; the ends belong to it exactly when `m` is even
(round half to even reads a tie back as the even neighbour).

`Binary.shortest` returns the decimal `d · 10^k` with the fewest digits inside that interval and,
among those, the one nearest to the value. All comparisons are exact `Nat` arithmetic on the
interval scaled by `4 / 2^e`, so nothing here depends on how floats are printed elsewhere.
-/

namespace ChunkStore.Decimal

/-- The magnitude of a finite double as `mantissa · 2^exponent`. `narrowBelow` records that the
gap to the next smaller double is half the gap to the next larger one (a power of two above the
smallest normal exponent). -/
structure Binary where
  mantissa : Nat
  exponent : Int
  narrowBelow : Bool
  deriving Repr, DecidableEq

/-- A decimal `digits · 10^exponent`. -/
structure Scientific where
  digits : Nat
  exponent : Int
  deriving Repr, DecidableEq

/-- The magnitude of the double with these bits (the sign bit is ignored). Infinities and NaNs
are not finite and are the caller's to exclude. -/
def Binary.ofBits (bits : UInt64) : Binary :=
  let frac := (bits &&& 0xFFFFFFFFFFFFF).toNat
  let biased := ((bits >>> 52) &&& 0x7FF).toNat
  if biased = 0 then ⟨frac, -1074, false⟩
  else ⟨frac + Nat.pow 2 52, (biased : Int) - 1075, frac = 0 && biased > 1⟩

/-- `n · 2^e` as a fraction `(numerator, denominator)` of naturals. -/
def scaleTwo (n : Nat) (e : Int) : Nat × Nat :=
  (n * Nat.pow 2 e.toNat, Nat.pow 2 (-e).toNat)

/-- Number of decimal digits of `n` (one for zero). -/
def digitCount (n : Nat) : Nat :=
  if h : n < 10 then 1 else digitCount (n / 10) + 1
termination_by n
decreasing_by omega

/-- The exponent of the leading decimal digit of the positive fraction `num / den`, that is
`⌊log₁₀ (num / den)⌋`. -/
def leadingExponent (num den : Nat) : Int :=
  if den ≤ num then (digitCount (num / den) : Int) - 1
  else
    -- the least `j` with `num · 10^j ≥ den`, which is the digit count of `⌈den / num⌉ - 1`
    let q := (den + num - 1) / num
    (0 : Int) - digitCount (q - 1)

/-- Compare `4 · d · 10^k` with `x · 2^e`, that is the decimal `d · 10^k` with the point `x` of
the interval grid whose unit is `2^e / 4`. -/
def compareGrid (d : Nat) (k : Int) (x : Nat) (e : Int) : Ordering :=
  compare (4 * d * Nat.pow 10 k.toNat * Nat.pow 2 (-e).toNat) (x * Nat.pow 2 e.toNat * Nat.pow 10 (-k).toNat)

/-- Whether `d · 10^k` lies in the interval of `b`. -/
def Binary.admits (b : Binary) (d : Nat) (k : Int) : Bool :=
  let lo := 4 * b.mantissa - (if b.narrowBelow then 1 else 2)
  let hi := 4 * b.mantissa + 2
  let inclusive := b.mantissa % 2 == 0
  let aboveLo := match compareGrid d k lo b.exponent with
    | .gt => true
    | .eq => inclusive
    | .lt => false
  let belowHi := match compareGrid d k hi b.exponent with
    | .lt => true
    | .eq => inclusive
    | .gt => false
  aboveLo && belowHi

/-- Drop trailing zero digits into the exponent. -/
def Scientific.trim (s : Scientific) : Scientific :=
  if h : s.digits ≠ 0 ∧ s.digits % 10 = 0 then
    Scientific.trim ⟨s.digits / 10, s.exponent + 1⟩
  else s
termination_by s.digits
decreasing_by omega

/-- The candidate with `n` significant digits for a value whose leading digit has exponent
`lead`: the two decimals on the grid `10^(lead - n + 1)` around the value, if either lies in the
interval; of two, the nearer, and on an exact tie the even one. -/
def Binary.candidate (b : Binary) (lead : Int) (n : Nat) : Option Scientific :=
  let k := lead - n + 1
  let num := b.mantissa * Nat.pow 2 b.exponent.toNat * Nat.pow 10 (-k).toNat
  let den := Nat.pow 2 (-b.exponent).toNat * Nat.pow 10 k.toNat
  let q := num / den
  let below := b.admits q k
  let above := num % den != 0 && b.admits (q + 1) k
  match below, above with
  | true, true =>
    -- twice the value against the midpoint `(2q + 1) · 10^k`
    match compare (2 * num) ((2 * q + 1) * den) with
    | .lt => some ⟨q, k⟩
    | .gt => some ⟨q + 1, k⟩
    | .eq => if q % 2 == 0 then some ⟨q, k⟩ else some ⟨q + 1, k⟩
  | true, false => some ⟨q, k⟩
  | false, true => some ⟨q + 1, k⟩
  | false, false => none

/-- Search digit counts `n, n + 1, …` for the first that has a candidate; `fuel` bounds the
count. Seventeen digits always suffice for a double. -/
def Binary.search (b : Binary) (lead : Int) (n : Nat) : Nat → Scientific
  | 0 =>
    let k := lead - n + 1
    ⟨b.mantissa * Nat.pow 2 b.exponent.toNat * Nat.pow 10 (-k).toNat / (Nat.pow 2 (-b.exponent).toNat * Nat.pow 10 k.toNat), k⟩
  | fuel + 1 =>
    match b.candidate lead n with
    | some s => s
    | none => b.search lead (n + 1) fuel

/-- The shortest decimal that reads back as `b`, nearest to it among the shortest, without
trailing zeros. Zero is `0 · 10^0`. -/
def Binary.shortest (b : Binary) : Scientific :=
  if b.mantissa = 0 then ⟨0, 0⟩
  else
    let (num, den) := scaleTwo b.mantissa b.exponent
    (b.search (leadingExponent num den) 1 17).trim

/-- The shortest decimal of the magnitude of a finite float. -/
def shortestOf (x : Float) : Scientific :=
  (Binary.ofBits x.toBits).shortest

end ChunkStore.Decimal
