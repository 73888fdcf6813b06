/-!
# Punycode

The encoding of RFC 3492 that writes a label of any code points in ASCII letters, digits and
hyphens: the ASCII code points first (followed by `-` if there are any), then each other code
point as a variable-length base-36 number, in order of code point, giving the distance to the
next insertion. The bias that sets each digit's threshold adapts after every code point.
-/

namespace ChunkStore.Url

/-- Punycode parameters. -/
def punyBase : Nat := 36

/-- Bias adaptation after each encoded code point. -/
def punyAdapt (delta numPoints : Nat) (first : Bool) : Nat :=
  let d := if first then delta / 700 else delta / 2
  let d := d + d / numPoints
  let rec shrink (d k : Nat) : Nat → Nat × Nat
    | 0 => (d, k)
    | fuel + 1 => if d > (35 * 26) / 2 then shrink (d / 35) (k + 36) fuel else (d, k)
  let (d, k) := shrink d 0 64
  k + (36 * d) / (d + 38)

/-- The character of a Punycode digit. -/
def punyDigit (d : Nat) : Char :=
  if d < 26 then Char.ofNat (97 + d) else Char.ofNat (22 + d)

/-- The threshold for digit position `k` under `bias`. -/
def punyThreshold (k bias : Nat) : Nat :=
  if k ≤ bias then 1 else if k ≥ bias + 26 then 26 else k - bias

/-- The digits of one variable-length integer `q` under `bias`. -/
def punyInteger (q bias : Nat) : List Char :=
  let rec go (q k : Nat) : Nat → List Char
    | 0 => [punyDigit q]
    | fuel + 1 =>
      let t := punyThreshold k bias
      if q < t then [punyDigit q]
      else punyDigit (t + (q - t) % (36 - t)) :: go ((q - t) / (36 - t)) (k + 36) fuel
  go q 36 64

/-- Punycode of a label (without the `xn--` prefix). -/
def punyEncode (label : List Char) : String :=
  let codes := label.map Char.toNat
  let basic := label.filter fun c => c.toNat < 0x80
  let b := basic.length
  let rec rounds (n delta bias h : Nat) (out : List Char) : Nat → List Char
    | 0 => out
    | fuel + 1 =>
      if h ≥ codes.length then out
      else
        let m := (codes.filter (· ≥ n)).foldl min (0x110000)
        let delta := delta + (m - n) * (h + 1)
        let (delta, bias, h, out) := codes.foldl (fun (delta, bias, h, out) c =>
          if c < m then (delta + 1, bias, h, out)
          else if c == m then
            (0, punyAdapt delta (h + 1) (h == b), h + 1, out ++ punyInteger delta bias)
          else (delta, bias, h, out)) (delta, bias, h, out)
        rounds (m + 1) (delta + 1) bias h out fuel
  let lead := if b > 0 then basic ++ ['-'] else []
  String.ofList (rounds 128 0 72 b lead (codes.length + 1))

/-- The value of a Punycode digit character. -/
def punyValue (c : Char) : Option Nat :=
  if 'a' ≤ c ∧ c ≤ 'z' then some (c.toNat - 97)
  else if 'A' ≤ c ∧ c ≤ 'Z' then some (c.toNat - 65)
  else if '0' ≤ c ∧ c ≤ '9' then some (c.toNat - 22)
  else none

/-- Decode a Punycode label (without `xn--`), if it is well formed. The ASCII code points stand
before the last `-`; when that `-` is the first character there are none, and the `-` itself is
read as a digit, which fails. -/
def punyDecode (s : List Char) : Option (List Nat) :=
  let (basic, rest) :=
    match (s.reverse.dropWhile (· != '-')) with
    | [] => ([], s)
    | [_] => ([], s)
    | _ :: revBasic => (revBasic.reverse, s.drop (revBasic.length + 1))
  if basic.any (fun c => c.toNat ≥ 0x80) then none
  else
    let rec integer (cs : List Char) (i w k bias : Nat) : Nat → Option (Nat × List Char)
      | 0 => none
      | fuel + 1 =>
        match cs with
        | [] => none
        | c :: more => do
          let d ← punyValue c
          let i := i + d * w
          let t := punyThreshold k bias
          if d < t then some (i, more) else integer more i (w * (36 - t)) (k + 36) bias fuel
    let rec go (cs : List Char) (out : List Nat) (n i bias : Nat) : Nat → Option (List Nat)
      | 0 => none
      | fuel + 1 =>
        match cs with
        | [] => some out
        | _ => do
          let (i', more) ← integer cs i 1 36 bias 64
          let len := out.length + 1
          let bias := punyAdapt (i' - i) len (i == 0)
          let n := n + i' / len
          let pos := i' % len
          if n > 0x10FFFF then none
          else go more (out.take pos ++ [n] ++ out.drop pos) n (pos + 1) bias fuel
    go rest (basic.map Char.toNat) 128 0 72 (s.length + 1)

end ChunkStore.Url
