/-!
# Reading UTF-8 leniently

`decodeLossy` turns bytes into text, replacing each maximal ill-formed subsequence by one
U+FFFD: a lead byte followed by continuation bytes that could still start a valid sequence is
one unit, and anything else is one byte at a time.
-/

namespace ChunkStore.Text

/-- The replacement character. -/
def replacement : Char := Char.ofNat 0xFFFD

/-- Whether a byte continues a multi-byte sequence. -/
def isContinuation (b : UInt8) : Bool := b &&& 0xC0 == 0x80

/-- The range allowed for the second byte after a given lead byte (the first continuation is
narrowed to exclude overlong forms, surrogates and values past U+10FFFF). -/
def secondRange (lead : UInt8) : UInt8 × UInt8 :=
  if lead == 0xE0 then (0xA0, 0xBF)
  else if lead == 0xED then (0x80, 0x9F)
  else if lead == 0xF0 then (0x90, 0xBF)
  else if lead == 0xF4 then (0x80, 0x8F)
  else (0x80, 0xBF)

/-- The number of bytes a lead byte announces, or zero for a byte that cannot lead. -/
def sequenceLength (lead : UInt8) : Nat :=
  if lead < 0x80 then 1
  else if 0xC2 ≤ lead && lead ≤ 0xDF then 2
  else if 0xE0 ≤ lead && lead ≤ 0xEF then 3
  else if 0xF0 ≤ lead && lead ≤ 0xF4 then 4
  else 0

/-- How many bytes of `rest` continue the sequence led by `lead` (of total length `len`),
checking the narrowed range of the first continuation. -/
def validContinuations (lead : UInt8) (len : Nat) (rest : List UInt8) : Nat :=
  let (lo, hi) := secondRange lead
  match rest with
  | b :: more =>
    if lo ≤ b && b ≤ hi then
      1 + ((more.take (len - 2)).takeWhile isContinuation).length
    else 0
  | [] => 0

/-- The code point of a complete sequence. -/
def codePoint (bytes : List UInt8) : Nat :=
  match bytes with
  | [a] => a.toNat
  | [a, b] => (a.toNat &&& 0x1F) * 64 + (b.toNat &&& 0x3F)
  | [a, b, c] => ((a.toNat &&& 0x0F) * 64 + (b.toNat &&& 0x3F)) * 64 + (c.toNat &&& 0x3F)
  | [a, b, c, d] =>
    (((a.toNat &&& 0x07) * 64 + (b.toNat &&& 0x3F)) * 64 + (c.toNat &&& 0x3F)) * 64 +
      (d.toNat &&& 0x3F)
  | _ => 0xFFFD

/-- Decode bytes as UTF-8, one replacement character per maximal ill-formed subsequence. -/
def decodeLossyList : List UInt8 → List Char
  | [] => []
  | b :: rest =>
    let len := sequenceLength b
    if len = 1 then Char.ofNat b.toNat :: decodeLossyList rest
    else if len = 0 then replacement :: decodeLossyList rest
    else
      let k := validContinuations b len rest
      if k + 1 = len then
        Char.ofNat (codePoint (b :: rest.take k)) :: decodeLossyList (rest.drop k)
      else replacement :: decodeLossyList (rest.drop k)
termination_by bs => bs.length
decreasing_by all_goals simp only [List.length_drop, List.length_cons]; omega

/-- Text from bytes, replacing what is not UTF-8. -/
def decodeLossy (bytes : ByteArray) : String :=
  match String.fromUTF8? bytes with
  | some s => s
  | none => String.ofList (decodeLossyList bytes.toList)

end ChunkStore.Text
