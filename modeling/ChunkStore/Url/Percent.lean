import ChunkStore.Text.Utf8
/-!
# Percent-encoding

A character is written as itself when it is ASCII and outside the component's encode set, and
otherwise as `%XX` per UTF-8 byte with uppercase hex digits. Each URL component has its own
set; every set holds the ASCII controls and DEL.

Decoding turns `%XX` with two hex digits into the byte and leaves any other `%` as it is.

Form encoding (the `application/x-www-form-urlencoded` format) writes a space as `+`, keeps
letters, digits and `*-._`, and percent-encodes every other byte.
-/

namespace ChunkStore.Url

/-- Uppercase hex digit. -/
def hexUpper (n : Nat) : Char := if n < 10 then Char.ofNat (48 + n) else Char.ofNat (55 + n)

/-- A byte as `%XX`. -/
def percentByte (b : UInt8) : String :=
  String.ofList ['%', hexUpper (b.toNat / 16), hexUpper (b.toNat % 16)]

/-- An encode set: the ASCII characters that a component writes percent-encoded. -/
abbrev EncodeSet := Char → Bool

/-- Controls and DEL. -/
def controls : EncodeSet := fun c => c.toNat < 0x20 || c.toNat == 0x7F

/-- The fragment set: controls, space, `"`, `<`, `>` and the backtick. -/
def fragmentSet : EncodeSet := fun c =>
  controls c || c == ' ' || c == '"' || c == '<' || c == '>' || c == '`'

/-- The path set: the fragment set, `#`, `?`, and the curly brackets. -/
def pathSet : EncodeSet := fun c =>
  fragmentSet c || c == '#' || c == '?' || c.toNat == 0x7B || c.toNat == 0x7D

/-- The userinfo set: the path set and `/ : ; = @ [ \ ] ^ |`. -/
def userinfoSet : EncodeSet := fun c =>
  pathSet c || c == '/' || c == ':' || c == ';' || c == '=' || c == '@' || c == '[' ||
    c == '\\' || c == ']' || c == '^' || c == '|'

/-- The query set: controls, space, `"`, `#`, `<`, `>`. -/
def querySet : EncodeSet := fun c =>
  controls c || c == ' ' || c == '"' || c == '#' || c == '<' || c == '>'

/-- The query set of special schemes, which also encodes the apostrophe. -/
def specialQuerySet : EncodeSet := fun c => querySet c || c == '\''

/-- One character, percent-encoded if it is outside ASCII or in the set. -/
def encodeChar (set : EncodeSet) (c : Char) : String :=
  if c.toNat < 0x80 && !set c then c.toString
  else (String.singleton c).toUTF8.foldl (fun acc b => acc ++ percentByte b) ""

/-- Text percent-encoded with a set. -/
def encodeWith (set : EncodeSet) (s : List Char) : String :=
  s.foldl (fun acc c => acc ++ encodeChar set c) ""

/-- The value of an ASCII hex digit byte. -/
def hexDigit? (b : UInt8) : Option Nat :=
  if 48 ≤ b && b ≤ 57 then some (b.toNat - 48)
  else if 65 ≤ b && b ≤ 70 then some (b.toNat - 55)
  else if 97 ≤ b && b ≤ 102 then some (b.toNat - 87)
  else none

/-- Decode `%XX` sequences in bytes; a `%` not followed by two hex digits stays. -/
def percentDecodeList : List UInt8 → List UInt8
  | [] => []
  | 37 :: a :: b :: rest =>
    match hexDigit? a, hexDigit? b with
    | some x, some y => UInt8.ofNat (x * 16 + y) :: percentDecodeList rest
    | _, _ => 37 :: percentDecodeList (a :: b :: rest)
  | c :: rest => c :: percentDecodeList rest

/-- Decode `%XX` sequences in bytes. -/
def percentDecode (bytes : ByteArray) : ByteArray :=
  ⟨(percentDecodeList bytes.toList).toArray⟩

/-- Form-encode bytes: space as `+`, letters, digits and `*-._` as themselves. -/
def formEncode (s : String) : String :=
  s.toUTF8.foldl (fun acc b =>
    if b == 32 then acc.push '+'
    else if (48 ≤ b && b ≤ 57) || (65 ≤ b && b ≤ 90) || (97 ≤ b && b ≤ 122) || b == 42 ||
        b == 45 || b == 46 || b == 95 then acc.push (Char.ofNat b.toNat)
    else acc ++ percentByte b) ""

/-- Decode one form-encoded name or value: `+` is a space, then percent-decoding, then lenient
UTF-8. -/
def formDecode (bytes : List UInt8) : String :=
  Text.decodeLossy ⟨(percentDecodeList (bytes.map fun b => if b == 43 then 32 else b)).toArray⟩

/-- Split a list at every element that is a separator; `n` separators give `n + 1` pieces. -/
def splitWhere (isSep : α → Bool) : List α → List (List α)
  | [] => [[]]
  | b :: rest =>
    if isSep b then [] :: splitWhere isSep rest
    else
      match splitWhere isSep rest with
      | first :: more => (b :: first) :: more
      | [] => [[b]]

/-- The name-value pairs of a form-encoded text: pieces between `&` that are not empty, each
split at its first `=` (no `=` means an empty value). -/
def formPairs (query : String) : List (String × String) :=
  (splitWhere (· == 38) query.toUTF8.toList).filterMap fun piece =>
    if piece.isEmpty then none
    else
      let name := piece.takeWhile (· != 61)
      let value := (piece.dropWhile (· != 61)).drop 1
      some (formDecode name, formDecode value)

end ChunkStore.Url
