import ChunkStore.Url.Parse
import ChunkStore.Error
import ChunkStore.Decimal.Parse
import ChunkStore.Text.Quoted
/-!
# Signed attachment links

The origin hands out attachment links that carry their signature window in three query
parameters: `ex` (expiry) and `is` (issue time), unix seconds in hex, and `hm`, an opaque
signature. A record keeps the link with its query removed and the three values apart, so a new
signature can replace the old one without touching the location.

Reading a link parses it as a URL, takes the last value of each parameter from the decoded
query, and checks `ex`, then `is`, then `hm` (an empty `hm` counts as missing). Writing it back
puts the parameters in the order the origin uses, with its trailing `&`. Both go through a URL
library (`parseWith`, `encodePartsWith`); the program runs them with `Url.library`.
-/

namespace ChunkStore

/-- A decoded attachment link. -/
structure SignedUrl where
  /-- The location with query and fragment removed. -/
  url : String
  expiresAt : Int
  issuedAt : Int
  /-- The signature as given. -/
  signature : String
  deriving Repr, DecidableEq

namespace SignedUrl

/-- A timestamp parameter: missing, or a 32-bit hex number. -/
def hexField (name : String) (value : Option String) : Except ModelError Int :=
  match value with
  | none => .error (.signedUrl s!"missing {name} parameter")
  | some v =>
    match Decimal.parseU32 16 v with
    | .ok n => .ok n
    | .error e =>
      .error (.signedUrl (name ++ " is not a hex timestamp: " ++ Text.quote v ++ ": " ++ e.message))

/-- The last value given for a parameter. -/
def lastValue (pairs : List (String × String)) (name : String) : Option String :=
  pairs.foldl (fun acc (k, v) => if k == name then some v else acc) none

/-- Decode a link supplied by a caller, through the URL library `L`. -/
def parseWith (L : UrlLibrary) (input : String) : Except ModelError SignedUrl := do
  let parsed ← match L.parse input with
    | .ok u => pure u
    | .error e => throw (.signedUrl ("unparsable url " ++ Text.quote input ++ ": " ++ e))
  let pairs := L.queryPairs parsed
  let expiresAt ← hexField "ex" (lastValue pairs "ex")
  let issuedAt ← hexField "is" (lastValue pairs "is")
  let signature ← match lastValue pairs "hm" with
    | some hm => if hm.isEmpty then throw (.signedUrl "missing hm parameter") else pure hm
    | none => throw (.signedUrl "missing hm parameter")
  pure { url := L.withoutQuery parsed, expiresAt, issuedAt, signature }

/-- Decode a link supplied by a caller. -/
def parse (input : String) : Except ModelError SignedUrl := parseWith Url.library input

/-- Decode a link returned by the origin, which always signs what it issues: a malformed one
means the service broke its contract, so it stops the operation. -/
def fromOrigin (input : String) : Except Panic SignedUrl :=
  match parse input with
  | .ok s => .ok s
  | .error e => .error ⟨"origin returned a malformed attachment url: " ++ e.message⟩

/-- Lowercase hex of a 64-bit integer, negative values in two's complement. -/
def hex64 (n : Int) : String :=
  let bits := if n < 0 then (n + Nat.pow 2 64).toNat else n.toNat
  String.ofList (Nat.toDigits 16 bits)

/-- A fetchable link from a location and a signature window, the signature form-encoded by the
URL library `L`. -/
def encodePartsWith (L : UrlLibrary) (url : String) (expiresAt issuedAt : Int) (signature : String) :
    String :=
  url ++ "?ex=" ++ hex64 expiresAt ++ "&is=" ++ hex64 issuedAt ++ "&hm=" ++
    L.formEncode signature ++ "&"

/-- A fetchable link from a location and a signature window. -/
def encodeParts (url : String) (expiresAt issuedAt : Int) (signature : String) : String :=
  encodePartsWith Url.library url expiresAt issuedAt signature

/-- The fetchable link, written through the URL library `L`. -/
def encodeWith (L : UrlLibrary) (s : SignedUrl) : String :=
  encodePartsWith L s.url s.expiresAt s.issuedAt s.signature

/-- The fetchable link. -/
def encode (s : SignedUrl) : String := encodeWith Url.library s

/-- Whether the signature has lapsed at `now` (unix seconds). -/
def isExpiredAt (s : SignedUrl) (now : Int) : Bool := decide (now > s.expiresAt)

end SignedUrl

/-- The channel of an attachment link, whose path reads
`/attachments/<channel>/<attachment>/<name>`: the segment after the first `attachments`, if it
is a non-empty run of ASCII digits. -/
def channelId (url : String) : Option String :=
  match Url.parse url with
  | .error _ => none
  | .ok parsed =>
    match parsed.pathSegments with
    | none => none
    | some segs =>
      match (segs.dropWhile (· != "attachments")).drop 1 with
      | ch :: _ => if !ch.isEmpty && ch.toList.all Char.isDigit then some ch else none
      | [] => none

end ChunkStore
