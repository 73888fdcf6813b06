import ChunkStore.Decimal.Parse
import ChunkStore.Decimal.Shortest
import ChunkStore.Text.Quoted
/-!
# Quota headers

Each response of the origin may say how much of its rate-limit bucket is left: the bucket's
size (`x-ratelimit-limit`), what remains (`x-ratelimit-remaining`), when it refills (in seconds
from now, `x-ratelimit-reset-after`, or as a unix time, `x-ratelimit-reset`) and, on a 429, how
long to back off (`retry-after`). A response with none of them readable carries no quota.

Header values are read as text only when every byte is visible ASCII or a tab, then trimmed.
Counts are 32-bit naturals; times are decimal seconds (finite, negative read as zero) turned
into a duration rounded to the nearest nanosecond, which must stay below `2^64` seconds.
-/

namespace ChunkStore

/-- A span of time: whole seconds and the nanoseconds below one second. -/
structure Duration where
  secs : Nat
  nanos : Nat
  deriving Repr, DecidableEq

namespace Duration

/-- Nanoseconds per second. -/
def nanosPerSec : Nat := 1000000000

/-- The span of `n` nanoseconds. -/
def ofNanos (n : Nat) : Duration := ⟨n / nanosPerSec, n % nanosPerSec⟩

/-- The span in nanoseconds. The count of seconds is the last factor, so that evaluating the
product on a symbolic span stops at once instead of unfolding a billion additions. -/
def toNanos (d : Duration) : Nat := nanosPerSec * d.secs + d.nanos

/-- The span of a non-negative finite double of seconds, rounded to the nearest nanosecond
(ties to even); none from `2^64` seconds up. -/
def ofSeconds? (x : Float) : Option Duration :=
  let b := Decimal.Binary.ofBits x.toBits
  let (num, den) := Decimal.scaleTwo b.mantissa b.exponent
  if num ≥ den * Nat.pow 2 64 then none
  else some (ofNanos (Decimal.roundHalfEven (num * nanosPerSec) den))

end Duration

/-- Response headers in arrival order, names lowercased. -/
abbrev HeaderMap := List (String × ByteArray)

/-- Whether a byte may start or continue a header name (a token character). -/
def isTokenByte (b : UInt8) : Bool :=
  (48 ≤ b && b ≤ 57) || (65 ≤ b && b ≤ 90) || (97 ≤ b && b ≤ 122) ||
    "!#$%&'*+-.^_`|~".toUTF8.toList.contains b

/-- A header name, lowercased; the error text of an invalid one. -/
def headerName (bytes : ByteArray) : Except String String :=
  if bytes.isEmpty || !bytes.toList.all isTokenByte then .error "invalid HTTP header name"
  else .ok (String.ofList (bytes.toList.map fun b => (Char.ofNat b.toNat).toLower))

/-- Check a header value; the error text of an invalid one. -/
def headerValue (bytes : ByteArray) : Except String ByteArray :=
  if bytes.toList.all fun b => (32 ≤ b && b != 127) || b == 9 then .ok bytes
  else .error "failed to parse header value"

namespace HeaderMap

/-- The first value of a header. -/
def get? (h : HeaderMap) (name : String) : Option ByteArray := (h.find? (·.1 == name)).map (·.2)

/-- A header's value as trimmed text, if it is visible ASCII. -/
def text? (h : HeaderMap) (name : String) : Option String := do
  let v ← h.get? name
  if v.toList.all fun b => (32 ≤ b && b < 127) || b == 9 then
    some (Text.trimBlank (String.ofList (v.toList.map fun b => Char.ofNat b.toNat)))
  else none

/-- A header read as a 32-bit count. -/
def count? (h : HeaderMap) (name : String) : Option Nat := do
  match Decimal.parseU32 10 (← h.text? name) with
  | .ok n => some n
  | .error _ => none

/-- A header read as a finite double. -/
def float? (h : HeaderMap) (name : String) : Option Float := do
  let x ← Decimal.parseFloat (← h.text? name)
  if x.isFinite then some x else none

/-- A header read as a delay in seconds. -/
def seconds? (h : HeaderMap) (name : String) : Option Duration := do
  Duration.ofSeconds? (max (← h.float? name) 0.0)

end HeaderMap

/-- The quota a response reports. -/
structure Quota where
  limit : Option Nat := none
  remaining : Option Nat := none
  /-- Time until the bucket refills. -/
  resetAfter : Option Duration := none
  /-- Back-off demanded by a 429. -/
  retryAfter : Option Duration := none
  deriving Repr, DecidableEq

namespace Quota

/-- The quota of a response, read at wall-clock time `nowNanos` (unix nanoseconds, used only
to turn an absolute reset time into a delay); none when no quota header is readable. -/
def fromHeaders (h : HeaderMap) (nowNanos : Nat) : Option Quota :=
  let resetAfter := match h.seconds? "x-ratelimit-reset-after" with
    | some d => some d
    | none => do
      let reset ← h.float? "x-ratelimit-reset"
      let now := nowNanos.toFloat / 1e9
      Duration.ofSeconds? (max (reset - now) 0.0)
  let q : Quota := {
    limit := h.count? "x-ratelimit-limit", remaining := h.count? "x-ratelimit-remaining",
    resetAfter, retryAfter := h.seconds? "retry-after" }
  if q == {} then none else some q

/-- Whether the response asks the caller to wait before retrying: a positive back-off, or an
exhausted bucket that refills later. -/
def defersRetry (q : Quota) : Bool :=
  let positive := fun (d : Option Duration) => match d with
    | some d => d.toNanos != 0
    | none => false
  positive q.retryAfter || (q.remaining == some 0 && positive q.resetAfter)

end Quota

end ChunkStore
