import ChunkStore.Error
import ChunkStore.Json.Codec
import ChunkStore.Text.Quoted
/-!
# Store configuration

The configuration names the credentials and channels chunks are spread over, the chunk size,
whether uploads run concurrently (and how many at once), the request timeout, and the origin's
base URL and user agent.

Credentials and channels may be given as a list of strings and numbers or as one of them; text
is split at commas, each part trimmed and empty parts dropped, and numbers are written in
decimal. Validation checks, in order: both lists non-empty, no blank credential, every channel
a run of ASCII digits, the chunk size in range, a concurrency of at least one, and a non-zero
timeout.
-/

namespace ChunkStore

/-- The origin's API root used when none is given. -/
def defaultBaseUrl : String := "https://discord.com/api/v9"

/-- The user agent used when none is given. -/
def defaultUserAgent : String := "relaydrive/0.1.0"

/-- The store configuration. -/
structure StoreConfig where
  tokens : List String
  channels : List String
  chunkSize : Nat := defaultChunkSize
  asyncWrite : Bool := false
  uploadConcurrency : Option Nat := none
  requestTimeoutSecs : Nat := 30
  baseUrl : String := defaultBaseUrl
  userAgent : String := defaultUserAgent
  deriving Repr, DecidableEq

namespace StoreConfig

/-- Check the configuration. -/
def validate (c : StoreConfig) : Except ModelError Unit := do
  if c.tokens.isEmpty || c.channels.isEmpty then
    throw (.config s!"not enough tokens or channels: tokens {c.tokens.length} channels {c.channels.length}")
  if c.tokens.any fun t => (Text.trimBlank t).isEmpty then
    throw (.config "tokens must not be blank")
  match c.channels.find? fun ch => ch.isEmpty || !ch.toUTF8.toList.all fun b => 48 ≤ b && b ≤ 57 with
  | some ch => throw (.config ("channel ids must be numeric, got " ++ Text.quote ch))
  | none => pure ()
  if !(minChunkSize ≤ c.chunkSize && c.chunkSize ≤ maxChunkSize) then
    throw (.invalidChunkSize c.chunkSize)
  if c.uploadConcurrency == some 0 then throw (.config "upload_concurrency must be at least 1")
  if c.requestTimeoutSecs == 0 then throw (.config "request_timeout_secs cannot be 0")

/-- How many uploads may run at once: as configured, else one per channel, and at least one. -/
def concurrency (c : StoreConfig) : Nat := max (c.uploadConcurrency.getD c.channels.length) 1

/-- The configuration as JSON. -/
def toJson (c : StoreConfig) : Json :=
  .obj [("tokens", .arr (c.tokens.map .str)), ("channels", .arr (c.channels.map .str)),
    ("chunk_size", Json.nat c.chunkSize), ("async_write", .bool c.asyncWrite),
    ("upload_concurrency", match c.uploadConcurrency with
      | some n => Json.nat n
      | none => .null),
    ("request_timeout_secs", Json.nat c.requestTimeoutSecs), ("base_url", .str c.baseUrl),
    ("user_agent", .str c.userAgent)]

/-- The debugging text, which shows only how many credentials there are. -/
def debugText (c : StoreConfig) : String :=
  let concurrency := match c.uploadConcurrency with
    | some n => s!"Some({n})"
    | none => "None"
  "DriverConfig \x7b tokens: " ++ Text.quote s!"<{c.tokens.length} redacted>" ++
    ", channels: " ++ Text.quoteList c.channels ++ ", chunk_size: " ++ toString c.chunkSize ++
    ", async_write: " ++ toString c.asyncWrite ++ ", upload_concurrency: " ++ concurrency ++
    ", request_timeout_secs: " ++ toString c.requestTimeoutSecs ++ ", base_url: " ++
    Text.quote c.baseUrl ++ ", user_agent: " ++ Text.quote c.userAgent ++ " \x7d"

end StoreConfig

/-- One entry of a list setting. -/
inductive Scalar where
  | text (s : String)
  | number (n : Nat)

/-- The values of a list setting: numbers in decimal, text split at commas and trimmed, empty
parts dropped. -/
def commaValues (items : List Scalar) : List String :=
  items.flatMap fun
    | .number n => [toString n]
    | .text t => ((t.toList.splitOn ',').map (Text.trimBlank ∘ String.ofList)).filter (!·.isEmpty)

/-- A configuration being decoded. -/
structure ConfigDraft where
  tokens : Option (List String) := none
  channels : Option (List String) := none
  chunkSize : Option Nat := none
  asyncWrite : Option Bool := none
  uploadConcurrency : Option (Option Nat) := none
  requestTimeoutSecs : Option Nat := none
  baseUrl : Option String := none
  userAgent : Option String := none

namespace Json.Decode

/-- A scalar entry: a string or a 64-bit number. -/
def scalarShape : Json → Option Scalar
  | .str s => some (.text s)
  | .num (.nat n) => if n < Nat.pow 2 64 then some (.number n) else none
  | _ => none

/-- The two shapes of a list setting: a list of scalars, or one scalar. -/
def listShape : Json → Option (List Scalar)
  | .arr items => items.mapM scalarShape
  | j => (scalarShape j).map ([·])

variable (J : JsonCodec)

/-- A list setting. -/
def commaList (budget : Nat) : Decode (List String) :=
  commaValues <$> J.untagged "ListInput" listShape budget

/-- The fields of a configuration: credentials and channels are required. -/
def configFields : List (Field ConfigDraft) :=
  [ ⟨"tokens", true, (·.tokens.isSome), fun b s => do
      pure { s with tokens := some (← commaList J b) }⟩,
    ⟨"channels", true, (·.channels.isSome), fun b s => do
      pure { s with channels := some (← commaList J b) }⟩,
    ⟨"chunk_size", false, (·.chunkSize.isSome), fun _ s => do
      pure { s with chunkSize := some (← J.u64) }⟩,
    ⟨"async_write", false, (·.asyncWrite.isSome), fun _ s => do
      pure { s with asyncWrite := some (← J.bool) }⟩,
    ⟨"upload_concurrency", false, (·.uploadConcurrency.isSome), fun _ s => do
      pure { s with uploadConcurrency := some (← J.option J.usize) }⟩,
    ⟨"request_timeout_secs", false, (·.requestTimeoutSecs.isSome), fun _ s => do
      pure { s with requestTimeoutSecs := some (← J.u64) }⟩,
    ⟨"base_url", false, (·.baseUrl.isSome), fun _ s => do
      pure { s with baseUrl := some (← J.text) }⟩,
    ⟨"user_agent", false, (·.userAgent.isSome), fun _ s => do
      pure { s with userAgent := some (← J.text) }⟩ ]

/-- A configuration, read through the library `J`. -/
def configWith (budget : Nat) : Decode StoreConfig := do
  let d ← J.struct "DriverConfig" (configFields J) {} budget
  pure {
    tokens := d.tokens.getD [], channels := d.channels.getD [],
    chunkSize := d.chunkSize.getD defaultChunkSize, asyncWrite := d.asyncWrite.getD false,
    uploadConcurrency := d.uploadConcurrency.getD none,
    requestTimeoutSecs := d.requestTimeoutSecs.getD 30,
    baseUrl := d.baseUrl.getD defaultBaseUrl, userAgent := d.userAgent.getD defaultUserAgent }

/-- A configuration, read through the library the program runs with. -/
def config (budget : Nat) : Decode StoreConfig := configWith Json.library budget

end Json.Decode

end ChunkStore
