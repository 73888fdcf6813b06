import ChunkStore.Json.Codec
import ChunkStore.Decimal.Parse
import ChunkStore.Text.Quoted
/-!
# Origin messages

The origin stores each chunk as an attachment of a message. A message has an id (a 64-bit
"snowflake", sent as a decimal string or a number and always written back as a string), the
channel it is in when the origin says so, and its attachments; an attachment has a link, a size
and a file name, the last two defaulting to `0` and `""`.
-/

namespace ChunkStore

/-- An attachment of a message. -/
structure Attachment where
  url : String
  size : Nat := 0
  filename : String := ""
  deriving Repr, DecidableEq

/-- A message of the origin. -/
structure Message where
  id : Nat
  channelId : Option String := none
  attachments : List Attachment := []
  deriving Repr, DecidableEq

/-- The attachment as JSON. -/
def Attachment.toJson (a : Attachment) : Json :=
  .obj [("url", .str a.url), ("size", Json.nat a.size), ("filename", .str a.filename)]

/-- The message as JSON: the id as a string, the channel only when known. -/
def Message.toJson (m : Message) : Json :=
  let channel := match m.channelId with
    | some c => [("channel_id", Json.str c)]
    | none => []
  .obj ([("id", .str (toString m.id))] ++ channel ++
    [("attachments", .arr (m.attachments.map Attachment.toJson))])

/-- The first attachment, if any. -/
def Message.firstAttachment (m : Message) : Option Attachment := m.attachments.head?

/-- An attachment being decoded. -/
structure AttachmentDraft where
  url : Option String := none
  size : Option Nat := none
  filename : Option String := none

/-- A message being decoded. -/
structure MessageDraft where
  id : Option Nat := none
  channelId : Option (Option String) := none
  attachments : Option (List Attachment) := none

namespace Json.Decode

variable (J : JsonCodec)

/-- The fields of an attachment: only the link is required. -/
def attachmentFields : List (Field AttachmentDraft) :=
  [ ⟨"url", true, (·.url.isSome), fun _ s => do pure { s with url := some (← J.text) }⟩,
    ⟨"size", false, (·.size.isSome), fun _ s => do pure { s with size := some (← J.u64) }⟩,
    ⟨"filename", false, (·.filename.isSome), fun _ s => do
      pure { s with filename := some (← J.text) }⟩ ]

/-- An attachment, read through the library `J`. -/
def attachmentWith (budget : Nat) : Decode Attachment := do
  let d ← J.struct "Attachment" (attachmentFields J) {} budget
  pure { url := d.url.getD "", size := d.size.getD 0, filename := d.filename.getD "" }

/-- An attachment, read through the library the program runs with. -/
def attachment (budget : Nat) : Decode Attachment := attachmentWith Json.library budget

/-- The two shapes a snowflake may arrive in: text or a 64-bit number. -/
def snowflakeShape : Json → Option (String ⊕ Nat)
  | .str s => some (.inl s)
  | .num (.nat n) => if n < Nat.pow 2 64 then some (.inr n) else none
  | _ => none

/-- A snowflake id: a number, or text read as a 64-bit decimal. -/
def snowflake (budget : Nat) : Decode Nat := do
  match ← J.untagged "Raw" snowflakeShape budget with
  | .inr n => pure n
  | .inl t =>
    match Decimal.parseU64 t with
    | .ok n => pure n
    | .error e => raise (.custom ("invalid snowflake " ++ Text.quote t ++ ": " ++ e.message))

/-- The fields of a message: the id is required. -/
def messageFields : List (Field MessageDraft) :=
  [ ⟨"id", true, (·.id.isSome), fun b s => do pure { s with id := some (← snowflake J b) }⟩,
    ⟨"channel_id", false, (·.channelId.isSome), fun _ s => do
      pure { s with channelId := some (← J.option J.text) }⟩,
    ⟨"attachments", false, (·.attachments.isSome), fun b s => do
      pure { s with attachments := some (← J.seq (attachmentWith J) b) }⟩ ]

/-- A message, read through the library `J`. -/
def messageWith (budget : Nat) : Decode Message := do
  let d ← J.struct "Message" (messageFields J) {} budget
  pure { id := d.id.getD 0, channelId := d.channelId.getD none,
         attachments := d.attachments.getD [] }

/-- A message, read through the library the program runs with. -/
def message (budget : Nat) : Decode Message := messageWith Json.library budget

end Json.Decode

end ChunkStore
