import ChunkStore.Rate.Limiter
import ChunkStore.Storage.Pool
import ChunkStore.Storage.Transport
import ChunkStore.Chunk.Message
import ChunkStore.Chunk.Node
/-!
# The origin's HTTP API

The transport that talks to the origin over HTTP makes each of its three calls a loop of
attempts. An attempt of an upload or of a listing looks at the cancel token, takes the next
credential from its pool (and, for an upload, the next channel), acquires a permit of the
limiter's bucket for that pair, sends its request, and settles the permit: with the answer's
headers when an answer came, as failed when none did. An attempt of a range fetch looks at the
token and sends; it takes nothing from the pools and no permit.

What comes of a request is the environment's: a refused connection, a timeout, another failure
of the send (the token firing while the request is in flight among them), or an answer with a
status, headers and a body (`Reply`). A script gives it for each attempt in turn, or says that
the token fires before the attempt's request goes out (`Turn`). Each call treats what comes by
its `RetryPolicy`: a refused connection and a server error (5xx) are retried after a back-off; a
429 is retried where a permit was taken, after a back-off unless its quota already holds the
bucket back; a timeout is retried or ends the call; an accepted status is answered from the
body; and any other status fails the call. The back-off starts at 250 ms and doubles, up to 5 s.
A back-off the token interrupts ends the call like the next attempt's look would, so the script
says it as that attempt's turn.

`RestState.attempts` runs the attempts on a script and returns the call's outcome, or none when
the script ends with the call still trying, with the calls it made to the limiter and the origin
in order (`RestCall`). The request a call sends (its URL, headers and body) is not modelled: a
sent request is recorded with the credential and channel it uses.
-/

namespace ChunkStore

/-- What comes of one request. -/
inductive Reply where
  /-- The connection was refused. -/
  | refused (detail : String)
  /-- No answer came within the request timeout. -/
  | timedOut (detail : String)
  /-- The send failed otherwise, the cancel token firing while it was in flight included. -/
  | failed (error : StorageError)
  /-- An answer: its status, its headers, and its body as it arrives. -/
  | answered (status : Nat) (headers : HeaderMap) (body : ByteStream)

/-- What the environment does during one attempt of a call. -/
inductive Turn where
  /-- The cancel token has fired by the time the attempt looks at it. -/
  | cancelled
  /-- The token fires after that look, while the attempt waits for its permit. -/
  | cancelledAcquiring
  /-- The request goes out, and this comes of it. -/
  | reply (r : Reply)

/-- A call the transport makes to its limiter or to the origin, or a pause. -/
inductive RestCall where
  /-- A permit of bucket `key` is handed out. -/
  | acquired (key : String)
  /-- A request goes out, with the credential and channel it uses (none for a link's fetch). -/
  | sent (pair : Option (String × String))
  /-- The permit of bucket `key` is settled, with the answer's headers or, without, as failed. -/
  | settled (key : String) (headers : Option HeaderMap)
  /-- The call backs off for some nanoseconds. -/
  | backedOff (nanos : Nat)

/-- The transport's state: its credential and channel pools, the limiter its calls share (whose
`cancelled` is the transport's cancel token), the limiter's clock and the wall clock, both in
nanoseconds. -/
structure RestState where
  tokens : RoundRobin String
  channels : RoundRobin String
  limiter : Limiter := {}
  clock : Nat := 0
  wall : Nat := 0

/-- The pause before retry `n + 1`: 250 ms, doubled each time, at most 5 s. -/
def backoffDelay (n : Nat) : Nat := min (250000000 * Nat.pow 2 (min n 16)) 5000000000

/-- How one of the transport's calls treats what comes of its requests. -/
structure RetryPolicy where
  /-- The call's name in its errors. -/
  operation : String
  /-- Whether a request that timed out is sent again; otherwise the call fails with a timeout. -/
  retriesTimeouts : Bool
  /-- Whether an answer's status answers the call. -/
  accepts : Nat → Bool

/-- An upload does not resend a request that timed out, since the message may exist already, and
takes every success status. -/
def uploadPolicy : RetryPolicy := ⟨"upload_attachment", false, fun s => 200 ≤ s && s < 300⟩

/-- A listing resends a request that timed out and takes only `200`. -/
def listPolicy : RetryPolicy := ⟨"list_messages", true, (· == 200)⟩

/-- A range fetch resends a request that timed out and takes only `206`. -/
def fetchPolicy : RetryPolicy := ⟨"range_fetch", true, (· == 206)⟩

/-- The whole body of a byte stream, or the first failure in it. -/
def ByteStream.collect : ByteStream → Except StorageError ByteArray
  | [] => .ok .empty
  | .error e :: _ => .error e
  | .ok b :: rest => (collect rest).map (b ++ ·)

/-- Decode a response body as JSON; a body that is not UTF-8 text does not decode. -/
def decodeBody (d : Nat → Json.Decode α) (bytes : ByteArray) : Except StorageError α :=
  match String.fromUTF8? bytes with
  | none => .error (.decode "invalid UTF-8 in response body")
  | some text =>
    match Json.Decode.run d text with
    | .ok a => .ok a
    | .error e => .error (.decode e.message)

/-- What an upload makes of an accepted answer: the record of the message's first attachment,
`size` bytes long, at the link the attachment's URL gives. -/
def uploadAnswer (size : Nat) (body : ByteStream) : Outcome Node :=
  match ByteStream.collect body with
  | .error e => .failed e
  | .ok bytes =>
    match decodeBody Json.Decode.message bytes with
    | .error e => .failed e
    | .ok m =>
      match m.firstAttachment with
      | none => .failed (.protocol s!"message {m.id} has no attachment")
      | some a =>
        match SignedUrl.fromOrigin a.url with
        | .ok signed => .ok (Node.ofSigned signed size m.id)
        | .error p => .panicked p.message

/-- What a listing makes of an accepted answer: the messages it lists. -/
def listAnswer (body : ByteStream) : Outcome (List Message) :=
  match ByteStream.collect body with
  | .error e => .failed e
  | .ok bytes =>
    match decodeBody (Json.Decode.seq Json.Decode.message) bytes with
    | .ok ms => .ok ms
    | .error e => .failed e

/-- How an attempt ends: with the call's outcome, or with another attempt, after a back-off
when `backOff`. -/
inductive AttemptEnd (α : Type) where
  | done (out : Outcome α)
  | retry (backOff : Bool)

namespace RestState

/-- The state once the cancel token has fired. -/
def cancel (s : RestState) : RestState := { s with limiter := s.limiter.cancel }

/-- The state after a pause of `nanos`. -/
def pause (s : RestState) (nanos : Nat) : RestState :=
  { s with clock := s.clock + nanos, wall := s.wall + nanos }

/-- Settle the permit an attempt holds, if any, with an answer's headers or as failed: the calls
made, the state, and the panic of recording the answer's quota, if any. -/
def settle (s : RestState) : Option Permit → Option HeaderMap →
    List RestCall × RestState × Option String
  | none, _ => ([], s, none)
  | some p, headers =>
    let (l, panic) := s.limiter.release p (headers.bind (Quota.fromHeaders · s.wall)) s.clock
    ([.settled p.key headers], { s with limiter := l }, panic)

/-- What an attempt holding `held` makes of what came of its request. -/
def exchange (policy : RetryPolicy) (finish : ByteStream → Outcome α) (s : RestState)
    (held : Option Permit) : Reply → AttemptEnd α × List RestCall × RestState
  | .refused _ =>
    let (calls, s, _) := s.settle held none
    (.retry true, calls, s)
  | .timedOut _ =>
    let (calls, s, _) := s.settle held none
    (if policy.retriesTimeouts then .retry true else .done (.failed (.timeout policy.operation)),
      calls, s)
  | .failed e =>
    let (calls, s, _) := s.settle held none
    (.done (.failed e), calls, s)
  | .answered status headers body =>
    let quota := Quota.fromHeaders headers s.wall
    match s.settle held (some headers) with
    | (calls, s, some panic) => (.done (.panicked panic), calls, s)
    | (calls, s, none) =>
      let next : AttemptEnd α :=
        if held.isSome && status == 429 then .retry !(quota.any Quota.defersRetry)
        else if 500 ≤ status && status < 600 then .retry true
        else if policy.accepts status then .done (finish body)
        else .done (.failed (.transport policy.operation status))
      (next, calls, s)

/-- One attempt of a call in state `s`, on the environment's turn. `pick` takes the credential
and channel of an attempt that takes a permit, turning the pools. -/
def attempt (policy : RetryPolicy) (pick : RestState → Option (String × String) × RestState)
    (finish : ByteStream → Outcome α) (s : RestState) (turn : Turn) :
    AttemptEnd α × List RestCall × RestState :=
  if s.limiter.cancelled then (.done (.failed .cancelled), [], s)
  else
    match turn with
    | .cancelled => (.done (.failed .cancelled), [], s.cancel)
    | .cancelledAcquiring => (.done (.failed .cancelled), [], (pick s).2.cancel)
    | .reply r =>
      match pick s with
      | (none, s) =>
        let (next, calls, s) := s.exchange policy finish none r
        (next, .sent none :: calls, s)
      | (some (token, channel), s) =>
        match s.limiter.acquire (bucketKey token channel) s.clock 2 with
        | .error e => (.done (.failed e), [], s)
        | .ok (p, now, l) =>
          let (next, calls, s) :=
            { s with limiter := l, clock := now }.exchange policy finish (some p) r
          (next, .acquired p.key :: .sent (some (token, channel)) :: calls, s)

/-- The attempts of a call, one for each turn of the script, the back-offs counted from
`tries`: the call's outcome (none when the script ends first), the calls made, and the state. -/
def attempts (policy : RetryPolicy) (pick : RestState → Option (String × String) × RestState)
    (finish : ByteStream → Outcome α) :
    List Turn → Nat → RestState → Option (Outcome α) × List RestCall × RestState
  | [], _, s => (none, [], s)
  | turn :: turns, tries, s =>
    match s.attempt policy pick finish turn with
    | (.done out, calls, s) => (some out, calls, s)
    | (.retry false, calls, s) =>
      let (out, rest, s) := attempts policy pick finish turns tries s
      (out, calls ++ rest, s)
    | (.retry true, calls, s) =>
      let delay := backoffDelay tries
      let (out, rest, s) := attempts policy pick finish turns (tries + 1) (s.pause delay)
      (out, calls ++ .backedOff delay :: rest, s)

/-- An upload takes the next credential and the next channel. -/
def pickUpload (s : RestState) : Option (String × String) × RestState :=
  let (token, tokens) := s.tokens.next
  let (channel, channels) := s.channels.next
  (some (token, channel), { s with tokens, channels })

/-- A listing of `channel` takes the next credential. -/
def pickList (channel : String) (s : RestState) : Option (String × String) × RestState :=
  let (token, tokens) := s.tokens.next
  (some (token, channel), { s with tokens })

/-- Upload `data` as a new attachment. -/
def upload (s : RestState) (data : ByteArray) (turns : List Turn) :
    Option (Outcome Node) × List RestCall × RestState :=
  attempts uploadPolicy pickUpload (uploadAnswer data.size) turns 0 s

/-- List a page of the messages of `channel`. -/
def listMessages (s : RestState) (channel : String) (turns : List Turn) :
    Option (Outcome (List Message)) × List RestCall × RestState :=
  attempts listPolicy (pickList channel) listAnswer turns 0 s

/-- Fetch a range of a chunk's bytes from its link: a link that is no URL fails at once. -/
def rangeFetch (s : RestState) (node : Node) (turns : List Turn) :
    Option (Outcome ByteStream) × List RestCall × RestState :=
  match Url.parse node.signedUrl with
  | .error e => (some (.failed (.protocol ("unusable chunk url: " ++ e.message))), [], s)
  | .ok _ => attempts fetchPolicy (fun s => (none, s)) .ok turns 0 s

end RestState

end ChunkStore
