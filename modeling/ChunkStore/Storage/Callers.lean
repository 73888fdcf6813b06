import ChunkStore.Storage.Rest
/-!
# Callers of the HTTP transport

The transport is shared: any number of callers make their calls at once, and the steps of their
attempts interleave in whatever order the runtime runs them. An attempt of a call is made of
steps of its caller, and between any two of them other callers' steps may run:

* it looks at the cancel token and, for an upload or a listing, takes the next credential from
  its pool;
* an upload takes the next channel from its pool;
* it asks the limiter for a permit of its pair's bucket, waiting until one is handed out;
* it sends its request on that pair, settles the permit, and backs off when it retries.

Each take from a pool is one pick under the pool's lock, so the picks of all callers run one
after another, in the order they take the lock. A range fetch takes nothing and no permit: its
attempt looks at the token and sends.

`Caller.step` is one step of one caller, with what it shows (`RestAction`): a credential or a
channel taken, or a call of the limiter or the origin. `Callers.Runs` collects the runs in which
any caller that can step does, in any order. A caller run alone makes the calls that
`RestRequest.run` makes.
-/

namespace ChunkStore

/-- A call a client makes of the transport, with what comes of each of its requests in turn. -/
inductive RestRequest where
  | upload (data : ByteArray) (turns : List Turn)
  | list (channel : String) (turns : List Turn)
  | fetch (node : Node) (turns : List Turn)

/-- Make the call: the calls it makes of the limiter and the origin, and the state after. -/
def RestRequest.run (s : RestState) : RestRequest → List RestCall × RestState
  | .upload data turns => ((s.upload data turns).2.1, (s.upload data turns).2.2)
  | .list channel turns => ((s.listMessages channel turns).2.1, (s.listMessages channel turns).2.2)
  | .fetch node turns => ((s.rangeFetch node turns).2.1, (s.rangeFetch node turns).2.2)

/-- Make the calls one after another: their calls of the limiter and the origin, in order, and the
state after the last. -/
def RestState.serve (s : RestState) : List RestRequest → List RestCall × RestState
  | [] => ([], s)
  | q :: qs => ((q.run s).1 ++ ((q.run s).2.serve qs).1, ((q.run s).2.serve qs).2)

/-- What a call returns. -/
inductive CallResult where
  | uploaded (out : Outcome Node)
  | listed (out : Outcome (List Message))
  | fetched (out : Outcome ByteStream)

/-- How an attempt of a call ends: with what the call returns, or with another attempt, after a
back-off when `true`. -/
def AttemptEnd.into {α : Type} (f : Outcome α → CallResult) : AttemptEnd α → CallResult ⊕ Bool
  | .done out => .inl (f out)
  | .retry backOff => .inr backOff

namespace RestRequest

/-- What the call returns when it fails with `e`. -/
def fail (e : StorageError) : RestRequest → CallResult
  | .upload _ _ => .uploaded (.failed e)
  | .list _ _ => .listed (.failed e)
  | .fetch _ _ => .fetched (.failed e)

/-- What an attempt of the call, holding `held`, makes of what came of its request, by the call's
policy. -/
def exchange (s : RestState) (held : Option Permit) (r : Reply) :
    RestRequest → (CallResult ⊕ Bool) × List RestCall × RestState
  | .upload data _ =>
    let (next, calls, s) := s.exchange uploadPolicy (uploadAnswer data.size) held r
    (next.into .uploaded, calls, s)
  | .list _ _ =>
    let (next, calls, s) := s.exchange listPolicy listAnswer held r
    (next.into .listed, calls, s)
  | .fetch _ _ =>
    let (next, calls, s) := s.exchange fetchPolicy .ok held r
    (next.into .fetched, calls, s)

end RestRequest

/-- What a step of a caller shows. -/
inductive RestAction where
  /-- A credential is taken from the pool. -/
  | tookToken (token : String)
  /-- A channel is taken from the pool. -/
  | tookChannel (channel : String)
  /-- A call of the limiter or the origin, or a back-off. -/
  | made (call : RestCall)

/-- Where a call stands. The reply is what the environment makes come of the attempt's request;
none when the cancel token fires while the attempt waits for its permit. -/
inductive CallStage where
  /-- The next attempt starts by looking at the cancel token. -/
  | between
  /-- An upload's attempt holds its credential and is about to take a channel. -/
  | hasToken (token : String) (reply : Option Reply)
  /-- The attempt holds the pair it sends on (none for a range fetch) and is about to ask for a
  permit. -/
  | hasPair (pair : Option (String × String)) (reply : Option Reply)
  /-- The attempt holds a permit for its pair and is about to send. -/
  | hasPermit (token channel : String) (permit : Permit) (reply : Reply)
  /-- The call has returned. -/
  | returned (result : CallResult)

/-- A call in flight: the call, what is left of its script, how many back-offs it made, and where
it stands. -/
structure Caller where
  request : RestRequest
  turns : List Turn
  tries : Nat := 0
  stage : CallStage := .between

namespace Caller

/-- A caller about to make the call: a range fetch whose link is no URL returns at once. -/
def start : RestRequest → Caller
  | .upload data turns => { request := .upload data turns, turns }
  | .list channel turns => { request := .list channel turns, turns }
  | .fetch node turns =>
    match Url.parse node.signedUrl with
    | .error e =>
      { request := .fetch node turns, turns, stage := .returned (.fetched (.failed (.protocol
          ("unusable chunk url: " ++ e.message)))) }
    | .ok _ => { request := .fetch node turns, turns }

/-- The caller returns what the call returns when it fails with `e`. -/
def failWith (c : Caller) (e : StorageError) : Caller :=
  { c with stage := .returned (c.request.fail e) }

/-- An attempt past its look at the cancel token takes its credential, if it takes one. -/
def take (c : Caller) (s : RestState) (turns : List Turn) (reply : Option Reply) :
    List RestAction × Caller × RestState :=
  match c.request with
  | .upload _ _ =>
    let (token, tokens) := s.tokens.next
    ([.tookToken token], { c with turns, stage := .hasToken token reply }, { s with tokens })
  | .list channel _ =>
    let (token, tokens) := s.tokens.next
    ([.tookToken token], { c with turns, stage := .hasPair (some (token, channel)) reply },
      { s with tokens })
  | .fetch _ _ => ([], { c with turns, stage := .hasPair none reply }, s)

/-- The end of an attempt: the call returns, or the caller goes on to the next attempt, after a
back-off if it backs off. -/
def conclude (c : Caller) : (CallResult ⊕ Bool) × List RestCall × RestState →
    List RestAction × Caller × RestState
  | (.inl result, calls, s) => (calls.map .made, { c with stage := .returned result }, s)
  | (.inr false, calls, s) => (calls.map .made, { c with stage := .between }, s)
  | (.inr true, calls, s) =>
    let delay := backoffDelay c.tries
    ((calls ++ [RestCall.backedOff delay]).map .made, { c with stage := .between, tries := c.tries + 1 },
      s.pause delay)

/-- One step of the caller in state `s`: what it shows, the caller and the state after; none when
the call has returned or its script has ended. -/
def step (c : Caller) (s : RestState) : Option (List RestAction × Caller × RestState) :=
  match c.stage with
  | .between =>
    match c.turns with
    | [] => none
    | turn :: turns =>
      if s.limiter.cancelled then some ([], { c with turns }.failWith .cancelled, s)
      else
        match turn with
        | .cancelled => some ([], { c with turns }.failWith .cancelled, s.cancel)
        | .cancelledAcquiring => some (c.take s turns none)
        | .reply r => some (c.take s turns (some r))
  | .hasToken token reply =>
    let (channel, channels) := s.channels.next
    some ([.tookChannel channel], { c with stage := .hasPair (some (token, channel)) reply },
      { s with channels })
  | .hasPair _ none => some ([], c.failWith .cancelled, s.cancel)
  | .hasPair none (some r) =>
    let (next, calls, s) := c.request.exchange s none r
    some (c.conclude (next, .sent none :: calls, s))
  | .hasPair (some (token, channel)) (some r) =>
    match s.limiter.acquire (bucketKey token channel) s.clock 2 with
    | .error e => some ([], c.failWith e, s)
    | .ok (p, now, l) =>
      some ([.made (.acquired p.key)], { c with stage := .hasPermit token channel p r },
        { s with limiter := l, clock := now })
  | .hasPermit token channel p r =>
    let (next, calls, s) := c.request.exchange s (some p) r
    some (c.conclude (next, .sent (some (token, channel)) :: calls, s))
  | .returned _ => none

end Caller

/-- The transport's state with the calls in flight. -/
structure Callers where
  state : RestState
  callers : List Caller

/-- The runs from `x`: the actions shown, each with the index of the caller that made it, and the
callers after. Any caller that can step may do so next. -/
inductive Callers.Runs (x : Callers) : List (Nat × RestAction) → Callers → Prop where
  | refl : Callers.Runs x [] x
  | step {evs : List (Nat × RestAction)} {y : Callers} {i : Nat} {c c' : Caller}
      {acts : List RestAction} {s' : RestState} :
      Callers.Runs x evs y → y.callers[i]? = some c → c.step y.state = some (acts, c', s') →
      Callers.Runs x (evs ++ acts.map ((i, ·))) ⟨s', y.callers.set i c'⟩

end ChunkStore
