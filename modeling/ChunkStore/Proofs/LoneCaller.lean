import ChunkStore.Proofs.Rotation
/-!
# A caller run alone makes the call

Run with no other caller between its steps, a caller makes the call `RestRequest.run` makes: the
same calls of the limiter and the origin, in order, the same state at the end, and it returns
what the call returns (`lone_caller_makes_the_call`).

`Caller.remaining` is what is left of a lone caller's run: its steps run until it can go no
further, which comes, as each step uses up a turn of the script or takes the attempt on
(`Caller.measure`). Each attempt's steps leave what the attempt leaves (`remaining_attempt`), so
from the start what is left is the call (`remaining_start`); and every run of the lone caller has
made calls that, followed by what is left, are the call's (`Callers.Runs.lone`).
-/

namespace ChunkStore

/-- The call of the limiter or the origin an action shows, if it shows one. -/
def RestAction.call? : RestAction → Option RestCall
  | .made call => some call
  | .tookToken _ | .tookChannel _ => none

/-- What a call has returned, if it has. -/
def CallStage.result? : CallStage → Option CallResult
  | .returned result => some result
  | .between | .hasToken _ _ | .hasPair _ _ | .hasPermit _ _ _ _ => none

@[simp] theorem RestAction.call?_made (call : RestCall) :
    (RestAction.made call).call? = some call :=
  rfl

@[simp] theorem RestAction.call?_comp_made : RestAction.call? ∘ RestAction.made = some := rfl

/-- How far an attempt has got, counted down: each of its steps brings it nearer its end. -/
def CallStage.rank : CallStage → Nat
  | .hasToken _ _ => 3
  | .hasPair _ _ => 2
  | .hasPermit _ _ _ _ => 1
  | .between | .returned _ => 0

/-- What a call returns when made at once, if it returns. -/
def RestRequest.result (s : RestState) : RestRequest → Option CallResult
  | .upload data turns => (s.upload data turns).1.map .uploaded
  | .list channel turns => (s.listMessages channel turns).1.map .listed
  | .fetch node turns => (s.rangeFetch node turns).1.map .fetched

namespace Caller

open RestState

/-- What every step of a caller makes smaller: four for each turn left, and how far the current
attempt still has to go. -/
def measure (c : Caller) : Nat := c.turns.length * 4 + c.stage.rank

theorem conclude_measure {c c' : Caller} {next : CallResult ⊕ Bool} {calls : List RestCall}
    {s s' : RestState} {acts : List RestAction} (h : c.conclude (next, calls, s) = (acts, c', s')) :
    c'.measure = c.turns.length * 4 := by
  rcases next with result | _ | _ <;> cases h <;> rfl

theorem failWith_measure (c : Caller) (e : StorageError) :
    (c.failWith e).measure = c.turns.length * 4 :=
  rfl

theorem take_measure {c c' : Caller} {s s' : RestState} {turns : List Turn} {reply : Option Reply}
    {acts : List RestAction} (h : c.take s turns reply = (acts, c', s')) :
    c'.measure ≤ turns.length * 4 + 3 := by
  unfold take at h
  split at h <;> cases h <;> simp [measure, CallStage.rank]

theorem measure_step {c : Caller} {s : RestState} {next : List RestAction × Caller × RestState}
    (h : c.step s = some next) : next.2.1.measure < c.measure := by
  obtain ⟨acts, c', s'⟩ := next
  show c'.measure < c.measure
  cases step_eq_some_iff.1 h with
  | fired hst ht _ | cancelled hst ht _ =>
    rw [failWith_measure]
    simp only [measure, hst, ht, CallStage.rank, List.length_cons]
    omega
  | @take turn turns _ _ _ hst ht _ _ htake =>
    -- the turn is used up, whatever comes of it
    have hle := take_measure htake
    have hlen : c.measure = turns.length * 4 + 4 := by
      simp only [measure, hst, ht, CallStage.rank, List.length_cons]
      omega
    omega
  | channel hst | acquired hst _ => simp [measure, hst, CallStage.rank]
  | cancelledAcquiring hst | refused hst _ =>
    rw [failWith_measure]
    simp [measure, hst, CallStage.rank]
  | unlimited hst hc | permitted hst hc =>
    rw [conclude_measure hc]
    simp [measure, hst, CallStage.rank]

/-- The rest of the run of a caller that no other caller interrupts, from state `s`: what it
returns, if it does, the calls it makes, and the state when it can go no further. -/
def remaining (c : Caller) (s : RestState) : Option CallResult × List RestCall × RestState :=
  match h : c.step s with
  | none => (c.stage.result?, [], s)
  | some (acts, c', s') =>
    have : c'.measure < c.measure := measure_step h
    ((c'.remaining s').1, acts.filterMap RestAction.call? ++ (c'.remaining s').2.1,
      (c'.remaining s').2.2)
termination_by c.measure

theorem remaining_of_step {c c' : Caller} {s s' : RestState} {acts : List RestAction}
    (h : c.step s = some (acts, c', s')) :
    c.remaining s = ((c'.remaining s').1, acts.filterMap RestAction.call? ++ (c'.remaining s').2.1,
      (c'.remaining s').2.2) := by
  rw [remaining]
  split
  · next h' => rw [h] at h'; cases h'
  · next acts₁ c₁ s₁ h' =>
    rw [h] at h'
    cases h'
    rfl

theorem remaining_of_none {c : Caller} {s : RestState} (h : c.step s = none) :
    c.remaining s = (c.stage.result?, [], s) := by
  rw [remaining]
  split
  · rfl
  · next h' => rw [h] at h'; cases h'

theorem remaining_returned {c : Caller} {result : CallResult} (h : c.stage = .returned result)
    (s : RestState) : c.remaining s = (some result, [], s) := by
  rw [remaining_of_none (by simp [step, h]), h]
  rfl

theorem remaining_failWith (c : Caller) (e : StorageError) (s : RestState) :
    (c.failWith e).remaining s = (some (c.request.fail e), [], s) :=
  remaining_returned rfl s

section Attempts

variable {α : Type} (policy : RetryPolicy) (finish : ByteStream → Outcome α)
  (f : Outcome α → CallResult)

/-- What is left of the run of a lone caller making call `q` once an attempt on `turns` (the
script after its turn) ended as `next`, having made `calls` and left state `s`: the call returns,
or the next attempt starts, after a back-off when it backs off. -/
def afterAttempt (q : RestRequest) (turns : List Turn) (tries : Nat) :
    AttemptEnd α × List RestCall × RestState → Option CallResult × List RestCall × RestState
  | (.done out, calls, s) => (some (f out), calls, s)
  | (.retry false, calls, s) =>
    let rest := ({ request := q, turns, tries } : Caller).remaining s
    (rest.1, calls ++ rest.2.1, rest.2.2)
  | (.retry true, calls, s) =>
    let rest := ({ request := q, turns, tries := tries + 1 } : Caller).remaining
      (s.pause (backoffDelay tries))
    (rest.1, calls ++ .backedOff (backoffDelay tries) :: rest.2.1, rest.2.2)

theorem remaining_conclude {c : Caller} {turns : List Turn} {tries : Nat} {stage : CallStage}
    {s s₁ : RestState} {next : AttemptEnd α} {calls : List RestCall}
    (h : { c with turns, tries, stage }.step s =
      some ({ c with turns, tries, stage }.conclude (next.into f, calls, s₁))) :
    { c with turns, tries, stage }.remaining s =
      afterAttempt f c.request turns tries (next, calls, s₁) := by
  rw [remaining_of_step h]
  rcases next with out | _ | _
  · simp [AttemptEnd.into, afterAttempt, remaining_returned]
  · simp [AttemptEnd.into, afterAttempt]
  · simp [AttemptEnd.into, afterAttempt]

theorem afterAttempt_cons (q : RestRequest) (turns : List Turn) (tries : Nat) (next : AttemptEnd α)
    (call : RestCall) (calls : List RestCall) (s : RestState) :
    afterAttempt f q turns tries (next, call :: calls, s) =
      ((afterAttempt f q turns tries (next, calls, s)).1,
        call :: (afterAttempt f q turns tries (next, calls, s)).2.1,
        (afterAttempt f q turns tries (next, calls, s)).2.2) := by
  rcases next with out | _ | _ <;> rfl

/-- An attempt past its look at the token takes from the pools what its call's kind takes, and
comes to ask for a permit for the pair it took, showing no call on the way. -/
theorem remaining_draw {c : Caller} {turn : Turn} (hturn : turn ≠ .cancelled) {turns : List Turn}
    {tries : Nat} {s : RestState} (hc : s.limiter.cancelled = false) :
    { c with turns := turn :: turns, tries, stage := .between }.remaining s =
      { c with turns, tries, stage := .hasPair (c.request.target.pick s).1 turn.reply? }.remaining
        (c.request.target.pick s).2 := by
  rw [remaining_of_step (step_eq_some_iff.2 (.take rfl rfl hc hturn rfl))]
  obtain ⟨q, turns₀, tries₀, stage₀⟩ := c
  cases q with
  | upload data t =>
    -- an upload takes its credential and its channel in two steps
    rw [remaining_of_step rfl]
    simp [RestRequest.target, Target.pick, pickUpload, RoundRobin.next, RestAction.call?,
      List.filterMap_cons]
  | list channel t =>
    simp [RestRequest.target, Target.pick, pickList, RoundRobin.next, RestAction.call?,
      List.filterMap_cons]
  | fetch node t => simp [RestRequest.target, Target.pick]

variable {c : Caller}
  (hex : ∀ s held r, c.request.exchange s held r =
    ((s.exchange policy finish held r).1.into f, (s.exchange policy finish held r).2))
  (hfail : ∀ e, c.request.fail e = f (.failed e))
include hex hfail

/-- **An attempt's steps leave what the attempt leaves.** A lone caller whose call decides by
`policy` and `finish`, about to attempt on `turn`, makes the attempt's calls and comes to its end
in the state the attempt leaves. -/
theorem remaining_attempt (turn : Turn) (turns : List Turn) (tries : Nat) (s : RestState) :
    { c with turns := turn :: turns, tries, stage := .between }.remaining s =
      afterAttempt f c.request turns tries
        (s.attempt policy c.request.target.pick finish turn) := by
  cases hc : s.limiter.cancelled with
  | true =>
    rw [remaining_of_step (step_eq_some_iff.2 (.fired rfl rfl hc)), remaining_failWith]
    simp [attempt, hc, afterAttempt, hfail]
  | false =>
    cases turn with
    | cancelled =>
      rw [remaining_of_step (step_eq_some_iff.2 (.cancelled rfl rfl hc)), remaining_failWith]
      simp [attempt, hc, afterAttempt, hfail]
    | cancelledAcquiring =>
      -- the token fires while the attempt waits for its permit
      rw [remaining_draw (by simp) hc,
        remaining_of_step (step_eq_some_iff.2 (.cancelledAcquiring rfl)), remaining_failWith]
      simp [attempt, hc, afterAttempt, hfail]
    | reply r =>
      rw [remaining_draw (by simp) hc]
      simp only [attempt, hc, Bool.false_eq_true, if_false, Turn.reply?]
      rcases hp : c.request.target.pick s with ⟨_ | ⟨token, channel⟩, s₁⟩ <;> dsimp only
      · -- no permit: the request goes out at once
        rw [remaining_conclude f (step_eq_some_iff.2 (.unlimited rfl (by rw [hex]; rfl)))]
      · -- the attempt waits for a permit of its pair's bucket
        rcases hacq : s₁.limiter.acquire (bucketKey token channel) s₁.clock 2 with
          e | ⟨p, now, l⟩
        · rw [remaining_of_step (step_eq_some_iff.2 (.refused rfl hacq)), remaining_failWith]
          simp [afterAttempt, hfail]
        · rw [remaining_of_step (step_eq_some_iff.2 (.acquired rfl hacq)),
            remaining_conclude f (step_eq_some_iff.2 (.permitted rfl (by rw [hex]; rfl)))]
          simp [afterAttempt_cons]

/-- **A lone caller's attempts are the call's.** From the start of an attempt, what is left of
the caller's run is what the call's attempts on the rest of the script make. -/
theorem remaining_between : ∀ (turns : List Turn) (tries : Nat) (s : RestState),
    { c with turns, tries, stage := .between }.remaining s =
      ((attempts policy c.request.target.pick finish turns tries s).1.map f,
        (attempts policy c.request.target.pick finish turns tries s).2)
  | [], _, s => by
    rw [remaining_of_none rfl]
    rfl
  | turn :: turns, tries, s => by
    rw [remaining_attempt policy finish f hex hfail]
    rcases ha : s.attempt policy c.request.target.pick finish turn with
      ⟨out | _ | _, calls, s₁⟩ <;>
      simp only [afterAttempt, attempts, ha, remaining_between turns, Option.map_some]

end Attempts

/-- **A lone caller makes the call.** What is left of the run of a caller at its start is what
the call returns, the calls it makes and the state it leaves. -/
theorem remaining_start (q : RestRequest) (s : RestState) :
    (start q).remaining s = (q.result s, (q.run s).1, (q.run s).2) := by
  cases q with
  | upload data turns =>
    exact remaining_between uploadPolicy (uploadAnswer data.size) .uploaded
      (c := start (.upload data turns)) (fun _ _ _ => rfl) (fun _ => rfl) turns 0 s
  | list channel turns =>
    exact remaining_between listPolicy listAnswer .listed (c := start (.list channel turns))
      (fun _ _ _ => rfl) (fun _ => rfl) turns 0 s
  | fetch node turns =>
    -- a link that is no URL returns at once
    cases hu : Url.parse node.signedUrl with
    | error e =>
      simp only [start, hu]
      rw [remaining_returned rfl]
      simp [RestRequest.result, RestRequest.run, rangeFetch, hu]
    | ok url =>
      have hstart : start (.fetch node turns) =
          { start (.fetch node turns) with turns, tries := 0, stage := .between } := by
        simp [start, hu]
      rw [hstart, remaining_between fetchPolicy .ok .fetched
        (fun _ _ _ => by rw [start_request]; rfl) (fun _ => by rw [start_request]; rfl)]
      simp [RestRequest.result, RestRequest.run, rangeFetch, hu, start_request,
        RestRequest.target, Target.pick]

end Caller

/-! ## Runs of a lone caller -/

theorem Callers.Runs.cons_lone {s s' : RestState} {c c' : Caller} {acts : List RestAction}
    (hstep : c.step s = some (acts, c', s')) {evs : List (Nat × RestAction)} {y : Callers}
    (h : Callers.Runs ⟨s', [c']⟩ evs y) :
    Callers.Runs ⟨s, [c]⟩ (acts.map ((0, ·)) ++ evs) y := by
  induction h with
  | refl =>
    rw [List.append_nil]
    exact Callers.Runs.refl.step (i := 0) rfl hstep
  | step _ hi hs ih =>
    rw [← List.append_assoc]
    exact ih.step hi hs

/-- **A lone caller gets to the end**: it has a run that leaves it unable to step, in the state
its steps lead to. -/
theorem Caller.runs_to_end (c : Caller) (s : RestState) :
    ∃ evs c', Callers.Runs ⟨s, [c]⟩ evs ⟨(c.remaining s).2.2, [c']⟩ ∧
      c'.step (c.remaining s).2.2 = none := by
  rcases h : c.step s with _ | ⟨acts, c₁, s₁⟩
  · rw [remaining_of_none h]
    exact ⟨[], c, .refl, h⟩
  · obtain ⟨evs, c', hrun, hend⟩ := runs_to_end c₁ s₁
    rw [remaining_of_step h]
    exact ⟨_, c', hrun.cons_lone h, hend⟩
termination_by c.measure
decreasing_by exact Caller.measure_step h

/-- **Every run of a lone caller begins what was left.** Along any run of a caller alone, the
calls made so far, followed by what is left of the run, are what was left at its start. -/
theorem Callers.Runs.lone {s : RestState} {c₀ : Caller} {evs : List (Nat × RestAction)}
    {y : Callers} (h : Callers.Runs ⟨s, [c₀]⟩ evs y) :
    ∃ c, y.callers = [c] ∧ (c.remaining y.state).1 = (c₀.remaining s).1 ∧
      evs.filterMap (fun e => e.2.call?) ++ (c.remaining y.state).2.1 = (c₀.remaining s).2.1 ∧
      (c.remaining y.state).2.2 = (c₀.remaining s).2.2 := by
  induction h with
  | refl => exact ⟨c₀, rfl, rfl, rfl, rfl⟩
  | @step evs y i c₁ c₂ acts s' _ hi hstep ih =>
    obtain ⟨c, hcs, hout, hcalls, hend⟩ := ih
    -- the only caller is the one that steps
    rw [hcs] at hi
    obtain ⟨rfl, rfl⟩ : i = 0 ∧ c = c₁ := by
      rcases i with _ | i
      · simpa using hi
      · simp at hi
    rw [Caller.remaining_of_step hstep] at hout hcalls hend
    refine ⟨c₂, by simp [hcs], hout, ?_, hend⟩
    rw [← hcalls, List.filterMap_append, List.filterMap_map, List.append_assoc]
    rfl

/-- **A caller run alone makes the call.** A caller about to make call `q` from state `s`, with
no other caller between its steps, gets to where it can step no more. Along the way the calls it
has made are always the first of those `RestRequest.run` makes. Once it can step no more, it has
made them all, it has left the state the call leaves, and it has returned what the call returns,
or nothing when the script ran out. -/
theorem lone_caller_makes_the_call (s : RestState) (q : RestRequest) :
    (∃ evs c, Callers.Runs ⟨s, [Caller.start q]⟩ evs ⟨(q.run s).2, [c]⟩ ∧
      c.step (q.run s).2 = none) ∧
    ∀ evs y, Callers.Runs ⟨s, [Caller.start q]⟩ evs y → ∃ c, y.callers = [c] ∧
      evs.filterMap (fun e => e.2.call?) <+: (q.run s).1 ∧
      (c.step y.state = none → evs.filterMap (fun e => e.2.call?) = (q.run s).1 ∧
        y.state = (q.run s).2 ∧ c.stage.result? = q.result s) := by
  have hstart := Caller.remaining_start q s
  refine ⟨?_, fun evs y h => ?_⟩
  · obtain ⟨evs, c, hrun, hend⟩ := Caller.runs_to_end (Caller.start q) s
    rw [hstart] at hrun hend
    exact ⟨evs, c, hrun, hend⟩
  · obtain ⟨c, hcs, hout, hcalls, hend⟩ := h.lone
    rw [hstart] at hout hcalls hend
    refine ⟨c, hcs, hcalls ▸ List.prefix_append _ _, fun hdone => ?_⟩
    -- a caller that can step no more has nothing left to do
    rw [Caller.remaining_of_none hdone] at hout hcalls hend
    exact ⟨by simpa using hcalls, hend, hout⟩

end ChunkStore
