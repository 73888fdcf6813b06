import ChunkStore.Proofs.RestRetries
import ChunkStore.Storage.Callers
import Mathlib.Data.List.Rotate
/-!
# Rotation through the credential and channel pools

A pool hands out its items in rotation. Every pick runs under the pool's lock, so the picks of
any number of callers run one after another, in the order they take the lock: `n` of them are
`n` successive `next` calls, which is what `RoundRobin.take` runs. Pick `a` after the cursor hands
out the item at `(cursor + a) mod K` (`RoundRobin.pickAt`, `RoundRobin.take_fst`), so a new pool
hands out `items[0], items[1 mod K], …` (`RoundRobin.take_of_new`), and any `K` successive picks hand out every item once
(`RoundRobin.take_window_perm`).

The HTTP transport draws from two pools: each attempt of an upload or a listing takes the next
credential, and an upload's attempt also the next channel, before it asks the limiter for a permit
of that pair's bucket. Any number of callers use the transport at once, and the steps of their
attempts interleave (`Callers.Runs`): each take from a pool is one step, and so are the look at
the cancel token, the wait for a permit, and the request with its settling. Over every
interleaving, the credentials taken, in the order their picks run, are the rotation's, and so are
the channels (`tokensTaken`, `channelsTaken`); and each caller's attempts each take a pair and make
their calls on exactly that pair: a permit of its bucket, the request, the permit settled in that
bucket (`RestState.AttemptsOn`). What one step of a caller can do is said once (`Caller.Moves`);
each such step keeps this (`Caller.step_turned`, `Caller.step_shows`), and so every run does
(`Callers.Runs.shows`). An attempt cancelled while it
waits for its permit has taken its pair but sends nothing.

When the calls run one after another (`RestState.serve`), every retry included, the requests the
transport sends are those of attempts on the pairs the rotation law gives (`rotationPairs`):
attempt `a` overall uses credential pick `a`, the `u`-th attempt of an upload uses channel pick
`u`, a listing its own channel, and a range fetch neither (`SentOn`). The main statement is
`rotation_reaches_every_attempt`.
-/

namespace ChunkStore

/-! ## The pool law -/

namespace RoundRobin

variable {α : Type} (p : RoundRobin α)

/-- The item that pick `a`, counted from the cursor, hands out. -/
def pickAt (a : Nat) : α :=
  p.items.get ⟨(p.cursor + a) % p.items.length, Nat.mod_lt _ p.nonempty⟩

@[simp] theorem advance_items : p.advance.items = p.items := rfl

theorem current_eq_pickAt : p.current = p.pickAt 0 := rfl

theorem pickAt_advance (a : Nat) : p.advance.pickAt a = p.pickAt (a + 1) := by
  simp only [pickAt, advance_items, List.get_eq_getElem]
  congr 1
  simp only [advance]
  rw [Nat.mod_add_mod, Nat.add_right_comm, Nat.add_assoc]

@[simp] theorem take_snd_items (n : Nat) : (p.take n).2.items = p.items := by
  induction n generalizing p with
  | zero => rfl
  | succ n ih => simp only [take, ih, advance_items]

theorem take_fst (n : Nat) : (p.take n).1 = (List.range n).map p.pickAt := by
  induction n generalizing p with
  | zero => rfl
  | succ n ih =>
    simp only [take]
    rw [ih, List.range_succ_eq_map, List.map_cons, List.map_map, current_eq_pickAt]
    congr 1
    exact List.map_congr_left fun a _ => pickAt_advance p a

theorem take_length_eq_rotate :
    (p.take p.items.length).1 = p.items.rotate (p.cursor % p.items.length) := by
  rw [take_fst]
  apply List.ext_getElem (by simp)
  intro i h₁ h₂
  simp only [List.getElem_map, List.getElem_range, List.getElem_rotate, pickAt,
    List.get_eq_getElem]
  congr 1
  rw [Nat.add_mod_mod, Nat.add_comm]

/-- Any `K` successive picks over `K` items hand out every item once. -/
theorem take_window_perm (j : Nat) : ((p.take j).2.take p.items.length).1.Perm p.items := by
  have h := take_length_eq_rotate (p.take j).2
  rw [take_snd_items] at h
  rw [h]
  exact List.rotate_perm _ _

/-- A pool is made exactly from a non-empty list, with its cursor on the first item. -/
theorem new_eq_ok_iff {kind : String} {items : List α} {q : RoundRobin α} :
    RoundRobin.new kind items = .ok q ↔ q.items = items ∧ q.cursor = 0 := by
  unfold RoundRobin.new
  split
  · constructor
    · intro h
      cases h
      exact ⟨rfl, rfl⟩
    · rintro ⟨hi, hc⟩
      obtain ⟨items', cursor, _⟩ := q
      cases hi
      cases hc
      rfl
  · next hlen =>
    refine iff_of_false (fun h => by cases h) ?_
    rintro ⟨rfl, -⟩
    exact hlen q.nonempty

theorem new_nil (kind : String) :
    RoundRobin.new kind ([] : List α) = .error (.config (kind ++ " pool is empty")) := rfl

theorem exists_new_iff (kind : String) (items : List α) :
    (∃ q, RoundRobin.new kind items = .ok q) ↔ items ≠ [] := by
  constructor
  · rintro ⟨q, hq⟩ rfl
    rw [new_nil] at hq
    cases hq
  · intro hne
    exact ⟨⟨items, 0, List.length_pos_iff.2 hne⟩, new_eq_ok_iff.2 ⟨rfl, rfl⟩⟩

/-- A new pool hands out `items[0], items[1 mod K], …` in turn. -/
theorem take_of_new {kind : String} {items : List α} {q : RoundRobin α}
    (hq : RoundRobin.new kind items = .ok q) (n : Nat) :
    (q.take n).1.length = n ∧ ∀ a < n, (q.take n).1[a]? = items[a % items.length]? := by
  obtain ⟨rfl, hcur⟩ := new_eq_ok_iff.1 hq
  rw [take_fst]
  refine ⟨by simp, fun a ha => ?_⟩
  simp [ha, pickAt, hcur]

end RoundRobin

/-! ## What an attempt draws -/

theorem Limiter.exists_refillsBy (l : Limiter) : ∃ X, l.RefillsBy X := by
  obtain ⟨buckets, cancelled⟩ := l
  induction buckets with
  | nil => exact ⟨0, fun e he => by cases he⟩
  | cons b bs ih =>
    obtain ⟨X, hX⟩ := ih
    refine ⟨max X (b.2.resetAt.getD 0), fun e he R hR => ?_⟩
    rcases List.mem_cons.1 he with rfl | he
    · simp only [hR, Option.getD_some]
      exact Nat.le_max_right _ _
    · exact Nat.le_trans (hX e he R hR) (Nat.le_max_left _ _)

namespace RestState

theorem settle_pools (s : RestState) (held : Option Permit) (headers : Option HeaderMap) :
    (s.settle held headers).2.1.tokens = s.tokens ∧ (s.settle held headers).2.1.channels = s.channels := by
  cases held <;> exact ⟨rfl, rfl⟩

section Draw

variable {policy : RetryPolicy} {finish : ByteStream → Outcome α}
  {pick : RestState → Option (String × String) × RestState} {limited : Bool}

/-- **An attempt on a reply sends its request on the pair it draws.** With the token not fired,
the attempt waits for a permit of its pair's bucket, which it gets, sends, and settles the permit;
the pools are left as drawing left them. -/
theorem attempt_reply_sends (hp : Picks limited pick) {s : RestState}
    (hc : s.limiter.cancelled = false) (r : Reply) :
    (s.attempt policy pick finish (.reply r)).2.1 = attemptCalls r (pick s).1 ∧
      (s.attempt policy pick finish (.reply r)).2.2.tokens = (pick s).2.tokens ∧
      (s.attempt policy pick finish (.reply r)).2.2.channels = (pick s).2.channels := by
  obtain ⟨-, hlim, -⟩ := hp s
  rcases hpk : pick s with ⟨_ | ⟨token, channel⟩, s₁⟩ <;> rw [hpk] at hlim <;>
    simp only [attempt, hc, hpk, Bool.false_eq_true, if_false]
  · -- a range fetch draws nothing and sends at once
    refine ⟨?_, ?_⟩
    · show RestCall.sent none :: (s₁.exchange policy finish none r).2.1 = _
      rw [exchange_calls]
      rfl
    · show (s₁.exchange policy finish none r).2.2.tokens = _ ∧
        (s₁.exchange policy finish none r).2.2.channels = _
      rw [exchange_calls_state]
      exact settle_pools s₁ none r.headers
  · -- the permit comes, since the token has not fired
    obtain ⟨X, hX⟩ := s₁.limiter.exists_refillsBy
    obtain ⟨p, now, l, hacq, hkey, -, -, -⟩ :=
      hX.acquire_two (hlim ▸ hc) (bucketKey token channel) s₁.clock
    rw [hacq]
    refine ⟨?_, ?_⟩
    · show RestCall.acquired p.key :: .sent (some (token, channel)) ::
        (RestState.exchange policy finish _ (some p) r).2.1 = _
      rw [exchange_calls, settle_calls, hkey]
      rfl
    · show (RestState.exchange policy finish { s₁ with limiter := l, clock := now } (some p) r).2.2.tokens = _ ∧
        (RestState.exchange policy finish { s₁ with limiter := l, clock := now } (some p) r).2.2.channels = _
      rw [exchange_calls_state]
      exact settle_pools { s₁ with limiter := l, clock := now } (some p) r.headers

end Draw

/-- What a call draws from the pools on each attempt, by its kind. -/
inductive Target where
  | upload
  | list (channel : String)
  | fetch

/-- How an attempt of a call of the kind draws: an upload the next credential and channel, a
listing the next credential, a range fetch nothing. -/
def Target.pick : Target → RestState → Option (String × String) × RestState
  | .upload => pickUpload
  | .list channel => pickList channel
  | .fetch => fun s => (none, s)

/-- How many credentials an attempt of the kind draws. -/
def Target.draws : Target → Nat
  | .fetch => 0
  | _ => 1

/-- How many channels an attempt of the kind draws. -/
def Target.uploads : Target → Nat
  | .upload => 1
  | _ => 0

/-- The pair an attempt of the kind sends on by the rotation law, when `a` credentials and `u`
channels were drawn from `tokens` and `channels` before it. -/
def Target.pair (tokens channels : RoundRobin String) (a u : Nat) : Target → Option (String × String)
  | .upload => some (tokens.pickAt a, channels.pickAt u)
  | .list channel => some (tokens.pickAt a, channel)
  | .fetch => none

theorem Target.picks (t : Target) : Picks (t.draws == 1) t.pick := by
  cases t with
  | upload => exact picks_upload
  | list channel => exact picks_list channel
  | fetch => exact picks_fetch

/-- The pools of `s` are those of `s₀` after `a` credential and `u` channel picks. -/
def Turned (s₀ : RestState) (a u : Nat) (s : RestState) : Prop :=
  ∀ i, s.tokens.pickAt i = s₀.tokens.pickAt (a + i) ∧ s.channels.pickAt i = s₀.channels.pickAt (u + i)

theorem turned_refl (s : RestState) : Turned s 0 0 s := fun i => by simp

theorem Turned.pause {s₀ s : RestState} {a u : Nat} (h : Turned s₀ a u s) (n : Nat) :
    Turned s₀ a u (s.pause n) := h

theorem Turned.congr {s₀ s s' : RestState} {a u : Nat} (h : Turned s₀ a u s)
    (ht : s'.tokens = s.tokens) (hc : s'.channels = s.channels) : Turned s₀ a u s' := fun i => by
  rw [ht, hc]
  exact h i

theorem Turned.takeToken {s₀ s : RestState} {a u : Nat} (h : Turned s₀ a u s) :
    s.tokens.next.1 = s₀.tokens.pickAt a ∧ Turned s₀ (a + 1) u { s with tokens := s.tokens.next.2 } := by
  refine ⟨by simpa [RoundRobin.next, RoundRobin.current_eq_pickAt] using (h 0).1, fun i => ⟨?_, (h i).2⟩⟩
  show s.tokens.advance.pickAt i = _
  rw [RoundRobin.pickAt_advance, (h (i + 1)).1, Nat.add_right_comm, Nat.add_assoc]

theorem Turned.takeChannel {s₀ s : RestState} {a u : Nat} (h : Turned s₀ a u s) :
    s.channels.next.1 = s₀.channels.pickAt u ∧
      Turned s₀ a (u + 1) { s with channels := s.channels.next.2 } := by
  refine ⟨by simpa [RoundRobin.next, RoundRobin.current_eq_pickAt] using (h 0).2, fun i => ⟨(h i).1, ?_⟩⟩
  show s.channels.advance.pickAt i = _
  rw [RoundRobin.pickAt_advance, (h (i + 1)).2, Nat.add_right_comm, Nat.add_assoc]

/-- Drawing from turned pools takes the rotation's pair and turns the pools on. -/
theorem Turned.pick {s₀ s : RestState} {a u : Nat} (h : Turned s₀ a u s) (t : Target) :
    (t.pick s).1 = t.pair s₀.tokens s₀.channels a u ∧
      Turned s₀ (a + t.draws) (u + t.uploads) (t.pick s).2 := by
  have h₀ := h 0
  simp only [Nat.add_zero] at h₀
  -- a pool turned once more hands out, from its cursor, the picks one further on
  have htok : ∀ i, s.tokens.advance.pickAt i = s₀.tokens.pickAt (a + 1 + i) := fun i => by
    rw [RoundRobin.pickAt_advance, (h (i + 1)).1, Nat.add_right_comm, Nat.add_assoc]
  have hchan : ∀ i, s.channels.advance.pickAt i = s₀.channels.pickAt (u + 1 + i) := fun i => by
    rw [RoundRobin.pickAt_advance, (h (i + 1)).2, Nat.add_right_comm, Nat.add_assoc]
  cases t with
  | upload =>
    refine ⟨?_, fun i => ⟨htok i, hchan i⟩⟩
    simp [Target.pick, pickUpload, Target.pair, RoundRobin.next, RoundRobin.current_eq_pickAt,
      h₀.1, h₀.2]
  | list channel =>
    refine ⟨?_, fun i => ⟨htok i, (h i).2⟩⟩
    simp [Target.pick, pickList, Target.pair, RoundRobin.next, RoundRobin.current_eq_pickAt, h₀.1]
  | fetch => exact ⟨rfl, h⟩

/-- **One attempt, by the rotation law.** From pools turned `a` and `u` times, or with the token
fired, an attempt either ends the call having sent nothing, the token then fired, or sends on the
rotation's pair, after a permit of that pair's bucket, and turns the pools on by what it drew. -/
theorem attempt_rotation (t : Target) (policy : RetryPolicy) (finish : ByteStream → Outcome α)
    (turn : Turn) {s₀ s : RestState} {a u : Nat} (h : Turned s₀ a u s ∨ s.limiter.cancelled = true) :
    ((∃ out, (s.attempt policy t.pick finish turn).1 = .done out) ∧
        (s.attempt policy t.pick finish turn).2.1 = [] ∧
        (s.attempt policy t.pick finish turn).2.2.limiter.cancelled = true) ∨
      ∃ r, (s.attempt policy t.pick finish turn).2.1 =
          attemptCalls r (t.pair s₀.tokens s₀.channels a u) ∧
        Turned s₀ (a + t.draws) (u + t.uploads) (s.attempt policy t.pick finish turn).2.2 := by
  cases hc : s.limiter.cancelled with
  | true =>
    -- a fired token ends the call at its first look, before anything is drawn
    have hx : s.attempt policy t.pick finish turn = (.done (.failed .cancelled), [], s) := by
      simp [attempt, hc]
    rw [hx]
    exact .inl ⟨⟨_, rfl⟩, rfl, hc⟩
  | false =>
    have hT : Turned s₀ a u s := h.resolve_right (by simp [hc])
    cases turn with
    | cancelled =>
      have hx : s.attempt policy t.pick finish .cancelled =
          (.done (.failed .cancelled), [], s.cancel) := by simp [attempt, hc]
      rw [hx]
      exact .inl ⟨⟨_, rfl⟩, rfl, rfl⟩
    | cancelledAcquiring =>
      have hx : s.attempt policy t.pick finish .cancelledAcquiring =
          (.done (.failed .cancelled), [], (t.pick s).2.cancel) := by simp [attempt, hc]
      rw [hx]
      exact .inl ⟨⟨_, rfl⟩, rfl, rfl⟩
    | reply r =>
      obtain ⟨hcalls, htok, hchan⟩ := @attempt_reply_sends α policy finish t.pick _ t.picks s hc r
      obtain ⟨hpair, hturn⟩ := hT.pick t
      refine .inr ⟨r, hcalls.trans (by rw [hpair]), fun i => ?_⟩
      rw [htok, hchan]
      exact hturn i

/-! ## The rotation law over calls -/

/-- The pair of each attempt in turn by the rotation law, for attempts of the kinds `ts` after `a`
credential and `u` channel picks: an attempt takes the next credential pick, an upload's also the
next channel pick. -/
def rotationPairs (tokens channels : RoundRobin String) :
    Nat → Nat → List Target → List (Option (String × String))
  | _, _, [] => []
  | a, u, t :: ts => t.pair tokens channels a u :: rotationPairs tokens channels (a + t.draws) (u + t.uploads) ts

theorem rotationPairs_replicate_append (tokens channels : RoundRobin String) (t : Target)
    (ts : List Target) :
    ∀ k a u, rotationPairs tokens channels a u (List.replicate k t ++ ts) =
      rotationPairs tokens channels a u (List.replicate k t) ++
        rotationPairs tokens channels (a + k * t.draws) (u + k * t.uploads) ts
  | 0, a, u => by simp [rotationPairs]
  | k + 1, a, u => by
    simp only [List.replicate_succ, List.cons_append, rotationPairs, List.cons.injEq, true_and]
    rw [rotationPairs_replicate_append tokens channels t ts k]
    congr 2 <;> rw [Nat.succ_mul] <;> omega

/-- The calls of attempts that send their requests on `pairs` in turn, on whatever replies, each
followed by a back-off or not. A request on a pair is sent right after a permit of that pair's
bucket is handed out, and the permit is settled right after it (`attemptCalls`). -/
inductive SentOn : List (Option (String × String)) → List RestCall → Prop where
  | nil : SentOn [] []
  | attempt {pairs : List (Option (String × String))} {calls : List RestCall} (r : Reply)
      (pair : Option (String × String)) :
      SentOn pairs calls → SentOn (pair :: pairs) (attemptCalls r pair ++ calls)
  | backOff {pairs : List (Option (String × String))} {calls : List RestCall} (r : Reply)
      (pair : Option (String × String)) (nanos : Nat) :
      SentOn pairs calls → SentOn (pair :: pairs) (attemptCalls r pair ++ .backedOff nanos :: calls)

theorem SentOn.append {p₁ p₂ : List (Option (String × String))} {c₁ c₂ : List RestCall}
    (h₁ : SentOn p₁ c₁) (h₂ : SentOn p₂ c₂) : SentOn (p₁ ++ p₂) (c₁ ++ c₂) := by
  induction h₁ with
  | nil => exact h₂
  | attempt r pair _ ih =>
    rw [List.cons_append, List.append_assoc]
    exact .attempt r pair ih
  | backOff r pair nanos _ ih =>
    rw [List.cons_append, List.append_assoc, List.cons_append]
    exact .backOff r pair nanos ih

/-- **A call's attempts, by the rotation law.** From pools turned `a` and `u` times, or with the
token fired, the attempts of a call of kind `t` send on the rotation's next `k` pairs for some
`k`, every retry included, and leave the pools turned by what they drew, or the token fired. -/
theorem attempts_rotation (t : Target) (policy : RetryPolicy) (finish : ByteStream → Outcome α)
    (s₀ : RestState) :
    ∀ (turns : List Turn) (tries : Nat) (s : RestState) (a u : Nat),
      (Turned s₀ a u s ∨ s.limiter.cancelled = true) →
      ∃ k, SentOn (rotationPairs s₀.tokens s₀.channels a u (List.replicate k t))
          (attempts policy t.pick finish turns tries s).2.1 ∧
        (Turned s₀ (a + k * t.draws) (u + k * t.uploads)
            (attempts policy t.pick finish turns tries s).2.2 ∨
          (attempts policy t.pick finish turns tries s).2.2.limiter.cancelled = true)
  | [], _, s, a, u, h => ⟨0, .nil, by simpa [attempts] using h⟩
  | turn :: turns, tries, s, a, u, h => by
    rcases attempt_rotation t policy finish turn h with ⟨⟨out, hdone⟩, hcalls, hc⟩ | ⟨r, hcalls, hT⟩
    · -- the attempt ends the call, having sent nothing
      rcases hatt : s.attempt policy t.pick finish turn with ⟨e, calls, s'⟩
      rw [hatt] at hdone hcalls hc
      dsimp only at hdone hcalls hc
      subst hdone hcalls
      refine ⟨0, ?_, .inr ?_⟩ <;> simp only [attempts, hatt]
      · exact .nil
      · exact hc
    · -- the attempt sends on the rotation's pair; the rest of the call goes on from there
      have hone : ∀ rest, rotationPairs s₀.tokens s₀.channels a u (t :: rest) =
          t.pair s₀.tokens s₀.channels a u :: rotationPairs s₀.tokens s₀.channels
            (a + t.draws) (u + t.uploads) rest := fun _ => rfl
      have hk : ∀ k, a + t.draws + k * t.draws = a + (k + 1) * t.draws ∧
          u + t.uploads + k * t.uploads = u + (k + 1) * t.uploads := fun k => by
        constructor <;> rw [Nat.succ_mul] <;> omega
      rcases hatt : s.attempt policy t.pick finish turn with ⟨out | backOff, calls, s'⟩ <;>
        rw [hatt] at hcalls hT <;> dsimp only at hcalls hT
      · refine ⟨1, ?_, .inl ?_⟩ <;> simp only [attempts, hatt]
        · rw [hcalls, ← List.append_nil (attemptCalls r _)]
          exact .attempt r _ .nil
        · simpa using hT
      cases backOff with
      | false =>
        obtain ⟨k, hsent, hend⟩ := attempts_rotation t policy finish s₀ turns tries s' _ _ (.inl hT)
        refine ⟨k + 1, ?_, ?_⟩ <;> simp only [attempts, hatt]
        · rw [hcalls, List.replicate_succ, hone]
          exact .attempt r _ hsent
        · rwa [(hk k).1, (hk k).2] at hend
      | true =>
        obtain ⟨k, hsent, hend⟩ := attempts_rotation t policy finish s₀ turns (tries + 1)
          (s'.pause (backoffDelay tries)) _ _ (.inl (hT.pause _))
        refine ⟨k + 1, ?_, ?_⟩ <;> simp only [attempts, hatt]
        · rw [hcalls, List.replicate_succ, hone]
          exact .backOff r _ _ hsent
        · rwa [(hk k).1, (hk k).2] at hend

end RestState

/-- What the attempts of the call draw from the pools. -/
def RestRequest.target : RestRequest → RestState.Target
  | .upload _ _ => .upload
  | .list channel _ => .list channel
  | .fetch _ _ => .fetch

/-- The kinds of the attempts of calls `reqs` that send, when call `i` sends `counts[i]` times. -/
def attemptTargets (reqs : List RestRequest) (counts : List Nat) : List RestState.Target :=
  (reqs.zip counts).flatMap fun (q, k) => List.replicate k q.target

namespace RestState

/-- A call's attempts follow the rotation law, a range fetch whose link is no URL making none. -/
theorem run_rotation (q : RestRequest) {s₀ s : RestState} {a u : Nat}
    (h : Turned s₀ a u s ∨ s.limiter.cancelled = true) :
    ∃ k, SentOn (rotationPairs s₀.tokens s₀.channels a u (List.replicate k q.target)) (q.run s).1 ∧
      (Turned s₀ (a + k * q.target.draws) (u + k * q.target.uploads) (q.run s).2 ∨
        (q.run s).2.limiter.cancelled = true) := by
  cases q with
  | upload data turns => exact attempts_rotation .upload uploadPolicy _ s₀ turns 0 s a u h
  | list channel turns => exact attempts_rotation (.list channel) listPolicy _ s₀ turns 0 s a u h
  | fetch node turns =>
    simp only [RestRequest.run, rangeFetch]
    split
    · exact ⟨0, .nil, by simpa using h⟩
    · exact attempts_rotation .fetch fetchPolicy _ s₀ turns 0 s a u h

/-- **Calls one after another follow the rotation law.** From pools turned `a` and `u` times, or
with the token fired, the calls `reqs` send on the rotation's pairs for their attempts, call after
call, each sending some number of times. -/
theorem serve_rotation {s₀ : RestState} :
    ∀ (reqs : List RestRequest) (s : RestState) (a u : Nat),
      (Turned s₀ a u s ∨ s.limiter.cancelled = true) →
      ∃ counts : List Nat, counts.length = reqs.length ∧
        SentOn (rotationPairs s₀.tokens s₀.channels a u (attemptTargets reqs counts)) (s.serve reqs).1
  | [], s, a, u, _ => ⟨[], rfl, .nil⟩
  | q :: qs, s, a, u, h => by
    obtain ⟨k, hsent, hend⟩ := run_rotation q h
    -- after a call that fired the token the counters no longer matter: nothing more is sent
    obtain ⟨counts, hlen, hrest⟩ := serve_rotation qs (q.run s).2 _ _ hend
    refine ⟨k :: counts, by simp [hlen], ?_⟩
    simp only [serve, attemptTargets, List.zip_cons_cons, List.flatMap_cons]
    rw [rotationPairs_replicate_append]
    exact hsent.append hrest

end RestState

/-! ## The rotation law over interleaved callers -/

namespace RestState

namespace Target

/-- What an attempt of the kind shows of the pair it takes: an upload its credential and
channel, a listing its credential, a range fetch nothing. -/
def took : Target → Option (String × String) → List RestAction
  | .upload, some (token, channel) => [.tookToken token, .tookChannel channel]
  | .list _, some (token, _) => [.tookToken token]
  | _, _ => []

/-- The pairs an attempt of the kind sends on: an upload any credential and channel, a listing a
credential and its own channel, a range fetch none. -/
def Fits : Target → Option (String × String) → Prop
  | .upload, pair => pair.isSome = true
  | .list channel, pair => ∃ token, pair = some (token, channel)
  | .fetch, pair => pair = none

end Target

/-- The actions of a caller whose attempts of kind `t` each take a pair and make their calls on
it: a permit of the pair's bucket, the request on the pair, the permit settled in that bucket
(`attemptCalls`), and a back-off or not. -/
inductive AttemptsOn (t : Target) : List RestAction → Prop where
  | nil : AttemptsOn t []
  | attempt {acts : List RestAction} (pair : Option (String × String)) (hpair : t.Fits pair)
      (r : Reply) (pause : List RestCall) (hpause : pause = [] ∨ ∃ n, pause = [.backedOff n]) :
      AttemptsOn t acts →
        AttemptsOn t (acts ++ t.took pair ++ (attemptCalls r pair ++ pause).map .made)

end RestState

/-- The actions of caller `i` in a run, in order. -/
def actionsOf (i : Nat) (evs : List (Nat × RestAction)) : List RestAction :=
  (evs.filter (·.1 == i)).map (·.2)

theorem actionsOf_append (i j : Nat) (evs : List (Nat × RestAction)) (acts : List RestAction) :
    actionsOf i (evs ++ acts.map ((j, ·))) = actionsOf i evs ++ if j = i then acts else [] := by
  by_cases h : j = i
  · subst h
    simp [actionsOf, List.filter_map, Function.comp_def]
  · simp [actionsOf, List.filter_map, Function.comp_def, h]

/-- The credential a step shows it took, if any. -/
def RestAction.token? : RestAction → Option String
  | .tookToken token => some token
  | _ => none

/-- The channel a step shows it took, if any. -/
def RestAction.channel? : RestAction → Option String
  | .tookChannel channel => some channel
  | _ => none

namespace Caller

open RestState

/-- What one step of a caller does, by where it stands: the actions it shows, and the caller and
the state after. -/
inductive Moves (c : Caller) (s : RestState) :
    List RestAction → Caller → RestState → Prop where
  | fired {turn : Turn} {turns : List Turn} : c.stage = .between → c.turns = turn :: turns →
      s.limiter.cancelled = true → Moves c s [] ({ c with turns }.failWith .cancelled) s
  | cancelled {turns : List Turn} : c.stage = .between → c.turns = .cancelled :: turns →
      s.limiter.cancelled = false → Moves c s [] ({ c with turns }.failWith .cancelled) s.cancel
  | take {turn : Turn} {turns : List Turn} {acts : List RestAction} {c' : Caller} {s' : RestState} :
      c.stage = .between → c.turns = turn :: turns → s.limiter.cancelled = false →
      turn ≠ .cancelled → c.take s turns turn.reply? = (acts, c', s') → Moves c s acts c' s'
  | channel {token : String} {reply : Option Reply} : c.stage = .hasToken token reply →
      Moves c s [.tookChannel s.channels.next.1]
        { c with stage := .hasPair (some (token, s.channels.next.1)) reply }
        { s with channels := s.channels.next.2 }
  | cancelledAcquiring {pair : Option (String × String)} : c.stage = .hasPair pair none →
      Moves c s [] (c.failWith .cancelled) s.cancel
  | unlimited {r : Reply} {acts : List RestAction} {c' : Caller} {s' : RestState} :
      c.stage = .hasPair none (some r) →
      c.conclude ((c.request.exchange s none r).1, .sent none :: (c.request.exchange s none r).2.1,
        (c.request.exchange s none r).2.2) = (acts, c', s') → Moves c s acts c' s'
  | refused {token channel : String} {r : Reply} {e : StorageError} :
      c.stage = .hasPair (some (token, channel)) (some r) →
      s.limiter.acquire (bucketKey token channel) s.clock 2 = .error e →
      Moves c s [] (c.failWith e) s
  | acquired {token channel : String} {r : Reply} {p : Permit} {now : Nat} {l : Limiter} :
      c.stage = .hasPair (some (token, channel)) (some r) →
      s.limiter.acquire (bucketKey token channel) s.clock 2 = .ok (p, now, l) →
      Moves c s [.made (.acquired p.key)] { c with stage := .hasPermit token channel p r }
        { s with limiter := l, clock := now }
  | permitted {token channel : String} {p : Permit} {r : Reply} {acts : List RestAction}
      {c' : Caller} {s' : RestState} : c.stage = .hasPermit token channel p r →
      c.conclude ((c.request.exchange s (some p) r).1, .sent (some (token, channel)) ::
        (c.request.exchange s (some p) r).2.1, (c.request.exchange s (some p) r).2.2) =
        (acts, c', s') → Moves c s acts c' s'

/-- The steps of a caller are exactly its moves. -/
theorem step_eq_some_iff {c c' : Caller} {s s' : RestState} {acts : List RestAction} :
    c.step s = some (acts, c', s') ↔ Moves c s acts c' s' := by
  constructor
  · intro h
    unfold step at h
    cases hst : c.stage with
    | between =>
      simp only [hst] at h
      cases ht : c.turns with
      | nil => simp [ht] at h
      | cons turn turns =>
        simp only [ht] at h
        split at h
        · next hc =>
          cases h
          exact .fired hst ht hc
        · next hc =>
          simp only [Bool.not_eq_true] at hc
          cases turn with
          | cancelled =>
            cases h
            exact .cancelled hst ht hc
          | cancelledAcquiring => exact .take hst ht hc (by simp) (Option.some.inj h)
          | reply r => exact .take hst ht hc (by simp) (Option.some.inj h)
    | hasToken token reply =>
      simp only [hst] at h
      cases h
      exact .channel hst
    | hasPair pair reply =>
      simp only [hst] at h
      rcases reply with _ | r
      · cases h
        exact .cancelledAcquiring hst
      rcases pair with _ | ⟨token, channel⟩
      · exact .unlimited hst (Option.some.inj h)
      · simp only at h
        split at h
        · next e hacq =>
          cases h
          exact .refused hst hacq
        · next p now l hacq =>
          cases h
          exact .acquired hst hacq
    | hasPermit token channel p r =>
      simp only [hst] at h
      exact .permitted hst (Option.some.inj h)
    | returned result => simp [hst] at h
  · intro h
    cases h with
    | fired hst ht hc => simp [step, hst, ht, hc]
    | cancelled hst ht hc => simp [step, hst, ht, hc]
    | @take turn turns _ _ _ hst ht hc hturn htake =>
      rw [← htake]
      cases turn with
      | cancelled => exact absurd rfl hturn
      | cancelledAcquiring => simp [step, hst, ht, hc, Turn.reply?]
      | reply r => simp [step, hst, ht, hc, Turn.reply?]
    | channel hst => simp [step, hst]
    | cancelledAcquiring hst => simp [step, hst]
    | unlimited hst hc => simp [step, hst, ← hc]
    | refused hst hacq => simp [step, hst, hacq]
    | acquired hst hacq => simp [step, hst, hacq]
    | permitted hst hc => simp [step, hst, ← hc]

/-- What a caller has shown so far, by where it stands: its attempts before the current one each
took a pair and made their calls on it, and the current one has shown what it took, and the
permit it got for that pair. A caller that returned has shown the start of such attempts. -/
def Shows (c : Caller) (acts : List RestAction) : Prop :=
  match c.stage with
  | .between => AttemptsOn c.request.target acts
  | .hasToken token _ => c.request.target = .upload ∧
      ∃ done, AttemptsOn c.request.target done ∧ acts = done ++ [.tookToken token]
  | .hasPair pair _ => c.request.target.Fits pair ∧
      ∃ done, AttemptsOn c.request.target done ∧ acts = done ++ c.request.target.took pair
  | .hasPermit token channel p _ => c.request.target.Fits (some (token, channel)) ∧
      p.key = bucketKey token channel ∧ ∃ done, AttemptsOn c.request.target done ∧
        acts = done ++ c.request.target.took (some (token, channel)) ++ [.made (.acquired p.key)]
  | .returned _ => ∃ more, AttemptsOn c.request.target (acts ++ more)

/-- What a caller has shown is the start of attempts that each take a pair and make their calls
on it. -/
theorem Shows.extend {c : Caller} {acts : List RestAction} (h : c.Shows acts) :
    ∃ more, AttemptsOn c.request.target (acts ++ more) := by
  unfold Shows at h
  cases hst : c.stage with
  | between =>
    simp only [hst] at h
    exact ⟨[], by rwa [List.append_nil]⟩
  | hasToken token reply =>
    simp only [hst] at h
    obtain ⟨ht, done, hdone, rfl⟩ := h
    -- the attempt may go on with any channel and any reply
    refine ⟨[.tookChannel ""] ++ (attemptCalls (.refused "") (some (token, ""))).map .made, ?_⟩
    have h := AttemptsOn.attempt (some (token, "")) (by rw [ht]; rfl) (.refused "") [] (.inl rfl)
      hdone
    rw [ht] at h ⊢
    simpa [Target.took] using h
  | hasPair pair reply =>
    simp only [hst] at h
    obtain ⟨hfit, done, hdone, rfl⟩ := h
    exact ⟨(attemptCalls (.refused "") pair).map .made,
      by simpa using AttemptsOn.attempt pair hfit (.refused "") [] (.inl rfl) hdone⟩
  | hasPermit token channel p reply =>
    simp only [hst] at h
    obtain ⟨hfit, hkey, done, hdone, rfl⟩ := h
    refine ⟨[.made (.sent (some (token, channel))), .made (.settled p.key none)], ?_⟩
    have h := AttemptsOn.attempt (some (token, channel)) hfit (.refused "") [] (.inl rfl) hdone
    simpa [attemptCalls, hkey, Reply.headers] using h
  | returned result =>
    simp only [hst] at h
    exact h

theorem shows_start (q : RestRequest) : (start q).Shows [] := by
  cases q with
  | upload data turns => exact .nil
  | list channel turns => exact .nil
  | fetch node turns =>
    -- a link that is no URL ends the call before its first attempt
    simp only [start]
    split
    · exact ⟨[], .nil⟩
    · exact .nil

end Caller

theorem RestRequest.exchange_snd (q : RestRequest) (s : RestState) (held : Option Permit)
    (r : Reply) :
    (q.exchange s held r).2 = ((s.settle held r.headers).1, (s.settle held r.headers).2.1) := by
  cases q <;> simp only [RestRequest.exchange, RestState.exchange_calls_state]

namespace Caller

open RestState

theorem take_shows {c : Caller} {acts : List RestAction} (h : AttemptsOn c.request.target acts)
    (s : RestState) (turns : List Turn) (reply : Option Reply) :
    (c.take s turns reply).2.1.request = c.request ∧
      (c.take s turns reply).2.1.Shows (acts ++ (c.take s turns reply).1) := by
  obtain ⟨q, turns₀, tries, stage⟩ := c
  cases q with
  | upload data t => exact ⟨rfl, rfl, acts, h, rfl⟩
  | list channel t => exact ⟨rfl, ⟨_, rfl⟩, acts, h, rfl⟩
  | fetch node t => exact ⟨rfl, rfl, acts, h, by simp [take, Target.took, RestRequest.target]⟩

/-- The end of an attempt that made the calls `pre ++ calls` of its pair: the caller has shown
the attempt whole, and goes on to the next or returns. -/
theorem conclude_shows {c : Caller} {done : List RestAction}
    (hdone : AttemptsOn c.request.target done) {pair : Option (String × String)}
    (hfit : c.request.target.Fits pair) {r : Reply} (pre calls : List RestCall)
    (hcalls : pre ++ calls = attemptCalls r pair) (next : CallResult ⊕ Bool) (s : RestState) :
    (c.conclude (next, calls, s)).2.1.request = c.request ∧
      (c.conclude (next, calls, s)).2.1.Shows
        (done ++ c.request.target.took pair ++ pre.map .made ++ (c.conclude (next, calls, s)).1) := by
  -- the attempt, with the back-off it makes or not
  have hwhole : ∀ pause : List RestCall, (pause = [] ∨ ∃ n, pause = [.backedOff n]) →
      AttemptsOn c.request.target
        (done ++ c.request.target.took pair ++ pre.map .made ++ (calls ++ pause).map .made) := by
    intro pause hpause
    have h := AttemptsOn.attempt pair hfit r pause hpause hdone
    rwa [← hcalls, List.append_assoc pre, List.map_append, ← List.append_assoc] at h
  rcases next with result | _ | _
  · exact ⟨rfl, [], by simpa [conclude] using hwhole [] (.inl rfl)⟩
  · exact ⟨rfl, by simpa [conclude, Shows] using hwhole [] (.inl rfl)⟩
  · exact ⟨rfl, by simpa [conclude, Shows] using hwhole _ (.inr ⟨_, rfl⟩)⟩

/-- **One step keeps what a caller shows.** Whatever the step, the caller makes the same call,
and what it has shown, with what the step shows, is again the attempts so far with the current
one as far as it got: each attempt's permit, request and settling are on the pair it took. -/
theorem step_shows {c c' : Caller} {s s' : RestState} {acts acts' : List RestAction}
    (h : c.Shows acts) (hstep : c.step s = some (acts', c', s')) :
    c'.request = c.request ∧ c'.Shows (acts ++ acts') := by
  -- a step that makes the call return shows nothing more
  have hstop : ∀ (turns : List Turn) (e : StorageError),
      ({ c with turns }.failWith e).request = c.request ∧
        ({ c with turns }.failWith e).Shows (acts ++ []) :=
    fun _ _ => ⟨rfl, by simpa [Shows, failWith] using h.extend⟩
  unfold Shows at h
  cases step_eq_some_iff.1 hstep with
  | fired | cancelled => exact hstop _ _
  | cancelledAcquiring | refused => exact hstop c.turns _
  | @take turn turns _ _ _ hst _ _ _ htake =>
    simp only [hst] at h
    have ht := take_shows h s turns turn.reply?
    rwa [htake] at ht
  | channel hst =>
    simp only [hst] at h
    obtain ⟨ht, done, hdone, rfl⟩ := h
    rw [ht] at hdone
    refine ⟨rfl, ?_⟩
    simp only [Shows, ht]
    exact ⟨rfl, done, hdone, by simp [Target.took]⟩
  | @unlimited r _ _ _ hst hc =>
    -- a range fetch sends at once, holding no permit
    simp only [hst] at h
    obtain ⟨hfit, done, hdone, rfl⟩ := h
    rcases hx : c.request.exchange s none r with ⟨next, calls, s₁⟩
    have hcalls : calls = [] := by
      simpa [RestRequest.exchange_snd, RestState.settle] using congrArg (·.2.1) hx
    simp only [hx, hcalls] at hc
    have h := conclude_shows hdone hfit (r := r) [] _ rfl next s₁
    rw [hc] at h
    simpa using h
  | acquired hst hacq =>
    -- the attempt gets a permit of its pair's bucket
    simp only [hst] at h
    obtain ⟨hfit, done, hdone, rfl⟩ := h
    exact ⟨rfl, hfit, Limiter.acquire_key hacq, done, hdone, rfl⟩
  | @permitted token channel p r _ _ _ hst hc =>
    simp only [hst] at h
    obtain ⟨hfit, hkey, done, hdone, rfl⟩ := h
    rcases hx : c.request.exchange s (some p) r with ⟨next, calls, s₁⟩
    have hcalls : [.settled p.key r.headers] = calls := by
      simpa [RestRequest.exchange_snd, RestState.settle_calls] using congrArg (·.2.1) hx
    simp only [hx, ← hcalls] at hc
    have h := conclude_shows hdone hfit (r := r) [.acquired p.key]
      [.sent (some (token, channel)), .settled p.key r.headers] (by simp [attemptCalls, hkey]) next s₁
    rw [hc] at h
    simpa using h

theorem start_request (q : RestRequest) : (start q).request = q := by
  cases q with
  | fetch node turns =>
    simp only [start]
    split <;> rfl
  | _ => rfl

/-- The end of an attempt shows only calls, and leaves the pools. -/
theorem conclude_pools (c : Caller) (next : CallResult ⊕ Bool) (calls : List RestCall)
    (s : RestState) :
    (∀ x ∈ (c.conclude (next, calls, s)).1, x.token? = none ∧ x.channel? = none) ∧
      (c.conclude (next, calls, s)).2.2.tokens = s.tokens ∧
      (c.conclude (next, calls, s)).2.2.channels = s.channels := by
  have hmade : ∀ l : List RestCall, ∀ x ∈ l.map RestAction.made,
      x.token? = none ∧ x.channel? = none := by
    intro l x hx
    obtain ⟨call, -, rfl⟩ := List.mem_map.1 hx
    exact ⟨rfl, rfl⟩
  rcases next with result | _ | _
  · exact ⟨hmade calls, rfl, rfl⟩
  · exact ⟨hmade calls, rfl, rfl⟩
  · exact ⟨hmade _, rfl, rfl⟩

theorem take_pools (c : Caller) (s : RestState) (turns : List Turn) (reply : Option Reply) :
    ((c.take s turns reply).1 = [.tookToken s.tokens.next.1] ∧
        (c.take s turns reply).2.2 = { s with tokens := s.tokens.next.2 }) ∨
      ((c.take s turns reply).1 = [] ∧ (c.take s turns reply).2.2 = s) := by
  obtain ⟨q, turns₀, tries, stage⟩ := c
  cases q
  · exact .inl ⟨rfl, rfl⟩
  · exact .inl ⟨rfl, rfl⟩
  · exact .inr ⟨rfl, rfl⟩

/-- **What a step takes from the pools.** A step takes the next credential, or the next channel,
or shows no take and leaves both pools. -/
theorem step_pools {c c' : Caller} {s s' : RestState} {acts : List RestAction}
    (hstep : c.step s = some (acts, c', s')) :
    (acts = [.tookToken s.tokens.next.1] ∧ s' = { s with tokens := s.tokens.next.2 }) ∨
      (acts = [.tookChannel s.channels.next.1] ∧ s' = { s with channels := s.channels.next.2 }) ∨
      ((∀ x ∈ acts, x.token? = none ∧ x.channel? = none) ∧ s'.tokens = s.tokens ∧
        s'.channels = s.channels) := by
  -- the end of an attempt, after the exchange of its request
  have hend : ∀ (held : Option Permit) (r : Reply) (sent : RestCall),
      c.conclude ((c.request.exchange s held r).1, sent :: (c.request.exchange s held r).2.1,
        (c.request.exchange s held r).2.2) = (acts, c', s') →
      (∀ x ∈ acts, x.token? = none ∧ x.channel? = none) ∧ s'.tokens = s.tokens ∧
        s'.channels = s.channels := fun held r sent h => by
    obtain ⟨hacts, ht, hc⟩ := conclude_pools c _ (sent :: (c.request.exchange s held r).2.1)
      (c.request.exchange s held r).2.2
    rw [h] at hacts ht hc
    have hsettle := RestRequest.exchange_snd c.request s held r
    refine ⟨hacts, ?_, ?_⟩
    · rw [ht, hsettle]
      exact (RestState.settle_pools s held r.headers).1
    · rw [hc, hsettle]
      exact (RestState.settle_pools s held r.headers).2
  cases step_eq_some_iff.1 hstep with
  | fired | cancelled | cancelledAcquiring | refused => exact .inr (.inr ⟨by simp, rfl, rfl⟩)
  | @take turn turns _ _ _ _ _ _ _ htake =>
    rcases take_pools c s turns turn.reply? with ⟨hacts, hs⟩ | ⟨hacts, hs⟩ <;>
      simp only [htake] at hacts hs <;> subst hacts hs
    · exact .inl ⟨rfl, rfl⟩
    · exact .inr (.inr ⟨by simp, rfl, rfl⟩)
  | channel => exact .inr (.inl ⟨rfl, rfl⟩)
  | acquired => exact .inr (.inr ⟨by simp [RestAction.token?, RestAction.channel?], rfl, rfl⟩)
  | unlimited _ hc | permitted _ hc => exact .inr (.inr (hend _ _ _ hc))

/-- **Steps from turned pools take the rotation's items.** From pools turned `a` and `u` times, a
step takes the rotation's next credentials and channels, and leaves the pools turned by as many
more. -/
theorem step_turned {c c' : Caller} {s s' s₀ : RestState} {acts : List RestAction} {a u : Nat}
    (hT : Turned s₀ a u s) (hstep : c.step s = some (acts, c', s')) :
    acts.filterMap RestAction.token? =
        (List.range (acts.filterMap RestAction.token?).length).map (s₀.tokens.pickAt <| a + ·) ∧
      acts.filterMap RestAction.channel? =
        (List.range (acts.filterMap RestAction.channel?).length).map (s₀.channels.pickAt <| u + ·) ∧
      Turned s₀ (a + (acts.filterMap RestAction.token?).length)
        (u + (acts.filterMap RestAction.channel?).length) s' := by
  rcases step_pools hstep with ⟨rfl, rfl⟩ | ⟨rfl, rfl⟩ | ⟨hacts, ht, hc⟩
  · obtain ⟨htok, hT'⟩ := hT.takeToken
    exact ⟨by simp [RestAction.token?, htok], rfl, hT'⟩
  · obtain ⟨hchan, hT'⟩ := hT.takeChannel
    exact ⟨rfl, by simp [RestAction.channel?, hchan], hT'⟩
  · have hnone : acts.filterMap RestAction.token? = [] ∧ acts.filterMap RestAction.channel? = [] :=
      ⟨List.filterMap_eq_nil_iff.2 fun x hx => (hacts x hx).1,
        List.filterMap_eq_nil_iff.2 fun x hx => (hacts x hx).2⟩
    simpa [hnone] using hT.congr ht hc

end Caller

/-- The credentials taken in a run, in the order they were taken. -/
def tokensTaken (evs : List (Nat × RestAction)) : List String :=
  (evs.map (·.2)).filterMap RestAction.token?

/-- The channels taken in a run, in the order they were taken. -/
def channelsTaken (evs : List (Nat × RestAction)) : List String :=
  (evs.map (·.2)).filterMap RestAction.channel?

theorem snd_append_step (evs : List (Nat × RestAction)) (i : Nat) (acts : List RestAction) :
    (evs ++ acts.map ((i, ·))).map (·.2) = evs.map (·.2) ++ acts := by
  simp [Function.comp_def]

theorem rotation_append {f : Nat → String} {xs ys : List String}
    (hx : xs = (List.range xs.length).map f)
    (hy : ys = (List.range ys.length).map (f <| xs.length + ·)) :
    xs ++ ys = (List.range (xs ++ ys).length).map f := by
  rw [List.length_append, List.range_add, List.map_append, List.map_map]
  exact congrArg₂ (· ++ ·) hx hy

/-- What a run of the callers of `reqs` from `s₀` keeps: the credentials and channels taken, in
the order they were taken, are the rotation's from `s₀`, and the pools are turned by as many;
each caller makes its own call and has shown what `Caller.Shows` says. -/
structure RunShows (s₀ : RestState) (reqs : List RestRequest) (evs : List (Nat × RestAction))
    (y : Callers) : Prop where
  tokens : tokensTaken evs = (List.range (tokensTaken evs).length).map s₀.tokens.pickAt
  channels : channelsTaken evs = (List.range (channelsTaken evs).length).map s₀.channels.pickAt
  turned : RestState.Turned s₀ (tokensTaken evs).length (channelsTaken evs).length y.state
  length : y.callers.length = reqs.length
  callers : ∀ (i : Nat) (c : Caller), y.callers[i]? = some c →
    reqs[i]? = some c.request ∧ c.Shows (actionsOf i evs)

/-- **Every interleaving keeps the rotation law.** Induction on the run: each step is one
caller's, and `Caller.step_turned` and `Caller.step_shows` say what it keeps. -/
theorem Callers.Runs.shows {s₀ : RestState} {reqs : List RestRequest}
    {evs : List (Nat × RestAction)} {y : Callers}
    (h : Callers.Runs ⟨s₀, reqs.map Caller.start⟩ evs y) : RunShows s₀ reqs evs y := by
  induction h with
  | refl =>
    refine ⟨rfl, rfl, RestState.turned_refl s₀, List.length_map _, fun i c hc => ?_⟩
    rw [List.getElem?_map] at hc
    obtain ⟨q, hq, rfl⟩ := Option.map_eq_some_iff.1 hc
    exact ⟨by rw [hq, Caller.start_request], Caller.shows_start q⟩
  | @step evs y i c c' acts s' _ hc hstep ih =>
    obtain ⟨htok, hchan, hT⟩ := Caller.step_turned ih.turned hstep
    have htaken : tokensTaken (evs ++ acts.map ((i, ·))) =
          tokensTaken evs ++ acts.filterMap RestAction.token? ∧
        channelsTaken (evs ++ acts.map ((i, ·))) =
          channelsTaken evs ++ acts.filterMap RestAction.channel? := by
      simp only [tokensTaken, channelsTaken, snd_append_step, List.filterMap_append, and_self]
    obtain ⟨hreq, hshows⟩ := ih.callers i c hc
    obtain ⟨hreq', hshows'⟩ := Caller.step_shows hshows hstep
    have hi : i < y.callers.length := (List.getElem?_eq_some_iff.1 hc).1
    refine ⟨?_, ?_, ?_, by simpa using ih.length, fun j d hd => ?_⟩
    · rw [htaken.1]
      exact rotation_append ih.tokens htok
    · rw [htaken.2]
      exact rotation_append ih.channels hchan
    · rw [htaken.1, htaken.2, List.length_append, List.length_append]
      exact hT
    · -- the caller that stepped, or another one, whose actions are as they were
      rw [List.getElem?_set] at hd
      by_cases hij : i = j
      · subst hij
        simp only [hi, if_true, Option.some.injEq] at hd
        subst hd
        rw [actionsOf_append, if_pos rfl, hreq']
        exact ⟨hreq, hshows'⟩
      · simp only [hij, if_false] at hd
        rw [actionsOf_append, if_neg hij, List.append_nil]
        exact ih.callers j d hd

/-- **Rotation reaches every attempt.** A pool is made exactly from a non-empty list, with its
cursor on the first item; `n` successive picks from it hand out `items[0], items[1 mod K], …,
items[(n-1) mod K]`, and from any pool any `K` successive picks hand out every item once.

Over every interleaving of the steps of any number of callers of the HTTP transport, each making
a call with all its retries, the credentials taken, in the order their picks run, are the
rotation's picks `0, 1, …` of the credential pool, and the channels taken are its picks of the
channel pool. Each caller's attempts each take a pair (a credential, and for an upload a channel,
for a listing its own channel) and then ask for a permit of exactly that pair's bucket, send on
that pair and settle the permit in that bucket. So the `a`-th attempt overall (of uploads and
listings, in the order they take their credentials) uses credential pick `a`, and the `u`-th
upload attempt channel pick `u`. When the calls run one after another, the requests sent are
those of attempts on the rotation's pairs in turn. -/
theorem rotation_reaches_every_attempt :
    (∀ {α : Type} (kind : String) (items : List α),
      (∃ p, RoundRobin.new kind items = .ok p) ↔ items ≠ []) ∧
    (∀ {α : Type} (kind : String) (items : List α) (p : RoundRobin α),
      RoundRobin.new kind items = .ok p → ∀ n, (p.take n).1.length = n ∧
        ∀ a < n, (p.take n).1[a]? = items[a % items.length]?) ∧
    (∀ {α : Type} (p : RoundRobin α) (j : Nat), ((p.take j).2.take p.items.length).1.Perm p.items) ∧
    (∀ (s : RestState) (reqs : List RestRequest) (evs : List (Nat × RestAction)) (y : Callers),
      Callers.Runs ⟨s, reqs.map Caller.start⟩ evs y →
        tokensTaken evs = (List.range (tokensTaken evs).length).map s.tokens.pickAt ∧
        channelsTaken evs = (List.range (channelsTaken evs).length).map s.channels.pickAt ∧
        ∀ i q, reqs[i]? = some q →
          ∃ more, RestState.AttemptsOn q.target (actionsOf i evs ++ more)) ∧
    (∀ (s : RestState) (reqs : List RestRequest), ∃ counts : List Nat,
      counts.length = reqs.length ∧
        RestState.SentOn
          (RestState.rotationPairs s.tokens s.channels 0 0 (attemptTargets reqs counts))
          (s.serve reqs).1) := by
  refine ⟨RoundRobin.exists_new_iff, fun _ _ _ hp n => RoundRobin.take_of_new hp n,
    fun p j => p.take_window_perm j, fun s reqs evs y hrun => ?_,
    fun s reqs => RestState.serve_rotation reqs s 0 0 (.inl (RestState.turned_refl s))⟩
  -- every caller of the run has shown the start of attempts on the pairs it took
  have h := hrun.shows
  refine ⟨h.tokens, h.channels, fun i q hq => ?_⟩
  have hi : i < y.callers.length := by
    rw [h.length]
    exact (List.getElem?_eq_some_iff.1 hq).1
  obtain ⟨hreq, hshows⟩ := h.callers i _ (List.getElem?_eq_getElem hi)
  rw [hq, Option.some.injEq] at hreq
  rw [hreq]
  exact hshows.extend

end ChunkStore
