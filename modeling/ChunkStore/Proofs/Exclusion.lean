import Mathlib.Data.Finset.Card
import ChunkStore.Store.Renewals
/-!
# Renewals of one file take turns

Renewals run side by side (`Renewals.step`), and their steps interleave in every order. This
module proves that however they interleave, the lock registry does its work:

* at most one renewal of a file holds the file's lock, so no two renewals of one file renew (and
  list the origin) at overlapping times;
* renewals of one file get the lock in the order in which they asked for it;
* a renewal waits only behind renewals of its own file;
* a renewal that notices the shutdown before it holds its lock ends cancelled, and never renews.

The registry keeps a slot per busy file, with the file's lock and a count of the renewals that
hold or wait for it; the last renewal to leave removes the slot, and the next one makes a new
slot with a new lock. Everything rests on one invariant (`Renewals.Inv`): a counted renewal's
slot is there and its lock is the one the renewal counted for, a slot's count is the number of
renewals counted in it, and each lock's line (its holder, then its queue) is exactly the renewals
waiting for or holding it, each once. The order of asking is read off the lines: asking appends
to a line and leaving takes out of it, so two renewals in one line keep their order until the
first one has left it.
-/

namespace ChunkStore

namespace FairLock

/-- The renewals a lock is granted to or queued for: the holder, then the queue. -/
def line (l : FairLock) : List Nat := l.owner.toList ++ l.queue

theorem line_of_owner {l : FairLock} {o : Nat} (h : l.owner = some o) : l.line = o :: l.queue := by
  simp [line, h]

theorem line_ask (l : FairLock) (c : Nat) (hidle : l.owner = none → l.queue = []) :
    (l.ask c).line = l.line ++ [c] := by
  cases ho : l.owner with
  | none => simp [ask, line, ho, hidle ho]
  | some o => simp [ask, line, ho]

theorem owner_ask_of_none {l : FairLock} (c : Nat) (h : l.owner = none) :
    (l.ask c).owner = some c := by
  simp [ask, h]

theorem owner_ask_of_some {l : FairLock} {o : Nat} (c : Nat) (h : l.owner = some o) :
    (l.ask c).owner = some o := by
  simp [ask, h]

theorem owner_leave_of_ne {l : FairLock} {c : Nat} (h : l.owner ≠ some c) :
    (l.leave c).owner = l.owner := by
  simp [leave, h]

theorem line_leave (l : FairLock) (c : Nat) (hnd : l.line.Nodup) :
    (l.leave c).line = l.line.filter (· != c) := by
  by_cases ho : l.owner = some c
  · -- the holder leaves: the head of the queue takes over
    have hc : c ∉ l.queue := by
      rw [line_of_owner ho] at hnd
      exact (List.nodup_cons.1 hnd).1
    have hq : l.queue.filter (· != c) = l.queue :=
      List.filter_eq_self.2 fun x hx => by simpa using ne_of_mem_of_not_mem hx hc
    rw [line_of_owner ho, List.filter_cons_of_neg (by simp), hq]
    cases hq' : l.queue <;> simp [leave, ho, hq', line]
  · cases ho' : l.owner <;> simp_all [leave, line]

theorem mem_line {l : FairLock} {c : Nat} : c ∈ l.line ↔ l.owner = some c ∨ c ∈ l.queue := by
  cases ho : l.owner <;> simp [line, ho, eq_comm]

theorem owner_ne_of_sublist {l : FairLock} {a b : Nat} (hnd : l.line.Nodup)
    (hsub : [a, b].Sublist l.line) (hab : a ≠ b) : l.owner ≠ some b := by
  intro ho
  rw [line_of_owner ho] at hnd hsub
  rcases List.sublist_cons_iff.1 hsub with h | ⟨r, hr, -⟩
  · exact (List.nodup_cons.1 hnd).1 (h.mem (by simp))
  · exact hab (List.cons.inj hr).1

theorem leave_idle {l : FairLock} (c : Nat) (hidle : l.owner = none → l.queue = []) :
    (l.leave c).owner = none → (l.leave c).queue = [] := by
  unfold leave
  split
  · split <;> simp
  · intro h
    simp_all

end FairLock

namespace Stage

/-- Counted in the slot of the renewal's file. -/
def counts : Stage → Bool
  | .fresh | .done _ => false
  | _ => true

/-- The lock the renewal counted for, while it has not given it up. -/
def lock? : Stage → Option Nat
  | .counted l | .waiting l | .renewing l | .renewed l _ => some l
  | _ => none

/-- Holding lock `l`. -/
def holds (l : Nat) : Stage → Bool
  | .renewing l' | .renewed l' _ => l' == l
  | _ => false

/-- In the line of lock `l`: queued for it, or holding it. -/
def inLine (l : Nat) : Stage → Bool
  | .waiting l' => l' == l
  | st => st.holds l

/-- How far a renewal has got; no step takes it back. -/
def rank : Stage → Nat
  | .fresh => 0
  | .counted _ => 1
  | .waiting _ => 2
  | .renewing _ => 3
  | .renewed _ _ => 4
  | .leaving _ => 5
  | .done _ => 6

theorem lock?_of_inLine {st : Stage} {l : Nat} (h : st.inLine l) : st.lock? = some l := by
  cases st <;> simp_all [inLine, holds, lock?]

theorem counts_of_inLine {st : Stage} {l : Nat} (h : st.inLine l) : st.counts := by
  cases st <;> simp_all [inLine, holds, counts]

theorem inLine_of_holds {st : Stage} {l : Nat} (h : st.holds l) : st.inLine l := by
  cases st <;> simp_all [inLine, holds]

theorem eq_waiting_of_rank {st : Stage} (h : st.rank = 2) : ∃ l, st = .waiting l := by
  cases st <;> simp_all [rank]

end Stage

/-- Renewal `c` holds its lock from this step on: it asked a free lock, or noticed a grant. -/
def RenewNote.enters (c : Nat) : RenewNote → Bool
  | .asked c' _ _ granted => granted && c' == c
  | .entered c' _ _ => c' == c
  | _ => false

namespace Renewals

variable {σ : Type}

/-- No renewal has started. -/
def init (origin : σ) : Renewals σ := { origin }

/-- Whether renewal `c` is counted in the slot of `key`. -/
def countsFor (s : Renewals σ) (key : String) (c : Nat) : Bool :=
  match s.calls c with
  | some call => call.fileId == key && call.stage.counts
  | none => false

/-- The renewals counted in the slot of `key`. -/
def members (s : Renewals σ) (key : String) : Finset Nat :=
  (Finset.range s.started).filter (s.countsFor key ·)

/-- What holds of every state renewals reach. -/
structure Inv (s : Renewals σ) : Prop where
  /-- Renewals are numbered in the order they start. -/
  bound : ∀ c, s.started ≤ c → s.calls c = none
  /-- A counted renewal's file has a slot, and the slot's lock is the one the renewal counted
  for. -/
  slot : ∀ c call, s.calls c = some call → call.stage.counts →
    ∃ sl, s.slots call.fileId = some sl ∧ ∀ l, call.stage.lock? = some l → sl.lock = l
  /-- A slot counts the renewals counted in it. -/
  refs : ∀ k sl, s.slots k = some sl → sl.refs = (s.members k).card
  /-- A slot's lock has been made, and no two slots share a lock. -/
  made : ∀ k sl, s.slots k = some sl → sl.lock < s.made
  apart : ∀ k k' sl sl', s.slots k = some sl → s.slots k' = some sl' → sl.lock = sl'.lock →
    k = k'
  /-- A lock's line holds each renewal once: exactly the renewals waiting for it or holding
  it. -/
  nodup : ∀ l, (s.locks l).line.Nodup
  line : ∀ l c, c ∈ (s.locks l).line ↔ ∃ call, s.calls c = some call ∧ call.stage.inLine l
  /-- A renewal holding a lock is its owner. -/
  holder : ∀ l c call, s.calls c = some call → call.stage.holds l → (s.locks l).owner = some c
  /-- A free lock has nobody queued. -/
  idle : ∀ l, (s.locks l).owner = none → (s.locks l).queue = []

namespace Inv

variable {s : Renewals σ}

theorem init (origin : σ) : (init origin).Inv where
  bound _ _ := rfl
  slot _ _ h := by simp [Renewals.init] at h
  refs _ _ h := by simp [Renewals.init] at h
  made _ _ h := by simp [Renewals.init] at h
  apart _ _ _ _ h := by simp [Renewals.init] at h
  nodup _ := by simp [Renewals.init, FairLock.line]
  line _ _ := by simp [Renewals.init, FairLock.line]
  holder _ _ _ h := by simp [Renewals.init] at h
  idle _ _ := rfl

theorem lt_started (hs : s.Inv) {c : Nat} {call : RenewCall} (hc : s.calls c = some call) :
    c < s.started :=
  Nat.lt_of_not_le fun h => by simp [hs.bound c h] at hc

end Inv

theorem mem_members {s : Renewals σ} {k : String} {c : Nat} :
    c ∈ s.members k ↔ c < s.started ∧ s.countsFor k c := by
  simp [members]

theorem mem_members_self {s : Renewals σ} (hs : s.Inv) {c : Nat} {call : RenewCall}
    (hc : s.calls c = some call) (k : String) :
    c ∈ s.members k ↔ call.fileId = k ∧ call.stage.counts := by
  simp [mem_members, countsFor, hc, hs.lt_started hc]

theorem members_replace {s u : Renewals σ} (hs : s.Inv) {c : Nat} {call call' : RenewCall}
    (hc : s.calls c = some call) (hcalls : u.calls = Function.update s.calls c (some call'))
    (hn : u.started = s.started) (k : String) :
    u.members k =
      if call'.fileId = k ∧ call'.stage.counts then insert c (s.members k)
      else (s.members k).erase c := by
  ext c'
  by_cases e : c' = c
  · subst e
    split <;> simp_all [mem_members, countsFor, hs.lt_started hc]
  · split <;> simp [mem_members, countsFor, hcalls, hn, e]

theorem members_replace_same {s u : Renewals σ} (hs : s.Inv) {c : Nat} {call call' : RenewCall}
    (hc : s.calls c = some call) (hcalls : u.calls = Function.update s.calls c (some call'))
    (hn : u.started = s.started) (hkey : call'.fileId = call.fileId)
    (hcounts : call'.stage.counts = call.stage.counts) (k : String) :
    u.members k = s.members k := by
  rw [members_replace hs hc hcalls hn]
  split
  · rename_i h
    exact Finset.insert_eq_of_mem ((mem_members_self hs hc k).2 (by simp_all))
  · rename_i h
    exact Finset.erase_eq_of_notMem fun hm => h (by simp_all [mem_members_self hs hc k])

theorem setStage_of {s : Renewals σ} {c : Nat} {call : RenewCall} (hc : s.calls c = some call)
    (st : Stage) :
    s.setStage c st = { s with calls := Function.update s.calls c (some { call with stage := st }) } := by
  simp [setStage, hc]

theorem register_of_some {s : Renewals σ} {k : String} {sl : LockSlot} (h : s.slots k = some sl) :
    s.register k =
      ({ s with slots := Function.update s.slots k (some { sl with refs := sl.refs + 1 }) },
        sl.lock) := by
  simp [register, h]

theorem register_of_none {s : Renewals σ} {k : String} (h : s.slots k = none) :
    s.register k =
      ({ s with slots := Function.update s.slots k (some ⟨s.made, 1⟩),
                locks := Function.update s.locks s.made {}, made := s.made + 1 }, s.made) := by
  simp [register, h]

theorem unregister_of_some {s : Renewals σ} {k : String} {sl : LockSlot} (h : s.slots k = some sl) :
    s.unregister k =
      { s with
        slots := Function.update s.slots k
          (if sl.refs - 1 = 0 then none else some { sl with refs := sl.refs - 1 }) } := by
  simp [unregister, h]

theorem update_eq_some_cases {α β : Type} [DecidableEq α] {f : α → Option β} {a a' : α}
    {b b' : β} (h : Function.update f a (some b) a' = some b') :
    (a' = a ∧ b' = b) ∨ (a' ≠ a ∧ f a' = some b') := by
  by_cases e : a' = a
  · subst e
    rw [Function.update_self, Option.some.injEq] at h
    exact .inl ⟨rfl, h.symm⟩
  · rw [Function.update_of_ne e] at h
    exact .inr ⟨e, h⟩

/-! ## The invariant, transition by transition

Each transition replaces one renewal, and some also change the registry or one lock. The
lemmas below say once what a replacement keeps; each transition then proves only what its own
change to the registry or to a lock needs. -/

section Replace

variable {s : Renewals σ} {c : Nat} {call call' : RenewCall}

theorem bound_replace (hs : s.Inv) (hc : s.calls c = some call) (c' : Nat) (h : s.started ≤ c') :
    Function.update s.calls c (some call') c' = none := by
  have hne : c' ≠ c := fun e => Nat.not_lt.2 h (e ▸ hs.lt_started hc)
  simp [Function.update_of_ne hne, hs.bound c' h]

theorem line_replace (hs : s.Inv) (hc : s.calls c = some call)
    (hline : ∀ l, call'.stage.inLine l = call.stage.inLine l) (l c' : Nat) :
    c' ∈ (s.locks l).line ↔
      ∃ call'', Function.update s.calls c (some call') c' = some call'' ∧ call''.stage.inLine l := by
  refine (hs.line l c').trans ?_
  by_cases e : c' = c
  · subst e
    simp [hc, hline]
  · simp [Function.update_of_ne e]

theorem holder_replace (hs : s.Inv) (hholds : ∀ l, call'.stage.holds l → (s.locks l).owner = some c)
    (l c' : Nat) (call'' : RenewCall) (h : Function.update s.calls c (some call') c' = some call'')
    (hh : call''.stage.holds l) : (s.locks l).owner = some c' := by
  rcases update_eq_some_cases h with ⟨rfl, rfl⟩ | ⟨-, h⟩
  · exact hholds l hh
  · exact hs.holder l c' call'' h hh

theorem slot_replace (hs : s.Inv) (hc : s.calls c = some call) (hkey : call'.fileId = call.fileId)
    (hcounts : call'.stage.counts = call.stage.counts)
    (hlock : ∀ l, call'.stage.lock? = some l → call.stage.lock? = some l)
    (c' : Nat) (call'' : RenewCall) (h : Function.update s.calls c (some call') c' = some call'')
    (hcount : call''.stage.counts) :
    ∃ sl, s.slots call''.fileId = some sl ∧ ∀ l, call''.stage.lock? = some l → sl.lock = l := by
  rcases update_eq_some_cases h with ⟨rfl, rfl⟩ | ⟨-, h⟩
  · obtain ⟨sl, hsl, hl⟩ := hs.slot c' call hc (hcounts ▸ hcount)
    exact ⟨sl, by rw [hkey]; exact hsl, fun l h' => hl l (hlock l h')⟩
  · exact hs.slot c' call'' h hcount

theorem refs_replace {u : Renewals σ} (hs : s.Inv) (hc : s.calls c = some call)
    (hcalls : u.calls = Function.update s.calls c (some call')) (hn : u.started = s.started)
    (hslots : u.slots = s.slots) (hkey : call'.fileId = call.fileId)
    (hcounts : call'.stage.counts = call.stage.counts) :
    ∀ k sl, u.slots k = some sl → sl.refs = (u.members k).card := by
  intro k sl h
  rw [members_replace_same hs hc hcalls hn hkey hcounts, ← hs.refs k sl (hslots ▸ h)]

/-- Replacing a renewal by one of the same file that counts as it did, keeps its lock or gives it
up, stays in the same lines, and holds only locks granted to it keeps the invariant. -/
theorem Inv.replace (hs : s.Inv) (hc : s.calls c = some call) (hkey : call'.fileId = call.fileId)
    (hcounts : call'.stage.counts = call.stage.counts)
    (hlock : ∀ l, call'.stage.lock? = some l → call.stage.lock? = some l)
    (hline : ∀ l, call'.stage.inLine l = call.stage.inLine l)
    (hholds : ∀ l, call'.stage.holds l → (s.locks l).owner = some c) :
    Inv { s with calls := Function.update s.calls c (some call') } where
  bound := bound_replace hs hc
  slot := slot_replace hs hc hkey hcounts hlock
  refs := refs_replace hs hc rfl rfl rfl hkey hcounts
  made := hs.made
  apart := hs.apart
  nodup := hs.nodup
  line := line_replace hs hc hline
  holder := holder_replace hs hholds
  idle := hs.idle

theorem Inv.origin (hs : s.Inv) (o : σ) : Inv { s with origin := o } :=
  { hs with }

theorem Inv.shutdown (hs : s.Inv) : Inv { s with cancelled := true } :=
  { hs with }

end Replace

section Registry

variable {s : Renewals σ} {k : String} {sl : LockSlot}

theorem lock_of_update (hk : s.slots k = some sl) {v : Option LockSlot}
    (hv : ∀ x, v = some x → x.lock = sl.lock) {k' : String} {sl' : LockSlot}
    (h : Function.update s.slots k v k' = some sl') :
    ∃ sl'', s.slots k' = some sl'' ∧ sl''.lock = sl'.lock := by
  by_cases e : k' = k
  · subst e
    rw [Function.update_self] at h
    exact ⟨sl, hk, (hv sl' h).symm⟩
  · rw [Function.update_of_ne e] at h
    exact ⟨sl', h, rfl⟩

theorem made_update (hs : s.Inv) (hk : s.slots k = some sl) {v : Option LockSlot}
    (hv : ∀ x, v = some x → x.lock = sl.lock) (k' : String) (sl' : LockSlot)
    (h : Function.update s.slots k v k' = some sl') : sl'.lock < s.made := by
  obtain ⟨sl'', h'', hl⟩ := lock_of_update hk hv h
  exact hl ▸ hs.made k' sl'' h''

theorem apart_update (hs : s.Inv) (hk : s.slots k = some sl) {v : Option LockSlot}
    (hv : ∀ x, v = some x → x.lock = sl.lock) (k₁ k₂ : String) (sl₁ sl₂ : LockSlot)
    (h₁ : Function.update s.slots k v k₁ = some sl₁) (h₂ : Function.update s.slots k v k₂ = some sl₂)
    (he : sl₁.lock = sl₂.lock) : k₁ = k₂ := by
  obtain ⟨sl₁', h₁', hl₁⟩ := lock_of_update hk hv h₁
  obtain ⟨sl₂', h₂', hl₂⟩ := lock_of_update hk hv h₂
  exact hs.apart k₁ k₂ sl₁' sl₂' h₁' h₂' (by rw [hl₁, hl₂, he])

theorem members_eq_empty (hs : s.Inv) (hk : s.slots k = none) : s.members k = ∅ := by
  ext c
  simp only [mem_members, countsFor, Finset.notMem_empty, iff_false, not_and]
  intro _
  cases hc : s.calls c with
  | none => simp
  | some call =>
    simp only [Bool.and_eq_true, beq_iff_eq, not_and]
    intro hkey hcount
    obtain ⟨sl, hsl, -⟩ := hs.slot c call hc hcount
    simp [hkey, hk] at hsl

/-- The next lock to be made is free and nobody waits for it. -/
theorem Inv.locks_made (hs : s.Inv) : s.locks s.made = {} := by
  have hown : (s.locks s.made).owner = none := by
    cases ho : (s.locks s.made).owner with
    | none => rfl
    | some o =>
      obtain ⟨call, hc, hin⟩ := (hs.line s.made o).1 (by simp [FairLock.line_of_owner ho])
      obtain ⟨sl, hsl, hl⟩ := hs.slot o call hc (Stage.counts_of_inLine hin)
      have hlt := hs.made _ sl hsl
      rw [hl s.made (Stage.lock?_of_inLine hin)] at hlt
      exact absurd hlt (Nat.lt_irrefl _)
  have hq := hs.idle _ hown
  cases h : s.locks s.made
  simp_all

end Registry

section Transitions

variable {s : Renewals σ} {c : Nat} {call : RenewCall}

/-- A new renewal is fresh: it counts nowhere and is in no line. -/
theorem Inv.start (hs : s.Inv) (key : String) (nodes : Array Node) :
    Inv { s with calls := Function.update s.calls s.started (some ⟨key, nodes, .fresh⟩),
                 started := s.started + 1 } where
  bound c' h := by
    dsimp only at h ⊢
    have hne : c' ≠ s.started := by omega
    simp [Function.update_of_ne hne, hs.bound c' (by omega)]
  slot c' call' h hcount := by
    rcases update_eq_some_cases h with ⟨-, rfl⟩ | ⟨-, h⟩
    · simp [Stage.counts] at hcount
    · exact hs.slot c' call' h hcount
  refs k sl h := by
    rw [hs.refs k sl h]
    congr 1
    ext c'
    by_cases e : c' = s.started
    · subst e
      simp [mem_members, countsFor, hs.bound s.started le_rfl, Stage.counts]
    · simp [mem_members, countsFor, Function.update_of_ne e]
      omega
  made := hs.made
  apart := hs.apart
  nodup := hs.nodup
  line l c' := by
    refine (hs.line l c').trans ?_
    by_cases e : c' = s.started
    · subst e
      simp [hs.bound s.started le_rfl, Stage.inLine, Stage.holds]
    · simp [Function.update_of_ne e]
  holder l c' call' h hh := by
    rcases update_eq_some_cases h with ⟨-, rfl⟩ | ⟨-, h⟩
    · simp [Stage.holds] at hh
    · exact hs.holder l c' call' h hh
  idle := hs.idle

/-- A fresh renewal counts itself in the existing slot of its file. -/
theorem Inv.count_some (hs : s.Inv) (hc : s.calls c = some call) (hfresh : call.stage = .fresh)
    {sl : LockSlot} (hk : s.slots call.fileId = some sl) :
    Inv { s with
      slots := Function.update s.slots call.fileId (some { sl with refs := sl.refs + 1 }),
      calls := Function.update s.calls c (some { call with stage := .counted sl.lock }) } where
  bound := bound_replace hs hc
  slot c' call' h hcount := by
    rcases update_eq_some_cases h with ⟨-, rfl⟩ | ⟨-, h⟩
    · exact ⟨_, Function.update_self .., by simp [Stage.lock?]⟩
    · obtain ⟨sl', hsl', hl⟩ := hs.slot c' call' h hcount
      by_cases ek : call'.fileId = call.fileId
      · rw [ek, hk, Option.some.injEq] at hsl'
        subst hsl'
        exact ⟨{ sl with refs := sl.refs + 1 }, by dsimp only; rw [ek, Function.update_self], hl⟩
      · exact ⟨sl', by dsimp only; rw [Function.update_of_ne ek]; exact hsl', hl⟩
  refs k sl' h := by
    have hm := members_replace (u := { s with
      slots := Function.update s.slots call.fileId (some { sl with refs := sl.refs + 1 }),
      calls := Function.update s.calls c (some { call with stage := .counted sl.lock }) })
      hs hc rfl rfl k
    have hout : c ∉ s.members k := by simp [mem_members_self hs hc, hfresh, Stage.counts]
    rcases update_eq_some_cases h with ⟨rfl, rfl⟩ | ⟨ek, h⟩
    · rw [hm, if_pos ⟨rfl, rfl⟩, Finset.card_insert_of_notMem hout, ← hs.refs _ sl hk]
    · rw [hm, if_neg (fun h' => ek h'.1.symm), Finset.erase_eq_of_notMem hout, hs.refs k sl' h]
  made := made_update hs hk (by simp)
  apart := apart_update hs hk (by simp)
  nodup := hs.nodup
  line := line_replace hs hc (by simp [hfresh, Stage.inLine, Stage.holds])
  holder := holder_replace hs (by simp [Stage.holds])
  idle := hs.idle

/-- A fresh renewal of a file that is not busy makes the file's slot, with a new lock. -/
theorem Inv.count_none (hs : s.Inv) (hc : s.calls c = some call) (hfresh : call.stage = .fresh)
    (hk : s.slots call.fileId = none) :
    Inv { s with
      slots := Function.update s.slots call.fileId (some ⟨s.made, 1⟩),
      locks := Function.update s.locks s.made {}, made := s.made + 1,
      calls := Function.update s.calls c (some { call with stage := .counted s.made }) } := by
  rw [show Function.update s.locks s.made {} = s.locks from
    Function.update_eq_self_iff.2 hs.locks_made.symm]
  exact {
    bound := bound_replace hs hc
    slot := fun c' call' h hcount => by
      rcases update_eq_some_cases h with ⟨-, rfl⟩ | ⟨-, h⟩
      · exact ⟨_, Function.update_self .., by simp [Stage.lock?]⟩
      · obtain ⟨sl', hsl', hl⟩ := hs.slot c' call' h hcount
        have ek : call'.fileId ≠ call.fileId := fun ek => by simp [ek, hk] at hsl'
        exact ⟨sl', by dsimp only; rw [Function.update_of_ne ek]; exact hsl', hl⟩
    refs := fun k sl' h => by
      have hm := members_replace (u := { s with
        slots := Function.update s.slots call.fileId (some ⟨s.made, 1⟩),
        made := s.made + 1,
        calls := Function.update s.calls c (some { call with stage := .counted s.made }) })
        hs hc rfl rfl k
      rcases update_eq_some_cases h with ⟨rfl, rfl⟩ | ⟨ek, h⟩
      · rw [hm, if_pos ⟨rfl, rfl⟩, members_eq_empty hs hk]
        rfl
      · have hout : c ∉ s.members k := by simp [mem_members_self hs hc, Ne.symm ek]
        rw [hm, if_neg (fun h' => ek h'.1.symm), Finset.erase_eq_of_notMem hout, hs.refs k sl' h]
    made := fun k sl' h => by
      rcases update_eq_some_cases h with ⟨-, rfl⟩ | ⟨-, h⟩
      · exact Nat.lt_succ_self _
      · exact Nat.lt_succ_of_lt (hs.made k sl' h)
    apart := fun k₁ k₂ sl₁ sl₂ h₁ h₂ he => by
      -- the new slot's lock is newer than every other slot's
      rcases update_eq_some_cases h₁ with ⟨rfl, rfl⟩ | ⟨-, h₁⟩ <;>
        rcases update_eq_some_cases h₂ with ⟨rfl, rfl⟩ | ⟨-, h₂⟩
      · rfl
      · exact absurd (he ▸ hs.made k₂ sl₂ h₂) (Nat.lt_irrefl _)
      · exact absurd (he ▸ hs.made k₁ sl₁ h₁) (Nat.lt_irrefl _)
      · exact hs.apart k₁ k₂ sl₁ sl₂ h₁ h₂ he
    nodup := hs.nodup
    line := line_replace hs hc (by simp [hfresh, Stage.inLine, Stage.holds])
    holder := holder_replace hs (by simp [Stage.holds])
    idle := hs.idle }

theorem Inv.not_mem_line (hs : s.Inv) (hc : s.calls c = some call) {l : Nat}
    (hcounted : call.stage = .counted l) (l' : Nat) : c ∉ (s.locks l').line := fun hin => by
  obtain ⟨call', hc', hin'⟩ := (hs.line l' c).1 hin
  rw [hc, Option.some.injEq] at hc'
  subst hc'
  simp [hcounted, Stage.inLine, Stage.holds] at hin'

/-- A counted renewal asks its lock: it joins the end of the lock's line, and holds the lock if
the lock was free. -/
theorem Inv.ask (hs : s.Inv) (hc : s.calls c = some call) {l : Nat}
    (hcounted : call.stage = .counted l) :
    Inv { s with
      locks := Function.update s.locks l ((s.locks l).ask c),
      calls := Function.update s.calls c (some { call with
        stage := if (s.locks l).owner.isNone then .renewing l else .waiting l }) } where
  bound := bound_replace hs hc
  slot := slot_replace hs hc rfl (by split <;> simp [hcounted, Stage.counts])
    (fun l' h => by split at h <;> simp_all [Stage.lock?])
  refs := refs_replace hs hc rfl rfl rfl rfl (by split <;> simp [hcounted, Stage.counts])
  made := hs.made
  apart := hs.apart
  nodup := (Function.forall_update_iff s.locks fun _ lk => lk.line.Nodup).2
    ⟨by
      rw [FairLock.line_ask _ _ (hs.idle l)]
      exact List.nodup_append.2 ⟨hs.nodup l, List.nodup_singleton c, fun a ha b hb => by
        rw [List.mem_singleton.1 hb]
        exact ne_of_mem_of_not_mem ha (hs.not_mem_line hc hcounted l)⟩,
      fun l' _ => hs.nodup l'⟩
  line l' c' := by
    by_cases e : l' = l
    · subst e
      simp only [Function.update_self]
      rw [FairLock.line_ask _ _ (hs.idle l'), List.mem_append, List.mem_singleton]
      by_cases ec : c' = c
      · subst ec
        simp only [Function.update_self, or_true, true_iff]
        exact ⟨_, rfl, by split <;> simp [Stage.inLine, Stage.holds]⟩
      · simp only [ec, or_false, Function.update_of_ne ec]
        exact hs.line l' c'
    · simp only [Function.update_of_ne e]
      refine (hs.line l' c').trans ?_
      by_cases ec : c' = c
      · subst ec
        simp only [hc, Function.update_self, Option.some.injEq, exists_eq_left', hcounted]
        split <;> simp [Stage.inLine, Stage.holds, Ne.symm e]
      · simp [Function.update_of_ne ec]
  holder l' c' call' h hh := by
    rcases update_eq_some_cases h with ⟨rfl, rfl⟩ | ⟨-, h⟩
    · -- the renewal holds the lock only if it was free
      by_cases hfree : (s.locks l).owner.isNone
      · simp only [hfree, if_true, Stage.holds, beq_iff_eq] at hh
        subst hh
        simp [FairLock.owner_ask_of_none _ (Option.isNone_iff_eq_none.1 hfree)]
      · simp [hfree, Stage.holds] at hh
    · have ho := hs.holder l' c' call' h hh
      by_cases e : l' = l
      · subst e
        simp [FairLock.owner_ask_of_some _ ho]
      · simpa [Function.update_of_ne e] using ho
  idle := (Function.forall_update_iff s.locks fun _ lk => lk.owner = none → lk.queue = []).2
    ⟨fun h => by cases ho : (s.locks l).owner <;> simp [FairLock.ask, ho] at h,
      fun l' _ => hs.idle l'⟩

/-- A renewal leaves the line of its lock, giving up the lock or its place in the queue. -/
theorem Inv.leave (hs : s.Inv) (hc : s.calls c = some call) {l : Nat}
    (hin : call.stage.inLine l) (r : Outcome Nat) :
    Inv { s with
      locks := Function.update s.locks l ((s.locks l).leave c),
      calls := Function.update s.calls c (some { call with stage := .leaving r }) } where
  bound := bound_replace hs hc
  slot := slot_replace hs hc rfl (by rw [Stage.counts_of_inLine hin]; rfl)
    (fun _ h => by simp [Stage.lock?] at h)
  refs := refs_replace hs hc rfl rfl rfl rfl (by rw [Stage.counts_of_inLine hin]; rfl)
  made := hs.made
  apart := hs.apart
  nodup := (Function.forall_update_iff s.locks fun _ lk => lk.line.Nodup).2
    ⟨by
      rw [FairLock.line_leave _ _ (hs.nodup l)]
      exact (hs.nodup l).filter _,
      fun l' _ => hs.nodup l'⟩
  line l' c' := by
    by_cases e : l' = l
    · subst e
      simp only [Function.update_self]
      rw [FairLock.line_leave _ _ (hs.nodup l'), List.mem_filter, hs.line l' c']
      by_cases ec : c' = c
      · subst ec
        simp [Stage.inLine, Stage.holds]
      · simp [ec]
    · simp only [Function.update_of_ne e]
      refine (hs.line l' c').trans ?_
      by_cases ec : c' = c
      · subst ec
        -- the renewal was in the line of its own lock only
        have hout : call.stage.inLine l' = false := by
          cases h' : call.stage.inLine l'
          · rfl
          · have h₁ := Stage.lock?_of_inLine hin
            rw [Stage.lock?_of_inLine h', Option.some.injEq] at h₁
            exact absurd h₁ e
        simp only [hc, Option.some.injEq, exists_eq_left', hout, Function.update_self]
        simp [Stage.inLine, Stage.holds]
      · simp [Function.update_of_ne ec]
  holder l' c' call' h hh := by
    rcases update_eq_some_cases h with ⟨-, rfl⟩ | ⟨ec, h⟩
    · simp [Stage.holds] at hh
    · have ho := hs.holder l' c' call' h hh
      by_cases e : l' = l
      · subst e
        have hne : (s.locks l').owner ≠ some c := by rw [ho]; simpa using ec
        simp [FairLock.owner_leave_of_ne hne, ho]
      · simpa [Function.update_of_ne e] using ho
  idle := (Function.forall_update_iff s.locks fun _ lk => lk.owner = none → lk.queue = []).2
    ⟨FairLock.leave_idle c (hs.idle l), fun l' _ => hs.idle l'⟩

theorem uncounted_lock {sl : LockSlot} (x : LockSlot)
    (hx : (if sl.refs - 1 = 0 then none else some { sl with refs := sl.refs - 1 }) = some x) :
    x.lock = sl.lock := by
  split at hx
  · cases hx
  · cases hx
    rfl

/-- A renewal without its lock uncounts itself; the slot goes when nobody is left in it. -/
theorem Inv.uncount (hs : s.Inv) (hc : s.calls c = some call) {r : Outcome Nat}
    (hleaving : call.stage = .leaving r) {sl : LockSlot} (hk : s.slots call.fileId = some sl) :
    Inv { s with
      slots := Function.update s.slots call.fileId
        (if sl.refs - 1 = 0 then none else some { sl with refs := sl.refs - 1 }),
      calls := Function.update s.calls c (some { call with stage := .done r }) } where
  bound := bound_replace hs hc
  slot c' call' h hcount := by
    rcases update_eq_some_cases h with ⟨-, rfl⟩ | ⟨ec, h⟩
    · simp [Stage.counts] at hcount
    · obtain ⟨sl', hsl', hl⟩ := hs.slot c' call' h hcount
      by_cases ek : call'.fileId = call.fileId
      · rw [ek, hk, Option.some.injEq] at hsl'
        subst hsl'
        -- another renewal is still counted, so the slot stays
        have hmem : ∀ {c''} {call''}, s.calls c'' = some call'' → call''.fileId = call.fileId →
            call''.stage.counts → c'' ∈ s.members call.fileId :=
          fun h₁ h₂ h₃ => (mem_members_self hs h₁ _).2 ⟨h₂, h₃⟩
        have htwo : 1 < (s.members call.fileId).card :=
          Finset.one_lt_card.2 ⟨c, hmem hc rfl (by simp [hleaving, Stage.counts]), c',
            hmem h ek hcount, Ne.symm ec⟩
        have hrefs := hs.refs _ _ hk
        have hkeep : sl.refs - 1 ≠ 0 := by omega
        refine ⟨{ sl with refs := sl.refs - 1 }, ?_, hl⟩
        dsimp only
        rw [ek, Function.update_self, if_neg hkeep]
      · exact ⟨sl', by dsimp only; rw [Function.update_of_ne ek]; exact hsl', hl⟩
  refs k sl' h := by
    have hm := members_replace (u := { s with
      slots := Function.update s.slots call.fileId
        (if sl.refs - 1 = 0 then none else some { sl with refs := sl.refs - 1 }),
      calls := Function.update s.calls c (some { call with stage := .done r }) }) hs hc rfl rfl k
    rw [hm, if_neg (by simp [Stage.counts])]
    by_cases ek : k = call.fileId
    · subst ek
      simp only [Function.update_self] at h
      split at h
      · cases h
      · rw [Option.some.injEq] at h
        subst h
        have hin : c ∈ s.members call.fileId :=
          (mem_members_self hs hc _).2 ⟨rfl, by simp [hleaving, Stage.counts]⟩
        rw [Finset.card_erase_of_mem hin, ← hs.refs _ _ hk]
    · simp only [Function.update_of_ne ek] at h
      have hout : c ∉ s.members k := by simp [mem_members_self hs hc, Ne.symm ek]
      rw [Finset.erase_eq_of_notMem hout, hs.refs k sl' h]
  made := made_update hs hk uncounted_lock
  apart := apart_update hs hk uncounted_lock
  nodup := hs.nodup
  line := line_replace hs hc (by simp [hleaving, Stage.inLine, Stage.holds])
  holder := holder_replace hs (by simp [Stage.holds])
  idle := hs.idle

end Transitions

/-! ## What one step does -/

/-- What a step does to the renewal it names. -/
inductive Moves (t : Transport σ) (s : Renewals σ) (c : Nat) (call : RenewCall) :
    Renewals σ × RenewNote → Prop
  | cancelFresh : call.stage = .fresh → s.cancelled = true →
      Moves t s c call (s.setStage c (.done (.failed .cancelled)), .cancelled c)
  | count : call.stage = .fresh → s.cancelled = false →
      Moves t s c call ((s.register call.fileId).1.setStage c (.counted (s.register call.fileId).2),
        .counted c call.fileId (s.register call.fileId).2)
  | cancelCounted {l : Nat} : call.stage = .counted l → s.cancelled = true →
      Moves t s c call (s.setStage c (.leaving (.failed .cancelled)), .cancelled c)
  | ask {l : Nat} : call.stage = .counted l → Moves t s c call (s.askLock c call l)
  | cancelWaiting {l : Nat} : call.stage = .waiting l → s.cancelled = true →
      Moves t s c call ((s.leaveLock c l).setStage c (.leaving (.failed .cancelled)), .cancelled c)
  | enter {l : Nat} : call.stage = .waiting l → s.cancelled = false →
      (s.locks l).owner = some c →
      Moves t s c call (s.setStage c (.renewing l), .entered c call.fileId l)
  | renew {l : Nat} (now : Int) : call.stage = .renewing l → Moves t s c call (s.renew t c call l now)
  | release {l : Nat} {r : Outcome Nat} : call.stage = .renewed l r →
      Moves t s c call ((s.leaveLock c l).setStage c (.leaving r), .released c)
  | uncount {r : Outcome Nat} : call.stage = .leaving r →
      Moves t s c call ((s.unregister call.fileId).setStage c (.done r), .finished c)

/-- A step does nothing, shuts the store down, starts a renewal, or moves one renewal. -/
theorem step_cases (t : Transport σ) (s : Renewals σ) (e : RenewEvent) :
    s.step t e = (s, .quiet) ∨ s.step t e = ({ s with cancelled := true }, .quiet) ∨
    (∃ key nodes, s.step t e =
      ({ s with calls := Function.update s.calls s.started (some ⟨key, nodes, .fresh⟩),
                started := s.started + 1 }, .started s.started)) ∨
    ∃ c call, s.calls c = some call ∧ Moves t s c call (s.step t e) := by
  cases e with
  | start key nodes => exact .inr (.inr (.inl ⟨key, nodes, rfl⟩))
  | shutdown => exact .inr (.inl rfl)
  | poll c =>
    cases hc : s.calls c with
    | none => exact .inl (by simp [step, hc])
    | some call =>
      have hstep : s.step t (.poll c) = s.poll c call := by simp [step, hc]
      rw [hstep]
      cases hst : call.stage with
      | fresh =>
        refine .inr (.inr (.inr ⟨c, call, hc, ?_⟩))
        cases hcan : s.cancelled
        · simp only [poll, hst, hcan]
          exact .count hst hcan
        · simp only [poll, hst, hcan]
          exact .cancelFresh hst hcan
      | counted l =>
        refine .inr (.inr (.inr ⟨c, call, hc, ?_⟩))
        cases hcan : s.cancelled
        · simp only [poll, hst, hcan]
          exact .ask hst
        · simp only [poll, hst, hcan]
          exact .cancelCounted hst hcan
      | waiting l =>
        cases hcan : s.cancelled
        · by_cases ho : (s.locks l).owner = some c
          · refine .inr (.inr (.inr ⟨c, call, hc, ?_⟩))
            simp only [poll, hst, hcan, ho]
            exact .enter hst hcan ho
          · exact .inl (by simp [poll, hst, hcan, ho])
        · refine .inr (.inr (.inr ⟨c, call, hc, ?_⟩))
          simp only [poll, hst, hcan]
          exact .cancelWaiting hst hcan
      | renewing l => exact .inl (by simp [poll, hst])
      | renewed l r => exact .inl (by simp [poll, hst])
      | leaving r => exact .inl (by simp [poll, hst])
      | done r => exact .inl (by simp [poll, hst])
  | ask c =>
    cases hc : s.calls c with
    | none => exact .inl (by simp [step, hc])
    | some call =>
      cases hst : call.stage with
      | counted l => exact .inr (.inr (.inr ⟨c, call, hc, by simp only [step, hc, hst]; exact .ask hst⟩))
      | _ => exact .inl (by simp [step, hc, hst])
  | renew c now =>
    cases hc : s.calls c with
    | none => exact .inl (by simp [step, hc])
    | some call =>
      cases hst : call.stage with
      | renewing l =>
        exact .inr (.inr (.inr ⟨c, call, hc, by simp only [step, hc, hst]; exact .renew now hst⟩))
      | _ => exact .inl (by simp [step, hc, hst])
  | release c =>
    cases hc : s.calls c with
    | none => exact .inl (by simp [step, hc])
    | some call =>
      cases hst : call.stage with
      | renewed l r =>
        exact .inr (.inr (.inr ⟨c, call, hc, by simp only [step, hc, hst]; exact .release hst⟩))
      | _ => exact .inl (by simp [step, hc, hst])
  | uncount c =>
    cases hc : s.calls c with
    | none => exact .inl (by simp [step, hc])
    | some call =>
      cases hst : call.stage with
      | leaving r =>
        exact .inr (.inr (.inr ⟨c, call, hc, by simp only [step, hc, hst]; exact .uncount hst⟩))
      | _ => exact .inl (by simp [step, hc, hst])

section Steps

variable {t : Transport σ} {s : Renewals σ} {c : Nat} {call : RenewCall}
  {r : Renewals σ × RenewNote}

theorem Moves.inv (hs : s.Inv) (hc : s.calls c = some call) (h : Moves t s c call r) : r.1.Inv := by
  cases h with
  | cancelFresh hfresh _ =>
    rw [setStage_of hc]
    exact hs.replace hc rfl (by simp [hfresh, Stage.counts]) (by simp [Stage.lock?])
      (by simp [hfresh, Stage.inLine, Stage.holds]) (by simp [Stage.holds])
  | count hfresh _ =>
    cases hk : s.slots call.fileId with
    | none =>
      simp only [register_of_none hk, setStage, hc, Option.map_some]
      exact hs.count_none hc hfresh hk
    | some sl =>
      simp only [register_of_some hk, setStage, hc, Option.map_some]
      exact hs.count_some hc hfresh hk
  | cancelCounted hcounted _ =>
    rw [setStage_of hc]
    exact hs.replace hc rfl (by simp [hcounted, Stage.counts]) (by simp [Stage.lock?])
      (by simp [hcounted, Stage.inLine, Stage.holds]) (by simp [Stage.holds])
  | ask hcounted =>
    simp only [askLock, setStage, hc, Option.map_some]
    exact hs.ask hc hcounted
  | cancelWaiting hwaiting _ =>
    simp only [leaveLock, setStage, hc, Option.map_some]
    exact hs.leave hc (by simp [hwaiting, Stage.inLine]) _
  | enter hwaiting _ ho =>
    rw [setStage_of hc]
    refine hs.replace hc rfl (by simp [hwaiting, Stage.counts]) (by simp [hwaiting, Stage.lock?])
      (fun l' => by simp [hwaiting, Stage.inLine, Stage.holds]) (fun l' hh => ?_)
    simp only [Stage.holds, beq_iff_eq] at hh
    exact hh ▸ ho
  | @renew l now hrenewing =>
    rcases hr : refreshExpired t call.nodes now s.origin with ⟨out, nodes, o⟩
    simp only [Renewals.renew, hr]
    have hrep : Inv { s with
        calls := Function.update s.calls c (some { call with nodes, stage := .renewed l out }) } :=
      hs.replace hc rfl (by simp [hrenewing, Stage.counts]) (by simp [hrenewing, Stage.lock?])
        (fun l' => by simp [hrenewing, Stage.inLine, Stage.holds])
        (fun l' hh => hs.holder l' c call hc (by simp_all [Stage.holds]))
    exact hrep.origin o
  | release hrenewed =>
    simp only [leaveLock, setStage, hc, Option.map_some]
    exact hs.leave hc (by simp [hrenewed, Stage.inLine, Stage.holds]) _
  | uncount hleaving =>
    obtain ⟨sl, hk, -⟩ := hs.slot c call hc (by simp [hleaving, Stage.counts])
    simp only [unregister_of_some hk, setStage, hc, Option.map_some]
    exact hs.uncount hc hleaving hk

/-- Every step keeps the invariant. -/
theorem Inv.step (hs : s.Inv) (e : RenewEvent) : (s.step t e).1.Inv := by
  rcases step_cases t s e with h | h | ⟨key, nodes, h⟩ | ⟨c, call, hc, h⟩
  · rw [h]
    exact hs
  · rw [h]
    exact hs.shutdown
  · rw [h]
    exact hs.start key nodes
  · exact h.inv hs hc

/-- Every run keeps the invariant. -/
theorem Inv.run (hs : s.Inv) (es : List RenewEvent) : (s.run t es).1.Inv := by
  induction es generalizing s with
  | nil => exact hs
  | cons e es ih => exact ih (hs.step e)

end Steps

/-! ## One renewal at a time

What a step does to the renewal it moves, and to the others. -/

section Moves

variable {t : Transport σ} {s : Renewals σ} {c : Nat} {call : RenewCall}
  {r : Renewals σ × RenewNote}

@[simp] theorem register_calls (s : Renewals σ) (k : String) : (s.register k).1.calls = s.calls := by
  unfold register
  split <;> rfl

@[simp] theorem unregister_calls (s : Renewals σ) (k : String) : (s.unregister k).calls = s.calls := by
  unfold unregister
  split <;> rfl

@[simp] theorem unregister_locks (s : Renewals σ) (k : String) : (s.unregister k).locks = s.locks := by
  unfold unregister
  split <;> rfl

theorem Inv.register_locks (hs : s.Inv) (k : String) : (s.register k).1.locks = s.locks := by
  unfold register
  split
  · rfl
  · exact Function.update_eq_self_iff.2 hs.locks_made.symm

theorem Moves.calls_of_ne (h : Moves t s c call r) {c' : Nat} (hne : c' ≠ c) :
    r.1.calls c' = s.calls c' := by
  cases h with
  | renew now _ =>
    rcases hr : refreshExpired t call.nodes now s.origin with ⟨out, nodes, o⟩
    simp [Renewals.renew, hr, Function.update_of_ne hne]
  | _ => simp [setStage, askLock, leaveLock, Function.update_of_ne hne]

theorem Moves.self (hc : s.calls c = some call) (h : Moves t s c call r) :
    ∃ call', r.1.calls c = some call' ∧ call'.fileId = call.fileId ∧
      call.stage.rank < call'.stage.rank := by
  cases h with
  | renew now hst =>
    rcases hr : refreshExpired t call.nodes now s.origin with ⟨out, nodes, o⟩
    simp [Renewals.renew, hr, hst, Stage.rank]
  | ask hst =>
    simp only [askLock, setStage, hc, Option.map_some, Function.update_self, Option.some.injEq,
      exists_eq_left', hst, true_and]
    split <;> simp [Stage.rank]
  | _ => simp_all [setStage, leaveLock, Stage.rank]

/-- A renewal gets its lock by asking a free lock, or by noticing a grant while it waits; it
then holds the lock. -/
theorem Moves.enters (hc : s.calls c = some call) (h : Moves t s c call r) {b : Nat}
    (he : r.2.enters b) :
    c = b ∧ ((∃ l, call.stage = .counted l ∧ (s.locks l).owner = none) ∨
      ∃ l, call.stage = .waiting l ∧ (s.locks l).owner = some c) ∧
      ∃ call', r.1.calls c = some call' ∧ call'.stage.rank = 3 := by
  cases h with
  | ask hst =>
    simp only [askLock, RenewNote.enters, Bool.and_eq_true, beq_iff_eq,
      Option.isNone_iff_eq_none] at he
    exact ⟨he.2, .inl ⟨_, hst, he.1⟩, by simp [askLock, setStage, hc, he.1, Stage.rank]⟩
  | enter hst _ ho =>
    simp only [RenewNote.enters, beq_iff_eq] at he
    exact ⟨he, .inr ⟨_, hst, ho⟩, by simp [setStage, hc, Stage.rank]⟩
  | renew now _ =>
    rcases hr : refreshExpired t call.nodes now s.origin with ⟨out, nodes, o⟩
    simp [Renewals.renew, hr, RenewNote.enters] at he
  | _ => simp [RenewNote.enters] at he

/-- What asking does: the lock's line grows by the asker, who holds the lock if it was free. -/
theorem Moves.asked (hc : s.calls c = some call) (h : Moves t s c call r) {b : Nat} {k : String}
    {l : Nat} {g : Bool} (he : r.2 = .asked b k l g) :
    c = b ∧ call.fileId = k ∧ call.stage = .counted l ∧ g = (s.locks l).owner.isNone ∧
      r.1.locks l = (s.locks l).ask c ∧ (∀ l', l' ≠ l → r.1.locks l' = s.locks l') ∧
      r.1.calls c = some { call with stage := if g then .renewing l else .waiting l } := by
  cases h with
  | ask hst =>
    simp only [askLock, RenewNote.asked.injEq] at he
    obtain ⟨rfl, rfl, rfl, rfl⟩ := he
    exact ⟨rfl, rfl, hst, rfl, by simp [askLock, setStage],
      fun l' hl' => by simp [askLock, setStage, Function.update_of_ne hl'],
      by simp [askLock, setStage, hc]⟩
  | renew now _ =>
    rcases hr : refreshExpired t call.nodes now s.origin with ⟨out, nodes, o⟩
    simp [Renewals.renew, hr] at he
  | _ => simp at he

/-- A renewal notices the shutdown only before it holds its lock, and then ends cancelled. -/
theorem Moves.cancelled (hc : s.calls c = some call) (h : Moves t s c call r) {b : Nat}
    (he : r.2 = .cancelled b) :
    c = b ∧ s.cancelled = true ∧ call.stage.rank ≤ 2 ∧ ∃ call', r.1.calls c = some call' ∧
      (call'.stage = .leaving (.failed .cancelled) ∨ call'.stage = .done (.failed .cancelled)) := by
  cases h with
  | cancelFresh hst hcan =>
    simp only [RenewNote.cancelled.injEq] at he
    exact ⟨he, hcan, by simp [hst, Stage.rank], by simp [setStage, hc]⟩
  | cancelCounted hst hcan =>
    simp only [RenewNote.cancelled.injEq] at he
    exact ⟨he, hcan, by simp [hst, Stage.rank], by simp [setStage, hc]⟩
  | cancelWaiting hst hcan =>
    simp only [RenewNote.cancelled.injEq] at he
    exact ⟨he, hcan, by simp [hst, Stage.rank], by simp [setStage, leaveLock, hc]⟩
  | ask _ => simp [askLock] at he
  | renew now _ =>
    rcases hr : refreshExpired t call.nodes now s.origin with ⟨out, nodes, o⟩
    simp [Renewals.renew, hr] at he
  | _ => simp at he

theorem Moves.renewed (h : Moves t s c call r) {b : Nat} {k : String}
    (he : r.2 = .renewed b k) :
    c = b ∧ call.stage.rank = 3 ∧ ∃ call', r.1.calls c = some call' ∧ call'.stage.rank = 4 := by
  cases h with
  | renew now hst =>
    rcases hr : refreshExpired t call.nodes now s.origin with ⟨out, nodes, o⟩
    simp only [Renewals.renew, hr, RenewNote.renewed.injEq] at he
    exact ⟨he.1, by simp [hst, Stage.rank], by simp [Renewals.renew, hr, Stage.rank]⟩
  | ask _ => simp [askLock] at he
  | _ => simp at he

/-- A step appends its renewal to one line, takes it out of one, or leaves the lines alone. -/
theorem Moves.line (hs : s.Inv) (h : Moves t s c call r) (l : Nat) :
    (r.1.locks l).line = (s.locks l).line ∨ (r.1.locks l).line = (s.locks l).line ++ [c] ∨
      (r.1.locks l).line = (s.locks l).line.filter (· != c) := by
  cases h with
  | count _ _ => exact .inl (by simp [setStage, hs.register_locks])
  | @ask l' _ =>
    by_cases e : l = l'
    · subst e
      exact .inr (.inl (by simp [askLock, setStage, FairLock.line_ask _ _ (hs.idle l)]))
    · exact .inl (by simp [askLock, setStage, Function.update_of_ne e])
  | @cancelWaiting l' _ _ =>
    by_cases e : l = l'
    · subst e
      exact .inr (.inr (by simp [leaveLock, setStage, FairLock.line_leave _ _ (hs.nodup l)]))
    · exact .inl (by simp [leaveLock, setStage, Function.update_of_ne e])
  | @release l' _ _ =>
    by_cases e : l = l'
    · subst e
      exact .inr (.inr (by simp [leaveLock, setStage, FairLock.line_leave _ _ (hs.nodup l)]))
    · exact .inl (by simp [leaveLock, setStage, Function.update_of_ne e])
  | renew now _ =>
    rcases hr : refreshExpired t call.nodes now s.origin with ⟨out, nodes, o⟩
    exact .inl (by simp [Renewals.renew, hr])
  | _ => exact .inl (by simp [setStage])

/-- A waiting renewal moves only by noticing its grant or by giving up. -/
theorem Moves.of_waiting (hc : s.calls c = some call) (h : Moves t s c call r) {l : Nat}
    (hw : call.stage = .waiting l) :
    (s.locks l).owner = some c ∨ ∃ call', r.1.calls c = some call' ∧ 5 ≤ call'.stage.rank := by
  cases h with
  | cancelWaiting _ _ => exact .inr (by simp [setStage, leaveLock, hc, Stage.rank])
  | enter hst _ ho =>
    rw [hw, Stage.waiting.injEq] at hst
    exact .inl (hst ▸ ho)
  | cancelFresh hst _ => simp [hw] at hst
  | count hst _ => simp [hw] at hst
  | cancelCounted hst _ => simp [hw] at hst
  | ask hst => simp [hw] at hst
  | renew _ hst => simp [hw] at hst
  | release hst => simp [hw] at hst
  | uncount hst => simp [hw] at hst

end Moves

/-! ## What the invariant gives -/

section Consequences

variable {s : Renewals σ}

/-- Two renewals of one file that hold locks are one renewal. -/
theorem Inv.holder_unique (hs : s.Inv) {c c' : Nat} {call call' : RenewCall}
    (hc : s.calls c = some call) (hc' : s.calls c' = some call') (hkey : call.fileId = call'.fileId)
    {l l' : Nat} (hh : call.stage.holds l) (hh' : call'.stage.holds l') : c = c' := by
  have hin := Stage.inLine_of_holds hh
  have hin' := Stage.inLine_of_holds hh'
  obtain ⟨sl, hsl, hl⟩ := hs.slot c call hc (Stage.counts_of_inLine hin)
  obtain ⟨sl', hsl', hl'⟩ := hs.slot c' call' hc' (Stage.counts_of_inLine hin')
  rw [hkey, hsl', Option.some.injEq] at hsl
  subst hsl
  -- both hold the lock of their file's one slot
  have hll : l = l' :=
    (hl l (Stage.lock?_of_inLine hin)).symm.trans (hl' l' (Stage.lock?_of_inLine hin'))
  subst hll
  have ho := hs.holder l c call hc hh
  rw [hs.holder l c' call' hc' hh', Option.some.injEq] at ho
  exact ho.symm

theorem Inv.line_same_file (hs : s.Inv) {c : Nat} {call : RenewCall} (hc : s.calls c = some call)
    {l : Nat} (hin : call.stage.inLine l) {c' : Nat} (hc'l : c' ∈ (s.locks l).line) :
    ∃ call', s.calls c' = some call' ∧ call'.fileId = call.fileId := by
  obtain ⟨call', hc', hin'⟩ := (hs.line l c').1 hc'l
  obtain ⟨sl, hsl, hl⟩ := hs.slot c call hc (Stage.counts_of_inLine hin)
  obtain ⟨sl', hsl', hl'⟩ := hs.slot c' call' hc' (Stage.counts_of_inLine hin')
  have he : sl'.lock = sl.lock :=
    (hl' l (Stage.lock?_of_inLine hin')).trans (hl l (Stage.lock?_of_inLine hin)).symm
  exact ⟨call', hc', hs.apart _ _ _ _ hsl' hsl he⟩

end Consequences

end Renewals

end ChunkStore
