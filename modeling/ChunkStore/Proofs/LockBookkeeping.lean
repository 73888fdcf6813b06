import ChunkStore.Storage.Locks
import Mathlib.Data.Finset.Card
import Mathlib.Data.List.Perm.Subperm
/-!
# Bookkeeping of the per-file locks

A caller takes the lock of a key in two steps and lets go of it in two more, and the steps of
all callers interleave in every order (`LockEvent`): a handle counts itself in its key's entry,
then asks the entry's lock; later it gives up the lock or its place in the queue, then uncounts
itself. Handles are numbered in the order they count themselves, and the order in which they
asked is kept beside them (`LockClients`). A handle is a member of its key's entry from its count
to its uncount, and in its key's line from its ask to its leave.

The table keeps nothing of its own: after every run of steps, the entry of a key is absent
exactly when the key has no member, and otherwise counts the members and holds the lock whose
line is the key's line, in the order of asking: the oldest asker holds the lock and the rest
queue (`Tracks`, kept by each step and so by every run). So the table has one entry per key in
use (`Tracks.len_eq`), an entry goes as soon as its last member uncounts, one handle holds each
lock, and a lock given up passes to the oldest handle still in line, ahead of any later asker
(`Tracks.isHeld_iff`). The main statement is `lock_table_tracks_handles`.
-/

namespace ChunkStore

/-- The lock whose line is `L`: the first handle holds it and the others queue in order. -/
def lineLock : List Nat → FairLock
  | [] => {}
  | o :: q => ⟨some o, q⟩

/-- The entry of a key counting `n` handles, whose lock's line is `L`: none when `n = 0`. -/
def entryOf (L : List Nat) (n : Nat) : Option KeyLock :=
  if n = 0 then none else some ⟨lineLock L, n⟩

namespace FairLock

theorem ask_lineLock (L : List Nat) (h : Nat) : (lineLock L).ask h = lineLock (L ++ [h]) := by
  cases L <;> rfl

/-- Leaving takes the handle out of the line and keeps the order of the rest. -/
theorem leave_lineLock {L : List Nat} (hnd : L.Nodup) (h : Nat) :
    (lineLock L).leave h = lineLock (L.erase h) := by
  cases L with
  | nil => rfl
  | cons o q =>
    by_cases hoh : o = h
    · -- the holder leaves: the oldest queued handle takes the lock
      subst hoh
      rw [List.erase_cons_head]
      cases q <;> simp [leave, lineLock]
    · -- a queued handle leaves, or one not in line
      have hq : q.filter (· != h) = q.erase h := ((List.nodup_cons.1 hnd).2.erase_eq_filter h).symm
      rw [List.erase_cons_tail (by simpa using hoh)]
      simp [leave, lineLock, hoh, hq]

end FairLock

namespace LockTable

theorem slot?_eq_none_iff {t : LockTable} {k : String} :
    t.slot? k = none ↔ k ∉ t.slots.map (·.1) := by
  simp only [slot?, Option.map_eq_none_iff, List.find?_eq_none, beq_iff_eq, List.mem_map]
  exact ⟨fun h ⟨x, hx, hxk⟩ => h x hx hxk, fun h x hx hxk => h ⟨x, hx, hxk⟩⟩

/-- Setting the entry of a key leaves the others, and forgets the key when nobody uses it. -/
theorem slot?_setSlot (t : LockTable) (key k : String) (s : KeyLock) :
    (t.setSlot key s).slot? k = if k = key then (if s.refs = 0 then none else some s)
      else t.slot? k := by
  unfold setSlot slot?
  by_cases hk : k = key
  · subst hk
    by_cases hs : s.refs = 0
    · simp [hs, List.find?_filter]
    · by_cases hany : t.slots.any (·.1 == k) = true
      · -- the entry of the key is replaced
        obtain ⟨x, hx⟩ := Option.isSome_iff_exists.1 (List.find?_isSome.2 (List.any_eq_true.1 hany))
        have hxk : x.1 = k := by simpa using List.find?_some hx
        simp only [beq_iff_eq, hs, hany, if_false, if_true, List.find?_map, Function.comp_def, hx,
          Option.map_some, hxk]
      · -- the key is new: its entry goes last
        have hnone : t.slots.find? (·.1 == k) = none :=
          List.find?_eq_none.2 (List.any_eq_false.1 (Bool.eq_false_iff.2 hany))
        simp [hs, hany, List.find?_append, hnone]
  · -- the other keys' entries are kept, in order
    by_cases hs : s.refs = 0
    · have hpred : (fun a : String × KeyLock => !decide (a.1 = key) && decide (a.1 = k)) =
          (·.1 == k) := by
        funext a
        by_cases hak : a.1 = k
        · simp [hak, hk]
        · simp [hak]
      simp [hs, hk, List.find?_filter, hpred]
    · by_cases hany : t.slots.any (·.1 == key) = true
      · dsimp only
        rw [if_neg (by simpa using hs), if_pos hany]
        simp only [List.find?_map, Function.comp_def]
        cases hfind : t.slots.find? (·.1 == k) with
        | none => simp [hk]
        | some x =>
          have hxk : x.1 = k := by simpa using List.find?_some hfind
          simp [hxk, hk]
      · simp [hs, hk, hany, List.find?_append, Ne.symm hk]

/-- The keys of the table stay distinct when a key's entry is set. -/
theorem nodup_setSlot {t : LockTable} (hnd : (t.slots.map (·.1)).Nodup) (key : String)
    (s : KeyLock) : ((t.setSlot key s).slots.map (·.1)).Nodup := by
  unfold setSlot
  dsimp only
  split
  · exact (List.filter_sublist.map _).nodup hnd
  · split
    · simpa [List.map_map, Function.comp_def] using hnd
    · rename_i hany
      have hout : ∀ x, (key, x) ∉ t.slots := by
        simpa [List.any_eq_true] using hany
      simp only [List.map_append, List.map_cons, List.map_nil, List.nodup_append, hnd,
        List.nodup_cons, List.not_mem_nil, not_false_eq_true, List.nodup_nil, and_self,
        List.mem_cons, or_false, List.mem_map, true_and]
      rintro a ⟨x, hx, rfl⟩ b rfl hxb
      exact hout x.2 (hxb ▸ hx)

section Steps

variable {t : LockTable} {key : String} {L : List Nat} {n : Nat}

theorem slot?_count (ht : t.slot? key = entryOf L n) (hL : n = 0 → L = []) (k : String) :
    (t.count key).slot? k = if k = key then entryOf L (n + 1) else t.slot? k := by
  unfold count
  rw [slot?_setSlot, ht]
  split
  case isFalse => rfl
  case isTrue =>
    by_cases hn : n = 0
    · simp [entryOf, hn, hL hn, lineLock]
    · simp [entryOf, hn]

theorem slot?_ask (ht : t.slot? key = entryOf L n) (hn : n ≠ 0) (h : Nat) (k : String) :
    (t.ask key h).slot? k = if k = key then entryOf (L ++ [h]) n else t.slot? k := by
  rw [entryOf, if_neg hn] at ht
  unfold ask
  rw [ht, slot?_setSlot, FairLock.ask_lineLock]
  simp [entryOf, hn]

theorem slot?_leave (ht : t.slot? key = entryOf L n) (hn : n ≠ 0) (hnd : L.Nodup) (h : Nat)
    (k : String) :
    (t.leave key h).slot? k = if k = key then entryOf (L.erase h) n else t.slot? k := by
  rw [entryOf, if_neg hn] at ht
  unfold leave
  rw [ht, slot?_setSlot, FairLock.leave_lineLock hnd]
  simp [entryOf, hn]

/-- A member uncounting itself; the last member removes the entry. -/
theorem slot?_uncount (ht : t.slot? key = entryOf L n) (k : String) :
    (t.uncount key).slot? k = if k = key then entryOf L (n - 1) else t.slot? k := by
  unfold uncount
  by_cases hn : n = 0
  · -- no entry: nothing to uncount
    subst hn
    have hnone : t.slot? key = none := ht
    simp only [hnone]
    split
    · next hk => rw [hk, hnone]; rfl
    · rfl
  · rw [entryOf, if_neg hn] at ht
    rw [ht, slot?_setSlot]
    split
    case isFalse => rfl
    case isTrue =>
      by_cases hn1 : n = 1
      · simp [entryOf, hn1]
      · simp [entryOf, show n - 1 ≠ 0 by omega]

theorem isHeld_of_slot? (ht : t.slot? key = entryOf L n) (hL : n = 0 → L = []) (h : Nat) :
    t.isHeld key h = (L.head? == some h) := by
  unfold isHeld
  rw [ht, entryOf]
  by_cases hn : n = 0
  · simp [hn, hL hn]
  · rw [if_neg hn]
    cases L <;> rfl

end Steps

theorem nodup_count {t : LockTable} (hnd : (t.slots.map (·.1)).Nodup) (key : String) :
    ((t.count key).slots.map (·.1)).Nodup :=
  nodup_setSlot hnd _ _

theorem nodup_ask {t : LockTable} (hnd : (t.slots.map (·.1)).Nodup) (key : String) (h : Nat) :
    ((t.ask key h).slots.map (·.1)).Nodup := by
  unfold ask
  split
  · exact hnd
  · exact nodup_setSlot hnd _ _

theorem nodup_leave {t : LockTable} (hnd : (t.slots.map (·.1)).Nodup) (key : String) (h : Nat) :
    ((t.leave key h).slots.map (·.1)).Nodup := by
  unfold leave
  split
  · exact hnd
  · exact nodup_setSlot hnd _ _

theorem nodup_uncount {t : LockTable} (hnd : (t.slots.map (·.1)).Nodup) (key : String) :
    ((t.uncount key).slots.map (·.1)).Nodup := by
  unfold uncount
  split
  · exact hnd
  · exact nodup_setSlot hnd _ _

end LockTable

/-! ## Handles -/

/-- Where a handle is: counted in its key's entry, in the line of its key's lock (holding it or
queued), out of the line but still counted, or gone. -/
inductive HandleStage where
  | counted
  | asked
  | left
  | gone
  deriving Repr, DecidableEq

/-- Whether a handle at this stage is counted in its key's entry. -/
def HandleStage.counts : HandleStage → Bool
  | .gone => false
  | _ => true

/-- One step of one caller. -/
inductive LockEvent where
  /-- A request for the lock of a key, first polled, counts itself in the key's entry. -/
  | count (key : String)
  /-- A counted handle asks its entry's lock. -/
  | ask (h : Nat)
  /-- A handle in line is dropped, holding the lock or waiting: it gives up the lock or its
  place in the queue. -/
  | leave (h : Nat)
  /-- A handle out of the line uncounts itself. -/
  | uncount (h : Nat)
  deriving Repr, DecidableEq

/-- The locks together with the handles handed out: handle `h` is for the key `handles[h].1` and
at the stage `handles[h].2`; `asks` lists the handles in the order they asked. -/
structure LockClients where
  table : LockTable := {}
  handles : List (String × HandleStage) := []
  asks : List Nat := []
  deriving Repr, DecidableEq

namespace LockClients

/-- One step. Counting takes the next handle; a handle at the stage a step is for moves on, and a
step for a handle at another stage does nothing. -/
def step (c : LockClients) : LockEvent → LockClients
  | .count key =>
    { c with table := c.table.count key, handles := c.handles ++ [(key, .counted)] }
  | .ask h =>
    match c.handles[h]? with
    | some (key, .counted) =>
      { table := c.table.ask key h, handles := c.handles.set h (key, .asked), asks := c.asks ++ [h] }
    | _ => c
  | .leave h =>
    match c.handles[h]? with
    | some (key, .asked) =>
      { c with table := c.table.leave key h, handles := c.handles.set h (key, .left) }
    | _ => c
  | .uncount h =>
    match c.handles[h]? with
    | some (key, .left) =>
      { c with table := c.table.uncount key, handles := c.handles.set h (key, .gone) }
    | _ => c

/-- A run of steps. -/
def run (c : LockClients) (es : List LockEvent) : LockClients := es.foldl step c

/-- The handles in the line of a key's lock, in the order they asked. -/
def line (c : LockClients) (key : String) : List Nat :=
  c.asks.filter fun h => c.handles[h]? == some (key, .asked)

/-- The handles counted in a key's entry. -/
def members (c : LockClients) (key : String) : List Nat :=
  (List.range c.handles.length).filter fun h =>
    c.handles[h]?.any fun x => x.1 == key && x.2.counts

/-- The keys some handle is counted for. -/
def keysInUse (c : LockClients) : Finset String :=
  ((c.handles.filter (·.2.counts)).map (·.1)).toFinset

theorem mem_line {c : LockClients} {key : String} {h : Nat} :
    h ∈ c.line key ↔ h ∈ c.asks ∧ c.handles[h]? = some (key, .asked) := by
  simp [line]

theorem mem_members {c : LockClients} {key : String} {h : Nat} :
    h ∈ c.members key ↔ ∃ st, c.handles[h]? = some (key, st) ∧ st.counts = true := by
  simp only [members, List.mem_filter, List.mem_range]
  constructor
  · rintro ⟨hlt, hh⟩
    rw [List.getElem?_eq_getElem hlt] at hh ⊢
    simp only [Option.any_some, Bool.and_eq_true, beq_iff_eq] at hh
    exact ⟨_, by rw [← hh.1], hh.2⟩
  · rintro ⟨st, hh, hst⟩
    exact ⟨(List.getElem?_eq_some_iff.1 hh).1, by simp [hh, hst]⟩

/-- A handle stands for one key. -/
theorem handles_key_eq {c : LockClients} {h : Nat} {key k : String} {st st' : HandleStage}
    (hh : c.handles[h]? = some (key, st)) (hk : c.handles[h]? = some (k, st')) : k = key :=
  (Prod.mk.inj (Option.some.inj (hk.symm.trans hh))).1

theorem line_sub_members (c : LockClients) (key : String) : c.line key ⊆ c.members key :=
  fun _ hh => mem_members.2 ⟨.asked, (mem_line.1 hh).2, rfl⟩

theorem members_nodup (c : LockClients) (key : String) : (c.members key).Nodup :=
  List.nodup_range.filter _

theorem mem_keysInUse {c : LockClients} {key : String} : key ∈ c.keysInUse ↔ c.members key ≠ [] := by
  -- both say that some handle counted for the key is there
  have hlive : key ∈ c.keysInUse ↔
      ∃ h : Nat, ∃ st : HandleStage, c.handles[h]? = some (key, st) ∧ st.counts = true := by
    simp only [keysInUse, List.mem_toFinset, List.mem_map, List.mem_filter]
    constructor
    · rintro ⟨⟨k', st⟩, ⟨hx, hst⟩, rfl⟩
      obtain ⟨h, hh⟩ := List.mem_iff_getElem?.1 hx
      exact ⟨h, st, hh, hst⟩
    · rintro ⟨h, st, hh, hst⟩
      exact ⟨(key, st), ⟨List.mem_of_getElem? hh, hst⟩, rfl⟩
  rw [hlive]
  constructor
  · rintro ⟨h, st, hh, hst⟩
    exact List.ne_nil_of_mem (mem_members.2 ⟨st, hh, hst⟩)
  · intro hne
    obtain ⟨h, hh⟩ := List.exists_mem_of_ne_nil _ hne
    obtain ⟨st, hh, hst⟩ := mem_members.1 hh
    exact ⟨h, st, hh, hst⟩

/-! ## What each step does to the lines and the members -/

section Moves

variable {c : LockClients} {h : Nat} {key : String}

theorem step_ask (hh : c.handles[h]? = some (key, .counted)) :
    c.step (.ask h) =
      { table := c.table.ask key h, handles := c.handles.set h (key, .asked), asks := c.asks ++ [h] } := by
  simp [step, hh]

theorem step_leave (hh : c.handles[h]? = some (key, .asked)) :
    c.step (.leave h) = { c with table := c.table.leave key h, handles := c.handles.set h (key, .left) } := by
  simp [step, hh]

theorem step_uncount (hh : c.handles[h]? = some (key, .left)) :
    c.step (.uncount h) = { c with table := c.table.uncount key, handles := c.handles.set h (key, .gone) } := by
  simp [step, hh]

theorem step_ask_of_ne (hh : ∀ key, c.handles[h]? ≠ some (key, .counted)) : c.step (.ask h) = c := by
  simp only [step]

theorem step_leave_of_ne (hh : ∀ key, c.handles[h]? ≠ some (key, .asked)) :
    c.step (.leave h) = c := by
  simp only [step]

theorem step_uncount_of_ne (hh : ∀ key, c.handles[h]? ≠ some (key, .left)) :
    c.step (.uncount h) = c := by
  simp only [step]

theorem members_set {c' : LockClients} {st st' : HandleStage} (hh : c.handles[h]? = some (key, st))
    (hc' : c'.handles = c.handles.set h (key, st')) (hst : st'.counts = st.counts) (k : String) :
    c'.members k = c.members k := by
  have hlt := (List.getElem?_eq_some_iff.1 hh).1
  simp only [members, hc', List.length_set]
  refine List.filter_congr fun j _ => ?_
  by_cases hj : h = j
  · subst hj
    rw [List.getElem?_set_self hlt, hh]
    simp [hst]
  · rw [List.getElem?_set_ne hj]

theorem members_ask (hh : c.handles[h]? = some (key, .counted)) (k : String) :
    (c.step (.ask h)).members k = c.members k :=
  members_set hh (congrArg LockClients.handles (step_ask hh)) rfl k

theorem members_leave (hh : c.handles[h]? = some (key, .asked)) (k : String) :
    (c.step (.leave h)).members k = c.members k :=
  members_set hh (congrArg LockClients.handles (step_leave hh)) rfl k

theorem members_count (c : LockClients) (key k : String) :
    (c.step (.count key)).members k = c.members k ++ if k = key then [c.handles.length] else [] := by
  simp only [step, members, List.length_append, List.length_singleton, List.range_succ,
    List.filter_append]
  congr 1
  · refine List.filter_congr fun j hj => ?_
    rw [List.getElem?_append_left (List.mem_range.1 hj)]
  · by_cases hk : k = key <;> simp [hk, Ne.symm, HandleStage.counts]

theorem members_uncount (hh : c.handles[h]? = some (key, .left)) (k : String) :
    (c.step (.uncount h)).members k = (c.members k).erase h := by
  have hlt := (List.getElem?_eq_some_iff.1 hh).1
  rw [(c.members_nodup k).erase_eq_filter, step_uncount hh]
  simp only [members, List.length_set, List.filter_filter]
  refine List.filter_congr fun j _ => ?_
  by_cases hj : h = j
  · subst hj
    simp [List.getElem?_set_self hlt, HandleStage.counts]
  · simp [List.getElem?_set_ne hj, Ne.symm hj]

theorem line_uncount {h : Nat} {key : String} (hh : c.handles[h]? = some (key, .left))
    (k : String) : (c.step (.uncount h)).line k = c.line k := by
  have hlt := (List.getElem?_eq_some_iff.1 hh).1
  rw [step_uncount hh]
  simp only [line]
  refine List.filter_congr fun j _ => ?_
  by_cases hj : h = j
  · subst hj
    simp [List.getElem?_set_self hlt, hh]
  · rw [List.getElem?_set_ne hj]

end Moves

/-! ## The table follows the handles -/

/-- The table follows the handles: the entry of every key is the one its line and its members
make; the table names each key once; and each handle asked at most once, after its count. -/
structure Tracks (c : LockClients) : Prop where
  slot : ∀ k, c.table.slot? k = entryOf (c.line k) (c.members k).length
  nodup : (c.table.slots.map (·.1)).Nodup
  asks_nodup : c.asks.Nodup
  asked : ∀ h ∈ c.asks, ∃ key st, c.handles[h]? = some (key, st) ∧ st ≠ .counted

theorem tracks_empty : Tracks {} where
  slot _ := rfl
  nodup := List.nodup_nil
  asks_nodup := List.nodup_nil
  asked _ h := nomatch h

section Step

variable {c : LockClients} (hc : c.Tracks)
include hc

theorem Tracks.line_nodup (key : String) : (c.line key).Nodup :=
  hc.asks_nodup.filter _

theorem Tracks.line_length_le (key : String) : (c.line key).length ≤ (c.members key).length :=
  ((hc.line_nodup key).subperm (line_sub_members c key)).length_le

theorem Tracks.line_eq_nil (key : String) (h0 : (c.members key).length = 0) : c.line key = [] :=
  List.eq_nil_of_length_eq_zero (Nat.le_zero.1 (h0 ▸ hc.line_length_le key))

theorem Tracks.not_mem_asks {h : Nat} {key : String} (hh : c.handles[h]? = some (key, .counted)) :
    h ∉ c.asks := fun hmem => by
  obtain ⟨key', st, hh', hst⟩ := hc.asked h hmem
  rw [hh] at hh'
  cases hh'
  exact hst rfl

/-- Moving a handle out of the counted stage keeps the asks at stages other than counted. -/
theorem Tracks.asked_set {h : Nat} {key : String} {st st' : HandleStage}
    (hh : c.handles[h]? = some (key, st)) (hst' : st' ≠ .counted) :
    ∀ j ∈ c.asks ++ [h], ∃ key' st'', (c.handles.set h (key, st'))[j]? = some (key', st'') ∧
      st'' ≠ .counted := by
  have hlt := (List.getElem?_eq_some_iff.1 hh).1
  intro j hj
  by_cases hjh : h = j
  · subst hjh
    exact ⟨key, st', List.getElem?_set_self hlt, hst'⟩
  · rw [List.getElem?_set_ne hjh]
    rcases List.mem_append.1 hj with hj | hj
    · exact hc.asked j hj
    · exact absurd (List.mem_singleton.1 hj).symm hjh

theorem Tracks.line_count (key k : String) : (c.step (.count key)).line k = c.line k := by
  simp only [step, line]
  refine List.filter_congr fun j hj => ?_
  obtain ⟨_, _, hh, -⟩ := hc.asked j hj
  rw [List.getElem?_append_left (List.getElem?_eq_some_iff.1 hh).1]

theorem Tracks.line_ask {h : Nat} {key : String} (hh : c.handles[h]? = some (key, .counted))
    (k : String) : (c.step (.ask h)).line k = c.line k ++ if k = key then [h] else [] := by
  have hlt := (List.getElem?_eq_some_iff.1 hh).1
  have hout := hc.not_mem_asks hh
  rw [step_ask hh]
  simp only [line, List.filter_append]
  congr 1
  · refine List.filter_congr fun j hj => ?_
    rw [List.getElem?_set_ne (ne_of_mem_of_not_mem hj hout).symm]
  · by_cases hk : k = key
    · simp [hk, List.getElem?_set_self hlt]
    · simp [List.getElem?_set_self hlt, hk, Ne.symm hk]

theorem Tracks.line_leave {h : Nat} {key : String} (hh : c.handles[h]? = some (key, .asked))
    (k : String) : (c.step (.leave h)).line k = (c.line k).erase h := by
  have hlt := (List.getElem?_eq_some_iff.1 hh).1
  rw [(hc.line_nodup k).erase_eq_filter, step_leave hh]
  simp only [line, List.filter_filter]
  refine List.filter_congr fun j _ => ?_
  by_cases hj : h = j
  · subst hj
    simp [List.getElem?_set_self hlt]
  · simp [List.getElem?_set_ne hj, Ne.symm hj]

/-- Each step keeps the table following the handles. -/
theorem Tracks.step (e : LockEvent) : (c.step e).Tracks := by
  cases e with
  | count key =>
    -- the new handle counts in its key's entry, whose line stays
    refine ⟨fun k => ?_, LockTable.nodup_count hc.nodup key, hc.asks_nodup, fun j hj => ?_⟩
    · rw [hc.line_count, members_count]
      show (c.table.count key).slot? k = _
      rw [LockTable.slot?_count (hc.slot key) (hc.line_eq_nil key)]
      by_cases hk : k = key
      · simp [hk]
      · simp [hk, hc.slot k]
    · obtain ⟨key', st, hh, hst⟩ := hc.asked j hj
      refine ⟨key', st, ?_, hst⟩
      show (c.handles ++ [(key, .counted)])[j]? = _
      rw [List.getElem?_append_left (List.getElem?_eq_some_iff.1 hh).1, hh]
  | ask h =>
    by_cases hcounted : ∃ key, c.handles[h]? = some (key, .counted)
    · obtain ⟨key, hh⟩ := hcounted
      -- a counted handle is a member, so its key has an entry, whose lock it asks
      have hm : h ∈ c.members key := mem_members.2 ⟨_, hh, rfl⟩
      refine ⟨fun k => ?_, ?_, ?_, ?_⟩
      · rw [hc.line_ask hh, members_ask hh, step_ask hh]
        show (c.table.ask key h).slot? k = _
        rw [LockTable.slot?_ask (hc.slot key) (List.length_pos_of_mem hm).ne' h k]
        by_cases hk : k = key
        · simp [hk]
        · simp [hk, hc.slot k]
      · rw [step_ask hh]
        exact LockTable.nodup_ask hc.nodup _ _
      · rw [step_ask hh]
        exact List.nodup_append.2 ⟨hc.asks_nodup, List.nodup_singleton h,
          fun a ha b hb hab => hc.not_mem_asks hh (List.mem_singleton.1 hb ▸ hab ▸ ha)⟩
      · rw [step_ask hh]
        exact hc.asked_set hh (by decide)
    · rw [step_ask_of_ne fun key hh => hcounted ⟨key, hh⟩]
      exact hc
  | leave h =>
    by_cases hasked : ∃ key, c.handles[h]? = some (key, .asked)
    · obtain ⟨key, hh⟩ := hasked
      -- the handle stands in its key's line, which the table holds
      have hm : h ∈ c.members key := mem_members.2 ⟨_, hh, rfl⟩
      refine ⟨fun k => ?_, ?_, ?_, ?_⟩
      · rw [hc.line_leave hh, members_leave hh, step_leave hh]
        show (c.table.leave key h).slot? k = _
        rw [LockTable.slot?_leave (hc.slot key) (List.length_pos_of_mem hm).ne'
          (hc.line_nodup key) h k]
        by_cases hk : k = key
        · simp [hk]
        · -- another key's line does not hold the handle
          have hout : h ∉ c.line k := fun hk' => hk (handles_key_eq hh (mem_line.1 hk').2)
          simp [hk, hc.slot k, List.erase_of_not_mem hout]
      · rw [step_leave hh]
        exact LockTable.nodup_leave hc.nodup _ _
      · rw [step_leave hh]
        exact hc.asks_nodup
      · rw [step_leave hh]
        exact fun j hj => hc.asked_set hh (by decide) j (List.mem_append_left _ hj)
    · rw [step_leave_of_ne fun key hh => hasked ⟨key, hh⟩]
      exact hc
  | uncount h =>
    by_cases hleft : ∃ key, c.handles[h]? = some (key, .left)
    · obtain ⟨key, hh⟩ := hleft
      -- the handle is a member out of every line
      have hm : h ∈ c.members key := mem_members.2 ⟨_, hh, rfl⟩
      refine ⟨fun k => ?_, ?_, ?_, ?_⟩
      · rw [line_uncount hh, members_uncount hh, step_uncount hh]
        show (c.table.uncount key).slot? k = _
        rw [LockTable.slot?_uncount (hc.slot key) k]
        by_cases hk : k = key
        · simp [hk, List.length_erase_of_mem hm]
        · -- nor is it a member of another key
          have hout : h ∉ c.members k := fun hk' => by
            obtain ⟨st, hh', -⟩ := mem_members.1 hk'
            exact hk (handles_key_eq hh hh')
          simp [hk, hc.slot k, List.erase_of_not_mem hout]
      · rw [step_uncount hh]
        exact LockTable.nodup_uncount hc.nodup _
      · rw [step_uncount hh]
        exact hc.asks_nodup
      · rw [step_uncount hh]
        exact fun j hj => hc.asked_set hh (by decide) j (List.mem_append_left _ hj)
    · rw [step_uncount_of_ne fun key hh => hleft ⟨key, hh⟩]
      exact hc

theorem Tracks.len_eq : c.table.len = c.keysInUse.card := by
  have hkeys : (c.table.slots.map (·.1)).toFinset = c.keysInUse := by
    ext k
    rw [List.mem_toFinset, mem_keysInUse, ← not_iff_not, not_not,
      ← LockTable.slot?_eq_none_iff, hc.slot k, entryOf]
    by_cases h0 : (c.members k).length = 0
    · simp [List.eq_nil_of_length_eq_zero h0]
    · simp only [h0, if_false, reduceCtorEq, false_iff]
      exact fun hnil => h0 (by rw [hnil, List.length_nil])
  rw [LockTable.len, ← hkeys, List.toFinset_card_of_nodup hc.nodup, List.length_map]

/-- In a table that follows the handles, a key's lock is held by the oldest handle in its line. -/
theorem Tracks.isHeld_iff (key : String) (h : Nat) :
    c.table.isHeld key h = true ↔ (c.line key).head? = some h := by
  rw [LockTable.isHeld_of_slot? (hc.slot key) (hc.line_eq_nil key), beq_iff_eq]

end Step

end LockClients

/-- Every run keeps the table following the handles. -/
theorem LockClients.Tracks.run {c : LockClients} (hc : c.Tracks) (es : List LockEvent) :
    (c.run es).Tracks := by
  induction es generalizing c with
  | nil => exact hc
  | cons e es ih => exact ih (hc.step e)

/-- **The lock table keeps exactly the bookkeeping of the handles.** After any interleaving of
the steps of any callers over any keys, from an empty table: a key has an entry exactly when some
handle is counted in it, and the entry counts those handles and holds the lock whose line is the
handles that asked and have not left, in the order they asked, the oldest holding the lock and
the rest queued. So the table has one entry per key in use, the entry goes when its last handle
uncounts, one handle holds each lock, and a lock given up passes to the oldest handle still in
line, ahead of every later asker. -/
theorem lock_table_tracks_handles (es : List LockEvent) :
    let c := ({} : LockClients).run es
    (∀ key, c.table.slot? key = entryOf (c.line key) (c.members key).length) ∧
      c.table.len = c.keysInUse.card ∧
      ∀ key h, c.table.isHeld key h = true ↔ (c.line key).head? = some h := by
  intro c
  have hc : c.Tracks := LockClients.tracks_empty.run es
  exact ⟨hc.slot, hc.len_eq, hc.isHeld_iff⟩

/-- Two handles of one key: the second asks before the first has asked, so it takes the lock;
the first, once the second has left, takes it in turn while the second is still counted. -/
example :
    let c := ({} : LockClients).run [.count "a", .count "a", .ask 1, .ask 0, .leave 1]
    c.table.isHeld "a" 0 = true ∧ c.table.slot? "a" = some ⟨⟨some 0, []⟩, 2⟩ := by
  decide

end ChunkStore
