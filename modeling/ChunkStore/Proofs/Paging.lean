import ChunkStore.Proofs.FaithfulOrigin
import Mathlib.Algebra.BigOperators.Group.Finset.Basic
import Mathlib.Algebra.BigOperators.Group.Finset.Piecewise
import Mathlib.Data.List.Sort
/-!
# How many listings a renewal makes

A renewal lists the origin only to find new links. Its listings are a walk over the lapsed
message ids, ascending (`pagedIds`): an id that some earlier listing returned is passed over;
any other is listed from the channel of its first lapsed record (`firstChannel`), from just
before it, and the walk stops at an id whose record names no channel or at a failed listing.
To see the calls, the transport is wrapped so that it logs every listing asked of it
(`Transport.logLists`). Against an origin whose links are signed, the renewal asks for exactly
the walk's listings (`refreshExpired_logLists`).

Against a faithful origin a listing returns the first 100 messages above its anchor. When the
lapsed ids of each channel are the messages it holds between the least and the greatest of them
(`Packed`), a listing covers the next 100 lapsed ids of its channel, so a channel with `k` lapsed
ids is listed `⌈k / 100⌉` times (`pagedIds_length_of_window`), and the listings of the channels
add up (`pagedIds_length_eq_sum`). Two things break the count: a message id of 0, whose anchor
saturates at 0 so that its listing leaves it out, and a lapsed id held in another channel as
well, which that channel's listing covers (`refresh_lists_fewer_than_pages`). The main statement
is `refresh_lists_once_per_unlisted_id`.
-/

namespace ChunkStore

variable {σ : Type}

/-! ## A transport that logs its listings -/

/-- The transport `t`, keeping beside its state the log of the listings asked of it: the
channel, the anchor and the direction. -/
def Transport.logLists (t : Transport σ) : Transport (σ × List (String × Nat × Direction)) where
  name := t.name
  upload d s := ((t.upload d s.1).1, (t.upload d s.1).2, s.2)
  rangeFetch n a b s := ((t.rangeFetch n a b s.1).1, (t.rangeFetch n a b s.1).2, s.2)
  listMessages ch a dir s :=
    ((t.listMessages ch a dir s.1).1, (t.listMessages ch a dir s.1).2, s.2 ++ [(ch, a, dir)])

@[simp] theorem Transport.logLists_listMessages (t : Transport σ) (ch : String) (a : Nat)
    (dir : Direction) (s : σ × List (String × Nat × Direction)) :
    t.logLists.listMessages ch a dir s =
      ((t.listMessages ch a dir s.1).1, (t.listMessages ch a dir s.1).2, s.2 ++ [(ch, a, dir)]) :=
  rfl

/-- An origin whose listings hand out signed links, from the states where `inv` holds: the
first attachment of every message listed after an anchor is at a signed link, and the listing
keeps `inv`. -/
structure Transport.SignsListings (t : Transport σ) (inv : σ → Prop) : Prop where
  signed : ∀ ch a s, inv s → ∀ page, (t.listMessages ch a .after s).1 = .ok page →
    ∀ m ∈ page, ∀ att, m.firstAttachment = some att →
      ∃ sig, SignedUrl.fromOrigin att.url = .ok sig
  keeps : ∀ ch a s, inv s → inv (t.listMessages ch a .after s).2

theorem Transport.ListsFaithfully.signsListings {t : Transport σ} {inv : σ → Prop}
    {held : String → List Nat} (h : t.ListsFaithfully inv held) : t.SignsListings inv where
  signed ch a s hs page hpage m hm att hatt := by
    obtain ⟨page', hpage', -, hlinks⟩ := h.lists ch a s hs
    rw [hpage] at hpage'
    cases hpage'
    obtain ⟨att', sig, hatt', hsig⟩ := hlinks m hm
    rw [hatt, Option.some.injEq] at hatt'
    exact ⟨sig, hatt' ▸ hsig⟩
  keeps := h.keeps

theorem Transport.SignsListings.logLists {t : Transport σ} {inv : σ → Prop}
    (h : t.SignsListings inv) : t.logLists.SignsListings (inv ·.1) where
  signed ch a s hs page hpage := h.signed ch a s.1 hs page hpage
  keeps ch a s hs := h.keeps ch a s.1 hs

/-! ## The walk over the lapsed ids -/

/-- The channel a renewal lists message `id` from: the channel named by the first of the
message's records lapsed at `now`. -/
def firstChannel (nodes : Array Node) (now : Int) (id : Nat) : Option String :=
  (nodes.toList.find? fun n => n.isExpiredAt now && n.messageId == id).bind (·.channelId)

/-- The listings of a renewal as a walk over the lapsed message ids `ids`, with `listed` the ids
earlier listings returned: a listed id is passed over; any other is listed from its channel,
from just before it, and the walk stops at an id that has no channel or at a failed listing.
The channel and id of each listing asked for, and the origin's state after them. -/
def pagedIds (t : Transport σ) (chan : Nat → Option String) :
    List Nat → List Nat → σ → List (String × Nat) × σ
  | [], _, s => ([], s)
  | id :: ids, listed, s =>
    if id ∈ listed then pagedIds t chan ids listed s
    else
      match chan id with
      | none => ([], s)
      | some ch =>
        match t.listMessages ch (id - 1) .after s with
        | (.error _, s) => ([(ch, id)], s)
        | (.ok page, s) =>
          let rest := pagedIds t chan ids (listed ++ page.map (·.id)) s
          ((ch, id) :: rest.1, rest.2)

/-! ## The first lapsed record of a message -/

theorem head?_filter_range_bind {α : Type} (p : α → Bool) :
    ∀ l : List α, (((List.range l.length).filter fun i => (l[i]?).any p).head?.bind
      fun i => l[i]?) = l.find? p
  | [] => rfl
  | a :: l => by
    rw [List.length_cons, List.range_succ_eq_map, List.filter_cons, List.find?_cons]
    cases hp : p a
    · simp only [List.getElem?_cons_zero, Option.any_some, hp, Bool.false_eq_true, if_false,
        List.filter_map, List.head?_map, Option.bind_map]
      rw [← head?_filter_range_bind p l]
      simp [Function.comp_def]
    · simp [hp]

/-- The first index of a message's group holds the message's first lapsed record. -/
theorem head?_bind_of_mem_expiredGroups {nodes : Array Node} {now : Int} {id : Nat}
    {idx : List Nat} (h : (id, idx) ∈ expiredGroups nodes now) :
    (idx.head?.bind fun i => nodes[i]?) =
      nodes.toList.find? fun n => n.isExpiredAt now && n.messageId == id := by
  simp only [expiredGroups, List.mem_map, Prod.mk.injEq] at h
  obtain ⟨id', -, rfl, rfl⟩ := h
  have key := head?_filter_range_bind (fun n => n.isExpiredAt now && n.messageId == id')
    nodes.toList
  simp only [Array.length_toList, Array.getElem?_toList] at key
  rw [← key, List.filter_filter]
  congr 2
  apply List.filter_congr
  intro i _
  cases nodes[i]? <;> simp [Bool.and_comm]

/-- A renewal reads a group's channel from the message's first lapsed record, as it was. -/
theorem Tracks.channelId_first {nodes : Array Node} {now : Int} {seen : List Message}
    {r : Renewal} (h : Tracks nodes now seen r) {id : Nat} {idx : List Nat}
    (hgroup : (id, idx) ∈ expiredGroups nodes now) (hnew : id ∉ r.renewed) (d : Node) :
    ((idx.head?.bind fun i => r.nodes[i]?).getD d).channelId = firstChannel nodes now id := by
  have hfirst := head?_bind_of_mem_expiredGroups hgroup
  obtain ⟨⟨n₀, hn₀, hexp₀, hid₀⟩, hidx⟩ := of_mem_expiredGroups hgroup
  obtain ⟨j, hj⟩ := Array.mem_iff_getElem?.1 hn₀
  cases hhead : idx with
  | nil => exact absurd ((hidx j).2 ⟨n₀, hj, hexp₀, hid₀⟩) (by simp [hhead])
  | cons i rest =>
    obtain ⟨n, hn, hexp, hid⟩ := (hidx i).1 (by simp [hhead])
    -- the message was not listed yet, so its record is as it was
    have hfresh : renewNode seen now n = n :=
      renewNode_of_renewedBy_none (hid ▸ renewedBy_eq_none (h.unseen hgroup hnew))
    rw [hhead] at hfirst
    simp only [List.head?_cons, Option.bind_some, hn] at hfirst
    simp [firstChannel, ← hfirst, h.records, Array.getElem?_map, hn, hfresh]

/-! ## The renewal lists as the walk does -/

section Walk

variable {t : Transport σ} {inv : σ → Prop} {nodes : Array Node} {now : Int}

/-- After a page, a later group counts as listed exactly when it was, or the page returns its
id. -/
theorem Tracks.renewed_append {seen page : List Message} {r r' : Renewal}
    (h : Tracks nodes now seen r) (h' : Tracks nodes now (seen ++ page) r') {listed : List Nat}
    {id : Nat} {idx : List Nat} (hgroup : (id, idx) ∈ expiredGroups nodes now)
    (hlisted : id ∈ r.renewed ↔ id ∈ listed) :
    id ∈ r'.renewed ↔ id ∈ listed ++ page.map (·.id) := by
  have hexp := (of_mem_expiredGroups hgroup).1
  rw [h'.marked, List.mem_append, ← hlisted, h.marked, List.mem_map]
  simp only [List.mem_append, hexp, true_and]
  constructor
  · rintro ⟨m, hm | hm, hid⟩
    · exact .inl ⟨m, hm, hid⟩
    · exact .inr ⟨m, hm, hid⟩
  · rintro (⟨m, hm, hid⟩ | ⟨m, hm, hid⟩)
    · exact ⟨m, .inl hm, hid⟩
    · exact ⟨m, .inr hm, hid⟩

/-- **The renewal's listings are the walk's.** Visiting the groups `todo`, with `listed` the ids
earlier pages returned, leaves the origin in the state the walk over their ids leaves it in. -/
theorem renewGroups_state_eq (hsign : t.SignsListings inv) :
    ∀ (todo : List (Nat × List Nat)) (seen : List Message) (r : Renewal) (listed : List Nat)
      (s : σ), Tracks nodes now seen r → (∀ p ∈ todo, p ∈ expiredGroups nodes now) →
      (∀ p ∈ todo, p.1 ∈ r.renewed ↔ p.1 ∈ listed) → inv s →
      (renewGroups t (expiredGroups nodes now) todo r s).2.2 =
        (pagedIds t (firstChannel nodes now) (todo.map (·.1)) listed s).2
  | [], _, _, _, _, _, _, _, _ => rfl
  | (id, idx) :: todo, seen, r, listed, s, h, hgroups, hlisted, hs => by
    have hgroup := hgroups _ List.mem_cons_self
    have hrest : ∀ p ∈ todo, p ∈ expiredGroups nodes now :=
      fun p hp => hgroups p (List.mem_cons_of_mem _ hp)
    have hlisted' : ∀ p ∈ todo, p.1 ∈ r.renewed ↔ p.1 ∈ listed :=
      fun p hp => hlisted p (List.mem_cons_of_mem _ hp)
    have hid := hlisted _ List.mem_cons_self
    rw [List.map_cons]
    dsimp only at hid ⊢
    by_cases hren : id ∈ r.renewed
    · -- listed before: both pass over it
      have hskip : renewGroups t (expiredGroups nodes now) ((id, idx) :: todo) r s =
          renewGroups t (expiredGroups nodes now) todo r s := by
        simp [renewGroups, hren]
      rw [hskip, pagedIds, if_pos (hid.1 hren)]
      exact renewGroups_state_eq hsign todo seen r listed s h hrest hlisted' hs
    have hnew : id ∉ listed := fun hl => hren (hid.2 hl)
    have hch := h.channelId_first hgroup hren ⟨"", 0, 0, 0, 0, ""⟩
    rw [pagedIds, if_neg hnew]
    cases hchan : firstChannel nodes now id with
    | none =>
      -- no channel: both stop where they are
      simp [renewGroups, hren, hch, hchan]
    | some ch =>
      dsimp only
      rcases hl : t.listMessages ch (id - 1) .after s with ⟨_ | page, s'⟩
      · simp [renewGroups, hren, hch, hchan, hl]
      · dsimp only
        have hs' : inv s' := by simpa [hl] using hsign.keeps ch (id - 1) s hs
        -- the page renews without a panic: its links are signed
        rcases Tracks.listedPage page seen r h with ⟨r', hok, h'⟩ | ⟨p, -, m, hm, att, hatt, hbad⟩
        · have hstep : renewGroups t (expiredGroups nodes now) ((id, idx) :: todo) r s =
              renewGroups t (expiredGroups nodes now) todo r' s' := by
            simp [renewGroups, hren, hch, hchan, hl, hok]
          rw [hstep]
          exact renewGroups_state_eq hsign todo (seen ++ page) r' _ s' h' hrest
            (fun p hp => h.renewed_append h' (hrest p hp) (hlisted' p hp)) hs'
        · obtain ⟨sig, hsig⟩ := hsign.signed ch (id - 1) s hs page (by rw [hl]) m hm att hatt
          simp [hsig, Except.toOption] at hbad

/-- The walk over a logging transport logs its listings. -/
theorem pagedIds_logLists (t : Transport σ) (chan : Nat → Option String) :
    ∀ (ids listed : List Nat) (s : σ) (log : List (String × Nat × Direction)),
      (pagedIds t.logLists chan ids listed (s, log)).2 =
        ((pagedIds t chan ids listed s).2,
          log ++ (pagedIds t chan ids listed s).1.map fun c => (c.1, c.2 - 1, .after))
  | [], _, _, _ => by simp [pagedIds]
  | id :: ids, listed, s, log => by
    by_cases hl : id ∈ listed
    · simp only [pagedIds, if_pos hl]
      exact pagedIds_logLists t chan ids listed s log
    simp only [pagedIds, if_neg hl]
    cases chan id with
    | none => simp
    | some ch =>
      rcases hlist : t.listMessages ch (id - 1) .after s with ⟨_ | page, s'⟩
      · simp [hlist]
      · simp only [Transport.logLists_listMessages, hlist]
        rw [pagedIds_logLists t chan ids _ s' _]
        simp

theorem refreshExpired_state (t : Transport σ) (nodes : Array Node) (now : Int) (s : σ) :
    (refreshExpired t nodes now s).2.2 =
      (renewGroups t (expiredGroups nodes now) (expiredGroups nodes now) { nodes } s).2.2 := by
  unfold refreshExpired
  dsimp only
  rcases renewGroups t (expiredGroups nodes now) (expiredGroups nodes now) { nodes } s with
    ⟨_ | _ | _, _, _⟩ <;> rfl

/-- **A renewal asks for exactly the walk's listings.** Against an origin whose links are
signed, the listings a renewal asks for are those of the walk over the lapsed message ids, each
from its channel, just before the id, onwards. -/
theorem refreshExpired_logLists (hsign : t.SignsListings inv) {s : σ} (hs : inv s)
    (log : List (String × Nat × Direction)) :
    (refreshExpired t.logLists nodes now (s, log)).2.2.2 = log ++
      (pagedIds t (firstChannel nodes now) ((expiredGroups nodes now).map (·.1)) [] s).1.map
        fun c => (c.1, c.2 - 1, .after) := by
  rw [refreshExpired_state, renewGroups_state_eq hsign.logLists _ [] { nodes } [] (s, log)
    (tracks_start nodes now) (fun p hp => hp) (fun p _ => by simp) hs, pagedIds_logLists]

end Walk

/-! ## The walk's listings over a faithful origin -/

/-- The ids a faithful listing returns when the walk lists message `id` of channel `ch`: the
first 100 that the channel holds above `id - 1`. -/
def faithfulPage (held : String → List Nat) (ch : String) (id : Nat) : List Nat :=
  ((held ch).filter (id - 1 < ·)).take messagePageSize

section Walk

variable {t : Transport σ} {chan : Nat → Option String}

/-- The walk depends on the ids listed before only through those it has still to visit. -/
theorem pagedIds_congr (t : Transport σ) (chan : Nat → Option String) :
    ∀ (ids listed listed' : List Nat) (s : σ), (∀ x ∈ ids, x ∈ listed ↔ x ∈ listed') →
      pagedIds t chan ids listed s = pagedIds t chan ids listed' s
  | [], _, _, _, _ => rfl
  | id :: ids, listed, listed', s, h => by
    have hrest : ∀ x ∈ ids, x ∈ listed ↔ x ∈ listed' := fun x hx => h x (List.mem_cons_of_mem _ hx)
    unfold pagedIds
    by_cases hl : id ∈ listed
    · rw [if_pos hl, if_pos ((h id List.mem_cons_self).1 hl)]
      exact pagedIds_congr t chan ids listed listed' s hrest
    rw [if_neg hl, if_neg fun hl' => hl ((h id List.mem_cons_self).2 hl')]
    cases chan id with
    | none => rfl
    | some ch =>
      dsimp only
      rcases t.listMessages ch (id - 1) .after s with ⟨_ | page, s'⟩
      · rfl
      · dsimp only
        rw [pagedIds_congr t chan ids _ (listed' ++ page.map (·.id)) s' fun x hx => by
          simp only [List.mem_append, hrest x hx]]

theorem pagedIds_append_of_listed (t : Transport σ) (chan : Nat → Option String) :
    ∀ (pre post listed : List Nat) (s : σ), (∀ x ∈ pre, x ∈ listed) →
      pagedIds t chan (pre ++ post) listed s = pagedIds t chan post listed s
  | [], _, _, _, _ => rfl
  | x :: pre, post, listed, s, h => by
    rw [List.cons_append, pagedIds, if_pos (h x List.mem_cons_self)]
    exact pagedIds_append_of_listed t chan pre post listed s
      fun y hy => h y (List.mem_cons_of_mem _ hy)

/-- Every listing of the walk is of an id it visits, from that id's channel. -/
theorem mem_pagedIds (t : Transport σ) (chan : Nat → Option String) :
    ∀ (ids listed : List Nat) (s : σ), ∀ p ∈ (pagedIds t chan ids listed s).1,
      p.2 ∈ ids ∧ chan p.2 = some p.1
  | [], _, _, p, hp => by simp [pagedIds] at hp
  | id :: ids, listed, s, p, hp => by
    unfold pagedIds at hp
    by_cases hl : id ∈ listed
    · rw [if_pos hl] at hp
      obtain ⟨hmem, hch⟩ := mem_pagedIds t chan ids listed s p hp
      exact ⟨List.mem_cons_of_mem _ hmem, hch⟩
    rw [if_neg hl] at hp
    cases hch : chan id with
    | none => simp [hch] at hp
    | some ch =>
      simp only [hch] at hp
      rcases hlist : t.listMessages ch (id - 1) .after s with ⟨_ | page, s'⟩
      · simp only [hlist, List.mem_singleton] at hp
        subst hp
        exact ⟨List.mem_cons_self, hch⟩
      · simp only [hlist, List.mem_cons] at hp
        rcases hp with rfl | hp
        · exact ⟨List.mem_cons_self, hch⟩
        · obtain ⟨hmem, hch'⟩ := mem_pagedIds t chan ids _ s' p hp
          exact ⟨List.mem_cons_of_mem _ hmem, hch'⟩

variable {inv : σ → Prop} {held : String → List Nat}

/-- One step of the walk over a faithful origin: a new id with a channel is listed, and the
ids the listing returns are the faithful page. -/
theorem pagedIds_cons_of_faithful (hf : t.ListsFaithfully inv held) {s : σ} (hs : inv s)
    {id : Nat} (ids : List Nat) {listed : List Nat} {ch : String} (hnew : id ∉ listed)
    (hch : chan id = some ch) :
    inv (t.listMessages ch (id - 1) .after s).2 ∧
      pagedIds t chan (id :: ids) listed s =
        ((ch, id) :: (pagedIds t chan ids (listed ++ faithfulPage held ch id)
            (t.listMessages ch (id - 1) .after s).2).1,
          (pagedIds t chan ids (listed ++ faithfulPage held ch id)
            (t.listMessages ch (id - 1) .after s).2).2) := by
  obtain ⟨page, hpage, hids, -⟩ := hf.lists ch (id - 1) s hs
  refine ⟨hf.keeps ch (id - 1) s hs, ?_⟩
  rcases hl : t.listMessages ch (id - 1) .after s with ⟨out, s'⟩
  rw [hl] at hpage
  cases hpage
  rw [pagedIds, if_neg hnew, hch]
  simp only [hl, faithfulPage, hids]

/-- Over a faithful origin the walk's listings do not depend on the origin's state. -/
theorem pagedIds_fst_of_faithful (hf : t.ListsFaithfully inv held) :
    ∀ (ids listed : List Nat) (s s' : σ), inv s → inv s' →
      (pagedIds t chan ids listed s).1 = (pagedIds t chan ids listed s').1
  | [], _, _, _, _, _ => rfl
  | id :: ids, listed, s, s', hs, hs' => by
    by_cases hl : id ∈ listed
    · simp only [pagedIds, if_pos hl]
      exact pagedIds_fst_of_faithful hf ids listed s s' hs hs'
    cases hch : chan id with
    | none => simp [pagedIds, hl, hch]
    | some ch =>
      obtain ⟨h₁, e₁⟩ := pagedIds_cons_of_faithful hf hs ids hl hch
      obtain ⟨h₂, e₂⟩ := pagedIds_cons_of_faithful hf hs' ids hl hch
      rw [e₁, e₂, pagedIds_fst_of_faithful hf ids _ _ _ h₁ h₂]

/-- **The listings of one channel.** Over a faithful origin, when every id has a channel and a
listing returns no id of another channel, the walk's listings from channel `c` are the walk over
the ids of `c` alone. -/
theorem pagedIds_filter_channel (hf : t.ListsFaithfully inv held) (c : String) :
    ∀ (ids listed : List Nat) (s : σ), inv s → (∀ x ∈ ids, (chan x).isSome) →
      (∀ x ∈ ids, ∀ ch, chan x = some ch → ∀ y ∈ ids, y ∈ faithfulPage held ch x →
        chan y = some ch) →
      (pagedIds t chan ids listed s).1.filter (·.1 == c) =
        (pagedIds t chan (ids.filter (chan · == some c)) listed s).1
  | [], _, _, _, _, _ => rfl
  | id :: ids, listed, s, hs, hsome, hsep => by
    have hsome' : ∀ x ∈ ids, (chan x).isSome := fun x hx => hsome x (List.mem_cons_of_mem _ hx)
    have hsep' : ∀ x ∈ ids, ∀ ch, chan x = some ch → ∀ y ∈ ids, y ∈ faithfulPage held ch x →
        chan y = some ch := fun x hx ch hch y hy =>
      hsep x (List.mem_cons_of_mem _ hx) ch hch y (List.mem_cons_of_mem _ hy)
    obtain ⟨ch, hch⟩ := Option.isSome_iff_exists.1 (hsome id List.mem_cons_self)
    by_cases hl : id ∈ listed
    · -- passed over by both walks
      have hskip : (pagedIds t chan (id :: ids) listed s) = pagedIds t chan ids listed s := by
        rw [pagedIds, if_pos hl]
      rw [hskip, pagedIds_filter_channel hf c ids listed s hs hsome' hsep', List.filter_cons]
      split
      · rw [pagedIds, if_pos hl]
      · rfl
    obtain ⟨hs', hstep⟩ := pagedIds_cons_of_faithful hf hs ids hl hch
    rw [hstep, List.filter_cons]
    by_cases hc : ch = c
    · -- a listing of `c`: both walks make it and go on from the same page
      subst hc
      obtain ⟨-, hstep'⟩ := pagedIds_cons_of_faithful hf hs
        (ids.filter (chan · == some ch)) hl hch
      have hcc : ((ch, id).1 == ch) = true := by simp
      rw [if_pos hcc, List.filter_cons_of_pos (by simp [hch]), hstep',
        pagedIds_filter_channel hf ch ids _ _ hs' hsome' hsep']
    · -- a listing of another channel returns no id of `c`, so the walk over `c` ignores it
      have hne : ¬(((ch, id).1 == c) = true) := by simpa using hc
      have hpage : ∀ y ∈ ids.filter (chan · == some c),
          y ∈ listed ++ faithfulPage held ch id ↔ y ∈ listed := by
        intro y hy
        obtain ⟨hy, hyc⟩ := List.mem_filter.1 hy
        refine ⟨fun h => ?_, List.mem_append_left _⟩
        rcases List.mem_append.1 h with h | h
        · exact h
        · -- an id of `c` on the page would be an id of `ch`
          have := hsep id List.mem_cons_self ch hch y (List.mem_cons_of_mem _ hy) h
          simp [this, hc] at hyc
      rw [if_neg hne, List.filter_cons_of_neg (by simpa [hch] using hc),
        pagedIds_filter_channel hf c ids _ _ hs' hsome' hsep',
        pagedIds_congr t chan _ _ listed _ hpage, pagedIds_fst_of_faithful hf _ listed _ s hs' hs]

end Walk

/-! ## Counting the listings -/

/-- A sorted list without its repeats ascends strictly. -/
theorem pairwise_lt_eraseDups : ∀ (l : List Nat), l.Pairwise (· ≤ ·) → l.eraseDups.Pairwise (· < ·)
  | [], _ => by simp
  | a :: as, h => by
    have hrest : (as.filter fun b => !b == a).Pairwise (· ≤ ·) :=
      (List.pairwise_cons.1 h).2.sublist List.filter_sublist
    rw [List.eraseDups_cons]
    refine List.pairwise_cons.2 ⟨fun b hb => ?_, pairwise_lt_eraseDups _ hrest⟩
    -- a later id is no smaller than `a`, and the filter took `a` itself out
    obtain ⟨hmem, hne⟩ := List.mem_filter.1 (List.mem_eraseDups.1 hb)
    have hle := (List.pairwise_cons.1 h).1 b hmem
    simp only [Bool.not_eq_true', beq_eq_false_iff_ne, ne_eq] at hne
    omega
termination_by l => l.length
decreasing_by exact Nat.lt_succ_of_le (List.length_filter_le _ _)

/-- A renewal visits the lapsed message ids in ascending order, each once. -/
theorem lapsedIds_ascending (nodes : Array Node) (now : Int) :
    ((expiredGroups nodes now).map (·.1)).Pairwise (· < ·) := by
  simp only [expiredGroups, List.map_map, Function.comp_def, List.map_id']
  refine pairwise_lt_eraseDups _ ((List.pairwise_mergeSort
    (fun a b c hab hbc => by simp only [decide_eq_true_eq] at *; omega)
    (fun a b => by simp only [Bool.or_eq_true, decide_eq_true_eq]; omega) _).imp ?_)
  intro a b h
  simpa using h



/-- In a strictly ascending list, the members above `y - 1`, for a member `y > 0` at index `k`,
are the list from `k` on. -/
theorem filter_pred_lt_eq_drop : ∀ {l : List Nat} {k y : Nat}, l.Pairwise (· < ·) →
    l[k]? = some y → 0 < y → l.filter (y - 1 < ·) = l.drop k
  | [], _, _, _, h, _ => by simp at h
  | a :: l, 0, y, hl, h, hy => by
    obtain rfl : a = y := by simpa using h
    rw [List.filter_cons_of_pos (by simp; omega), List.filter_eq_self.2 fun b hb => ?_]
    · rfl
    · have := (List.pairwise_cons.1 hl).1 b hb
      simp only [decide_eq_true_eq]
      omega
  | a :: l, k + 1, y, hl, h, hy => by
    have hay := (List.pairwise_cons.1 hl).1 y (List.mem_of_getElem? h)
    rw [List.filter_cons_of_neg (by simp; omega)]
    exact filter_pred_lt_eq_drop (List.pairwise_cons.1 hl).2 h hy

theorem filter_window_drop {l w : List Nat} (hasc : l.Pairwise (· < ·)) {x k y : Nat}
    (hw : l.filter (x - 1 < ·) = w) (hy : w[k]? = some y) (hxy : x ≤ y) (hy0 : 0 < y) :
    l.filter (y - 1 < ·) = w.drop k := by
  -- every member above `y - 1` is above `x - 1` as well
  have hnarrow : l.filter (y - 1 < ·) = (l.filter (x - 1 < ·)).filter (y - 1 < ·) := by
    rw [List.filter_filter]
    refine List.filter_congr fun z _ => ?_
    by_cases hz : y - 1 < z
    · simp [hz, show x - 1 < z by omega]
    · simp [hz]
  rw [hnarrow, hw, filter_pred_lt_eq_drop (hw ▸ hasc.filter _) hy hy0]

/-- In a strictly ascending list, the members from `lo` on are those up to `hi` followed by those
above it. -/
theorem filter_le_eq_append : ∀ {l : List Nat} {lo hi : Nat}, l.Pairwise (· < ·) → lo ≤ hi →
    l.filter (lo ≤ ·) = l.filter (fun y => lo ≤ y && y ≤ hi) ++ l.filter (hi < ·)
  | [], _, _, _, _ => rfl
  | a :: l, lo, hi, hl, hle => by
    have ih := filter_le_eq_append (List.pairwise_cons.1 hl).2 hle
    by_cases hlo : lo ≤ a
    · by_cases hhi : a ≤ hi
      · simp [hlo, hhi, ih]
      · -- every later member is above `hi` as well
        have hgt : ∀ b ∈ l, a < b := (List.pairwise_cons.1 hl).1
        have hnone : l.filter (fun y => lo ≤ y && y ≤ hi) = [] :=
          List.filter_eq_nil_iff.2 fun b hb => by have := hgt b hb; simp; omega
        have hall : l.filter (lo ≤ ·) = l := List.filter_eq_self.2 fun b hb => by
          have := hgt b hb; simp; omega
        have hall' : l.filter (hi < ·) = l := List.filter_eq_self.2 fun b hb => by
          have := hgt b hb; simp; omega
        simp [hlo, hhi, hnone, hall, hall', Nat.lt_of_not_le hhi]
    · -- below `lo`, so below `hi` too: no filter keeps it
      have hhi : ¬ hi < a := by omega
      simp [hlo, hhi, ih]



section Count

variable {t : Transport σ} {chan : Nat → Option String} {inv : σ → Prop}
  {held : String → List Nat}

/-- **The listings of one channel's window.** Over a faithful origin, take ids above 0, ascending,
all listed from channel `c` and none listed before, such that what `c` holds from the first of
them on is those ids and then others. Each listing covers the next 100 of them, so the walk makes
one listing per 100 ids, rounding up. -/
theorem pagedIds_length_of_window (hf : t.ListsFaithfully inv held) {c : String} :
    ∀ (ids more listed : List Nat) (s : σ), inv s → ids.Pairwise (· < ·) →
      (∀ x ∈ ids, 0 < x ∧ chan x = some c ∧ x ∉ listed) →
      (∀ x ∈ ids.head?, (held c).filter (x - 1 < ·) = ids ++ more) →
      (pagedIds t chan ids listed s).1.length =
        (ids.length + messagePageSize - 1) / messagePageSize
  | [], _, _, _, _, _, _, _ => rfl
  | x :: xs, more, listed, s, hs, hasc, hids, hwin => by
    obtain ⟨hpos, hch, hnew⟩ := hids x List.mem_cons_self
    obtain ⟨hs', hstep⟩ := pagedIds_cons_of_faithful hf hs xs hnew hch
    have hpage : faithfulPage held c x = ((x :: xs) ++ more).take messagePageSize := by
      rw [faithfulPage, hwin x rfl]
    rw [hstep, List.length_cons, hpage]
    by_cases hshort : xs.length < messagePageSize
    · -- the first listing covers every id
      have htake : ((x :: xs) ++ more).take messagePageSize =
          (x :: xs) ++ more.take (messagePageSize - (xs.length + 1)) := by
        rw [List.take_append, List.take_of_length_le (by simp; omega), List.length_cons]
      have hcover : ∀ y ∈ xs, y ∈ listed ++ ((x :: xs) ++ more).take messagePageSize :=
        fun y hy => by rw [htake]; simp [hy]
      have hwalk := pagedIds_append_of_listed t chan xs [] _ (t.listMessages c (x - 1) .after s).2
        hcover
      rw [List.append_nil] at hwalk
      rw [hwalk]
      simp only [pagedIds, List.length_nil, List.length_cons]
      simp only [messagePageSize] at hshort ⊢
      omega
    · -- the first listing covers the first 100 ids, and the walk goes on from the next one
      have htake : ((x :: xs) ++ more).take messagePageSize =
          x :: xs.take (messagePageSize - 1) := by
        rw [List.take_append_of_le_length (by simp; omega)]
        simp [messagePageSize]
      have hxs : (xs.take (messagePageSize - 1) ++ xs.drop (messagePageSize - 1)).Pairwise
          (· < ·) := by
        rw [List.take_append_drop]
        exact (List.pairwise_cons.1 hasc).2
      have hskip : ∀ y ∈ xs.take (messagePageSize - 1),
          y ∈ listed ++ x :: xs.take (messagePageSize - 1) := fun y hy => by simp [hy]
      have hwalk := pagedIds_append_of_listed t chan _ (xs.drop (messagePageSize - 1)) _
        (t.listMessages c (x - 1) .after s).2 hskip
      rw [List.take_append_drop] at hwalk
      -- a later id is above 0, listed from `c`, and on no page yet
      have hids' : ∀ y ∈ xs.drop (messagePageSize - 1), 0 < y ∧ chan y = some c ∧
          y ∉ listed ++ x :: xs.take (messagePageSize - 1) := by
        intro y hy
        have hyxs : y ∈ xs := List.mem_of_mem_drop hy
        obtain ⟨hpos', hch', hnew'⟩ := hids y (List.mem_cons_of_mem _ hyxs)
        have hxy := (List.pairwise_cons.1 hasc).1 y hyxs
        refine ⟨hpos', hch', ?_⟩
        simp only [List.mem_append, List.mem_cons, not_or]
        refine ⟨hnew', by omega, fun hmem => ?_⟩
        have := (List.pairwise_append.1 hxs).2.2 y hmem y hy
        omega
      -- the window from the next id is the rest of the first one
      have hwin' : ∀ y ∈ (xs.drop (messagePageSize - 1)).head?,
          (held c).filter (y - 1 < ·) = xs.drop (messagePageSize - 1) ++ more := by
        intro y hy
        have hy0 : ((x :: xs) ++ more)[messagePageSize]? = some y := by
          rw [List.getElem?_append_left (by simp; omega)]
          simpa [messagePageSize, List.head?_eq_getElem?] using hy
        have hxy := (List.pairwise_cons.1 hasc).1 y (List.mem_of_mem_drop (List.mem_of_mem_head? hy))
        rw [filter_window_drop (hf.ascending c) (hwin x rfl) hy0 (by omega) (by omega),
          List.drop_append_of_le_length (by simp; omega)]
        simp [messagePageSize]
      rw [htake, hwalk, pagedIds_length_of_window hf (xs.drop (messagePageSize - 1)) more
          (listed ++ x :: xs.take (messagePageSize - 1)) _ hs' (List.pairwise_append.1 hxs).2.1
          hids' hwin', List.length_drop, List.length_cons]
      simp only [messagePageSize] at hshort ⊢
      omega
termination_by ids => ids.length
decreasing_by simp only [List.length_drop, List.length_cons]; omega

end Count


/-! ## The listings of every channel -/

/-- The message ids with lapsed records, ascending and each once: the ids a renewal visits. -/
def lapsedIds (nodes : Array Node) (now : Int) : List Nat := (expiredGroups nodes now).map (·.1)

/-- The lapsed ids a renewal lists from channel `c`: those whose first lapsed record names `c`. -/
def channelIds (nodes : Array Node) (now : Int) (c : String) : List Nat :=
  (lapsedIds nodes now).filter (firstChannel nodes now · == some c)

/-- The channels a renewal lists from. -/
def listedChannels (nodes : Array Node) (now : Int) : Finset String :=
  ((lapsedIds nodes now).filterMap (firstChannel nodes now)).toFinset

/-- In every channel, the messages held between the least and the greatest lapsed id listed from
it are exactly those ids. -/
def Packed (held : String → List Nat) (nodes : Array Node) (now : Int) : Prop :=
  ∀ c lo hi, (channelIds nodes now c).head? = some lo →
    (channelIds nodes now c).getLast? = some hi →
    (held c).filter (fun y => lo ≤ y && y ≤ hi) = channelIds nodes now c

theorem length_eq_sum_filter {S : Finset String} :
    ∀ (L : List (String × Nat)), (∀ p ∈ L, p.1 ∈ S) →
      L.length = ∑ c ∈ S, (L.filter (·.1 == c)).length
  | [], _ => by simp
  | p :: L, h => by
    have ih := length_eq_sum_filter L fun q hq => h q (List.mem_cons_of_mem _ hq)
    have hsplit : ∀ c, ((p :: L).filter (·.1 == c)).length =
        (L.filter (·.1 == c)).length + if p.1 = c then 1 else 0 := by
      intro c
      by_cases hc : p.1 = c <;> simp [hc]
    rw [Finset.sum_congr rfl fun c _ => hsplit c, Finset.sum_add_distrib, ← ih,
      Finset.sum_ite_eq, if_pos (h p List.mem_cons_self), List.length_cons]

theorem head_le_getLast {l : List Nat} (hl : l.Pairwise (· < ·)) {lo hi : Nat}
    (hlo : l.head? = some lo) (hhi : l.getLast? = some hi) : lo ≤ hi := by
  cases l with
  | nil => cases hlo
  | cons a l =>
    obtain rfl : a = lo := by simpa using hlo
    rcases List.mem_cons.1 (List.mem_of_getLast? hhi) with rfl | hmem
    · exact le_rfl
    · exact ((List.pairwise_cons.1 hl).1 hi hmem).le

section Count

variable {t : Transport σ} {inv : σ → Prop} {held : String → List Nat} {nodes : Array Node}
  {now : Int}

/-- Where the ids listed from `c` are packed, what `c` holds from the first of them on is those
ids and then greater ones. -/
theorem Packed.window (hf : t.ListsFaithfully inv held) (hpack : Packed held nodes now)
    (hpos : ∀ id ∈ lapsedIds nodes now, 0 < id) (c : String) :
    ∀ lo ∈ (channelIds nodes now c).head?, (held c).filter (lo - 1 < ·) =
      channelIds nodes now c ++ (held c).filter (((channelIds nodes now c).getLast?.getD 0) < ·) := by
  intro lo hlo
  have hasc : (channelIds nodes now c).Pairwise (· < ·) := (lapsedIds_ascending nodes now).filter _
  obtain ⟨hi, hhi⟩ : ∃ hi, (channelIds nodes now c).getLast? = some hi := by
    cases h : (channelIds nodes now c).getLast? with
    | none => simp_all [List.getLast?_eq_none_iff]
    | some hi => exact ⟨hi, rfl⟩
  have hlo0 : 0 < lo := hpos lo (List.mem_of_mem_filter (List.mem_of_mem_head? hlo))
  have hfrom : (held c).filter (lo - 1 < ·) = (held c).filter (lo ≤ ·) :=
    List.filter_congr fun y _ => by simp only [decide_eq_decide]; omega
  rw [hfrom, filter_le_eq_append (hf.ascending c) (head_le_getLast hasc hlo hhi),
    hpack c lo hi hlo hhi, hhi, Option.getD_some]

/-- **The count over a faithful origin.** When each lapsed id has a channel, is above 0 and is
held by no channel but the one it is listed from, and every channel packs its lapsed ids, the
walk lists each channel once per 100 of its lapsed ids, rounding up. -/
theorem pagedIds_length_eq_sum (hf : t.ListsFaithfully inv held) {s : σ} (hs : inv s)
    (hch : ∀ id ∈ lapsedIds nodes now, (firstChannel nodes now id).isSome)
    (hpos : ∀ id ∈ lapsedIds nodes now, 0 < id)
    (hhome : ∀ id ∈ lapsedIds nodes now, ∀ c, id ∈ held c → firstChannel nodes now id = some c)
    (hpack : Packed held nodes now) :
    (pagedIds t (firstChannel nodes now) (lapsedIds nodes now) [] s).1.length =
      ∑ c ∈ listedChannels nodes now,
        ((channelIds nodes now c).length + messagePageSize - 1) / messagePageSize := by
  -- a listing of another channel returns no id listed from `c`
  have hsep : ∀ x ∈ lapsedIds nodes now, ∀ ch, firstChannel nodes now x = some ch →
      ∀ y ∈ lapsedIds nodes now, y ∈ faithfulPage held ch x → firstChannel nodes now y = some ch :=
    fun x _ ch _ y hy hpage =>
      hhome y hy ch (List.mem_of_mem_filter (List.mem_of_mem_take hpage))
  rw [length_eq_sum_filter _ fun p hp => ?_]
  · refine Finset.sum_congr rfl fun c _ => ?_
    rw [pagedIds_filter_channel hf c _ [] s hs hch hsep]
    refine pagedIds_length_of_window hf _ _ [] s hs ((lapsedIds_ascending nodes now).filter _)
      (fun x hx => ⟨hpos x (List.mem_of_mem_filter hx), ?_, List.not_mem_nil⟩)
      (Packed.window hf hpack hpos c)
    simpa using (List.mem_filter.1 hx).2
  · obtain ⟨hmem, hchp⟩ := mem_pagedIds t _ _ [] s p hp
    simp only [listedChannels, List.mem_toFinset, List.mem_filterMap]
    exact ⟨p.2, hmem, hchp⟩

end Count


/-- A lapsed id is the id of a lapsed record, the first of which names the channel it is listed
from. -/
theorem firstChannel_of_mem_lapsedIds {nodes : Array Node} {now : Int} {id : Nat}
    (h : id ∈ lapsedIds nodes now) :
    ∃ n ∈ nodes, n.isExpiredAt now = true ∧ n.messageId = id ∧
      firstChannel nodes now id = n.channelId := by
  obtain ⟨⟨id', idx⟩, hmem, rfl⟩ := List.mem_map.1 h
  obtain ⟨n, hn, hexp, rfl⟩ := (of_mem_expiredGroups hmem).1
  obtain ⟨m, hfind⟩ : ∃ m, nodes.toList.find?
      (fun k => k.isExpiredAt now && k.messageId == n.messageId) = some m :=
    Option.isSome_iff_exists.1 (List.find?_isSome.2 ⟨n, Array.mem_toList_iff.2 hn, by simp [hexp]⟩)
  have hm := List.find?_some hfind
  simp only [Bool.and_eq_true, beq_iff_eq] at hm
  exact ⟨m, Array.mem_toList_iff.1 (List.mem_of_find?_eq_some hfind), hm.1, hm.2,
    by simp [firstChannel, hfind]⟩


/-- The ids a renewal visits are the message ids of the lapsed records, ascending: a strictly
ascending list of exactly those ids is the list it visits. -/
theorem lapsedIds_eq_of_mem_iff {nodes : Array Node} {now : Int} {ids : List Nat}
    (hasc : ids.Pairwise (· < ·))
    (hmem : ∀ id, id ∈ ids ↔ ∃ n ∈ nodes, n.isExpiredAt now = true ∧ n.messageId = id) :
    lapsedIds nodes now = ids := by
  have hvisit : ∀ id, id ∈ lapsedIds nodes now ↔ id ∈ ids := by
    intro id
    rw [hmem]
    constructor
    · intro h
      obtain ⟨⟨id', idx⟩, hg, rfl⟩ := List.mem_map.1 h
      exact (of_mem_expiredGroups hg).1
    · rintro ⟨n, hn, hexp, rfl⟩
      obtain ⟨idx, hg⟩ := exists_mem_expiredGroups hn hexp
      exact List.mem_map.2 ⟨_, hg, rfl⟩
  exact (lapsedIds_ascending nodes now).eq_of_mem_iff hasc hvisit

theorem listedChannels_eq_singleton {nodes : Array Node} {now : Int} {c : String}
    (hfc : ∀ id ∈ lapsedIds nodes now, firstChannel nodes now id = some c)
    (hne : lapsedIds nodes now ≠ []) : listedChannels nodes now = {c} := by
  ext c'
  simp only [listedChannels, List.mem_toFinset, List.mem_filterMap, Finset.mem_singleton]
  constructor
  · rintro ⟨id, hid, hch⟩
    rw [hfc id hid, Option.some_inj] at hch
    exact hch.symm
  · rintro rfl
    obtain ⟨id, hid⟩ := List.exists_mem_of_ne_nil _ hne
    exact ⟨id, hid, hfc id hid⟩

theorem channelIds_eq_of_forall {nodes : Array Node} {now : Int} {c : String}
    (hfc : ∀ id ∈ lapsedIds nodes now, firstChannel nodes now id = some c) (c' : String) :
    channelIds nodes now c' = if c' = c then lapsedIds nodes now else [] := by
  unfold channelIds
  split
  · subst c'
    exact List.filter_eq_self.2 fun id hid => by simp [hfc id hid]
  · next hne =>
    refine List.filter_eq_nil_iff.2 fun id hid h => hne ?_
    rw [hfc id hid] at h
    exact (by simpa using h : c = c').symm

/-- **A renewal lists once per message id that no earlier page returned.** Against an origin
whose listed links are signed, the listings a renewal asks for are the walk's: one for each
lapsed message id, ascending, that no page returned before, from the channel its first lapsed
record names, after the id less one (0 for 0), stopping after a failed listing or at a record
that names no channel. Against an origin that lists faithfully, when every lapsed record names a
channel and a message above 0, each lapsed id is held by no channel but the one it is listed
from, and every channel holds between its least and greatest lapsed id exactly those lapsed ids,
a channel with `k` lapsed ids is listed `⌈k / 100⌉` times. -/
theorem refresh_lists_once_per_unlisted_id (t : Transport σ) (inv : σ → Prop)
    (hsign : t.SignsListings inv) (nodes : Array Node) (now : Int) (s : σ) (hs : inv s) :
    (refreshExpired t.logLists nodes now (s, [])).2.2.2 =
        (pagedIds t (firstChannel nodes now) (lapsedIds nodes now) [] s).1.map
          (fun c => (c.1, c.2 - 1, .after)) ∧
      ∀ held, t.ListsFaithfully inv held →
        (∀ n ∈ nodes, n.isExpiredAt now = true → n.channelId.isSome = true) →
        (∀ n ∈ nodes, n.isExpiredAt now = true → 0 < n.messageId) →
        (∀ id ∈ lapsedIds nodes now, ∀ c, id ∈ held c → firstChannel nodes now id = some c) →
        Packed held nodes now →
        (refreshExpired t.logLists nodes now (s, [])).2.2.2.length =
          ∑ c ∈ listedChannels nodes now,
            ((channelIds nodes now c).length + messagePageSize - 1) / messagePageSize := by
  have hlog : (refreshExpired t.logLists nodes now (s, [])).2.2.2 =
      (pagedIds t (firstChannel nodes now) (lapsedIds nodes now) [] s).1.map
        (fun c => (c.1, c.2 - 1, .after)) :=
    refreshExpired_logLists hsign hs []
  refine ⟨hlog, fun held hf hch hpos hhome hpack => ?_⟩
  -- the conditions on records, read on the lapsed ids
  have hch' : ∀ id ∈ lapsedIds nodes now, (firstChannel nodes now id).isSome := by
    intro id hid
    obtain ⟨n, hn, hexp, -, hfirst⟩ := firstChannel_of_mem_lapsedIds hid
    rw [hfirst]
    exact hch n hn hexp
  have hpos' : ∀ id ∈ lapsedIds nodes now, 0 < id := by
    intro id hid
    obtain ⟨n, hn, hexp, rfl, -⟩ := firstChannel_of_mem_lapsedIds hid
    exact hpos n hn hexp
  rw [hlog, List.length_map, pagedIds_length_eq_sum hf hs hch' hpos' hhome hpack]

/-- Two lapsed records of messages 5 and 6, both held in channel 2. -/
def pagedSample : Array Node := #[lapsedRecord "2" 5, lapsedRecord "2" 6]

/-- Channel 2 packs the two lapsed ids of the sample, and one listing renews both. -/
theorem refresh_lists_sample_once :
    Packed sampleHeld pagedSample 500 ∧
      (refreshExpired (heldOrigin sampleHeld sampleLink).logLists pagedSample 500
        ((), [])).2.2.2.length = 1 := by
  have hlapsed : lapsedIds pagedSample 500 = [5, 6] := by
    simp only [lapsedIds, expiredGroups]
    rw [List.mergeSort_of_pairwise] <;> decide +kernel
  have hfc : ∀ id ∈ lapsedIds pagedSample 500, firstChannel pagedSample 500 id = some "2" := by
    rw [hlapsed]
    intro id hid
    rcases List.mem_pair.1 hid with rfl | rfl <;> decide +kernel
  have hpack : Packed sampleHeld pagedSample 500 := by
    intro c lo hi hlo hhi
    rw [channelIds_eq_of_forall hfc] at hlo hhi ⊢
    split at hlo
    · rw [if_pos ‹_›] at hhi ⊢
      rw [hlapsed] at hlo hhi ⊢
      obtain rfl : c = "2" := ‹_›
      simp only [List.head?_cons, List.getLast?_cons_cons, List.getLast?_singleton,
        Option.some.injEq] at hlo hhi
      subst hlo hhi
      decide
    · cases hlo
  have hrecords : ∀ n ∈ pagedSample, n = lapsedRecord "2" 5 ∨ n = lapsedRecord "2" 6 := by
    intro n hn
    simpa [pagedSample] using hn
  have hcount := (refresh_lists_once_per_unlisted_id (heldOrigin sampleHeld sampleLink)
    (fun _ => True) sampleOrigin_listsFaithfully.signsListings pagedSample 500 () trivial).2
    sampleHeld sampleOrigin_listsFaithfully
    (fun n hn _ => by rcases hrecords n hn with rfl | rfl <;> decide +kernel)
    (fun n hn _ => by rcases hrecords n hn with rfl | rfl <;> decide)
    (fun id hid c hc => by
      -- messages 5 and 6 are held in channel 2 only
      have hc2 : c = "2" := by
        rw [hlapsed] at hid
        by_cases h2 : c = "2"
        · exact h2
        · rcases List.mem_pair.1 hid with rfl | rfl <;>
            by_cases h7 : c = "7" <;> simp [sampleHeld, h2, h7] at hc
      rw [hc2]
      exact hfc id hid)
    hpack
  refine ⟨hpack, hcount.trans ?_⟩
  rw [listedChannels_eq_singleton hfc (by simp [hlapsed]), Finset.sum_singleton,
    channelIds_eq_of_forall hfc, if_pos rfl, hlapsed]
  rfl

/-- Channel 1 holds messages 1 and 5, and channel 2 holds message 5 as well. -/
def sharedHeld (ch : String) : List Nat :=
  if ch = "1" then [1, 5] else if ch = "2" then [5] else []

/-- Lapsed records of message 1 in channel 1 and of message 5 in channel 2. -/
def sharedSample : Array Node := #[lapsedRecord "1" 1, lapsedRecord "2" 5]

/-- Where channel 1 also holds message 5, its listing for message 1 returns message 5, and
channel 2 is never listed: one listing for two packed channels. -/
theorem refresh_lists_shared_id_once :
    (heldOrigin sharedHeld sampleLink).ListsFaithfully (fun _ => True) sharedHeld ∧
      (∀ n ∈ sharedSample, n.channelId.isSome = true) ∧ Packed sharedHeld sharedSample 500 ∧
      (refreshExpired (heldOrigin sharedHeld sampleLink).logLists sharedSample 500
        ((), [])).2.2.2.length = 1 ∧
      ∑ c ∈ listedChannels sharedSample 500,
        ((channelIds sharedSample 500 c).length + messagePageSize - 1) / messagePageSize = 2 := by
  have hlapsed : lapsedIds sharedSample 500 = [1, 5] := by
    refine lapsedIds_eq_of_mem_iff (by decide) fun id => ?_
    simp only [sharedSample, List.mem_toArray, List.mem_cons, List.not_mem_nil, or_false]
    constructor
    · rintro (rfl | rfl)
      · exact ⟨_, .inl rfl, rfl, rfl⟩
      · exact ⟨_, .inr rfl, rfl, rfl⟩
    · rintro ⟨n, rfl | rfl, -, rfl⟩
      · exact .inl rfl
      · exact .inr rfl
  have h1 : firstChannel sharedSample 500 1 = some "1" := by decide +kernel
  have h5 : firstChannel sharedSample 500 5 = some "2" := by decide +kernel
  have hfaith : (heldOrigin sharedHeld sampleLink).ListsFaithfully (fun _ => True) sharedHeld := by
    refine heldOrigin_listsFaithfully (fun ch => ?_) (fun ch id hid => ?_)
    · unfold sharedHeld
      split
      · decide
      · split <;> simp
    · unfold sharedHeld at hid
      split at hid
      · subst ch
        rcases List.mem_pair.1 hid with rfl | rfl <;> decide +kernel
      · split at hid
        · subst ch
          obtain rfl : id = 5 := by simpa using hid
          decide +kernel
        · cases hid
  have hids : ∀ c, channelIds sharedSample 500 c =
      if c = "1" then [1] else if c = "2" then [5] else [] := by
    intro c
    simp only [channelIds, hlapsed, List.filter_cons, h1, h5, List.filter_nil]
    by_cases c1 : c = "1"
    · subst c1
      simp
    · by_cases c2 : c = "2"
      · subst c2
        simp
      · have n1 : ¬"1" = c := fun h => c1 h.symm
        have n2 : ¬"2" = c := fun h => c2 h.symm
        simp [c1, c2, n1, n2]
  refine ⟨hfaith, fun n hn => ?_, fun c lo hi hlo hhi => ?_, ?_, ?_⟩
  · rcases (by simpa [sharedSample] using hn : n = lapsedRecord "1" 1 ∨ n = lapsedRecord "2" 5)
      with rfl | rfl <;> decide +kernel
  · rw [hids] at hlo hhi ⊢
    by_cases c1 : c = "1"
    · subst c1
      simp only [if_true, List.head?_cons, List.getLast?_singleton, Option.some.injEq] at hlo hhi
      subst hlo hhi
      decide
    · by_cases c2 : c = "2"
      · subst c2
        simp only [if_neg c1, if_true, List.head?_cons, List.getLast?_singleton,
          Option.some.injEq] at hlo hhi
        subst hlo hhi
        decide
      · simp [c1, c2] at hlo
  · rw [refreshExpired_logLists hfaith.signsListings trivial [], List.nil_append,
      List.length_map, show (expiredGroups sharedSample 500).map (·.1) = [1, 5] from hlapsed]
    decide +kernel
  · have hchannels : listedChannels sharedSample 500 = {"1", "2"} := by
      simp [listedChannels, hlapsed, h1, h5]
    rw [hchannels, Finset.sum_pair (by decide), hids, hids]
    rfl

/-- Channel 7 holds messages 0 to 100. -/
def zeroHeld (ch : String) : List Nat := if ch = "7" then List.range 101 else []

/-- A lapsed record of message `id` at the link of message 0 of channel 7. -/
def zeroRecord (id : Nat) : Node := { lapsedRecord "7" 0 with messageId := id }

/-- Lapsed records of messages 0 to 100, all in channel 7. -/
def zeroSample : Array Node := ((List.range 101).map zeroRecord).toArray

/-- The listing for message 0 is made after 0 and returns messages 1 to 100, so the 101 lapsed
ids of channel 7 are listed once. -/
theorem refresh_lists_zero_once :
    (heldOrigin zeroHeld fun _ _ => sampleLink "7" 0).ListsFaithfully (fun _ => True) zeroHeld ∧
      (∀ n ∈ zeroSample, n.channelId.isSome = true) ∧ Packed zeroHeld zeroSample 500 ∧
      (refreshExpired (heldOrigin zeroHeld fun _ _ => sampleLink "7" 0).logLists zeroSample 500
        ((), [])).2.2.2.length = 1 ∧
      ∑ c ∈ listedChannels zeroSample 500,
        ((channelIds zeroSample 500 c).length + messagePageSize - 1) / messagePageSize = 2 := by
  have hlapsed : lapsedIds zeroSample 500 = List.range 101 := by
    refine lapsedIds_eq_of_mem_iff List.pairwise_lt_range fun id => ?_
    simp only [List.mem_range, zeroSample, List.mem_toArray, List.mem_map]
    constructor
    · intro h
      exact ⟨zeroRecord id, ⟨id, h, rfl⟩, rfl, rfl⟩
    · rintro ⟨n, ⟨id', h', rfl⟩, -, rfl⟩
      exact h'
  -- every record is at the link of message 0, in channel 7
  have hurl : ∀ n ∈ zeroSample, n.channelId = some "7" := by
    intro n hn
    obtain ⟨id, -, rfl⟩ : ∃ id, id < 101 ∧ zeroRecord id = n := by simpa [zeroSample] using hn
    exact (by decide +kernel : (lapsedRecord "7" 0).channelId = some "7")
  have hfc : ∀ id ∈ lapsedIds zeroSample 500, firstChannel zeroSample 500 id = some "7" := by
    intro id hid
    obtain ⟨n, hn, -, -, hfirst⟩ := firstChannel_of_mem_lapsedIds hid
    rw [hfirst, hurl n hn]
  have hfaith : (heldOrigin zeroHeld fun _ _ => sampleLink "7" 0).ListsFaithfully
      (fun _ => True) zeroHeld := by
    refine heldOrigin_listsFaithfully (fun ch => ?_) (fun _ _ _ => by decide +kernel)
    unfold zeroHeld
    split
    · exact List.pairwise_lt_range
    · simp
  refine ⟨hfaith, fun n hn => by rw [hurl n hn]; rfl, fun c lo hi hlo hhi => ?_, ?_, ?_⟩
  · rw [channelIds_eq_of_forall hfc] at hlo hhi ⊢
    split at hlo
    · rw [if_pos ‹_›] at hhi ⊢
      rw [hlapsed] at hlo hhi ⊢
      obtain rfl : c = "7" := ‹_›
      obtain rfl : lo = 0 := Option.some_inj.1 (hlo.symm.trans (by decide))
      obtain rfl : hi = 100 := (by simpa [List.getLast?_range] using hhi : 100 = hi).symm
      decide
    · cases hlo
  · rw [refreshExpired_logLists hfaith.signsListings trivial [], List.nil_append,
      List.length_map, show (expiredGroups zeroSample 500).map (·.1) = List.range 101 from hlapsed]
    decide +kernel
  · rw [listedChannels_eq_singleton hfc (by simp [hlapsed]), Finset.sum_singleton,
      channelIds_eq_of_forall hfc, if_pos rfl, hlapsed]
    rfl

/-- **The count fails for a message id held in two channels and for message 0.** Both samples
list faithfully, every lapsed record names a channel, and every channel packs its lapsed ids,
yet each renewal lists once where the count of pages is two. -/
theorem refresh_lists_fewer_than_pages :
    ((heldOrigin sharedHeld sampleLink).ListsFaithfully (fun _ => True) sharedHeld ∧
      (∀ n ∈ sharedSample, n.channelId.isSome = true) ∧ Packed sharedHeld sharedSample 500 ∧
      (refreshExpired (heldOrigin sharedHeld sampleLink).logLists sharedSample 500
        ((), [])).2.2.2.length = 1 ∧
      ∑ c ∈ listedChannels sharedSample 500,
        ((channelIds sharedSample 500 c).length + messagePageSize - 1) / messagePageSize = 2) ∧
    ((heldOrigin zeroHeld fun _ _ => sampleLink "7" 0).ListsFaithfully (fun _ => True) zeroHeld ∧
      (∀ n ∈ zeroSample, n.channelId.isSome = true) ∧ Packed zeroHeld zeroSample 500 ∧
      (refreshExpired (heldOrigin zeroHeld fun _ _ => sampleLink "7" 0).logLists zeroSample 500
        ((), [])).2.2.2.length = 1 ∧
      ∑ c ∈ listedChannels zeroSample 500,
        ((channelIds zeroSample 500 c).length + messagePageSize - 1) / messagePageSize = 2) :=
  ⟨refresh_lists_shared_id_once, refresh_lists_zero_once⟩

end ChunkStore
