import ChunkStore.Storage.Refresh
/-!
# Renewing lapsed signatures

What `refreshExpired` leaves is a function of the messages its listings returned, in the order
they were listed. A record whose signature still holds stays as it is. A lapsed record of
message `id` takes the link of the first attachment of the first listed message with id `id`,
when that message has an attachment, and stays as it is otherwise (`renewNode`). Nothing else
of a record changes, each record is renewed at most once, and the count returned is the number
of records renewed. A listing that fails stops the renewal with a `refresh` error naming the
message whose listing failed; the records keep what the earlier listings gave them.

The proof follows the two loops of the code. `Tracks` relates a renewal in progress to the
messages processed so far. One listed message extends it (`Tracks.skip`,
`Tracks.first_without_link`, `Tracks.first_with_link`), so one page does (`Tracks.listedPage`),
and the visit of one message group does, with one listing (`renewGroups_cases`). `Listings`
records the listings a run made, with the origin's state between them.
-/

namespace ChunkStore

variable {σ : Type}

/-- The listings made from origin state `s`: each listed a channel after an anchor and got a
page, and the last left the origin at `s'`. -/
inductive Listings (t : Transport σ) : σ → List (String × Nat × List Message) → σ → Prop
  | nil (s : σ) : Listings t s [] s
  | cons {s s₁ s' : σ} {ch : String} {a : Nat} {page : List Message}
      {rest : List (String × Nat × List Message)} :
      t.listMessages ch a .after s = (.ok page, s₁) → Listings t s₁ rest s' →
      Listings t s ((ch, a, page) :: rest) s'

/-- The messages that listings returned, page after page. -/
def listedMessages (listed : List (String × Nat × List Message)) : List Message :=
  (listed.map (·.2.2)).flatten

/-- The link that the listed messages `msgs` give the records of message `id`: the first
attachment of the first listed message with that id, read as a signed link. -/
def renewedBy (msgs : List Message) (id : Nat) : Option SignedUrl :=
  (msgs.find? (·.id == id)).bind fun m =>
    m.firstAttachment.bind fun a => (SignedUrl.fromOrigin a.url).toOption

/-- A record after renewing from the listed messages `msgs`: a lapsed record takes the link they
give its message, if any; every other record stays. -/
def renewNode (msgs : List Message) (now : Int) (n : Node) : Node :=
  if n.isExpiredAt now then ((renewedBy msgs n.messageId).map n.applySigned).getD n else n

/-- Whether the listed messages `msgs` renew the record. -/
def renews (msgs : List Message) (now : Int) (n : Node) : Bool :=
  n.isExpiredAt now && (renewedBy msgs n.messageId).isSome

/-! ## The link a message gets -/

section Links

variable {seen : List Message} {m : Message} {id : Nat}

theorem find?_id_eq_none (h : ∀ m' ∈ seen, m'.id ≠ id) : seen.find? (·.id == id) = none := by
  rw [List.find?_eq_none]
  intro m' hm'
  simpa using h m' hm'

theorem find?_id_eq_some (h : ∃ m' ∈ seen, m'.id = id) :
    ∃ m', seen.find? (·.id == id) = some m' := by
  obtain ⟨m', hm', hid⟩ := h
  exact Option.isSome_iff_exists.1 (List.find?_isSome.2 ⟨m', hm', by simpa using hid⟩)

theorem renewedBy_eq_none (h : ∀ m' ∈ seen, m'.id ≠ id) : renewedBy seen id = none := by
  simp [renewedBy, find?_id_eq_none h]

theorem exists_of_renewedBy_isSome (h : (renewedBy seen id).isSome = true) :
    ∃ m ∈ seen, m.id = id := by
  cases hfind : seen.find? (·.id == id) with
  | none => simp [renewedBy, hfind] at h
  | some m => exact ⟨m, List.mem_of_find?_eq_some hfind, by simpa using List.find?_some hfind⟩

theorem renewedBy_append_of_seen (h : ∃ m' ∈ seen, m'.id = id) :
    renewedBy (seen ++ [m]) id = renewedBy seen id := by
  obtain ⟨m', hfind⟩ := find?_id_eq_some h
  simp [renewedBy, List.find?_append, hfind]

theorem renewedBy_append_of_ne (h : m.id ≠ id) :
    renewedBy (seen ++ [m]) id = renewedBy seen id := by
  have hm : [m].find? (·.id == id) = none := by simpa using h
  simp only [renewedBy, List.find?_append, hm, Option.or_none]

theorem renewedBy_append_new (h : ∀ m' ∈ seen, m'.id ≠ m.id) :
    renewedBy (seen ++ [m]) m.id =
      m.firstAttachment.bind fun a => (SignedUrl.fromOrigin a.url).toOption := by
  simp [renewedBy, List.find?_append, find?_id_eq_none h]

theorem renewNode_of_not_expired {msgs : List Message} {now : Int} {n : Node}
    (h : n.isExpiredAt now = false) : renewNode msgs now n = n := by
  simp [renewNode, h]

theorem renewNode_of_renewedBy_none {msgs : List Message} {now : Int} {n : Node}
    (h : renewedBy msgs n.messageId = none) : renewNode msgs now n = n := by
  simp [renewNode, h]

theorem renewNode_size_messageId (msgs : List Message) (now : Int) (n : Node) :
    (renewNode msgs now n).size = n.size ∧ (renewNode msgs now n).messageId = n.messageId := by
  unfold renewNode
  split
  · cases renewedBy msgs n.messageId <;> simp [Node.applySigned]
  · exact ⟨rfl, rfl⟩

theorem renewNode_expiresAt {msgs : List Message} {now : Int} {n : Node} {sig : SignedUrl}
    (h : renewedBy msgs n.messageId = some sig) (hn : n.isExpiredAt now = true) :
    renewNode msgs now n = n.applySigned sig := by
  simp [renewNode, h, hn]

theorem renewNode_append_of_ne {now : Int} {n : Node} (h : m.id ≠ n.messageId) :
    renewNode (seen ++ [m]) now n = renewNode seen now n := by
  simp only [renewNode, renewedBy_append_of_ne h]

end Links

/-! ## The lapsed records of a message -/

section Groups

variable {nodes : Array Node} {now : Int} {id : Nat} {idx : List Nat}

theorem length_filter_range_getElem? {α : Type} (q : Option α → Bool) :
    ∀ l : List α, ((List.range l.length).filter fun i => q l[i]?).length =
      l.countP fun a => q (some a)
  | [] => rfl
  | a :: l => by
    rw [List.length_cons, List.range_succ_eq_map, List.filter_cons, List.filter_map,
      List.countP_cons]
    have ih := length_filter_range_getElem? q l
    simp only [Function.comp_def, Nat.succ_eq_add_one, List.getElem?_cons_succ,
      List.getElem?_cons_zero] at ih ⊢
    split <;> simp [ih, Nat.add_comm]

/-- A group is a message with lapsed records, with the indices of its lapsed records. -/
theorem of_mem_expiredGroups (h : (id, idx) ∈ expiredGroups nodes now) :
    (∃ n ∈ nodes, n.isExpiredAt now ∧ n.messageId = id) ∧
      ∀ j, j ∈ idx ↔ ∃ n, nodes[j]? = some n ∧ n.isExpiredAt now ∧ n.messageId = id := by
  simp only [expiredGroups, List.mem_map, Prod.mk.injEq] at h
  obtain ⟨id', hid', rfl, rfl⟩ := h
  rw [List.mem_eraseDups, List.mem_mergeSort, List.mem_filterMap] at hid'
  obtain ⟨i, hi, hmid⟩ := hid'
  simp only [List.mem_filter, List.mem_range] at hi ⊢
  refine ⟨?_, fun j => ?_⟩
  · obtain ⟨hlt, hexp⟩ := hi
    rw [Array.getElem?_eq_getElem hlt] at hmid hexp
    exact ⟨nodes[i], Array.getElem_mem hlt, hexp, by simpa using hmid⟩
  · -- the index holds a record or nothing; only a record can be lapsed
    cases hj : nodes[j]? with
    | none => simp
    | some n =>
      have hlt : j < nodes.size := (Array.getElem?_eq_some_iff.1 hj).1
      simp [hlt]

theorem exists_mem_expiredGroups {n : Node} (hn : n ∈ nodes) (hexp : n.isExpiredAt now = true) :
    ∃ idx, (n.messageId, idx) ∈ expiredGroups nodes now := by
  obtain ⟨i, hi⟩ := Array.mem_iff_getElem?.1 hn
  have hlt : i < nodes.size := (Array.getElem?_eq_some_iff.1 hi).1
  refine ⟨_, List.mem_map.2 ⟨n.messageId, ?_, rfl⟩⟩
  rw [List.mem_eraseDups, List.mem_mergeSort, List.mem_filterMap]
  exact ⟨i, List.mem_filter.2 ⟨List.mem_range.2 hlt, by simp [hi, hexp]⟩, by simp [hi]⟩

/-- Looking a message up among the groups finds its group, or tells that it has no lapsed
record. -/
theorem find?_expiredGroups (id : Nat) :
    ((expiredGroups nodes now).find? (·.1 == id) = none ∧
        ∀ n ∈ nodes, n.isExpiredAt now = true → n.messageId ≠ id) ∨
      ∃ idx, (expiredGroups nodes now).find? (·.1 == id) = some (id, idx) ∧
        (id, idx) ∈ expiredGroups nodes now := by
  cases hfind : (expiredGroups nodes now).find? (·.1 == id) with
  | none =>
    refine .inl ⟨rfl, fun n hn hexp hid => ?_⟩
    obtain ⟨idx, hmem⟩ := exists_mem_expiredGroups hn hexp
    exact absurd (List.find?_eq_none.1 hfind _ hmem) (by simp [hid])
  | some p =>
    obtain ⟨id', idx⟩ := p
    have hid : id' = id := by simpa using List.find?_some hfind
    subst hid
    exact .inr ⟨idx, rfl, List.mem_of_find?_eq_some hfind⟩

theorem length_of_mem_expiredGroups (h : (id, idx) ∈ expiredGroups nodes now) :
    idx.length = nodes.toList.countP fun n => n.isExpiredAt now && n.messageId == id := by
  simp only [expiredGroups, List.mem_map, Prod.mk.injEq] at h
  obtain ⟨id', -, rfl, rfl⟩ := h
  have key := length_filter_range_getElem?
    (fun o : Option Node => o.any fun n => n.isExpiredAt now && n.messageId == id') nodes.toList
  simp only [Option.any_some, Array.length_toList, Array.getElem?_toList] at key
  rw [← key, List.filter_filter]
  congr 1
  apply List.filter_congr
  intro i _
  cases nodes[i]? <;> simp [Bool.and_comm]

end Groups


/-! ## Renewing the records of a group -/

theorem Node.applySigned_applySigned (n : Node) (signed : SignedUrl) :
    (n.applySigned signed).applySigned signed = n.applySigned signed := rfl

/-- Renewing the records at `idx` gives each of them the link, once however often it is
listed, and leaves every other index as it was. -/
theorem getElem?_renewRecords (signed : SignedUrl) :
    ∀ (idx : List Nat) (ns : Array Node) (j : Nat), (renewRecords signed idx ns)[j]? =
      if j ∈ idx then ns[j]?.map (·.applySigned signed) else ns[j]?
  | [], ns, j => by simp [renewRecords]
  | i :: idx, ns, j => by
    show (renewRecords signed idx _)[j]? = _
    rw [getElem?_renewRecords signed idx]
    cases hi : ns[i]? with
    | none =>
      -- nothing is stored at `i`, so nothing is renewed there
      by_cases hij : i = j
      · subst hij
        simp [hi]
      · simp [hi, Ne.symm hij]
    | some n =>
      have hlt : i < ns.size := (Array.getElem?_eq_some_iff.1 hi).1
      by_cases hij : i = j
      · subst hij
        simp [Array.set!_eq_setIfInBounds, hlt, Node.applySigned_applySigned]
      · simp [hi, Array.set!_eq_setIfInBounds, hij, Ne.symm hij]

theorem countP_eq_add_of_or {α : Type} {p q r : α → Bool} :
    ∀ l : List α, (∀ a ∈ l, r a = (p a || q a)) → (∀ a ∈ l, p a = true → q a = false) →
      l.countP r = l.countP p + l.countP q
  | [], _, _ => rfl
  | a :: l, hr, hpq => by
    have ih := countP_eq_add_of_or l (fun b hb => hr b (List.mem_cons_of_mem a hb))
      (fun b hb => hpq b (List.mem_cons_of_mem a hb))
    have ha := hr a List.mem_cons_self
    have hpa := hpq a List.mem_cons_self
    simp only [List.countP_cons, ih, ha]
    cases hp : p a <;> cases hq : q a <;> simp_all <;> omega

/-! ## A renewal in progress -/

/-- A renewal that has processed the listed messages `seen`: its records are what `seen` makes
of them, its count is of the records `seen` renews, and the messages it marks renewed are the
messages of lapsed records that `seen` lists. -/
structure Tracks (nodes : Array Node) (now : Int) (seen : List Message) (r : Renewal) :
    Prop where
  records : r.nodes = nodes.map (renewNode seen now)
  count : r.rewritten = nodes.toList.countP (renews seen now)
  marked : ∀ id, id ∈ r.renewed ↔
    (∃ n ∈ nodes, n.isExpiredAt now ∧ n.messageId = id) ∧ ∃ m ∈ seen, m.id = id

section Tracks

variable {nodes : Array Node} {now : Int} {seen : List Message} {r : Renewal} {m : Message}

theorem tracks_start (nodes : Array Node) (now : Int) : Tracks nodes now [] { nodes } := by
  have hnone : ∀ id, renewedBy [] id = none := fun id => renewedBy_eq_none (by simp)
  refine ⟨?_, ?_, by simp⟩
  · exact (Array.map_id'' (fun n => renewNode_of_renewedBy_none (hnone _)) nodes).symm
  · exact (List.countP_eq_zero.2 fun n _ => by simp [renews, hnone]).symm

/-- Records whose links the new message leaves as they were are renewed as before. -/
theorem Tracks.of_links (h : Tracks nodes now seen r) {r' : Renewal}
    (hlink : ∀ n ∈ nodes, n.isExpiredAt now = true →
      renewedBy (seen ++ [m]) n.messageId = renewedBy seen n.messageId)
    (hnodes : r'.nodes = r.nodes) (hcount : r'.rewritten = r.rewritten)
    (hrenewed : ∀ id, id ∈ r'.renewed ↔
      (∃ n ∈ nodes, n.isExpiredAt now ∧ n.messageId = id) ∧ ∃ m' ∈ seen ++ [m], m'.id = id) :
    Tracks nodes now (seen ++ [m]) r' := by
  refine ⟨?_, ?_, hrenewed⟩
  · rw [hnodes, h.records]
    apply Array.map_congr_left
    intro n hn
    unfold renewNode
    split
    · next hexp => rw [hlink n hn hexp]
    · rfl
  · rw [hcount, h.count]
    apply List.countP_congr
    intro n hn
    unfold renews
    cases hexp : n.isExpiredAt now
    · simp
    · rw [hlink n (Array.mem_toList_iff.1 hn) hexp]

/-- A listed message that has no lapsed records, or whose records were renewed already,
changes nothing. -/
theorem Tracks.skip (h : Tracks nodes now seen r)
    (hskip : (∀ n ∈ nodes, n.isExpiredAt now = true → n.messageId ≠ m.id) ∨ m.id ∈ r.renewed) :
    Tracks nodes now (seen ++ [m]) r := by
  -- a message renewed already was seen before
  have hseen : m.id ∈ r.renewed → ∃ m' ∈ seen, m'.id = m.id := fun hm => ((h.marked _).1 hm).2
  refine h.of_links (fun n hn hexp => ?_) rfl rfl (fun id => ?_)
  · by_cases hid : m.id = n.messageId
    · rcases hskip with hnone | hren
      · exact absurd hid.symm (hnone n hn hexp)
      · exact renewedBy_append_of_seen (hid ▸ hseen hren)
    · exact renewedBy_append_of_ne hid
  · rw [h.marked]
    constructor
    · rintro ⟨hexp, m', hm', hid⟩
      exact ⟨hexp, m', List.mem_append_left _ hm', hid⟩
    · rintro ⟨⟨n, hn, hexp, hid⟩, m', hm', hid'⟩
      refine ⟨⟨n, hn, hexp, hid⟩, ?_⟩
      rcases List.mem_append.1 hm' with hm' | hm'
      · exact ⟨m', hm', hid'⟩
      · -- the new message has lapsed records, so it was renewed already
        have hm'm : m' = m := List.mem_singleton.1 hm'
        subst hm'm
        rcases hskip with hnone | hren
        · exact absurd (hid.trans hid'.symm) (hnone n hn hexp)
        · exact hid' ▸ hseen hren

/-- Marking a message renewed when it is first listed. -/
theorem Tracks.mark (h : Tracks nodes now seen r) {idx : List Nat}
    (hgroup : (m.id, idx) ∈ expiredGroups nodes now) :
    ∀ id, id ∈ m.id :: r.renewed ↔
      (∃ n ∈ nodes, n.isExpiredAt now ∧ n.messageId = id) ∧ ∃ m' ∈ seen ++ [m], m'.id = id := by
  intro id
  rw [List.mem_cons, h.marked]
  constructor
  · rintro (rfl | ⟨hexp, m', hm', hid⟩)
    · exact ⟨(of_mem_expiredGroups hgroup).1, m, by simp, rfl⟩
    · exact ⟨hexp, m', List.mem_append_left _ hm', hid⟩
  · rintro ⟨hexp, m', hm', hid⟩
    rcases List.mem_append.1 hm' with hm' | hm'
    · exact .inr ⟨hexp, m', hm', hid⟩
    · exact .inl (by rw [← hid, List.mem_singleton.1 hm'])

theorem Tracks.unseen (h : Tracks nodes now seen r) {id : Nat} {idx : List Nat}
    (hgroup : (id, idx) ∈ expiredGroups nodes now) (hnew : id ∉ r.renewed) :
    ∀ m' ∈ seen, m'.id ≠ id :=
  fun m' hm' hid => hnew ((h.marked _).2 ⟨(of_mem_expiredGroups hgroup).1, m', hm', hid⟩)

theorem Tracks.first_without_link (h : Tracks nodes now seen r) {idx : List Nat}
    (hgroup : (m.id, idx) ∈ expiredGroups nodes now) (hnew : m.id ∉ r.renewed)
    (hatt : m.firstAttachment = none) :
    Tracks nodes now (seen ++ [m]) { r with renewed := m.id :: r.renewed } := by
  refine h.of_links (fun n _ _ => ?_) rfl rfl (h.mark hgroup)
  by_cases hid : m.id = n.messageId
  · rw [← hid, renewedBy_append_new (h.unseen hgroup hnew), hatt,
      renewedBy_eq_none (h.unseen hgroup hnew)]
    rfl
  · exact renewedBy_append_of_ne hid

/-- The first listing of a message with an attachment renews all its lapsed records from
it. -/
theorem Tracks.first_with_link (h : Tracks nodes now seen r) {idx : List Nat}
    (hgroup : (m.id, idx) ∈ expiredGroups nodes now) (hnew : m.id ∉ r.renewed)
    {a : Attachment} {signed : SignedUrl} (hatt : m.firstAttachment = some a)
    (hsig : SignedUrl.fromOrigin a.url = .ok signed) :
    Tracks nodes now (seen ++ [m])
      { r with renewed := m.id :: r.renewed, nodes := renewRecords signed idx r.nodes,
               rewritten := r.rewritten + idx.length } := by
  have hunseen := h.unseen hgroup hnew
  have hlink : renewedBy (seen ++ [m]) m.id = some signed := by
    rw [renewedBy_append_new hunseen, hatt]
    simp [hsig, Except.toOption]
  have hbefore : renewedBy seen m.id = none := renewedBy_eq_none hunseen
  have hidx := (of_mem_expiredGroups hgroup).2
  refine ⟨?_, ?_, h.mark hgroup⟩
  · -- index by index: the group's records take the link, the others are renewed as before
    apply Array.ext_getElem?
    intro j
    rw [getElem?_renewRecords, h.records, Array.getElem?_map, Array.getElem?_map]
    cases hj : nodes[j]? with
    | none => simp
    | some n =>
      by_cases hin : j ∈ idx
      · obtain ⟨n', hn', hexp, hid⟩ := (hidx j).1 hin
        obtain rfl : n = n' := Option.some_inj.1 (hj.symm.trans hn')
        simp [hin, renewNode_of_renewedBy_none (hid ▸ hbefore),
          renewNode_expiresAt (hid ▸ hlink) hexp]
      · rw [if_neg hin]
        by_cases hexp : n.isExpiredAt now = true
        · have hid : m.id ≠ n.messageId := fun hid => hin ((hidx j).2 ⟨n, hj, hexp, hid.symm⟩)
          simp [renewNode_append_of_ne hid]
        · simp [renewNode_of_not_expired (by simpa using hexp)]
  · -- the group's records are counted now, and no other record changes its count
    rw [h.count, length_of_mem_expiredGroups hgroup]
    symm
    apply countP_eq_add_of_or
    · intro n _
      by_cases hid : m.id = n.messageId
      · simp [renews, ← hid, hlink, hbefore]
      · simp [renews, renewedBy_append_of_ne hid, Ne.symm hid]
    · intro n _ hren
      have hid : n.messageId ≠ m.id := by
        intro hid
        simp [renews, hid, hbefore] at hren
      simp [hid]

/-- **One listed page.** Processing a page extends a renewal by the page's messages, in order,
unless a message with lapsed records, listed for the first time, has a first attachment whose
link is no signed link: that stops the renewal with a panic. -/
theorem Tracks.listedPage : ∀ (page seen : List Message) (r : Renewal), Tracks nodes now seen r →
    (∃ r', ChunkStore.applyPage (expiredGroups nodes now) page r = .ok r' ∧
        Tracks nodes now (seen ++ page) r') ∨
      ∃ p, ChunkStore.applyPage (expiredGroups nodes now) page r = .panicked p ∧
        ∃ m ∈ page, ∃ a, m.firstAttachment = some a ∧ (SignedUrl.fromOrigin a.url).toOption = none
  | [], seen, r, h => .inl ⟨r, rfl, by simpa using h⟩
  | m :: rest, seen, r, h => by
    -- once the message is processed, the rest of the page is
    have hrest : ∀ r', Tracks nodes now (seen ++ [m]) r' →
        ChunkStore.applyPage (expiredGroups nodes now) (m :: rest) r =
          ChunkStore.applyPage (expiredGroups nodes now) rest r' →
        (∃ r'', ChunkStore.applyPage (expiredGroups nodes now) (m :: rest) r = .ok r'' ∧
            Tracks nodes now (seen ++ m :: rest) r'') ∨
          ∃ p, ChunkStore.applyPage (expiredGroups nodes now) (m :: rest) r = .panicked p ∧
            ∃ m' ∈ m :: rest, ∃ a, m'.firstAttachment = some a ∧
              (SignedUrl.fromOrigin a.url).toOption = none := by
      intro r' h' heq
      rw [heq]
      rcases Tracks.listedPage rest (seen ++ [m]) r' h' with ⟨r'', hok, h''⟩ |
        ⟨p, hp, m', hm', a, ha, hsig⟩
      · exact .inl ⟨r'', hok, by simpa using h''⟩
      · exact .inr ⟨p, hp, m', List.mem_cons_of_mem _ hm', a, ha, hsig⟩
    rcases @find?_expiredGroups nodes now m.id with ⟨hfind, hnone⟩ |
      ⟨idx, hfind, hgroup⟩
    · exact hrest r (h.skip (.inl hnone)) (by simp [ChunkStore.applyPage, hfind])
    · by_cases hren : m.id ∈ r.renewed
      · exact hrest r (h.skip (.inr hren)) (by simp [ChunkStore.applyPage, hfind, hren])
      · cases hatt : m.firstAttachment with
        | none =>
          exact hrest _ (h.first_without_link hgroup hren hatt)
            (by simp [ChunkStore.applyPage, hfind, hren, hatt])
        | some a =>
          cases hsig : SignedUrl.fromOrigin a.url with
          | error e =>
            exact .inr ⟨e.message, by simp [ChunkStore.applyPage, hfind, hren, hatt, hsig], m,
              List.mem_cons_self, a, hatt, by simp [hsig, Except.toOption]⟩
          | ok signed =>
            exact hrest _ (h.first_with_link hgroup hren hatt hsig)
              (by simp [ChunkStore.applyPage, hfind, hren, hatt, hsig])

/-- The record a visit reads the channel from: the first of the group's records, as it was, a
lapsed record of the message. -/
theorem Tracks.first_of_group (h : Tracks nodes now seen r) {id : Nat} {idx : List Nat}
    (hgroup : (id, idx) ∈ expiredGroups nodes now) (hnew : id ∉ r.renewed) (d : Node) :
    ∃ n ∈ nodes, n.isExpiredAt now = true ∧ n.messageId = id ∧
      (idx.head?.bind fun i => r.nodes[i]?).getD d = n := by
  obtain ⟨⟨n₀, hn₀, hexp₀, hid₀⟩, hidx⟩ := of_mem_expiredGroups hgroup
  -- the group is not empty: it holds the index of any lapsed record of the message
  obtain ⟨j, hj⟩ := Array.mem_iff_getElem?.1 hn₀
  cases hhead : idx with
  | nil => exact absurd ((hidx j).2 ⟨n₀, hj, hexp₀, hid₀⟩) (by simp [hhead])
  | cons i rest =>
    obtain ⟨n, hn, hexp, hid⟩ := (hidx i).1 (by simp [hhead])
    -- the message was not listed yet, so the record is as it was
    have hfresh : renewNode seen now n = n :=
      renewNode_of_renewedBy_none (hid ▸ renewedBy_eq_none (h.unseen hgroup hnew))
    refine ⟨n, Array.mem_of_getElem? hn, hexp, hid, ?_⟩
    simp [h.records, Array.getElem?_map, hn, hfresh]

end Tracks

/-! ## The visits of the message groups -/

/-- How a renewal from the group list `todo` ends, after its listings `listed` left the origin
at `s₁`, with `msgs` the messages processed: successfully, each group having been listed or seen
in an earlier listing; with a `refresh` error for a group, whose listing failed or whose first
record names no channel; or with a panic at a link of the last page listed. -/
def Ended (t : Transport σ) (nodes : Array Node) (now : Int) (todo : List (Nat × List Nat))
    (listed : List (String × Nat × List Message)) (msgs : List Message) (s₁ : σ)
    (res : Outcome Renewal × Renewal × σ) : Prop :=
  (res.1 = .ok res.2.1 ∧ res.2.2 = s₁ ∧
    ∀ p ∈ todo, (∃ m ∈ msgs, m.id = p.1) ∨
      ∃ ch page n, (ch, p.1 - 1, page) ∈ listed ∧ n ∈ nodes ∧ n.isExpiredAt now = true ∧
        n.messageId = p.1 ∧ n.channelId = some ch) ∨
  (∃ id e, res.1 = .failed (.refresh id e) ∧ ∃ n ∈ nodes, n.isExpiredAt now = true ∧
    n.messageId = id ∧
    ((∃ ch, n.channelId = some ch ∧ t.listMessages ch (id - 1) .after s₁ = (.error e, res.2.2)) ∨
      (n.channelId = none ∧ e = .protocol ("no channel in chunk url " ++ n.url) ∧
        res.2.2 = s₁))) ∨
  (∃ p ch a page, res.1 = .panicked p ∧ t.listMessages ch a .after s₁ = (.ok page, res.2.2) ∧
    ∃ m ∈ page, ∃ att, m.firstAttachment = some att ∧
      (SignedUrl.fromOrigin att.url).toOption = none)


theorem listedMessages_cons (ch : String) (a : Nat) (page : List Message)
    (listed : List (String × Nat × List Message)) :
    listedMessages ((ch, a, page) :: listed) = page ++ listedMessages listed := rfl

/-- **The visits of the message groups.** From a renewal that has processed `seen`, visiting
the groups `todo` lists some channels; what the visits leave has processed `seen` and every
page listed, and they end as `Ended` says. -/
theorem renewGroups_cases (t : Transport σ) (nodes : Array Node) (now : Int) :
    ∀ (todo : List (Nat × List Nat)) (seen : List Message) (r : Renewal) (s : σ),
      Tracks nodes now seen r → (∀ p ∈ todo, p ∈ expiredGroups nodes now) →
      ∃ listed s₁, Listings t s listed s₁ ∧
        Tracks nodes now (seen ++ listedMessages listed)
          (renewGroups t (expiredGroups nodes now) todo r s).2.1 ∧
        Ended t nodes now todo listed (seen ++ listedMessages listed) s₁
          (renewGroups t (expiredGroups nodes now) todo r s)
  | [], seen, r, s, h, _ =>
    ⟨[], s, .nil s, by simpa [renewGroups, listedMessages] using h,
      .inl ⟨rfl, rfl, by simp⟩⟩
  | (id, idx) :: todo, seen, r, s, h, hgroups => by
    have hgroup := hgroups _ List.mem_cons_self
    have hrest : ∀ p ∈ todo, p ∈ expiredGroups nodes now :=
      fun p hp => hgroups p (List.mem_cons_of_mem _ hp)
    by_cases hren : id ∈ r.renewed
    · -- the message was listed already: the visit lists nothing
      have hskip : renewGroups t (expiredGroups nodes now) ((id, idx) :: todo) r s =
          renewGroups t (expiredGroups nodes now) todo r s := by
        simp [renewGroups, hren]
      obtain ⟨listed, s₁, hlist, htracks, hend⟩ := renewGroups_cases t nodes now todo seen r s h hrest
      refine ⟨listed, s₁, hlist, hskip ▸ htracks, ?_⟩
      rw [hskip]
      rcases hend with ⟨hok, hs, hvisit⟩ | hfail | hpanic
      · refine .inl ⟨hok, hs, ?_⟩
        intro p hp
        rcases List.mem_cons.1 hp with rfl | hp
        · obtain ⟨-, m, hm, hid⟩ := (h.marked id).1 hren
          exact .inl ⟨m, List.mem_append_left _ hm, hid⟩
        · exact hvisit p hp
      · exact .inr (.inl hfail)
      · exact .inr (.inr hpanic)
    · -- the visit reads the channel from the group's first record, as it was
      obtain ⟨n, hn, hexp, hid, hfirst⟩ := h.first_of_group hgroup hren ⟨"", 0, 0, 0, 0, ""⟩
      have hstay : Tracks nodes now (seen ++ listedMessages []) r := by
        simpa [listedMessages] using h
      cases hch : n.channelId with
      | none =>
        have hres : renewGroups t (expiredGroups nodes now) ((id, idx) :: todo) r s =
            (.failed (.refresh id (.protocol ("no channel in chunk url " ++ n.url))), r, s) := by
          simp [renewGroups, hren, hfirst, hch]
        rw [hres]
        exact ⟨[], s, .nil s, hstay, .inr (.inl ⟨id, _, rfl, n, hn, hexp, hid, .inr ⟨hch, rfl, rfl⟩⟩)⟩
      | some ch =>
        rcases hl : t.listMessages ch (id - 1) .after s with ⟨out, s'⟩
        cases out with
        | error e =>
          have hres : renewGroups t (expiredGroups nodes now) ((id, idx) :: todo) r s =
              (.failed (.refresh id e), r, s') := by
            simp [renewGroups, hren, hfirst, hch, hl]
          rw [hres]
          exact ⟨[], s, .nil s, hstay, .inr (.inl ⟨id, e, rfl, n, hn, hexp, hid, .inl ⟨ch, hch, hl⟩⟩)⟩
        | ok page =>
          rcases Tracks.listedPage page seen r h with ⟨r', hok, h'⟩ | ⟨p, hp, hbad⟩
          · -- the page is processed, and the visits go on from there
            have hres : renewGroups t (expiredGroups nodes now) ((id, idx) :: todo) r s =
                renewGroups t (expiredGroups nodes now) todo r' s' := by
              simp [renewGroups, hren, hfirst, hch, hl, hok]
            obtain ⟨listed, s₁, hlist, htracks, hend⟩ :=
              renewGroups_cases t nodes now todo (seen ++ page) r' s' h' hrest
            refine ⟨(ch, id - 1, page) :: listed, s₁, .cons hl hlist, ?_, ?_⟩
            · rw [hres, listedMessages_cons, ← List.append_assoc]
              exact htracks
            · rw [hres, listedMessages_cons, ← List.append_assoc]
              rcases hend with ⟨hok', hs, hvisit⟩ | hfail | hpanic
              · refine .inl ⟨hok', hs, fun q hq => ?_⟩
                rcases List.mem_cons.1 hq with rfl | hq
                · exact .inr ⟨ch, page, n, List.mem_cons_self, hn, hexp, hid, hch⟩
                · rcases hvisit q hq with hseen | ⟨ch', page', n', hmem, hn'⟩
                  · exact .inl hseen
                  · exact .inr ⟨ch', page', n', List.mem_cons_of_mem _ hmem, hn'⟩
              · exact .inr (.inl hfail)
              · exact .inr (.inr hpanic)
          · have hres : renewGroups t (expiredGroups nodes now) ((id, idx) :: todo) r s =
                (.panicked p, r, s') := by
              simp [renewGroups, hren, hfirst, hch, hl, hp]
            rw [hres]
            exact ⟨[], s, .nil s, hstay, .inr (.inr ⟨p, ch, id - 1, page, rfl, hl, hbad⟩)⟩

/-! ## The whole renewal -/

/-- What a renewal does, in terms of its listings: the records it leaves, and how it ends. -/
theorem refreshExpired_spec (t : Transport σ) (nodes : Array Node) (now : Int) (s : σ) :
    ∃ listed s₁, Listings t s listed s₁ ∧
      (refreshExpired t nodes now s).2.1 = nodes.map (renewNode (listedMessages listed) now) ∧
      (∀ k, (refreshExpired t nodes now s).1 = .ok k →
        k = nodes.toList.countP (renews (listedMessages listed) now) ∧
          (refreshExpired t nodes now s).2.2 = s₁ ∧
          ∀ n ∈ nodes, n.isExpiredAt now = true →
            (∃ m ∈ listedMessages listed, m.id = n.messageId) ∨
              ∃ ch page n', (ch, n.messageId - 1, page) ∈ listed ∧ n' ∈ nodes ∧
                n'.isExpiredAt now = true ∧ n'.messageId = n.messageId ∧ n'.channelId = some ch) ∧
      (∀ e, (refreshExpired t nodes now s).1 = .failed e → ∃ id source, e = .refresh id source ∧
        ∃ n ∈ nodes, n.isExpiredAt now = true ∧ n.messageId = id ∧
          ((∃ ch, n.channelId = some ch ∧
              t.listMessages ch (id - 1) .after s₁ = (.error source, (refreshExpired t nodes now s).2.2)) ∨
            (n.channelId = none ∧ source = .protocol ("no channel in chunk url " ++ n.url)))) ∧
      (∀ p, (refreshExpired t nodes now s).1 = .panicked p → ∃ ch a page,
        t.listMessages ch a .after s₁ = (.ok page, (refreshExpired t nodes now s).2.2) ∧
        ∃ m ∈ page, ∃ att, m.firstAttachment = some att ∧
          (SignedUrl.fromOrigin att.url).toOption = none) := by
  obtain ⟨listed, s₁, hlist, htracks, hend⟩ := renewGroups_cases t nodes now
    (expiredGroups nodes now) [] { nodes } s (tracks_start nodes now) (fun _ hp => hp)
  simp only [List.nil_append] at htracks hend
  refine ⟨listed, s₁, hlist, ?_⟩
  simp only [refreshExpired]
  generalize renewGroups t (expiredGroups nodes now) (expiredGroups nodes now) { nodes } s = res
    at htracks hend
  obtain ⟨out, r, s'⟩ := res
  rcases hend with ⟨hok, hs, hvisit⟩ | ⟨id, e, hfail, n, hn, hexp, hid, hwhy⟩ |
    ⟨p, ch, a, page, hpanic, hl, hbad⟩
  · -- the renewal succeeded, with the count it kept, having visited every group
    dsimp only at hok hs htracks
    subst hok hs
    refine ⟨htracks.records, fun k hk => ⟨?_, rfl, fun n hn hexp => ?_⟩, fun e he => ?_,
      fun p hp => ?_⟩
    · simp only [Outcome.ok.injEq] at hk
      rw [← hk, htracks.count]
    · obtain ⟨idx, hgroup⟩ := exists_mem_expiredGroups hn hexp
      exact hvisit _ hgroup
    · simp at he
    · simp at hp
  · dsimp only at hfail htracks hwhy
    subst hfail
    refine ⟨htracks.records, fun k hk => ?_, fun e he => ?_, fun p hp => ?_⟩
    · simp at hk
    · simp only [Outcome.failed.injEq] at he
      subst he
      refine ⟨id, e, rfl, n, hn, hexp, hid, ?_⟩
      rcases hwhy with hlist' | ⟨hch, he, -⟩
      · exact .inl hlist'
      · exact .inr ⟨hch, he⟩
    · simp at hp
  · dsimp only at hpanic hl htracks
    subst hpanic
    refine ⟨htracks.records, fun k hk => ?_, fun e he => ?_, fun p' _ => ⟨ch, a, page, hl, hbad⟩⟩
    · simp at hk
    · simp at he

/-- A renewal leaves every record whose signature holds as it is. -/
theorem refreshExpired_keeps_fresh (t : Transport σ) (nodes : Array Node) (now : Int) (s : σ)
    {i : Nat} {n : Node} (hi : nodes[i]? = some n) (hn : n.isExpiredAt now = false) :
    (refreshExpired t nodes now s).2.1[i]? = some n := by
  obtain ⟨listed, s₁, -, hnodes, -⟩ := refreshExpired_spec t nodes now s
  rw [hnodes, Array.getElem?_map, hi, Option.map_some, renewNode_of_not_expired hn]

/-- **Renewal rewrites only lapsed records, and counts exactly.** Whatever the origin lists,
in whatever order and with whatever duplicates or missing attachments, and wherever a listing
fails, `refreshExpired` makes some listings; with `msgs` the messages they returned, page after
page:

* the records it leaves are `renewNode msgs now` of the records given: a record whose signature
  holds at `now` is left as it is, no record changes its size or its message, and a lapsed
  record takes, once, the link of the first attachment of the first message of `msgs` with its
  message id, when that message has one;
* a count it returns is the number of records so renewed, and the origin is left where the
  listings left it;
* an error it returns is a `refresh` error for a message with lapsed records: listing its
  channel failed with the error returned, or its first record names no channel;
* a panic comes from a first attachment of the last page listed whose link is no signed link;
* renewing the records it leaves again at the same `now`, when no link it gave has lapsed at
  `now`, rewrites only records that it left lapsed. -/
theorem refresh_renews_lapsed_records (t : Transport σ) (nodes : Array Node) (now : Int)
    (s : σ) :
    ∃ listed s₁, Listings t s listed s₁ ∧
      let msgs := listedMessages listed
      let res := refreshExpired t nodes now s
      res.2.1 = nodes.map (renewNode msgs now) ∧
      (∀ (i : Nat) (n : Node), nodes[i]? = some n → n.isExpiredAt now = false →
        res.2.1[i]? = some n) ∧
      (∀ (i : Nat) (n n' : Node), nodes[i]? = some n → res.2.1[i]? = some n' →
        n'.size = n.size ∧ n'.messageId = n.messageId) ∧
      (∀ k, res.1 = .ok k → k = nodes.toList.countP (renews msgs now) ∧ res.2.2 = s₁) ∧
      (∀ e, res.1 = .failed e → ∃ id source, e = .refresh id source ∧
        ∃ n ∈ nodes, n.isExpiredAt now = true ∧ n.messageId = id ∧
          ((∃ ch, n.channelId = some ch ∧
              t.listMessages ch (id - 1) .after s₁ = (.error source, res.2.2)) ∨
            (n.channelId = none ∧ source = .protocol ("no channel in chunk url " ++ n.url)))) ∧
      (∀ p, res.1 = .panicked p → ∃ ch a page, t.listMessages ch a .after s₁ = (.ok page, res.2.2) ∧
        ∃ m ∈ page, ∃ att, m.firstAttachment = some att ∧
          (SignedUrl.fromOrigin att.url).toOption = none) ∧
      ((∀ n ∈ nodes, n.isExpiredAt now = true → ∀ sig, renewedBy msgs n.messageId = some sig →
          now ≤ sig.expiresAt) →
        ∀ (s₂ : σ) (i : Nat), (refreshExpired t res.2.1 now s₂).2.1[i]? ≠ res.2.1[i]? →
          ∃ n, nodes[i]? = some n ∧ n.isExpiredAt now = true ∧ renewedBy msgs n.messageId = none) := by
  obtain ⟨listed, s₁, hlist, hnodes, hok, hfail, hpanic⟩ := refreshExpired_spec t nodes now s
  refine ⟨listed, s₁, hlist, hnodes, fun i n hi hn => ?_, fun i n n' hi hi' => ?_,
    fun k hk => ⟨(hok k hk).1, (hok k hk).2.1⟩, hfail, hpanic, fun hfresh s₂ i hchanged => ?_⟩
  · exact refreshExpired_keeps_fresh t nodes now s hi hn
  · rw [hnodes, Array.getElem?_map, hi, Option.map_some, Option.some_inj] at hi'
    rw [← hi']
    exact renewNode_size_messageId _ now n
  · -- what the second renewal changes was left lapsed by the first
    rw [hnodes] at hchanged
    obtain ⟨listed₂, s₃, -, hnodes₂, -⟩ :=
      refreshExpired_spec t (nodes.map (renewNode (listedMessages listed) now)) now s₂
    cases hi : nodes[i]? with
    | none =>
      -- nothing is stored at `i`, before or after either renewal
      rw [hnodes₂, Array.getElem?_map, Array.getElem?_map, hi] at hchanged
      exact absurd rfl hchanged
    | some n =>
      have hat : (nodes.map (renewNode (listedMessages listed) now))[i]? =
          some (renewNode (listedMessages listed) now n) := by
        rw [Array.getElem?_map, hi, Option.map_some]
      -- a record whose signature holds after the first renewal is kept by the second
      have hlapsed : (renewNode (listedMessages listed) now n).isExpiredAt now = true := by
        cases hfresh' : (renewNode (listedMessages listed) now n).isExpiredAt now
        · rw [hat] at hchanged
          exact absurd (refreshExpired_keeps_fresh t _ now s₂ hat hfresh') hchanged
        · rfl
      have hexp : n.isExpiredAt now = true := by
        cases hn : n.isExpiredAt now
        · rw [renewNode_of_not_expired hn, hn] at hlapsed
          exact hlapsed
        · rfl
      refine ⟨n, rfl, hexp, ?_⟩
      cases hsig : renewedBy (listedMessages listed) n.messageId with
      | none => rfl
      | some sig =>
        -- the link given holds at `now`, so the record it renewed is not lapsed
        have hholds := hfresh n (Array.mem_of_getElem? hi) hexp sig hsig
        rw [renewNode_expiresAt hsig hexp] at hlapsed
        simp [Node.isExpiredAt, Node.applySigned] at hlapsed
        omega

end ChunkStore
