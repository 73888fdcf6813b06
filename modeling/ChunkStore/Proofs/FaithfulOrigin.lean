import ChunkStore.Proofs.Renewal
import ChunkStore.Proofs.SignedLinks
import ChunkStore.Proofs.Failures
/-!
# Renewal against a faithful origin

An origin lists faithfully when listing a channel after an anchor returns the first
`messagePageSize` messages the channel holds above the anchor, in ascending id order, each with
a first attachment at a signed link (`Transport.ListsFaithfully`). Against such an origin a
renewal succeeds, and the anchor `id - 1` it lists a message group from puts that message first
on its page. So every lapsed record is renewed whose message the origin holds in the channel
its link names, and the count is the number of those records
(`refresh_renews_every_held_record`).

This needs two things of the records. A message id of 0 gives the anchor 0 as well, the
subtraction stopping at 0, and a listing after 0 leaves message 0 out. And a group's channel is
read from its first lapsed record, and any listing renews the groups whose ids it lists: so a
record must name the channel where its message is held. Without these a record of a held
message can stay lapsed, or be renewed from another channel
(`refresh_misses_message_zero_and_other_channels`).
-/

namespace ChunkStore

variable {σ : Type}

/-- An origin that lists faithfully, channel `ch` holding the messages with ids `held ch`: from
every state satisfying `inv`, listing a channel after an anchor returns the first
`messagePageSize` of its messages with a greater id, in ascending order, each with a first
attachment at a signed link, and leads to a state satisfying `inv`. -/
structure Transport.ListsFaithfully (t : Transport σ) (inv : σ → Prop)
    (held : String → List Nat) : Prop where
  ascending : ∀ ch, (held ch).Pairwise (· < ·)
  lists : ∀ ch a s, inv s → ∃ page, (t.listMessages ch a .after s).1 = .ok page ∧
    page.map (·.id) = ((held ch).filter (a < ·)).take messagePageSize ∧
    ∀ m ∈ page, ∃ att sig, m.firstAttachment = some att ∧ SignedUrl.fromOrigin att.url = .ok sig
  keeps : ∀ ch a s, inv s → inv (t.listMessages ch a .after s).2

/-- Whether the origin holds a record's message in the channel that the record's link names. -/
def heldIn (held : String → List Nat) (n : Node) : Bool :=
  match n.channelId with
  | some ch => (held ch).contains n.messageId
  | none => false

theorem mem_listedMessages {listed : List (String × Nat × List Message)} {m : Message} :
    m ∈ listedMessages listed ↔ ∃ x ∈ listed, m ∈ x.2.2 := by
  simp only [listedMessages, List.mem_flatten, List.mem_map]
  constructor
  · rintro ⟨l, ⟨x, hx, rfl⟩, hm⟩
    exact ⟨x, hx, hm⟩
  · rintro ⟨x, hx, hm⟩
    exact ⟨x.2.2, ⟨x, hx, rfl⟩, hm⟩

section Faithful

variable {t : Transport σ} {inv : σ → Prop} {held : String → List Nat}

/-- Every page that listings of a faithful origin returned is what the channel holds above the
anchor, at signed links. -/
theorem Transport.ListsFaithfully.listings (ht : t.ListsFaithfully inv held) {s s' : σ}
    {listed : List (String × Nat × List Message)} (hl : Listings t s listed s') :
    inv s → inv s' ∧ ∀ x ∈ listed,
      x.2.2.map (·.id) = ((held x.1).filter (x.2.1 < ·)).take messagePageSize ∧
      ∀ m ∈ x.2.2, ∃ att sig, m.firstAttachment = some att ∧
        SignedUrl.fromOrigin att.url = .ok sig := by
  induction hl with
  | nil s => exact fun hs => ⟨hs, by simp⟩
  | @cons s s₁ s' ch a page rest hlist _ ih =>
    intro hs
    obtain ⟨page', hpage, hids, hsigned⟩ := ht.lists ch a s hs
    rw [hlist] at hpage
    obtain rfl : page = page' := by simpa using hpage
    have hkeep : inv s₁ := by simpa [hlist] using ht.keeps ch a s hs
    obtain ⟨hs', hrest⟩ := ih hkeep
    refine ⟨hs', fun x hx => ?_⟩
    rcases List.mem_cons.1 hx with rfl | hx
    · exact ⟨hids, hsigned⟩
    · exact hrest x hx

theorem Transport.ListsFaithfully.of_mem_listed (ht : t.ListsFaithfully inv held) {s s' : σ}
    {listed : List (String × Nat × List Message)} (hl : Listings t s listed s') (hs : inv s)
    {m : Message} (hm : m ∈ listedMessages listed) :
    (∃ ch, m.id ∈ held ch) ∧
      ∃ att sig, m.firstAttachment = some att ∧ SignedUrl.fromOrigin att.url = .ok sig := by
  obtain ⟨x, hx, hmx⟩ := mem_listedMessages.1 hm
  obtain ⟨hids, hsigned⟩ := (ht.listings hl hs).2 x hx
  have hid : m.id ∈ ((held x.1).filter (x.2.1 < ·)).take messagePageSize := by
    rw [← hids]
    exact List.mem_map_of_mem hmx
  exact ⟨⟨x.1, (List.mem_filter.1 (List.mem_of_mem_take hid)).1⟩, hsigned m hmx⟩

end Faithful

/-- Listing after `id - 1` a channel that holds `id`, in ascending order, puts `id` on the page:
it is the least id above the anchor. -/
theorem mem_page_of_held {l : List Nat} (hl : l.Pairwise (· < ·)) {id : Nat} (hid : id ∈ l)
    (hpos : 0 < id) : id ∈ (l.filter (id - 1 < ·)).take messagePageSize := by
  have hmem : id ∈ l.filter (id - 1 < ·) := List.mem_filter.2 ⟨hid, by simp; omega⟩
  have hpw : (l.filter (id - 1 < ·)).Pairwise (· < ·) := hl.filter _
  have hge : ∀ y ∈ l.filter (id - 1 < ·), id ≤ y := fun y hy => by
    have := (List.mem_filter.1 hy).2
    simp at this
    omega
  cases hsplit : l.filter (id - 1 < ·) with
  | nil => rw [hsplit] at hmem; cases hmem
  | cons y rest =>
    rw [hsplit] at hmem hpw hge
    rcases List.mem_cons.1 hmem with rfl | hrest
    · simp [messagePageSize]
    · -- the page starts with an id below `id`, above the anchor: there is none
      have hlt : y < id := List.rel_of_pairwise_cons hpw hrest
      have hle : id ≤ y := hge y List.mem_cons_self
      omega

/-! ## Completeness -/

theorem heldIn_iff {held : String → List Nat} {n : Node} :
    heldIn held n = true ↔ ∃ ch, n.channelId = some ch ∧ n.messageId ∈ held ch := by
  unfold heldIn
  cases n.channelId with
  | none => simp
  | some ch => simp

section Complete

variable {t : Transport σ} {inv : σ → Prop} {held : String → List Nat} {nodes : Array Node}
  {now : Int} {s s' : σ} {listed : List (String × Nat × List Message)}

theorem Transport.ListsFaithfully.renewedBy_isSome (ht : t.ListsFaithfully inv held)
    (hl : Listings t s listed s') (hs : inv s) {id : Nat}
    (h : ∃ m ∈ listedMessages listed, m.id = id) :
    (renewedBy (listedMessages listed) id).isSome = true := by
  obtain ⟨m, hfind⟩ := find?_id_eq_some h
  obtain ⟨-, att, sig, hatt, hsig⟩ := ht.of_mem_listed hl hs (List.mem_of_find?_eq_some hfind)
  simp [renewedBy, hfind, hatt, hsig, Except.toOption]

/-- **A renewal against a faithful origin renews exactly the held records.** Once every group
of lapsed records was visited, a record is renewed exactly when it is lapsed and the origin
holds its message in the channel it names: a renewing message was listed from some channel,
which is the record's own, and the page listed for the record's group, after `id - 1` in its
channel, starts with the record's message. -/
theorem Transport.ListsFaithfully.renews_eq (ht : t.ListsFaithfully inv held)
    (hl : Listings t s listed s') (hs : inv s)
    (hhome : ∀ n ∈ nodes, n.isExpiredAt now = true →
      ∀ ch, n.messageId ∈ held ch → n.channelId = some ch)
    (hpos : ∀ n ∈ nodes, n.isExpiredAt now = true → 0 < n.messageId)
    (hvisit : ∀ n ∈ nodes, n.isExpiredAt now = true →
      (∃ m ∈ listedMessages listed, m.id = n.messageId) ∨
        ∃ ch page n', (ch, n.messageId - 1, page) ∈ listed ∧ n' ∈ nodes ∧
          n'.isExpiredAt now = true ∧ n'.messageId = n.messageId ∧ n'.channelId = some ch)
    {n : Node} (hn : n ∈ nodes) :
    renews (listedMessages listed) now n = (n.isExpiredAt now && heldIn held n) := by
  cases hexp : n.isExpiredAt now with
  | false => simp [renews, hexp]
  | true =>
    simp only [renews, hexp, Bool.true_and]
    rw [Bool.eq_iff_iff, heldIn_iff]
    constructor
    · -- a listed message with the record's id is held where it was listed: the record's channel
      intro hsome
      obtain ⟨m, hm, hid⟩ := exists_of_renewedBy_isSome hsome
      obtain ⟨⟨ch, hheld⟩, -⟩ := ht.of_mem_listed hl hs hm
      exact ⟨ch, hhome n hn hexp ch (hid ▸ hheld), hid ▸ hheld⟩
    · rintro ⟨ch, hch, hheld⟩
      apply ht.renewedBy_isSome hl hs
      rcases hvisit n hn hexp with hseen | ⟨ch', page, n', hx, hn', hexp', hid', hch'⟩
      · exact hseen
      · -- the group was listed from the channel of one of its records, which is `ch`
        have hsame : ch' = ch := by
          rw [hhome n' hn' hexp' ch (hid' ▸ hheld)] at hch'
          exact (Option.some_inj.1 hch').symm
        subst hsame
        have hpage := ((ht.listings hl hs).2 _ hx).1
        have hon : n.messageId ∈ page.map (·.id) := by
          rw [hpage]
          exact mem_page_of_held (ht.ascending ch') hheld (hpos n hn hexp)
        obtain ⟨m, hm, hid⟩ := List.mem_map.1 hon
        exact ⟨m, mem_listedMessages.2 ⟨_, hx, hm⟩, hid⟩

end Complete

/-- **Renewal is complete against a faithful origin.** When the origin lists faithfully and
the lapsed records all name a channel, name the channel that holds their message when one does,
and carry a message id above 0, a renewal succeeds; it renews every lapsed record whose message
the origin holds in the channel the record names, and no other, returning their number. The
records it leaves are `renewNode` of the listed messages, as for every origin. -/
theorem refresh_renews_every_held_record (t : Transport σ) (inv : σ → Prop)
    (held : String → List Nat) (ht : t.ListsFaithfully inv held) (nodes : Array Node)
    (now : Int) (s : σ) (hs : inv s)
    (hch : ∀ n ∈ nodes, n.isExpiredAt now = true → n.channelId.isSome = true)
    (hhome : ∀ n ∈ nodes, n.isExpiredAt now = true →
      ∀ ch, n.messageId ∈ held ch → n.channelId = some ch)
    (hpos : ∀ n ∈ nodes, n.isExpiredAt now = true → 0 < n.messageId) :
    ∃ listed s', Listings t s listed s' ∧
      refreshExpired t nodes now s =
        (.ok (nodes.toList.countP fun n => n.isExpiredAt now && heldIn held n),
          nodes.map (renewNode (listedMessages listed) now), s') ∧
      ∀ n ∈ nodes, n.isExpiredAt now = true →
        ((renewedBy (listedMessages listed) n.messageId).isSome = true ↔ heldIn held n = true) := by
  obtain ⟨listed, s₁, hl, hnodes, hok, hfail, hpanic⟩ := refreshExpired_spec t nodes now s
  have hs₁ : inv s₁ := (ht.listings hl hs).1
  refine ⟨listed, s₁, hl, ?_⟩
  rcases hres : refreshExpired t nodes now s with ⟨out, nodes', s'⟩
  rw [hres] at hnodes hok hfail hpanic
  dsimp only at hnodes hok hfail hpanic
  cases out with
  | failed e =>
    -- every listing succeeds, and every lapsed record names a channel
    obtain ⟨id, source, -, n, hn, hexp, -, hwhy⟩ := hfail e rfl
    rcases hwhy with ⟨ch, -, hlist⟩ | ⟨hnone, -⟩
    · obtain ⟨page, hpage, -⟩ := ht.lists ch (id - 1) s₁ hs₁
      rw [hlist] at hpage
      cases hpage
    · have hsome := hch n hn hexp
      rw [hnone] at hsome
      cases hsome
  | panicked p =>
    -- every listed message has a signed first attachment
    obtain ⟨ch, a, page, hlist, m, hm, att, hatt, hbad⟩ := hpanic p rfl
    obtain ⟨page', hpage, -, hsigned⟩ := ht.lists ch a s₁ hs₁
    rw [hlist] at hpage
    cases hpage
    obtain ⟨att', sig, hatt', hsig⟩ := hsigned m hm
    rw [hatt, Option.some_inj] at hatt'
    rw [hatt', hsig] at hbad
    cases hbad
  | ok k =>
    obtain ⟨hk, hs', hvisit⟩ := hok k rfl
    have hrenews : ∀ n ∈ nodes,
        renews (listedMessages listed) now n = (n.isExpiredAt now && heldIn held n) :=
      fun n hn => ht.renews_eq hl hs hhome hpos hvisit hn
    refine ⟨?_, fun n hn hexp => ?_⟩
    · rw [hk, hnodes, hs',
        List.countP_congr (fun n hn => by rw [hrenews n (Array.mem_toList_iff.1 hn)])]
    · have h := hrenews n hn
      simp only [renews, hexp, Bool.true_and] at h
      rw [h]

/-! ## An origin holding given messages -/

/-- A stateless origin in which channel `ch` holds the messages `held ch`, each listed with one
attachment at `link ch id`, and which stores and serves nothing. A listing picks the held ids on
the listed side of the anchor, as the memory origin does. -/
def heldOrigin (held : String → List Nat) (link : String → Nat → String) : Transport Unit where
  name := "held"
  upload _ u := (.failed .closed, u)
  rangeFetch _ _ _ u := (.error .closed, u)
  listMessages ch a dir u :=
    (.ok ((((held ch).filter (MemoryOrigin.listed dir a ·)).take messagePageSize).map fun id =>
      { id, channelId := some ch, attachments := [{ url := link ch id }] }), u)

/-- The origin holding given messages lists faithfully when each channel's ids ascend and every
link it gives is a signed link. -/
theorem heldOrigin_listsFaithfully {held : String → List Nat} {link : String → Nat → String}
    (hasc : ∀ ch, (held ch).Pairwise (· < ·))
    (hlink : ∀ ch, ∀ id ∈ held ch, (SignedUrl.fromOrigin (link ch id)).toOption.isSome = true) :
    (heldOrigin held link).ListsFaithfully (fun _ => True) held where
  ascending := hasc
  lists ch a _ _ := by
    refine ⟨_, rfl, ?_, ?_⟩
    · simp [List.map_map, Function.comp_def, MemoryOrigin.listed]
    · intro m hm
      obtain ⟨id, hid, rfl⟩ := List.mem_map.1 hm
      have hheld : id ∈ held ch := (List.mem_filter.1 (List.mem_of_mem_take hid)).1
      obtain ⟨sig, hsig⟩ := Option.isSome_iff_exists.1 (hlink ch id hheld)
      exact ⟨_, sig, rfl, eq_ok_of_toOption hsig⟩
  keeps _ _ _ _ := trivial

/-- Channel 2 holds messages 5, 6 and 10, channel 7 messages 0 and 1. -/
def sampleHeld (ch : String) : List Nat :=
  if ch = "2" then [5, 6, 10] else if ch = "7" then [0, 1] else []

/-- The link of message `id` in channel `ch`, signed until 4100000000. -/
def sampleLink (ch : String) (id : Nat) : String :=
  SignedUrl.encodeParts ("s3://cdn.test/attachments/" ++ ch ++ "/" ++ toString id ++ "/blob")
    4100000000 4099913600 ("sig-" ++ toString id ++ "-0")

/-- A record of message `id` in channel `ch` whose signature lapsed at 1. -/
def lapsedRecord (ch : String) (id : Nat) : Node :=
  { url := "s3://cdn.test/attachments/" ++ ch ++ "/" ++ toString id ++ "/blob", size := 1,
    messageId := id, expiresAt := 1, issuedAt := 0, signature := "h" ++ toString id }

theorem sampleOrigin_listsFaithfully :
    (heldOrigin sampleHeld sampleLink).ListsFaithfully (fun _ => True) sampleHeld := by
  refine heldOrigin_listsFaithfully (fun ch => ?_) (fun ch id hid => ?_)
  · unfold sampleHeld
    by_cases h2 : ch = "2"
    · simp [h2]
    · by_cases h7 : ch = "7"
      · simp [h7]
      · simp [h2, h7]
  · unfold sampleHeld at hid
    by_cases h2 : ch = "2"
    · subst h2
      simp only [if_true, List.mem_cons, List.not_mem_nil, or_false] at hid
      rcases hid with rfl | rfl | rfl <;> decide +kernel
    · by_cases h7 : ch = "7"
      · subst h7
        simp only [if_neg h2, if_true, List.mem_cons, List.not_mem_nil, or_false] at hid
        rcases hid with rfl | rfl <;> decide +kernel
      · simp [h2, h7] at hid

theorem mem_sampleHeld {ch : String} {id : Nat} :
    id ∈ sampleHeld ch ↔ ch = "2" ∧ id ∈ [5, 6, 10] ∨ ch = "7" ∧ id ∈ [0, 1] := by
  unfold sampleHeld
  by_cases h2 : ch = "2"
  · simp [h2]
  · by_cases h7 : ch = "7"
    · simp [h7]
    · simp [h2, h7]

theorem sampleHeld_home {n : Node} (h2 : n.messageId ∈ [5, 6, 10] → n.channelId = some "2")
    (h7 : n.messageId ∈ [0, 1] → n.channelId = some "7") :
    ∀ ch, n.messageId ∈ sampleHeld ch → n.channelId = some ch := by
  intro ch hheld
  rcases mem_sampleHeld.1 hheld with ⟨rfl, hid⟩ | ⟨rfl, hid⟩
  · exact h2 hid
  · exact h7 hid

/-- Records over the two channels: lapsed records of messages 5 and 6 of channel 2, of message 1
of channel 7 and of message 3, which no channel holds, and a record of message 10 still valid at
500. -/
def sampleRecords : Array Node :=
  #[lapsedRecord "2" 5, lapsedRecord "7" 1, lapsedRecord "2" 6, lapsedRecord "7" 3,
    { lapsedRecord "2" 10 with expiresAt := 1000 }]

/-- Renewing the sample records at 500 renews the three lapsed records whose message is held,
and only them. -/
theorem sample_refresh_renews_held_record :
    ∃ listed s', Listings (heldOrigin sampleHeld sampleLink) () listed s' ∧
      refreshExpired (heldOrigin sampleHeld sampleLink) sampleRecords 500 () =
        (.ok (sampleRecords.toList.countP fun n => n.isExpiredAt 500 && heldIn sampleHeld n),
          sampleRecords.map (renewNode (listedMessages listed) 500), s') ∧
      ∀ n ∈ sampleRecords, n.isExpiredAt 500 = true →
        ((renewedBy (listedMessages listed) n.messageId).isSome = true ↔
          heldIn sampleHeld n = true) := by
  refine refresh_renews_every_held_record (heldOrigin sampleHeld sampleLink) (fun _ => True)
    sampleHeld sampleOrigin_listsFaithfully sampleRecords 500 () trivial
    (fun n hn _ => ?_) (fun n hn _ => sampleHeld_home ?_ ?_) (fun n hn _ => ?_) <;>
    simp only [sampleRecords, List.mem_toArray, List.mem_cons, List.not_mem_nil, or_false] at hn <;>
    rcases hn with rfl | rfl | rfl | rfl | rfl <;> decide +kernel

example :
    (sampleRecords.toList.countP fun n => n.isExpiredAt 500 && heldIn sampleHeld n) = 3 := by
  decide +kernel

/-- Against the sample origin, which lists faithfully, renewals of lapsed records that all name
a channel miss the records of held messages and renew others: message 0 of channel 7 is not
renewed, a listing after 0 leaving it out; message 10, held in channel 2, is not renewed, its
group being listed from channel 1, named by its first record; and a record of message 6 naming
channel 1 is renewed from the listing of channel 2 made for message 5. -/
theorem refresh_misses_message_zero_and_other_channels :
    (heldOrigin sampleHeld sampleLink).ListsFaithfully (fun _ => True) sampleHeld ∧
    ((#[lapsedRecord "7" 0].toList.all fun n => n.channelId.isSome) = true ∧
      (refreshExpired (heldOrigin sampleHeld sampleLink) #[lapsedRecord "7" 0] 500 ()).1 =
        .ok 0 ∧
      (#[lapsedRecord "7" 0].toList.countP fun n =>
        n.isExpiredAt 500 && heldIn sampleHeld n) = 1) ∧
    ((#[lapsedRecord "1" 10, lapsedRecord "2" 10].toList.all fun n => n.channelId.isSome) = true ∧
      (refreshExpired (heldOrigin sampleHeld sampleLink)
        #[lapsedRecord "1" 10, lapsedRecord "2" 10] 500 ()).1 = .ok 0 ∧
      (#[lapsedRecord "1" 10, lapsedRecord "2" 10].toList.countP fun n =>
        n.isExpiredAt 500 && heldIn sampleHeld n) = 1) ∧
    ((#[lapsedRecord "2" 5, lapsedRecord "1" 6].toList.all fun n => n.channelId.isSome) = true ∧
      (refreshExpired (heldOrigin sampleHeld sampleLink)
        #[lapsedRecord "2" 5, lapsedRecord "1" 6] 500 ()).1 = .ok 2 ∧
      (#[lapsedRecord "2" 5, lapsedRecord "1" 6].toList.countP fun n =>
        n.isExpiredAt 500 && heldIn sampleHeld n) = 1) := by
  refine ⟨sampleOrigin_listsFaithfully, ⟨by decide +kernel, ?_, by decide +kernel⟩,
    ⟨by decide +kernel, ?_, by decide +kernel⟩, ⟨by decide +kernel, ?_, by decide +kernel⟩⟩ <;>
  -- the grouping sorts the lapsed ids by well-founded recursion, which evaluation does not
  -- unfold; here they already ascend, so the sort is dropped before the run is evaluated
  · simp only [refreshExpired, expiredGroups]
    rw [List.mergeSort_of_pairwise] <;> decide +kernel

end ChunkStore
