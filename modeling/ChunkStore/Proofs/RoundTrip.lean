import ChunkStore.Proofs.Parallel
import ChunkStore.Proofs.Cursor
import ChunkStore.Store.Store
/-!
# Storing a file and reading it back

A transport stores payloads (`Transport.Stores`) when an upload keeps its bytes under a new
message, keeping what was stored before, and gives a record of their size; a fetch of a range of
a stored message serves exactly the range's bytes, in pieces of any size; and a listing keeps
every payload.

The round trip has two halves that meet at `StoresFile P nodes D`: the records `nodes` point, in
order, at stored payloads whose bytes make up `D`. Writing: whichever writer a store hands out,
writing `D` in any split and closing leaves records that, sorted by sequence, store `D`
(`Store.writer_stores`). Reading: a reader over records that store `D` starts at every offset up
to `|D|`, refuses every offset past it, and reads `D` from the offset to the end
(`reads_stored_file`). Renewing the records' signatures keeps each record's message and size
(`Store.updateNodes_keys`), so the renewed records store `D` too. The main statement is
`store_round_trip`.
-/

namespace ChunkStore

/-! ## Transports that store payloads -/

/-- A transport stores payloads, from the states where `inv` holds, when `payload s id` is what
message `id` holds in state `s` and: an upload stores its bytes under a new message, keeping
every payload stored before, and gives a record of their size; a fetch of a range of a stored
message serves exactly the range's bytes, in pieces of any size; and a listing keeps every
payload. Each call keeps `inv`. -/
structure Transport.Stores {σ : Type} (t : Transport σ) (inv : σ → Prop)
    (payload : σ → Nat → Option (List UInt8)) : Prop where
  upload : ∀ d s, inv s → ∃ node s', t.upload d s = (.ok node, s') ∧ inv s' ∧
    node.size = d.size ∧ payload s' node.messageId = some d.data.toList ∧
    ∀ id bytes, payload s id = some bytes → payload s' id = some bytes
  fetch : ∀ (n : Node) a b s bytes, inv s → payload s n.messageId = some bytes → a ≤ b →
    b < bytes.length → ∃ items s', t.rangeFetch n a b s = (.ok items, s') ∧ inv s' ∧
      payload s' = payload s ∧ Delivers items .empty ((bytes.drop a).take (b + 1 - a))
  list : ∀ ch anchor dir s, inv s → inv (t.listMessages ch anchor dir s).2 ∧
    payload (t.listMessages ch anchor dir s).2 = payload s

/-- The bytes of a chunk as stored: the payload of its message. -/
def storedContent (P : Nat → Option (List UInt8)) (n : Node) : List UInt8 :=
  (P n.messageId).getD []

/-- The records `nodes` point at stored payloads, each as long as its record says, and those
payloads one after another are `D`. -/
structure StoresFile (P : Nat → Option (List UInt8)) (nodes : List Node) (D : List UInt8) :
    Prop where
  stored : ∀ n ∈ nodes, ∃ bytes, P n.messageId = some bytes ∧ bytes.length = n.size
  bytes : fileBytes nodes (storedContent P) = D

section Stores

variable {σ : Type} {t : Transport σ} {inv : σ → Prop} {payload : σ → Nat → Option (List UInt8)}

theorem Transport.Stores.uploadsSucceed (hst : t.Stores inv payload) : t.UploadsSucceed inv :=
  fun d s hs => by
    obtain ⟨node, s', hup, hs', -⟩ := hst.upload d s hs
    exact ⟨node, s', hup, hs'⟩

theorem Transport.Stores.servesChunk (hst : t.Stores inv payload) {P : Nat → Option (List UInt8)}
    {n : Node} {bytes : List UInt8} (hP : P n.messageId = some bytes)
    (hlen : bytes.length = n.size) :
    t.ServesChunk (fun s => inv s ∧ payload s = P) (storedContent P) n where
  size := by simp [storedContent, hP, hlen]
  fetch a b s hs hab hb := by
    obtain ⟨hinv, hsame⟩ := hs
    obtain ⟨items, s', hfetch, hinv', hkeep, hd⟩ :=
      hst.fetch n a b s bytes hinv (by rw [hsame, hP]) hab (by omega)
    exact ⟨items, s', hfetch, ⟨hinv', hkeep.trans hsame⟩, by simpa [storedContent, hP] using hd⟩

theorem StoresFile.totalSize_eq {P : Nat → Option (List UInt8)} {nodes : List Node}
    {D : List UInt8} (h : StoresFile P nodes D) : totalSize nodes = D.length := by
  have hc : ∀ n ∈ nodes, (storedContent P n).length = n.size := fun n hn => by
    obtain ⟨bytes, hP, hlen⟩ := h.stored n hn
    simp [storedContent, hP, hlen]
  rw [← h.bytes, length_fileBytes hc]

/-! ## Reading a stored file -/

/-- **A reader over records that store `D` reads `D`.** It starts at every offset up to `|D|`,
and reading from there to the end, from any state of the transport holding the same payloads,
gives `D` from the offset on; it refuses every offset past `|D|`. -/
theorem reads_stored_file (hst : t.Stores inv payload) {P : Nat → Option (List UInt8)}
    {nodes : List Node} {D : List UInt8} (h : StoresFile P nodes D)
    (hsize : D.length < wordRange) :
    (∀ o, o ≤ D.length → ∃ r, ChunkReader.new nodes o = .ok r ∧
      ∀ (fuel : Nat) (s : σ), inv s → payload s = P → D.length - o < fuel →
        ∃ out r' s', Cli.readToEnd t fuel r s .empty = (out, none, r', s') ∧
          out.data.toList = D.drop o) ∧
    (∀ o, D.length < o → ChunkReader.new nodes o = .error (.invalidOffset o D.length)) := by
  have hserve : ∀ n ∈ nodes,
      t.ServesChunk (fun s => inv s ∧ payload s = P) (storedContent P) n := fun n hn => by
    obtain ⟨bytes, hP, hlen⟩ := h.stored n hn
    exact hst.servesChunk hP hlen
  have htotal := h.totalSize_eq
  refine ⟨fun o ho => ?_, fun o ho => ?_⟩
  · refine ⟨_, ChunkReader.new_eq (by rw [htotal]; exact hsize) (by rw [htotal]; exact ho),
      fun fuel s hs hP hfuel => ?_⟩
    obtain ⟨out, r', s', hrun, hout⟩ := readToEnd_follows hserve fuel .empty
      (ChunkReader.follows_new o) ⟨hs, hP⟩ (by rw [htotal]; exact hfuel)
    exact ⟨out, r', s', hrun, by simpa [h.bytes] using hout⟩
  · rw [ChunkReader.new_eq_error (by rw [htotal]; exact hsize) (by rw [htotal]; exact ho), htotal]

/-! ## Writing a stored file -/

/-- Uploading jobs to a storing transport: every record delivered is a job's, as long as the
job's bytes and stored under its message, and every payload stored before stays stored. -/
theorem uploadJobs_stores (hst : t.Stores inv payload) :
    ∀ (js : List (Nat × ByteArray)) (acc : Array ChunkUpload × σ), inv acc.2 →
      inv (uploadJobs t js acc).2 ∧
      (∀ id bytes, payload acc.2 id = some bytes →
        payload (uploadJobs t js acc).2 id = some bytes) ∧
      ∀ u ∈ (uploadJobs t js acc).1.toList, u ∈ acc.1.toList ∨
        ∃ d, (u.sequence, d) ∈ js ∧ u.node.size = d.size ∧
          payload (uploadJobs t js acc).2 u.node.messageId = some d.data.toList
  | [], acc, h => ⟨h, fun _ _ hb => hb, fun u hu => .inl hu⟩
  | (i, d) :: js, (sent, s), h => by
    obtain ⟨node, s₁, hup, hs₁, hsize, hstored, hkeep⟩ := hst.upload d s h
    have hstep : uploadJobs t ((i, d) :: js) (sent, s) =
        uploadJobs t js (sent.push ⟨i, node⟩, s₁) := by
      simp [uploadJobs, uploadJob, hup]
    obtain ⟨hinv, hkeep', hrec⟩ := uploadJobs_stores hst js (sent.push ⟨i, node⟩, s₁) hs₁
    rw [hstep]
    refine ⟨hinv, fun id bytes hb => hkeep' id bytes (hkeep id bytes hb), fun u hu => ?_⟩
    rcases hrec u hu with hmem | ⟨d', hj, hsz, hp⟩
    · simp only [Array.toList_push, List.mem_append, List.mem_singleton] at hmem
      rcases hmem with hmem | rfl
      · exact .inl hmem
      · exact .inr ⟨d, List.mem_cons_self, hsize, hkeep' _ _ hstored⟩
    · exact .inr ⟨d', List.mem_cons_of_mem _ hj, hsz, hp⟩

theorem map_sequence_mergeSort {l : List ChunkUpload} {n : Nat}
    (h : (l.map (·.sequence)).Perm (List.range n)) :
    (l.mergeSort fun a b => a.sequence ≤ b.sequence).map (·.sequence) = List.range n := by
  have hsorted : (l.mergeSort fun a b => a.sequence ≤ b.sequence).Pairwise
      fun a b => decide (a.sequence ≤ b.sequence) :=
    List.pairwise_mergeSort (fun a b c hab hbc => by simp at *; omega)
      (fun a b => by simp; omega) l
  refine List.Perm.eq_of_pairwise (fun a b _ _ hab hba => Nat.le_antisymm hab hba)
    (List.pairwise_map.2 (hsorted.imp fun h => by simpa using h))
    (List.pairwise_lt_range.imp Nat.le_of_lt) ?_
  exact ((List.mergeSort_perm l _).map _).trans h

theorem sequences_of_uploads (hst : t.Stores inv payload) {k : Nat} {D : List UInt8}
    {order : List (Nat × ByteArray)} (hperm : order.Perm (jobs k D (chunkCount k D.length)))
    {s₀ : σ} (h₀ : inv s₀) {sent : Array ChunkUpload} {s' : σ}
    (hsent : (sent, s') = uploadJobs t order (#[], s₀)) :
    (sent.toList.map (·.sequence)).Perm (List.range (chunkCount k D.length)) := by
  have h := uploadJobs_sequences hst.uploadsSucceed order (#[], s₀) h₀
  rw [← congrArg Prod.fst hsent] at h
  simp only [List.map_nil, List.nil_append] at h
  rw [h, ← map_fst_jobs k D]
  exact hperm.map _

/-- Records delivered for the pieces of `D`, in any order, store `D` once sorted by sequence. -/
theorem storesFile_of_uploads (hst : t.Stores inv payload) {k : Nat} (hk : 0 < k)
    {D : List UInt8} {order : List (Nat × ByteArray)}
    (hperm : order.Perm (jobs k D (chunkCount k D.length))) {s₀ : σ} (h₀ : inv s₀)
    {sent : Array ChunkUpload} {s' : σ} (hsent : (sent, s') = uploadJobs t order (#[], s₀)) :
    StoresFile (payload s') ((sent.toList.mergeSort fun a b => a.sequence ≤ b.sequence).map
      (·.node)) D := by
  obtain ⟨-, -, hrec⟩ := uploadJobs_stores hst order (#[], s₀) h₀
  rw [← hsent] at hrec
  -- each record holds the piece numbered as it is
  have hpiece : ∀ u ∈ sent.toList, u.node.size = (piece k D u.sequence).length ∧
      payload s' u.node.messageId = some (piece k D u.sequence) := by
    intro u hu
    obtain hnil | ⟨d, hj, hsz, hp⟩ := hrec u hu
    · simp at hnil
    · obtain ⟨-, rfl⟩ := mem_jobs.1 (hperm.subset hj)
      simp only [List.size_toByteArray, List.toList_data_toByteArray] at hsz hp
      exact ⟨hsz, hp⟩
  have hsorted := map_sequence_mergeSort (sequences_of_uploads hst hperm h₀ hsent)
  have hmem : ∀ u ∈ sent.toList.mergeSort fun a b => a.sequence ≤ b.sequence,
      u ∈ sent.toList := fun u hu => (List.mergeSort_perm _ _).subset hu
  refine ⟨fun n hn => ?_, ?_⟩
  · obtain ⟨u, hu, rfl⟩ := List.mem_map.1 hn
    obtain ⟨hsz, hp⟩ := hpiece u (hmem u hu)
    exact ⟨_, hp, hsz.symm⟩
  · -- sorted, the records hold the pieces in order, and the pieces make up `D`
    calc fileBytes _ (storedContent (payload s'))
        = ((List.range (chunkCount k D.length)).map (piece k D)).flatten := by
          rw [fileBytes, List.map_map, ← hsorted, List.map_map]
          congr 1
          refine List.map_congr_left fun u hu => ?_
          simp [storedContent, (hpiece u (hmem u hu)).2]
      _ = D := flatten_chunks hk D

/-- **Whichever writer a store hands out stores the bytes written.** A script that takes the
bytes `D` into it, then closing it, succeeds and leaves records numbered `0, …, n - 1` in some
order that, sorted by sequence, store `D`. -/
theorem Store.writer_stores (hst : t.Stores inv payload) (store : Store σ)
    (hs : inv store.origin) {α : Type} {script : ChunkWriter → σ → α × ChunkWriter × σ} {res : α}
    {D : List UInt8} (hscript : ScriptTakes t script res D) :
    ∃ w s, script store.writer store.origin = (res, w, s) ∧
      ∃ w' s', w.close t s = (.ok (), w', s') ∧ inv s' ∧
        (w'.sent.toList.map (·.sequence)).Perm (List.range w'.sent.toList.length) ∧
        StoresFile (payload s') ((w'.sent.toList.mergeSort fun a b => a.sequence ≤ b.sequence).map
          (·.node)) D := by
  have ht := hst.uploadsSucceed
  -- either writer uploads the pieces, in some order
  obtain ⟨w, s, hrun, w', s', hclose, order, hperm, hsent⟩ : ∃ w s,
      script store.writer store.origin = (res, w, s) ∧
      ∃ w' s', w.close t s = (.ok (), w', s') ∧
        ∃ order, order.Perm (jobs (max store.options.chunkSize 1) D
            (chunkCount (max store.options.chunkSize 1) D.length)) ∧
          (w'.sent, s') = uploadJobs t order (#[], store.origin) := by
    unfold Store.writer
    split
    · obtain ⟨w, s, hrun, w', s', hclose, -, order, hperm, hsent⟩ :=
        ParallelWriter.run_delivers ht _ _ _ _ hs hscript
      exact ⟨_, s, hrun, .parallel w', s', by simp [ChunkWriter.close, hclose], order, hperm,
        hsent⟩
    · obtain ⟨w, s, hrun, w', s', hclose, hsent⟩ := SequentialWriter.run_delivers ht _ hs hscript
      exact ⟨_, s, hrun, .sequential w', s', by simp [ChunkWriter.close, hclose], _,
        List.Perm.refl _, hsent⟩
  have hinv := (uploadJobs_stores hst order (#[], store.origin) hs).1
  rw [← hsent] at hinv
  -- the records are numbered by the pieces, as many as there are pieces
  have hseq := sequences_of_uploads hst hperm hs hsent
  have hlen : w'.sent.toList.length = chunkCount (max store.options.chunkSize 1) D.length := by
    simpa using hseq.length_eq
  exact ⟨w, s, hrun, w', s', hclose, hinv, hlen ▸ hseq,
    storesFile_of_uploads hst (by omega) hperm hs hsent⟩

/-! ## Renewing a stored file's records -/

/-- What renewing a record keeps: its message and its size. -/
def chunkKey (n : Node) : Nat × Nat := (n.messageId, n.size)

/-- Giving records a new link keeps every record's message and size. -/
theorem keys_renewRecords (signed : SignedUrl) :
    ∀ (indices : List Nat) (nodes : Array Node),
      (renewRecords signed indices nodes).toList.map chunkKey = nodes.toList.map chunkKey
  | [], _ => rfl
  | i :: indices, nodes => by
    have hstep : (renewRecords signed [i] nodes).toList.map chunkKey =
        nodes.toList.map chunkKey := by
      simp only [renewRecords, List.foldl_cons, List.foldl_nil]
      split
      · next n hn =>
        -- the renewed record sits where the old one was, with its key
        have hi : i < (nodes.toList.map chunkKey).length := by
          simpa using (Array.getElem?_eq_some_iff.1 hn).1
        have hkey : chunkKey (n.applySigned signed) = (nodes.toList.map chunkKey)[i] := by
          simp [(Array.getElem?_eq_some_iff.1 hn).2, chunkKey, Node.applySigned]
        rw [Array.set!_eq_setIfInBounds, Array.toList_setIfInBounds, List.map_set, hkey,
          List.set_getElem_self]
      · rfl
    exact (keys_renewRecords signed indices _).trans hstep

/-- Renewing the records of the listed messages keeps every record's message and size. -/
theorem keys_applyPage (groups : List (Nat × List Nat)) :
    ∀ (page : List Message) (r r' : Renewal), applyPage groups page r = .ok r' →
      r'.nodes.toList.map chunkKey = r.nodes.toList.map chunkKey
  | [], r, r', h => by
    simp only [applyPage, Outcome.ok.injEq] at h
    rw [h]
  | m :: rest, r, r', h => by
    simp only [applyPage] at h
    split at h
    · exact keys_applyPage groups rest r r' h
    · split at h
      · exact keys_applyPage groups rest r r' h
      · -- from here on the message counts as renewed, which leaves the records alone
        split at h
        · have hrest := keys_applyPage groups rest _ r' h
          exact hrest
        · split at h
          · cases h
          · -- the listed message's records take the new link
            have hrest := keys_applyPage groups rest _ r' h
            exact hrest.trans (keys_renewRecords _ _ _)

/-- A renewal that succeeds keeps every record's message and size, and keeps the transport's
payloads. -/
theorem keys_renewGroups (hst : t.Stores inv payload) (groups : List (Nat × List Nat)) :
    ∀ (todo : List (Nat × List Nat)) (r : Renewal) (s : σ) {r' r'' : Renewal} {s' : σ},
      inv s → renewGroups t groups todo r s = (.ok r', r'', s') →
      r'.nodes.toList.map chunkKey = r.nodes.toList.map chunkKey ∧ inv s' ∧
        payload s' = payload s
  | [], r, s, r', r'', s', hs, h => by
    simp only [renewGroups, Prod.mk.injEq, Outcome.ok.injEq] at h
    obtain ⟨rfl, -, rfl⟩ := h
    exact ⟨rfl, hs, rfl⟩
  | (id, indices) :: todo, r, s, r', r'', s', hs, h => by
    simp only [renewGroups] at h
    split at h
    · exact keys_renewGroups hst groups todo r s hs h
    · split at h
      · cases h
      · next ch _ =>
        split at h
        · cases h
        · next page s₁ hlist =>
          -- the listing keeps what is stored
          have hl := hst.list ch (id - 1) .after s hs
          rw [hlist] at hl
          split at h
          · next r₁ hpage =>
            obtain ⟨hkeys, hs', hp⟩ := keys_renewGroups hst groups todo r₁ s₁ hl.1 h
            exact ⟨hkeys.trans (keys_applyPage groups page r r₁ hpage), hs', hp.trans hl.2⟩
          · cases h
          · cases h

/-- **A renewal that succeeds keeps every record's message and size**, and keeps what the
transport stores. -/
theorem Store.updateNodes_keys (hst : t.Stores inv payload) {store store' : Store σ}
    {fileId : String} {nodes nodes' : Array Node} {now : Int} {k : Nat}
    (hs : inv store.origin) (h : store.updateNodes t fileId nodes now = (.ok k, nodes', store')) :
    nodes'.toList.map chunkKey = nodes.toList.map chunkKey ∧ inv store'.origin ∧
      payload store'.origin = payload store.origin := by
  unfold Store.updateNodes at h
  split at h
  · cases h
  · generalize hr : refreshExpired t nodes now store.origin = res at h
    obtain ⟨out, nodes₁, origin⟩ := res
    simp only [Prod.mk.injEq] at h
    obtain ⟨rfl, rfl, rfl⟩ := h
    unfold refreshExpired at hr
    dsimp only at hr
    split at hr
    · next r _ s₁ hgroups =>
      simp only [Prod.mk.injEq] at hr
      obtain ⟨-, rfl, rfl⟩ := hr
      exact keys_renewGroups hst _ _ _ _ hs hgroups
    · simp at hr
    · simp at hr

/-- Records with the messages and sizes of records that store `D` store `D` too. -/
theorem StoresFile.of_keys {P : Nat → Option (List UInt8)} {nodes nodes' : List Node}
    {D : List UInt8} (h : StoresFile P nodes D)
    (hkeys : nodes'.map chunkKey = nodes.map chunkKey) : StoresFile P nodes' D where
  stored n hn := by
    have hmem : chunkKey n ∈ nodes.map chunkKey := by
      rw [← hkeys]
      exact List.mem_map_of_mem hn
    obtain ⟨m, hm, hkey⟩ := List.mem_map.1 hmem
    obtain ⟨bytes, hP, hlen⟩ := h.stored m hm
    simp only [chunkKey, Prod.mk.injEq] at hkey
    exact ⟨bytes, hkey.1 ▸ hP, hkey.2 ▸ hlen⟩
  bytes := by
    -- the stored bytes of a record depend on its message alone
    have hc : storedContent P = (fun key : Nat × Nat => (P key.1).getD []) ∘ chunkKey := rfl
    rw [← h.bytes, fileBytes, fileBytes, hc, ← List.map_map, ← List.map_map, hkeys]

end Stores

/-! ## The round trip -/

/-- **Storing a file and reading it back gives the file.** Over a transport that stores
payloads, whichever writer a store hands out, writing the bytes `D` to it in any split into
writes and closing it succeeds, each write taking all its bytes. Taking the delivered records
sorted by sequence as the file's records, with `|D| < 2^64`: a reader starts at every offset up
to `|D|`, and reading from there to the end gives `D` from the offset on, from any state of the
transport holding the same payloads; every offset past `|D|` is refused, naming the offset and
`|D|`. A renewal of the records' signatures that succeeds keeps the payloads, and the renewed
records read the same bytes. -/
theorem store_round_trip {σ : Type} (t : Transport σ) {inv : σ → Prop}
    {payload : σ → Nat → Option (List UInt8)} (hst : t.Stores inv payload) (store : Store σ)
    (hs : inv store.origin) (ds : List ByteArray)
    (hsize : (ds.map (·.data.toList)).flatten.length < wordRange) :
    let D := (ds.map (·.data.toList)).flatten
    ∃ w s, ChunkWriter.writeAll t ds store.writer store.origin =
        (ds.map fun d => .ok d.size, w, s) ∧
      ∃ w' s', w.close t s = (.ok (), w', s') ∧
        let nodes := (w'.sent.toList.mergeSort fun a b => a.sequence ≤ b.sequence).map (·.node)
        (∀ o, o ≤ D.length → ∃ r, store.newReader nodes o = .ok r ∧
          ∀ (fuel : Nat) (s₁ : σ), inv s₁ → payload s₁ = payload s' → D.length - o < fuel →
            ∃ out r' s₂, Cli.readToEnd t fuel r s₁ .empty = (out, none, r', s₂) ∧
              out.data.toList = D.drop o) ∧
        (∀ o, D.length < o → store.newReader nodes o = .error (.invalidOffset o D.length)) ∧
        (∀ (store₁ : Store σ) (fileId : String) (now : Int) (k : Nat) (nodes' : Array Node)
            (store₂ : Store σ), inv store₁.origin → payload store₁.origin = payload s' →
          store₁.updateNodes t fileId nodes.toArray now = (.ok k, nodes', store₂) →
          inv store₂.origin ∧ payload store₂.origin = payload s' ∧
          ∀ o, o ≤ D.length → ∃ r, store₂.newReader nodes'.toList o = .ok r ∧
            ∀ (fuel : Nat) (s₁ : σ), inv s₁ → payload s₁ = payload s' → D.length - o < fuel →
              ∃ out r' s₂, Cli.readToEnd t fuel r s₁ .empty = (out, none, r', s₂) ∧
                out.data.toList = D.drop o) := by
  intro D
  obtain ⟨w, s, hrun, w', s', hclose, -, -, hfile⟩ :=
    Store.writer_stores hst store hs (scriptTakes_writeAll t ds)
  refine ⟨w, s, hrun, w', s', hclose, ?_⟩
  intro nodes
  obtain ⟨hread, hrefuse⟩ := reads_stored_file hst hfile hsize
  refine ⟨hread, hrefuse, ?_⟩
  intro store₁ fileId now k nodes' store₂ hs₁ hp₁ hupdate
  obtain ⟨hkeys, hs₂, hp₂⟩ := Store.updateNodes_keys hst hs₁ hupdate
  have hfile' : StoresFile (payload s') nodes'.toList D :=
    hfile.of_keys (by rw [hkeys, List.toList_toArray])
  exact ⟨hs₂, hp₂.trans hp₁, (reads_stored_file hst hfile' hsize).1⟩

/-! ## An origin that keeps everything -/

/-- An origin that keeps every upload, message `i` holding the `i`-th payload, hands out each
fetched range in one piece and lists no messages. -/
def keepAllOrigin : Transport (Array ByteArray) where
  name := "keep-all"
  upload d s := (.ok ⟨"", d.size, s.size, 0, 0, ""⟩, s.push d)
  rangeFetch n a b s :=
    match s[n.messageId]? with
    | some d => (.ok [.ok (d.extract a (b + 1))], s)
    | none => (.error (.transport "range_fetch" 404), s)
  listMessages _ _ _ s := (.ok [], s)

theorem keepAllOrigin_stores :
    keepAllOrigin.Stores (fun _ => True) fun s id => (s[id]?).map (·.data.toList) where
  upload d s _ := ⟨_, _, rfl, trivial, rfl, by simp, fun id bytes h => by
    -- an earlier message lies below the new one
    obtain ⟨b, hb, rfl⟩ := Option.map_eq_some_iff.1 h
    have hid : id < s.size := (Array.getElem?_eq_some_iff.1 hb).1
    simp [Array.getElem?_push, hb, Nat.ne_of_lt hid]⟩
  fetch n a b s bytes _ hP hab hb := by
    obtain ⟨d, hd, rfl⟩ := Option.map_eq_some_iff.1 hP
    refine ⟨_, s, by simp [keepAllOrigin, hd], trivial, rfl, [d.extract a (b + 1)], rfl, ?_⟩
    simp [ByteArray.data_extract, Array.toList_extract, List.extract_eq_take_drop]
  list _ _ _ _ _ := ⟨trivial, rfl⟩

/-- Six bytes written in two pieces to a store that writes concurrently in chunks of four, kept
by the keep-all origin. -/
theorem store_round_trip_keepAll :
    let store : Store (Array ByteArray) :=
      { origin := #[], options := { chunkSize := 4, asyncWrite := true, uploadConcurrency := 2 } }
    let ds : List ByteArray := [⟨#[1, 2, 3, 4, 5]⟩, ⟨#[6]⟩]
    let payload := fun (s : Array ByteArray) (id : Nat) => (s[id]?).map (·.data.toList)
    keepAllOrigin.Stores (fun _ => True) payload ∧ True ∧
    (ds.map (·.data.toList)).flatten.length < wordRange ∧
    let D := (ds.map (·.data.toList)).flatten
    ∃ w s, ChunkWriter.writeAll keepAllOrigin ds store.writer store.origin =
        (ds.map fun d => .ok d.size, w, s) ∧
      ∃ w' s', w.close keepAllOrigin s = (.ok (), w', s') ∧
        let nodes := (w'.sent.toList.mergeSort fun a b => a.sequence ≤ b.sequence).map (·.node)
        (∀ o, o ≤ D.length → ∃ r, store.newReader nodes o = .ok r ∧
          ∀ (fuel : Nat) (s₁ : Array ByteArray), True → payload s₁ = payload s' →
            D.length - o < fuel →
            ∃ out r' s₂, Cli.readToEnd keepAllOrigin fuel r s₁ .empty = (out, none, r', s₂) ∧
              out.data.toList = D.drop o) ∧
        (∀ o, D.length < o → store.newReader nodes o = .error (.invalidOffset o D.length)) ∧
        (∀ (store₁ : Store (Array ByteArray)) (fileId : String) (now : Int) (k : Nat)
            (nodes' : Array Node) (store₂ : Store (Array ByteArray)), True →
          payload store₁.origin = payload s' →
          store₁.updateNodes keepAllOrigin fileId nodes.toArray now = (.ok k, nodes', store₂) →
          True ∧ payload store₂.origin = payload s' ∧
          ∀ o, o ≤ D.length → ∃ r, store₂.newReader nodes'.toList o = .ok r ∧
            ∀ (fuel : Nat) (s₁ : Array ByteArray), True → payload s₁ = payload s' →
              D.length - o < fuel →
              ∃ out r' s₂, Cli.readToEnd keepAllOrigin fuel r s₁ .empty = (out, none, r', s₂) ∧
                out.data.toList = D.drop o) := by
  intro store ds payload
  exact ⟨keepAllOrigin_stores, trivial, by decide,
    store_round_trip keepAllOrigin keepAllOrigin_stores store trivial ds (by decide)⟩

end ChunkStore
