import ChunkStore.Proofs.RecordCodecs
import ChunkStore.Proofs.FormCodec
import ChunkStore.Proofs.Renewal
import ChunkStore.Cli.Commands
import Mathlib.Algebra.GroupWithZero.Nat
/-!
# The manifest commands

`put` copies a file into a store's writer, closes it and writes the manifest assembled from the
uploads; `refresh` renews the lapsed records of a manifest and rewrites its file when any was
renewed; `get` makes the same renewal, then streams the file from an offset.

Whatever the transport does, `put` writes its manifest or nothing, and never a manifest whose
size is not the number of bytes read (`put_writes_manifest_or_nothing`). Over a transport that
stores payloads (`Transport.Stores`) it succeeds, and the manifest's records are the uploaded
chunks in sequence order, storing the file (`put_stores_file`). Manifests are written and read
through a JSON library; through a lawful one a saved manifest reads back from its file
(`readManifest_manifestBytes`), so both later commands renew exactly its records, under
its path, and write it back with the renewed records exactly when the renewal counts one
(`renewalWrites`). `get` then outputs the stored file from every offset up to its size, and
refuses every offset past it before it creates the output file (`get_reads_stored_file`). The
main statement is `manifest_commands_lifecycle`.
-/

namespace ChunkStore

variable {σ : Type}

/-! ## Records, renewals and readers -/

theorem totalSize_eq_sum (nodes : List Node) : totalSize nodes = (nodes.map (·.size)).sum := by
  induction nodes with
  | nil => rfl
  | cons n ns ih => simp [ih]

theorem StoresFile.chunkTotal_eq {P : Nat → Option (List UInt8)} {nodes : List Node}
    {D : List UInt8} (h : StoresFile P nodes D) (hD : D.length < wordRange) :
    chunkTotal nodes = D.length := by
  rw [ChunkStore.chunkTotal_eq, ← totalSize_eq_sum, h.totalSize_eq]
  exact Nat.mod_eq_of_lt hD

section Renewals

variable {t : Transport σ} {store store' : Store σ} {path : String} {now : Int} {k : Nat}
  {nodes : Array Node}

theorem Store.updateNodes_eq_ok {given : Array Node}
    (h : store.updateNodes t path given now = (.ok k, nodes, store')) :
    refreshExpired t given now store.origin = (.ok k, nodes, store'.origin) := by
  unfold Store.updateNodes at h
  split at h
  · simp at h
  · generalize hr : refreshExpired t given now store.origin = res at h
    obtain ⟨out, nodes₁, origin⟩ := res
    simp only [Prod.mk.injEq] at h
    obtain ⟨rfl, rfl, rfl⟩ := h
    rfl

theorem Store.updateNodes_renews {ns : List Node}
    (h : store.updateNodes t path ns.toArray now = (.ok k, nodes, store')) :
    ∃ msgs : List Message, nodes.toList = ns.map (renewNode msgs now) ∧
      k = ns.countP (renews msgs now) := by
  obtain ⟨listed, s₁, -, hnodes, hok, -, -⟩ := refreshExpired_spec t ns.toArray now store.origin
  rw [Store.updateNodes_eq_ok h] at hnodes hok
  dsimp only at hnodes hok
  refine ⟨listedMessages listed, ?_, ?_⟩
  · rw [hnodes, Array.toList_map, List.toList_toArray]
  · simpa using (hok k rfl).1

end Renewals

theorem ChunkReader.closed_consume (r : ChunkReader) (items : ByteStream) (pending : ByteArray)
    (remaining len : Nat) : (r.consume items pending remaining len).2.closed = r.closed := by
  unfold ChunkReader.consume
  split <;> rfl

/-- A read leaves the reader as open as it was. -/
theorem ChunkReader.closed_read (t : Transport σ) (r : ChunkReader) (len : Nat) (s : σ) :
    (r.read t len s).2.1.closed = r.closed := by
  unfold ChunkReader.read
  split
  · rfl
  · split
    · rfl
    · split
      · exact ChunkReader.closed_consume ..
      · split
        · rfl
        · dsimp only
          split
          · rfl
          · exact ChunkReader.closed_consume ..

namespace Cli

/-! ## Copying a file -/

/-- A copy with fuel for every piece that ends well reports the array's size, whatever each write
reported: each piece moves the copy on by the piece's own size. -/
theorem copyFrom_eq_ok_size (t : Transport σ) (data : ByteArray) :
    ∀ (fuel start : Nat) {w : ChunkWriter} {s : σ} {n : Nat} {w' : ChunkWriter} {s' : σ},
      start ≤ data.size → data.size - start ≤ ChunkWriter.copyBufferSize * fuel →
      ChunkWriter.copyFrom t data fuel start w s = (.ok n, w', s') → n = data.size
  | 0, start, w, s, n, w', s', hle, hfuel, h => by
    simp only [ChunkWriter.copyFrom, Prod.mk.injEq, Outcome.ok.injEq] at h
    omega
  | fuel + 1, start, w, s, n, w', s', hle, hfuel, h => by
    by_cases hend : start ≥ data.size
    · simp only [ChunkWriter.copyFrom, if_pos hend, Prod.mk.injEq, Outcome.ok.injEq] at h
      omega
    · simp only [ChunkWriter.copyFrom, if_neg hend] at h
      have hsize : (data.extract start (start + ChunkWriter.copyBufferSize)).size =
          min ChunkWriter.copyBufferSize (data.size - start) := by
        simp only [ByteArray.size_extract]
        omega
      split at h
      · rw [hsize] at h
        refine copyFrom_eq_ok_size t data fuel _ (by omega) ?_ h
        rw [Nat.mul_succ] at hfuel
        simp only [ChunkWriter.copyBufferSize] at hfuel ⊢
        omega
      · simp at h
      · simp at h

theorem copy_fuel (data : ByteArray) :
    data.size ≤ ChunkWriter.copyBufferSize * (data.size / ChunkWriter.copyBufferSize + 2) := by
  simp only [ChunkWriter.copyBufferSize]
  omega

/-! ## `put` -/

/-- **`put` writes its manifest or nothing.** Whatever the transport does, `put` either stops
before writing any file, or writes one file, at the manifest's path: the manifest assembled from
uploads under the given or the file's name, whose size is the number of bytes read from the
file. -/
theorem put_writes_manifest_or_nothing (J : JsonCodec) (t : Transport σ) (store : Store σ) (files : Files)
    (file manifestPath : String) (name : Option String) :
    (∃ stop, put J t store files file manifestPath name = stopped stop) ∨
      ∃ nm data us m, (name <|> fileName file) = some nm ∧ files.get? file = some data ∧
        Manifest.fromUploads nm us = .ok m ∧ m.size = data.size ∧
        put J t store files file manifestPath name =
          { writes := [(manifestPath, manifestBytes J m)] } := by
  unfold put
  split
  · exact .inl ⟨_, rfl⟩
  · next nm hname =>
    split
    · exact .inl ⟨_, rfl⟩
    · next data hdata =>
      dsimp only
      split
      · exact .inl ⟨_, rfl⟩
      · exact .inl ⟨_, rfl⟩
      · next copied w origin hcopy =>
        split
        · exact .inl ⟨_, rfl⟩
        · exact .inl ⟨_, rfl⟩
        · next w' origin' hclose =>
          split
          · exact .inl ⟨_, rfl⟩
          · next m hm =>
            -- the copy took the whole file, so a manifest of another size is refused
            have hcopied : copied = data.size :=
              copyFrom_eq_ok_size t data _ 0 (Nat.zero_le _) (copy_fuel data) hcopy
            by_cases hsize : m.size ≠ copied
            · exact .inl ⟨_, if_pos hsize⟩
            · exact .inr ⟨nm, data, _, m, hname, hdata, hm, by omega, if_neg hsize⟩

/-- **Over a transport that stores payloads, `put` stores the file and writes its manifest.** A
file of fewer than `2^64` bytes is copied into the store's writer in full and the writer closes;
`put` then writes one file at the manifest's path: the manifest under the given or the file's
name, of the file's size, whose records are the uploaded chunks in sequence order. Those records
store the file's bytes. -/
theorem put_stores_file {J : JsonCodec} {t : Transport σ} {inv : σ → Prop}
    {payload : σ → Nat → Option (List UInt8)} (hst : t.Stores inv payload) {store : Store σ}
    (hs : inv store.origin) {files : Files} {file : String} {name : Option String} {nm : String}
    {data : ByteArray} (hname : (name <|> fileName file) = some nm)
    (hdata : files.get? file = some data) (hsize : data.size < wordRange) (manifestPath : String) :
    ∃ w s w' s', ChunkWriter.copyFrom t data (data.size / ChunkWriter.copyBufferSize + 2) 0
        store.writer store.origin = (.ok data.size, w, s) ∧
      w.close t s = (.ok (), w', s') ∧ inv s' ∧
      let nodes := (w'.sent.toList.mergeSort fun a b => a.sequence ≤ b.sequence).map (·.node)
      StoresFile (payload s') nodes data.data.toList ∧
      put J t store files file manifestPath name =
        { writes := [(manifestPath, manifestBytes J ⟨nm, data.size, nodes⟩)] } := by
  obtain ⟨w, s, hcopy, w', s', hclose, hinv, hseq, hfile⟩ :=
    Store.writer_stores hst store hs (scriptTakes_copyFrom t data (copy_fuel data))
  refine ⟨w, s, w', s', hcopy, hclose, hinv, ?_⟩
  intro nodes
  -- the records add up to the file's size, which assembly takes as the manifest's
  have htotal : chunkTotal nodes = data.size := hfile.chunkTotal_eq hsize
  have hm : Manifest.fromUploads nm w'.sent.toList = .ok ⟨nm, data.size, nodes⟩ :=
    fromUploads_eq_ok_iff_check.2
      ⟨(checkSequence_eq_ok_iff 0 _).2 (map_sequence_sorted_iff.2 hseq), by rw [← htotal]⟩
  refine ⟨hfile, ?_⟩
  simp only [put, hname, hdata, hcopy, hclose, hm]
  exact if_neg (not_not.2 rfl)

/-! ## Renewing a saved manifest -/

/-- A saved manifest reads back from its file, when its records' numbers fit their fields and
its size is its chunks' total. -/
theorem readManifest_manifestBytes {J : JsonCodec} (hJ : J.Lawful) {files : Files} {path : String}
    {m : Manifest} (h : files.get? path = some (manifestBytes J m)) (hnodes : ∀ n ∈ m.nodes, n.InRange)
    (hsize : m.size = chunkTotal m.nodes) : readManifest J files path = .ok m := by
  simp only [readManifest, h, manifestBytes, decodeLossy_toUTF8,
    Manifest.loadWith_saveText hJ path hnodes hsize]

/-- What a renewal of manifest `m` at `path` leaves to write: the manifest with the renewed
records, when the renewal counts any record rewritten, and nothing otherwise. -/
def renewalWrites (J : JsonCodec) (path : String) (m : Manifest) (rewritten : Nat) (nodes : Array Node) :
    List (String × ByteArray) :=
  if rewritten > 0 then [(path, manifestBytes J { m with nodes := nodes.toList })] else []

section Renewing

variable {J : JsonCodec} {t : Transport σ} {store store' : Store σ} {files : Files} {path : String}
  {now : Int} {m : Manifest} {k : Nat} {nodes : Array Node}

theorem refreshManifest_eq_ok (hm : readManifest J files path = .ok m)
    (hu : store.updateNodes t path m.nodes.toArray now = (.ok k, nodes, store')) :
    refreshManifest J t store files path now =
      .ok ⟨{ m with nodes := nodes.toList }, k, renewalWrites J path m k nodes, store'⟩ := by
  simp only [refreshManifest, hm, bind, Except.bind, hu, pure, Except.pure, renewalWrites]

theorem refreshManifest_eq_error (hm : readManifest J files path = .ok m)
    (hu : ∀ k nodes store', store.updateNodes t path m.nodes.toArray now ≠ (.ok k, nodes, store')) :
    ∃ stop, refreshManifest J t store files path now = .error stop := by
  simp only [refreshManifest, hm, bind, Except.bind]
  split
  · exact ⟨_, rfl⟩
  · exact ⟨_, rfl⟩
  · next k nodes store' heq => exact absurd heq (hu k nodes store')

theorem refresh_eq_ok (hm : readManifest J files path = .ok m)
    (hu : store.updateNodes t path m.nodes.toArray now = (.ok k, nodes, store')) :
    (refresh J t store files path now).writes = renewalWrites J path m k nodes ∧
      (refresh J t store files path now).stop = none := by
  simp [refresh, refreshManifest_eq_ok hm hu]

end Renewing

/-! ## Reading the file -/

/-- Reading to the end leaves the reader as open as it was. -/
theorem readToEnd_closed (t : Transport σ) :
    ∀ (fuel : Nat) (r : ChunkReader) (s : σ) (acc : ByteArray),
      (readToEnd t fuel r s acc).2.2.1.closed = r.closed
  | 0, _, _, _ => rfl
  | fuel + 1, r, s, acc => by
    have hread := ChunkReader.closed_read t r downloadBufferSize s
    simp only [readToEnd]
    split
    · next e r' s' heq =>
      rw [heq] at hread
      exact hread
    · next bytes r' s' heq =>
      rw [heq] at hread
      split
      · exact hread
      · rw [readToEnd_closed t fuel r' s' _]
        exact hread

section Getting

variable {J : JsonCodec} {t : Transport σ} {inv : σ → Prop}
  {payload : σ → Nat → Option (List UInt8)} {store store' : Store σ} {files : Files} {path : String} {now : Int} {m : Manifest} {k : Nat}
  {nodes : Array Node}

/-- **`get` outputs the stored file from every offset up to its size, and refuses every offset
past it before it creates the output file.** Given a manifest read from its file whose records
store `D`, and a renewal of its records under its path that counts `k` rewritten, `get` writes
what the renewal leaves; then from `o ≤ |D|` it outputs `D` from `o` on, to standard output or
as the output file, and from `o > |D|` it writes nothing more and fails, naming the offset and
`|D|`. -/
theorem get_reads_stored_file (hst : t.Stores inv payload) (hs : inv store.origin)
    (hm : readManifest J files path = .ok m) {D : List UInt8}
    (hfile : StoresFile (payload store.origin) m.nodes D) (hD : D.length < wordRange)
    (hu : store.updateNodes t path m.nodes.toArray now = (.ok k, nodes, store')) :
    (∀ o, o ≤ D.length → ∃ bytes : ByteArray, bytes.data.toList = D.drop o ∧
      get J t store files path o none now =
        { writes := renewalWrites J path m k nodes, stdout := bytes } ∧
      ∀ out, get J t store files path o (some out) now =
        { writes := renewalWrites J path m k nodes ++ [(out, bytes)] }) ∧
    (∀ o output, D.length < o → get J t store files path o output now =
      { writes := renewalWrites J path m k nodes,
        stop := some (.failed (storageChain s!"cannot read {m.name} from offset {o}"
          (.invalidOffset o D.length))) }) := by
  obtain ⟨hkeys, hs', hp'⟩ := Store.updateNodes_keys hst hs hu
  -- the renewed records store the same bytes, in the renewed origin
  have hfile' : StoresFile (payload store'.origin) nodes.toList D := by
    rw [hp']
    exact hfile.of_keys (by rw [hkeys, List.toList_toArray])
  have htotal := hfile'.totalSize_eq
  refine ⟨fun o ho => ?_, fun o output ho => ?_⟩
  · obtain ⟨r, hnew, hread⟩ := (reads_stored_file hst hfile' hD).1 o ho
    have hr₀ : r = ⟨Layout.laidOut nodes.toList, o, .idle, false⟩ :=
      Except.ok.inj (hnew.symm.trans
        (ChunkReader.new_eq (by rw [htotal]; exact hD) (by rw [htotal]; exact ho)))
    have hsize : r.size = D.length := by
      rw [hr₀, ← htotal]
      rfl
    obtain ⟨out, r', s', hrun, hout⟩ := hread (r.size + 2) store'.origin hs' rfl (by omega)
    -- reading to the end leaves the reader open, so it closes
    have hopen : r'.closed = false := by
      have h := readToEnd_closed t (r.size + 2) r store'.origin .empty
      rw [hrun, hr₀] at h
      exact h
    refine ⟨out, hout, ?_, fun p => ?_⟩
    · simp only [get, refreshManifest_eq_ok hm hu, Store.newReader, hnew, hrun, ChunkReader.close,
        hopen, Bool.false_eq_true, if_false]
    · simp only [get, refreshManifest_eq_ok hm hu, Store.newReader, hnew, hrun, ChunkReader.close,
        hopen, Bool.false_eq_true, if_false]
  · have hnew := ChunkReader.new_eq_error (by rw [htotal]; exact hD) (by rw [htotal]; exact ho)
    rw [htotal] at hnew
    simp only [get, refreshManifest_eq_ok hm hu, Store.newReader, hnew]

end Getting

/-! ## The lifecycle of a manifest -/

/-- **The manifest commands store a file and give it back.** With manifests written and read
through a lawful JSON library, over a transport that stores payloads:

* `put` of a file of fewer than `2^64` bytes, from a state where `inv` holds, copies the whole
  file into the store's writer, whichever writer the store's options choose, closes it, and
  writes one file: the manifest at its path, named by `--name` or by the file's name, of the
  file's size, whose records are the uploaded chunks in sequence order and store the file;
* whatever happens on the way, `put` writes that manifest or nothing, and never a manifest whose
  size is not the number of bytes read;
* `refresh` and `get` of a saved manifest whose records store bytes `D` renew its records under
  the manifest's path. A renewal that does not succeed stops both before they write anything.
  One that counts `k` records rewritten gives each record its renewal from the messages listed,
  keeping its message and size, and both commands write the manifest back with the renewed
  records exactly when `0 < k`; `get` from an offset `o ≤ |D|` then outputs `D` from `o` on, to
  standard output or as the output file, and from `o > |D|` fails, naming the offset and `|D|`,
  without creating the output file. -/
theorem manifest_commands_lifecycle (J : JsonCodec) (hJ : J.Lawful) (t : Transport σ)
    {inv : σ → Prop} {payload : σ → Nat → Option (List UInt8)} (hst : t.Stores inv payload) :
    (∀ (store : Store σ) (files : Files) (file manifestPath nm : String) (name : Option String)
        (data : ByteArray), inv store.origin → (name <|> fileName file) = some nm →
        files.get? file = some data → data.size < wordRange →
      ∃ w s w' s', ChunkWriter.copyFrom t data (data.size / ChunkWriter.copyBufferSize + 2) 0
          store.writer store.origin = (.ok data.size, w, s) ∧
        w.close t s = (.ok (), w', s') ∧ inv s' ∧
        let nodes := (w'.sent.toList.mergeSort fun a b => a.sequence ≤ b.sequence).map (·.node)
        StoresFile (payload s') nodes data.data.toList ∧
        put J t store files file manifestPath name =
          { writes := [(manifestPath, manifestBytes J ⟨nm, data.size, nodes⟩)] }) ∧
    (∀ (store : Store σ) (files : Files) (file manifestPath : String) (name : Option String),
      (∃ stop, put J t store files file manifestPath name = stopped stop) ∨
        ∃ nm data us m, (name <|> fileName file) = some nm ∧ files.get? file = some data ∧
          Manifest.fromUploads nm us = .ok m ∧ m.size = data.size ∧
          put J t store files file manifestPath name =
            { writes := [(manifestPath, manifestBytes J m)] }) ∧
    (∀ (store : Store σ) (files : Files) (path : String) (m : Manifest) (D : List UInt8)
        (now : Int), inv store.origin → files.get? path = some (manifestBytes J m) →
        (∀ n ∈ m.nodes, n.InRange) → m.size = D.length →
        StoresFile (payload store.origin) m.nodes D → D.length < wordRange →
      ((∀ k nodes store', store.updateNodes t path m.nodes.toArray now ≠ (.ok k, nodes, store')) →
        ∃ stop, refresh J t store files path now = stopped stop ∧
          ∀ o output, get J t store files path o output now = stopped stop) ∧
      ∀ k nodes store', store.updateNodes t path m.nodes.toArray now = (.ok k, nodes, store') →
        nodes.toList.map chunkKey = m.nodes.map chunkKey ∧
        (∃ msgs : List Message, nodes.toList = m.nodes.map (renewNode msgs now) ∧
          k = m.nodes.countP (renews msgs now)) ∧
        (refresh J t store files path now).writes = renewalWrites J path m k nodes ∧
        (refresh J t store files path now).stop = none ∧
        (∀ o, o ≤ D.length → ∃ bytes : ByteArray, bytes.data.toList = D.drop o ∧
          get J t store files path o none now =
            { writes := renewalWrites J path m k nodes, stdout := bytes } ∧
          ∀ out, get J t store files path o (some out) now =
            { writes := renewalWrites J path m k nodes ++ [(out, bytes)] }) ∧
        ∀ o output, D.length < o → get J t store files path o output now =
          { writes := renewalWrites J path m k nodes,
            stop := some (.failed (storageChain s!"cannot read {m.name} from offset {o}"
              (.invalidOffset o D.length))) }) := by
  refine ⟨fun store files file manifestPath nm name data hs hname hdata hsize =>
      put_stores_file hst hs hname hdata hsize manifestPath, put_writes_manifest_or_nothing J t,
    fun store files path m D now hs hfile hnodes hsize hstored hD => ?_⟩
  -- the saved manifest reads back, so both commands renew exactly its records
  have hm : readManifest J files path = .ok m :=
    readManifest_manifestBytes hJ hfile hnodes (by rw [hsize, hstored.chunkTotal_eq hD])
  refine ⟨fun hfail => ?_, fun k nodes store' hu => ?_⟩
  · obtain ⟨stop, hstop⟩ := refreshManifest_eq_error hm hfail
    exact ⟨stop, by simp [refresh, hstop], fun o output => by simp [get, hstop]⟩
  · obtain ⟨hkeys, -, -⟩ := Store.updateNodes_keys hst hs hu
    obtain ⟨hwrites, hstop⟩ := refresh_eq_ok hm hu
    exact ⟨by simpa using hkeys, Store.updateNodes_renews hu, hwrites, hstop,
      get_reads_stored_file hst hs hm hstored hD hu⟩

/-- A six-byte file put into a store that writes concurrently in chunks of four, over the
keep-all origin, with the JSON library the program runs with. -/
theorem manifest_commands_lifecycle_keepAll :
    let store : Store (Array ByteArray) :=
      { origin := #[], options := { chunkSize := 4, asyncWrite := true, uploadConcurrency := 2 } }
    let data : ByteArray := ⟨#[1, 2, 3, 4, 5, 6]⟩
    let payload := fun (s : Array ByteArray) (id : Nat) => (s[id]?).map (·.data.toList)
    Json.library.Lawful ∧ keepAllOrigin.Stores (fun _ => True) payload ∧
    ∃ w s w' s', ChunkWriter.copyFrom keepAllOrigin data
        (data.size / ChunkWriter.copyBufferSize + 2) 0 store.writer store.origin =
        (.ok data.size, w, s) ∧
      w.close keepAllOrigin s = (.ok (), w', s') ∧ True ∧
      let nodes := (w'.sent.toList.mergeSort fun a b => a.sequence ≤ b.sequence).map (·.node)
      StoresFile (payload s') nodes data.data.toList ∧
      put Json.library keepAllOrigin store [("data/six.bin", data)] "data/six.bin" "six.json"
          (some "six") =
        { writes := [("six.json", manifestBytes Json.library ⟨"six", data.size, nodes⟩)] } := by
  intro store data payload
  exact ⟨Json.library_lawful, keepAllOrigin_stores,
    (manifest_commands_lifecycle Json.library Json.library_lawful keepAllOrigin
      keepAllOrigin_stores).1
    store [("data/six.bin", data)] "data/six.bin" "six.json" "six" (some "six") data trivial
    rfl rfl (by decide)⟩

end Cli

end ChunkStore
