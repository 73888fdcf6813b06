import ChunkStore.Proofs.RoundTrip
import Mathlib.Algebra.Group.Nat.Defs
import Mathlib.Algebra.GroupWithZero.Nat
/-!
# Assembling and loading a manifest

A manifest is assembled from the stored chunks a writer reports, in whatever order they came.
Sorted by sequence number they must be numbered `0, 1, …`: the check walks the sorted list and
reports the first place whose number differs from it (`checkSequence`). The manifest's size is
the chunks' total, and loading a saved manifest checks its declared size against its chunks.

Both totals are kept modulo `2^64` (`chunkTotal_eq`). Assembly succeeds exactly when the numbers
are `0, …, n - 1` in some order, each chunk record then standing at its own number
(`fromUploads_eq_ok_iff`). A failed assembly reports the first number `k` at which the numbers
stop (`StopsAt`): every chunk below `k` is present, and `k` is missing or follows a repeated
chunk (`fromUploads_eq_error`). Loading accepts a decoded manifest exactly when its declared
size is its chunks' total modulo `2^64` (`load_eq_ok_iff`). The main statement is
`manifest_assembly_checks_sequence`; `manifest_assembly_reports_present_chunk` shows a report
that names a chunk some upload carries, and a total that wraps to 0.
-/

namespace ChunkStore

/-! ## The total of the chunk sizes -/

theorem foldl_chunkTotal (nodes : List Node) (a : Nat) :
    nodes.foldl (fun acc n => (acc + n.size) % Nat.pow 2 64) (a % Nat.pow 2 64) =
      (a + (nodes.map (·.size)).sum) % Nat.pow 2 64 := by
  induction nodes generalizing a with
  | nil => simp
  | cons n rest ih =>
    rw [List.foldl_cons, Nat.mod_add_mod, ih, List.map_cons, List.sum_cons, Nat.add_assoc]

theorem chunkTotal_eq (nodes : List Node) :
    chunkTotal nodes = (nodes.map (·.size)).sum % 2 ^ 64 := by
  rw [chunkTotal, ← Nat.zero_mod (Nat.pow 2 64), foldl_chunkTotal, Nat.zero_add]
  rfl

/-! ## The sequence check -/

/-- Where the sequence check over the numbers `seqs` stops, read off the numbers themselves:
every chunk below `k` is present, and `k` is missing or comes right after a repeated chunk. -/
def StopsAt (seqs : List Nat) (k : Nat) : Prop :=
  (∀ i < k, i ∈ seqs) ∧ (k ∉ seqs ∨ (0 < k ∧ 2 ≤ seqs.count (k - 1)))

instance (seqs : List Nat) (k : Nat) : Decidable (StopsAt seqs k) :=
  inferInstanceAs (Decidable (_ ∧ _))

theorem StopsAt.perm_iff {l₁ l₂ : List Nat} (h : l₁.Perm l₂) (k : Nat) :
    StopsAt l₁ k ↔ StopsAt l₂ k := by
  simp only [StopsAt, h.mem_iff, h.count_eq]

/-- Ascending numbers that run `0, …, k - 1` and then go on with `x ≠ k` stop at `k`, and at no
number below it. -/
theorem stopsAt_of_ascending {k x : Nat} {rest : List Nat}
    (hsorted : (List.range k ++ x :: rest).Pairwise (· ≤ ·)) (hne : x ≠ k) :
    StopsAt (List.range k ++ x :: rest) k ∧ ∀ j < k, ¬StopsAt (List.range k ++ x :: rest) j := by
  obtain ⟨-, hrest, hbelow⟩ := List.pairwise_append.1 hsorted
  -- every number after the run is at least each number of the run
  have hge : ∀ b ∈ x :: rest, ∀ a < k, a ≤ b := fun b hb a ha =>
    hbelow a (List.mem_range.2 ha) b hb
  have hx : ∀ b ∈ rest, x ≤ b := (List.pairwise_cons.1 hrest).1
  refine ⟨⟨fun i hi => List.mem_append_left _ (List.mem_range.2 hi), ?_⟩, ?_⟩
  · by_cases hk : k ∈ x :: rest
    · -- `k` comes later, so `x` lies between `k - 1` and `k`: it repeats `k - 1`
      have hxk : x ≤ k := by
        rcases List.mem_cons.1 hk with h | h
        · exact absurd h.symm hne
        · exact hx k h
      have hpos : 0 < k := by omega
      have hxprev : x = k - 1 := by
        have := hge x List.mem_cons_self (k - 1) (by omega)
        omega
      refine .inr ⟨hpos, ?_⟩
      rw [List.count_append, List.count_range, if_pos (by omega), hxprev, List.count_cons_self]
      omega
    · refine .inl fun hmem => ?_
      rcases List.mem_append.1 hmem with h | h
      · exact absurd (List.mem_range.1 h) (Nat.lt_irrefl k)
      · exact hk h
  · rintro j hj ⟨-, hstop⟩
    rcases hstop with hout | ⟨hpos, hrep⟩
    · exact hout (List.mem_append_left _ (List.mem_range.2 hj))
    · -- `j - 1` stands once in the run and is below everything after it
      have hnone : (x :: rest).count (j - 1) = 0 :=
        List.count_eq_zero.2 fun hmem => by
          have := hge _ hmem (k - 1) (by omega)
          omega
      rw [List.count_append, List.count_range, if_pos (by omega), hnone] at hrep
      omega

example : StopsAt [0, 0, 1] 1 ∧ ¬StopsAt [0, 0, 1] 0 := by decide

/-- The check passes exactly when the numbers run `s, s + 1, …`. -/
theorem checkSequence_eq_ok_iff (s : Nat) (l : List ChunkUpload) :
    checkSequence s l = .ok () ↔ l.map (·.sequence) = List.range' s l.length := by
  induction l generalizing s with
  | nil => simp [checkSequence]
  | cons u rest ih =>
    rw [checkSequence, List.map_cons, List.length_cons, List.range'_succ, List.cons.injEq]
    split
    case isTrue hu => rw [ih]; simp [hu]
    case isFalse hu => simp [hu]

/-- A failed check names the first place `s + k` whose number differs: the numbers before it
run `s, …, s + k - 1`, and the one there is not `s + k`. -/
theorem checkSequence_eq_error {s : Nat} {l : List ChunkUpload} {e : ManifestError}
    (h : checkSequence s l = .error e) :
    ∃ k u, e = .missingChunk (s + k) ∧ (l.take k).map (·.sequence) = List.range' s k ∧
      l[k]? = some u ∧ u.sequence ≠ s + k := by
  induction l generalizing s with
  | nil => simp [checkSequence] at h
  | cons u rest ih =>
    rw [checkSequence] at h
    split at h
    case isTrue hu =>
      obtain ⟨k, v, rfl, htake, hv, hne⟩ := ih h
      refine ⟨k + 1, v, by rw [Nat.add_right_comm, Nat.add_assoc], ?_, hv, by omega⟩
      rw [List.take_succ_cons, List.map_cons, htake, hu, List.range'_succ]
    case isFalse hu =>
      cases h
      exact ⟨0, u, rfl, rfl, rfl, hu⟩

/-! ## Assembly -/

section Assembly

variable {name : String} {us : List ChunkUpload}

/-- Assembly checks the uploads sorted by sequence number and lists their records in that
order. -/
theorem fromUploads_eq_ok_iff_check {m : Manifest} :
    Manifest.fromUploads name us = .ok m ↔
      checkSequence 0 (us.mergeSort fun a b => a.sequence ≤ b.sequence) = .ok () ∧
        m = { name,
              size := chunkTotal ((us.mergeSort fun a b => a.sequence ≤ b.sequence).map (·.node)),
              nodes := (us.mergeSort fun a b => a.sequence ≤ b.sequence).map (·.node) } := by
  simp only [Manifest.fromUploads]
  cases checkSequence 0 (us.mergeSort fun a b => a.sequence ≤ b.sequence) with
  | error e => simp [bind, Except.bind]
  | ok u => simp [bind, Except.bind, pure, Except.pure, eq_comm]

theorem fromUploads_eq_error_iff_check {e : ManifestError} :
    Manifest.fromUploads name us = .error e ↔
      checkSequence 0 (us.mergeSort fun a b => a.sequence ≤ b.sequence) = .error e := by
  simp only [Manifest.fromUploads]
  cases checkSequence 0 (us.mergeSort fun a b => a.sequence ≤ b.sequence) with
  | error e => simp [bind, Except.bind]
  | ok u => simp [bind, Except.bind, pure, Except.pure]

theorem getElem?_sequence {l : List ChunkUpload}
    (h : l.map (·.sequence) = List.range l.length) {u : ChunkUpload} (hu : u ∈ l) :
    l[u.sequence]? = some u := by
  obtain ⟨j, hj, rfl⟩ := List.getElem_of_mem hu
  have hseq : l[j].sequence = j := by
    have := congrArg (·[j]?) h
    simp only [List.getElem?_map, List.getElem?_eq_getElem hj, List.getElem?_range hj,
      Option.map_some, Option.some.injEq] at this
    exact this
  rw [hseq, List.getElem?_eq_getElem hj]

theorem map_sequence_sorted_iff :
    (us.mergeSort fun a b => a.sequence ≤ b.sequence).map (·.sequence) =
        List.range' 0 (us.mergeSort fun a b => a.sequence ≤ b.sequence).length ↔
      (us.map (·.sequence)).Perm (List.range us.length) := by
  have hperm := List.mergeSort_perm us fun a b => a.sequence ≤ b.sequence
  rw [hperm.length_eq, ← List.range_eq_range']
  constructor
  · intro h
    exact h ▸ (hperm.map _).symm
  · exact map_sequence_mergeSort

/-- **Assembly succeeds exactly when the uploads are numbered `0, …, n - 1` in some order.** The
manifest then has the given name, the sizes' sum modulo `2^64` as its size, and each upload's
record at the upload's number. -/
theorem fromUploads_eq_ok_iff {m : Manifest} :
    Manifest.fromUploads name us = .ok m ↔
      (us.map (·.sequence)).Perm (List.range us.length) ∧ m.name = name ∧
        m.size = (us.map (·.node.size)).sum % 2 ^ 64 ∧ m.nodes.length = us.length ∧
        ∀ u ∈ us, m.nodes[u.sequence]? = some u.node := by
  have hperm := List.mergeSort_perm us fun a b => a.sequence ≤ b.sequence
  rw [fromUploads_eq_ok_iff_check, checkSequence_eq_ok_iff, map_sequence_sorted_iff]
  -- the sorted uploads hold each upload at its number, and sum to the uploads' total
  have hsize : chunkTotal ((us.mergeSort fun a b => a.sequence ≤ b.sequence).map (·.node)) =
      (us.map (·.node.size)).sum % 2 ^ 64 := by
    rw [chunkTotal_eq, List.map_map, (hperm.map _).sum_nat]
    rfl
  have hat : (us.map (·.sequence)).Perm (List.range us.length) → ∀ u ∈ us,
      ((us.mergeSort fun a b => a.sequence ≤ b.sequence).map (·.node))[u.sequence]? =
        some u.node := fun hseq u hu => by
    have hsorted := map_sequence_mergeSort hseq
    rw [← hperm.length_eq] at hsorted
    rw [List.getElem?_map, getElem?_sequence hsorted (hperm.mem_iff.2 hu), Option.map_some]
  constructor
  · rintro ⟨hseq, rfl⟩
    exact ⟨hseq, rfl, hsize, by simp [hperm.length_eq], hat hseq⟩
  · rintro ⟨hseq, hname, hsz, hlen, hnodes⟩
    refine ⟨hseq, ?_⟩
    -- the records agree at every number: each number below `n` is some upload's
    have hnodes' : m.nodes = (us.mergeSort fun a b => a.sequence ≤ b.sequence).map (·.node) := by
      refine List.ext_getElem? fun i => ?_
      by_cases hi : i < us.length
      · obtain ⟨u, hu, rfl⟩ := List.mem_map.1 (hseq.mem_iff.2 (List.mem_range.2 hi))
        rw [hnodes u hu, hat hseq u hu]
      · rw [List.getElem?_eq_none (by omega), List.getElem?_eq_none (by simp [hperm.length_eq]; omega)]
    cases m
    simp only at hname hsz hnodes'
    rw [hname, hsz, hnodes', hsize]

/-- **A failed assembly reports the first number at which the uploads' numbers stop**: a chunk
below the uploads' count, all of whose predecessors are present, which no upload carries or
which follows a repeated chunk. -/
theorem fromUploads_eq_error {e : ManifestError} (h : Manifest.fromUploads name us = .error e) :
    ∃ k, e = .missingChunk k ∧ k < us.length ∧ StopsAt (us.map (·.sequence)) k ∧
      ∀ j < k, ¬StopsAt (us.map (·.sequence)) j := by
  have hperm := List.mergeSort_perm us fun a b => a.sequence ≤ b.sequence
  obtain ⟨k, v, rfl, htake, hv, hne⟩ := checkSequence_eq_error (fromUploads_eq_error_iff_check.1 h)
  obtain ⟨hk, rfl⟩ := List.getElem?_eq_some_iff.1 hv
  rw [Nat.zero_add] at hne ⊢
  -- the sorted numbers are the run `0, …, k - 1`, the number at `k`, and the rest
  have hsplit : (us.mergeSort fun a b => a.sequence ≤ b.sequence).map (·.sequence) =
      List.range k ++ (us.mergeSort fun a b => a.sequence ≤ b.sequence)[k].sequence ::
        (((us.mergeSort fun a b => a.sequence ≤ b.sequence).drop (k + 1)).map (·.sequence)) := by
    rw [List.range_eq_range', ← htake, ← List.map_cons, ← List.drop_eq_getElem_cons hk,
      ← List.map_append, List.take_append_drop]
  have hsorted : ((us.mergeSort fun a b => a.sequence ≤ b.sequence).map (·.sequence)).Pairwise
      (· ≤ ·) :=
    List.pairwise_map.2 ((List.pairwise_mergeSort (fun a b c hab hbc => by simp at *; omega)
      (fun a b => by simp; omega) us).imp fun h => by simpa using h)
  rw [hsplit] at hsorted
  obtain ⟨hstop, hfirst⟩ := stopsAt_of_ascending hsorted hne
  rw [← hsplit, StopsAt.perm_iff (hperm.map _)] at hstop
  refine ⟨k, rfl, by rwa [← hperm.length_eq], hstop, fun j hj => ?_⟩
  rw [← StopsAt.perm_iff (hperm.map _), hsplit]
  exact hfirst j hj

end Assembly

/-! ## Loading -/

/-- Loading through a JSON library accepts a manifest it reads exactly when the declared size is
the chunks' total modulo `2^64`. -/
theorem loadWith_eq_ok_iff {J : JsonCodec} {path text : String} {m : Manifest} :
    Manifest.loadWith J path text = .ok m ↔
      J.run (Json.Decode.manifestWith J) text = .ok m ∧
        (m.nodes.map (·.size)).sum % 2 ^ 64 = m.size := by
  unfold Manifest.loadWith
  cases J.run (Json.Decode.manifestWith J) text with
  | error e => simp [bind, Except.bind]
  | ok m' =>
    rw [← chunkTotal_eq]
    by_cases hsize : chunkTotal m'.nodes = m'.size
    · simp [bind, Except.bind, pure, Except.pure, hsize]
      rintro rfl
      exact hsize
    · simp [bind, Except.bind, pure, Except.pure, hsize, throw, throwThe, MonadExceptOf.throw]
      rintro rfl
      exact hsize

/-- **Loading accepts a decoded manifest exactly when its declared size is its chunks' total
modulo `2^64`.** -/
theorem load_eq_ok_iff {path text : String} {m : Manifest} :
    Manifest.load path text = .ok m ↔
      Json.Decode.run Json.Decode.manifest text = .ok m ∧
        (m.nodes.map (·.size)).sum % 2 ^ 64 = m.size :=
  loadWith_eq_ok_iff

/-- **What assembling and loading a manifest check.** Assembly succeeds exactly when the uploads
are numbered `0, …, n - 1` in some order, and the manifest then lists each upload's record at
its number, with the sizes' sum modulo `2^64` as its size. Otherwise it reports the first number
at which the numbers stop: below `n`, with every chunk before it present, and either carried by
no upload or following a repeated chunk. Loading accepts a decoded manifest exactly when its
chunks' total modulo `2^64` is its declared size. -/
theorem manifest_assembly_checks_sequence (name : String) (us : List ChunkUpload) :
    (∀ m, Manifest.fromUploads name us = .ok m ↔
      (us.map (·.sequence)).Perm (List.range us.length) ∧ m.name = name ∧
        m.size = (us.map (·.node.size)).sum % 2 ^ 64 ∧ m.nodes.length = us.length ∧
        ∀ u ∈ us, m.nodes[u.sequence]? = some u.node) ∧
    (∀ e, Manifest.fromUploads name us = .error e →
      ∃ k, e = .missingChunk k ∧ k < us.length ∧ StopsAt (us.map (·.sequence)) k ∧
        ∀ j < k, ¬StopsAt (us.map (·.sequence)) j) ∧
    ∀ path text m, Manifest.load path text = .ok m ↔
      Json.Decode.run Json.Decode.manifest text = .ok m ∧
        (m.nodes.map (·.size)).sum % 2 ^ 64 = m.size :=
  ⟨fun _ => fromUploads_eq_ok_iff, fun _ => fromUploads_eq_error, fun _ _ _ => load_eq_ok_iff⟩

/-- Two failures of the checks. Chunks numbered `0, 0, 1` are reported as missing chunk 1, which
the third upload carries; and chunks of `2^64 - 1` and `1` bytes make a manifest of size 0. -/
theorem manifest_assembly_reports_present_chunk :
    let node : Nat → Node := fun size => ⟨"https://cdn.test/attachments/1/1/blob", size, 1, 1, 0, "s"⟩
    Manifest.fromUploads "f" [⟨0, node 1⟩, ⟨0, node 1⟩, ⟨1, node 1⟩] = .error (.missingChunk 1) ∧
      Manifest.fromUploads "f" [⟨0, node 18446744073709551615⟩, ⟨1, node 1⟩] =
        .ok ⟨"f", 0, [node 18446744073709551615, node 1]⟩ := by
  dsimp only
  constructor
  · rw [fromUploads_eq_error_iff_check, List.mergeSort_of_pairwise (by decide)]
    rfl
  · rw [fromUploads_eq_ok_iff_check, List.mergeSort_of_pairwise (by decide)]
    exact ⟨rfl, rfl⟩

end ChunkStore
