import ChunkStore.Proofs.Cursor
/-!
# The offset table of a file

A reader lays the chunks of a file out one after another: chunk `i` starts at the sum of the
sizes before it, and the file's size is the sum of all of them, which must stay below `2^64`.
Building the table succeeds exactly when every running sum of the sizes stays below `2^64`; the
table then holds the running sums (`Layout.build_eq_ok_iff`, `Layout.laidOut_offsets`), and
otherwise the build names the first chunk that takes the sum past 64 bits
(`Layout.build_eq_error`).

Looking a position up in the table finds the one chunk whose bytes hold it (`chunkAt`): the last
chunk starting at or before the position, which is never an empty chunk, since an empty chunk
starts where the next one does. So the lookup finds chunk `i` exactly when `i` starts at or
before the position and ends after it (`Layout.locate_eq_some_iff`), and nothing exactly at or
past the end of the file. The count of offsets at or before a position inside the file is at
least one, the start of the chunk is at most the position and the chunk is not empty, so none of
the subtractions a read makes with them wraps. A reader can start anywhere up to the end of such
a file and nowhere else (`ChunkReader.new_eq_ok_iff`). The main statement is
`offset_table_locates_chunks`.
-/

namespace ChunkStore

/-! ## Running sums of the sizes -/

theorem totalSize_take_le (ns : List Node) (k : Nat) : totalSize (ns.take k) ≤ totalSize ns := by
  induction ns generalizing k with
  | nil => simp
  | cons m ms ih =>
    cases k with
    | zero => simp
    | succ k =>
      simp only [List.take_succ_cons, totalSize_cons]
      exact Nat.add_le_add_left (ih k) _

theorem totalSize_take_lt_iff (ns : List Node) (bound : Nat) :
    (∀ k, totalSize (ns.take k) < bound) ↔ totalSize ns < bound := by
  constructor
  · intro h
    simpa using h ns.length
  · intro h k
    exact Nat.lt_of_le_of_lt (totalSize_take_le ns k) h

theorem startOffsets_eq (a : Nat) (ns : List Node) :
    startOffsets a ns = (List.range ns.length).map fun i => a + totalSize (ns.take i) := by
  induction ns generalizing a with
  | nil => rfl
  | cons n ns ih =>
    rw [startOffsets, ih, List.length_cons, List.range_succ_eq_map]
    simp only [List.map_cons, List.map_map, List.take_zero, totalSize_nil, Nat.add_zero,
      List.cons.injEq, true_and]
    apply List.map_congr_left
    intro i _
    simp only [Function.comp, List.take_succ_cons, totalSize_cons]
    omega

theorem Layout.laidOut_offsets (nodes : List Node) :
    (Layout.laidOut nodes).offsets.toList =
      (List.range nodes.length).map fun i => totalSize (nodes.take i) := by
  simp [Layout.laidOut, startOffsets_eq]

/-! ## Building the table -/

/-- Placing chunks from a running sum `a` below `2^64` that the chunks take past it fails at the
first chunk that does, naming its message. -/
theorem foldlM_place_error :
    ∀ (ns : List Node) (acc : Array Nat) (a : Nat), a < wordRange →
      wordRange ≤ a + totalSize ns →
      ∃ k n, ns[k]? = some n ∧ a + totalSize (ns.take k) < wordRange ∧
        wordRange ≤ a + totalSize (ns.take k) + n.size ∧
        ns.foldlM Layout.place (acc, a) =
          .error (.protocol s!"chunk {n.messageId} overflows the file size")
  | [], _, a, ha, h => by simp at h; omega
  | n :: ns, acc, a, ha, h => by
    rw [List.foldlM_cons]
    by_cases hn : wordRange ≤ a + n.size
    · -- this chunk is the first to overflow
      refine ⟨0, n, rfl, by simpa using ha, by simpa using hn, ?_⟩
      simp only [Layout.place, ge_iff_le, if_pos hn]
      rfl
    · -- this chunk fits, and the overflow comes later
      have hplace : Layout.place (acc, a) n = .ok (acc.push a, a + n.size) := by
        simp only [Layout.place, ge_iff_le, if_neg hn]
        rfl
      simp only [totalSize_cons] at h
      obtain ⟨k, m, hm, hlt, hle, hfold⟩ :=
        foldlM_place_error ns (acc.push a) (a + n.size) (by omega) (by omega)
      refine ⟨k + 1, m, hm, ?_, ?_, ?_⟩
      · simp only [List.take_succ_cons, totalSize_cons]
        omega
      · simp only [List.take_succ_cons, totalSize_cons]
        omega
      · rw [hplace]
        exact hfold

theorem Layout.build_eq_error {nodes : List Node} (h : wordRange ≤ totalSize nodes) :
    ∃ k n, nodes[k]? = some n ∧ totalSize (nodes.take k) < wordRange ∧
      wordRange ≤ totalSize (nodes.take k) + n.size ∧
      Layout.build nodes = .error (.protocol s!"chunk {n.messageId} overflows the file size") := by
  obtain ⟨k, n, hn, hlt, hle, hfold⟩ :=
    foldlM_place_error nodes #[] 0 (by decide) (by simpa using h)
  refine ⟨k, n, hn, by simpa using hlt, by simpa using hle, ?_⟩
  simp only [Layout.build, hfold]
  rfl

/-- Building the table succeeds exactly when every running sum of the sizes stays below `2^64`. -/
theorem Layout.build_eq_ok_iff (nodes : List Node) :
    (∃ l, Layout.build nodes = .ok l) ↔ ∀ k, totalSize (nodes.take k) < wordRange := by
  rw [totalSize_take_lt_iff]
  constructor
  · rintro ⟨l, hl⟩
    refine (Nat.lt_or_ge (totalSize nodes) wordRange).resolve_right fun hover => ?_
    obtain ⟨k, n, -, -, -, herr⟩ := Layout.build_eq_error hover
    rw [herr] at hl
    cases hl
  · intro h
    exact ⟨_, Layout.build_eq h⟩

theorem Layout.eq_laidOut_of_build {nodes : List Node} {l : Layout}
    (h : Layout.build nodes = .ok l) : l = Layout.laidOut nodes := by
  have hfit : totalSize nodes < wordRange :=
    (totalSize_take_lt_iff nodes wordRange).1 ((Layout.build_eq_ok_iff nodes).1 ⟨l, h⟩)
  rw [Layout.build_eq hfit] at h
  exact (Except.ok.inj h).symm

/-! ## Finding the chunk that holds a position -/

/-- The chunk holding byte `p` is chunk `i` exactly when `i` starts at or before `p`, at the sum
of the sizes before it, and ends after `p`. -/
theorem chunkAt_eq_some_iff {nodes : List Node} {p i o : Nat} {n : Node} :
    chunkAt nodes p = some (i, n, o) ↔
      nodes[i]? = some n ∧ o = totalSize (nodes.take i) ∧ o ≤ p ∧ p < o + n.size := by
  induction nodes generalizing p i o with
  | nil => simp [chunkAt]
  | cons m ms ih =>
    rw [chunkAt_cons_eq_some]
    constructor
    · rintro (⟨hp, rfl, rfl, rfl⟩ | ⟨hp, i', o', h', rfl, rfl⟩)
      · simp [hp]
      · obtain ⟨hn, ho, hle, hlt⟩ := ih.1 h'
        refine ⟨hn, ?_, by omega, by omega⟩
        simp only [List.take_succ_cons, totalSize_cons, ho]
        omega
    · rintro ⟨hn, ho, hle, hlt⟩
      cases i with
      | zero =>
        simp only [List.getElem?_cons_zero, Option.some.injEq] at hn
        subst hn
        simp only [List.take_zero, totalSize_nil] at ho
        exact .inl ⟨by omega, rfl, rfl, ho⟩
      | succ i =>
        simp only [List.getElem?_cons_succ] at hn
        simp only [List.take_succ_cons, totalSize_cons] at ho
        refine .inr ⟨by omega, i, o - m.size, ih.2 ⟨hn, by omega, by omega, by omega⟩, rfl, ?_⟩
        omega

theorem Layout.locate_sound {nodes : List Node} {p i : Nat}
    (h : (Layout.laidOut nodes).locate p = some i) :
    ∃ n o, chunkAt nodes p = some (i, n, o) := by
  cases hc : chunkAt nodes p with
  | none =>
    rw [Layout.locate_eq_none (chunkAt_eq_none_iff.1 hc)] at h
    cases h
  | some c =>
    obtain ⟨i', n, o⟩ := c
    rw [(Layout.locate_eq_some hc).1, Option.some.injEq] at h
    exact ⟨n, o, h ▸ rfl⟩

/-- The table finds chunk `i` for byte `p` exactly when chunk `i` starts at or before `p`, at the
sum of the sizes before it, and ends after `p`; so it finds the one chunk holding `p`, which is
never empty. -/
theorem Layout.locate_eq_some_iff {nodes : List Node} {p i : Nat} :
    (Layout.laidOut nodes).locate p = some i ↔
      ∃ n, nodes[i]? = some n ∧ totalSize (nodes.take i) ≤ p ∧
        p < totalSize (nodes.take i) + n.size := by
  constructor
  · intro h
    obtain ⟨n, o, hc⟩ := Layout.locate_sound h
    obtain ⟨hn, rfl, hle, hlt⟩ := chunkAt_eq_some_iff.1 hc
    exact ⟨n, hn, hle, hlt⟩
  · rintro ⟨n, hn, hle, hlt⟩
    exact (Layout.locate_eq_some (chunkAt_eq_some_iff.2 ⟨hn, rfl, hle, hlt⟩)).1

theorem Layout.locate_eq_none_iff {nodes : List Node} {p : Nat} :
    (Layout.laidOut nodes).locate p = none ↔ totalSize nodes ≤ p := by
  constructor
  · intro h
    refine (Nat.lt_or_ge p (totalSize nodes)).resolve_left fun hp => ?_
    obtain ⟨⟨i, n, o⟩, hc⟩ := Option.ne_none_iff_exists'.1
      (mt chunkAt_eq_none_iff.1 (Nat.not_le_of_lt hp))
    rw [(Layout.locate_eq_some hc).1] at h
    cases h
  · exact Layout.locate_eq_none

theorem Layout.partition_point_pos {nodes : List Node} {p : Nat} (hp : p < totalSize nodes) :
    ∃ i, ((Layout.laidOut nodes).offsets.toList.takeWhile (· ≤ p)).length = i + 1 ∧
      (Layout.laidOut nodes).locate p = some i := by
  obtain ⟨⟨i, n, o⟩, hc⟩ := Option.ne_none_iff_exists'.1
    (mt chunkAt_eq_none_iff.1 (Nat.not_le_of_lt hp))
  obtain ⟨hlen, -, -⟩ :=
    takeWhile_startOffsets (show chunkAt nodes (p - 0) = some (i, n, o) by simpa using hc)
      (Nat.zero_le p)
  exact ⟨i, by simpa [Layout.laidOut] using hlen, (Layout.locate_eq_some hc).1⟩

/-! ## Where a reader can start -/

/-- A reader over chunks is made exactly when every running sum of their sizes stays below
`2^64` and it starts at or before the end of the file. -/
theorem ChunkReader.new_eq_ok_iff (nodes : List Node) (start : Nat) :
    (∃ r, ChunkReader.new nodes start = .ok r) ↔
      (∀ k, totalSize (nodes.take k) < wordRange) ∧ start ≤ totalSize nodes := by
  rw [totalSize_take_lt_iff]
  by_cases hfit : totalSize nodes < wordRange
  · by_cases hs : start ≤ totalSize nodes
    · exact iff_of_true ⟨_, ChunkReader.new_eq hfit hs⟩ ⟨hfit, hs⟩
    · refine iff_of_false ?_ (fun h => hs h.2)
      rintro ⟨r, hr⟩
      rw [ChunkReader.new_eq_error hfit (Nat.lt_of_not_le hs)] at hr
      cases hr
  · refine iff_of_false ?_ (fun h => hfit h.1)
    rintro ⟨r, hr⟩
    obtain ⟨k, n, -, -, -, herr⟩ := Layout.build_eq_error (Nat.le_of_not_lt hfit)
    simp only [ChunkReader.new, herr] at hr
    cases hr

/-- **The offset table and the lookup in it.** Building the table of a chunk list succeeds
exactly when every running sum of the sizes stays below `2^64`; the table then lists the chunks,
starts chunk `i` at the sum of the sizes before it and records the whole sum as the file's size,
and otherwise the build fails naming the message of the first chunk whose size takes the running
sum past 64 bits. In the table, the lookup of a position finds chunk `i` exactly when `i` starts
at or before the position and ends after it, and finds nothing exactly from the end of the file
on; inside the file the count of offsets at or before the position is the index found plus one.
A reader over the chunks is made exactly when the sizes fit and it starts at or before the end,
and a start past the end of a file that fits is refused with both numbers. -/
theorem offset_table_locates_chunks (nodes : List Node) :
    ((∃ l, Layout.build nodes = .ok l) ↔ ∀ k, totalSize (nodes.take k) < wordRange) ∧
    (∀ l, Layout.build nodes = .ok l →
      l.nodes.toList = nodes ∧ l.size = totalSize nodes ∧
      l.offsets.toList = (List.range nodes.length).map (fun i => totalSize (nodes.take i)) ∧
      (∀ p i, l.locate p = some i ↔
        ∃ n, nodes[i]? = some n ∧ totalSize (nodes.take i) ≤ p ∧
          p < totalSize (nodes.take i) + n.size) ∧
      (∀ p, l.locate p = none ↔ totalSize nodes ≤ p) ∧
      (∀ p, p < totalSize nodes → ∃ i, (l.offsets.toList.takeWhile (· ≤ p)).length = i + 1 ∧
        l.locate p = some i)) ∧
    (wordRange ≤ totalSize nodes → ∃ k n, nodes[k]? = some n ∧
      totalSize (nodes.take k) < wordRange ∧ wordRange ≤ totalSize (nodes.take k) + n.size ∧
      Layout.build nodes = .error (.protocol s!"chunk {n.messageId} overflows the file size")) ∧
    (∀ start, (∃ r, ChunkReader.new nodes start = .ok r) ↔
      (∀ k, totalSize (nodes.take k) < wordRange) ∧ start ≤ totalSize nodes) ∧
    (totalSize nodes < wordRange → ∀ start, totalSize nodes < start →
      ChunkReader.new nodes start = .error (.invalidOffset start (totalSize nodes))) := by
  refine ⟨Layout.build_eq_ok_iff nodes, ?_, fun h => Layout.build_eq_error h,
    ChunkReader.new_eq_ok_iff nodes, fun h _ hs => ChunkReader.new_eq_error h hs⟩
  intro l hl
  obtain rfl := Layout.eq_laidOut_of_build hl
  exact ⟨by simp [Layout.laidOut], rfl, Layout.laidOut_offsets nodes,
    fun _ _ => Layout.locate_eq_some_iff, fun _ => Layout.locate_eq_none_iff,
    fun _ hp => Layout.partition_point_pos hp⟩

end ChunkStore
