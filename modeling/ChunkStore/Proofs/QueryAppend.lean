import ChunkStore.Proofs.FormCodec
import ChunkStore.Url.Parse
import Mathlib.Tactic.SplitIfs
import Mathlib.Data.List.TakeWhile
/-!
# A query after a URL

A URL that parsing accepts with no query and no fragment, and that is written as its own text,
reads with `?` and a query after it as the same URL with that query, when the query is ASCII
that no query set encodes (`parse_append_query`). With the laws of form encoding, this makes the
URL library the program runs with lawful (`library_lawful`).

Parsing the longer text follows parsing the shorter one step by step: every reader of the path
stops at the `?` and leaves it, with the query, in its rest (`readSegments_query`,
`readOpaque_query`, `readPathAfterAuthority_query`), and so does every reader of the authority
(`splitUserinfo_query`, `hostSpan_query`, `readPort_query`). `Appends` says that the two parses
agree in this way and `parse_appends` proves it for the whole parser, branch by branch.

Two things the text of the URL has to give for this: trimming must leave the `?` and the query in
place, so the text must end with a character that is no control and no space; and the authority
must not be `@` alone. The first holds of every location parsing writes (`Appended` records it,
from what readers of paths and hosts write: `readSegments_segs`, `readOpaque_endsVisible`,
`parseOpaqueHost_endsVisible`); the second is ruled out by the length of the text.
-/

namespace ChunkStore.Url

/-! ## Characters -/

theorem isBreak_eq_false {x : Char} (h : 0x20 < x.toNat) : isBreak x = false := by
  simp only [isBreak, Bool.or_eq_false_iff, beq_eq_false_iff_ne, ne_eq]
  refine ⟨⟨?_, ?_⟩, ?_⟩ <;> rintro rfl <;> exact absurd h (by decide)

theorem isControlOrSpace_eq_false {x : Char} (h : 0x20 < x.toNat) : isControlOrSpace x = false := by
  simpa [isControlOrSpace] using h

theorem lt_of_isControlOrSpace_eq_false {x : Char} (h : isControlOrSpace x = false) :
    0x20 < x.toNat := by
  simpa [isControlOrSpace] using h

theorem controlOrSpace_cases {c : Char} (h : c.toNat ≤ 0x20) : c.toNat < 0x20 ∨ c = ' ' := by
  rcases Nat.lt_or_eq_of_le h with hlt | heq
  · exact Or.inl hlt
  · exact Or.inr (Char.toNat_inj.mp (by rw [heq]; rfl))

theorem fragmentSet_of_le {c : Char} (h : c.toNat ≤ 0x20) : fragmentSet c = true := by
  rcases controlOrSpace_cases h with hlt | rfl
  · simp [fragmentSet, controls, hlt]
  · decide

theorem pathSet_of_le {c : Char} (h : c.toNat ≤ 0x20) : pathSet c = true := by
  simp [pathSet, fragmentSet_of_le h]

theorem querySet_of_le {c : Char} (h : c.toNat ≤ 0x20) : querySet c = true := by
  rcases controlOrSpace_cases h with hlt | rfl
  · simp [querySet, controls, hlt]
  · decide

/-- Query text that the query of every scheme keeps as written: ASCII characters outside the
query sets. -/
def PlainQuery (q : List Char) : Prop := ∀ x ∈ q, x.toNat < 0x80 ∧ specialQuerySet x = false

instance : DecidablePred PlainQuery := fun q =>
  decidable_of_iff (q.all fun x => x.toNat < 0x80 && !specialQuerySet x) (by simp [PlainQuery])

theorem PlainQuery.visible {q : List Char} (h : PlainQuery q) : ∀ x ∈ q, 0x20 < x.toNat := by
  intro x hx
  refine Nat.lt_of_not_le fun hle => ?_
  have hs := (h x hx).2
  simp [specialQuerySet, querySet_of_le hle] at hs

theorem PlainQuery.isBreak {q : List Char} (h : PlainQuery q) : ∀ x ∈ q, isBreak x = false :=
  fun x hx => isBreak_eq_false (h.visible x hx)

theorem PlainQuery.ne_hash {q : List Char} (h : PlainQuery q) : ∀ x ∈ q, x ≠ '#' := by
  rintro x hx rfl
  exact absurd (h _ hx).2 (by decide)

/-! ## Fields of an assembled URL -/

section Assemble

variable (scheme : String) (special : Bool) (authority : Option Authority) (path : Path)
  (rest : List Char)

@[simp] theorem assemble_scheme : (assemble scheme special authority path rest).scheme = scheme := by
  unfold assemble; split; rfl

@[simp] theorem assemble_authority :
    (assemble scheme special authority path rest).authority = authority := by
  unfold assemble; split; rfl

@[simp] theorem assemble_path : (assemble scheme special authority path rest).path = path := by
  unfold assemble; split; rfl

end Assemble

/-- A plain query with nothing after it is kept as written, and there is no fragment. -/
theorem readQueryFragment_plain (special : Bool) {q : List Char} (h : PlainQuery q) :
    readQueryFragment special ('?' :: q) = (some (String.ofList q), none) := by
  have hq : q.takeWhile (· != '#') = q :=
    List.takeWhile_eq_self_iff.mpr fun x hx => by simpa using h.ne_hash x hx
  have hset : ∀ x ∈ q, x.toNat < 0x80 ∧
      (if special then specialQuerySet else querySet) x = false := by
    intro x hx
    refine ⟨(h x hx).1, ?_⟩
    have hs := (h x hx).2
    cases special
    · simp only [specialQuerySet, Bool.or_eq_false_iff] at hs
      exact hs.1
    · exact hs
  simp only [readQueryFragment, hq, List.drop_length, encodeWith_plain hset]

/-! ## What a location ends with -/

theorem visible_empty : Visible "" := by decide

theorem Path.visible_text {segs : List String} (h : ∀ s ∈ segs, Visible s) :
    Visible (Path.segments segs).text := by
  intro x hx
  simp only [Path.text, String.toList_join, List.mem_flatMap, List.mem_map] at hx
  obtain ⟨_, ⟨s, hs, rfl⟩, hx⟩ := hx
  rw [String.toList_append, List.mem_append] at hx
  rcases hx with hx | hx
  · exact (by decide : Visible "/") x hx
  · exact h s hs x hx

theorem Path.text_ne_empty {segs : List String} (h : segs ≠ []) :
    (Path.segments segs).text ≠ "" := by
  obtain ⟨s, rest, rfl⟩ := List.exists_cons_of_ne_nil h
  rw [ne_eq, ← String.toList_eq_nil_iff]
  simp [Path.text, String.toList_join]

theorem Parsed.endsVisible_location_of_path (u : Parsed) (h : EndsVisible u.path.text)
    (hne : u.path.text ≠ "") : EndsVisible u.location :=
  EndsVisible.append_left _ h hne

theorem Parsed.endsVisible_location (u : Parsed) (ha : ∀ a ∈ u.authority, EndsVisible a.text)
    (h : EndsVisible u.path.text) : EndsVisible u.location := by
  have hcolon : EndsVisible (u.scheme ++ ":") := EndsVisible.append_left _ (by decide) (by decide)
  unfold Parsed.location
  refine EndsVisible.append (EndsVisible.append hcolon ?_) h
  split
  · next a ha' => exact EndsVisible.append (by decide) (ha a ha')
  · split <;> decide

theorem endsVisible_location_segments {u : Parsed} {segs : List String}
    (hp : u.path = .segments segs) (hne : segs ≠ []) (hv : ∀ s ∈ segs, Visible s) :
    EndsVisible u.location :=
  u.endsVisible_location_of_path (hp ▸ (Path.visible_text hv).endsVisible) (hp ▸ Path.text_ne_empty hne)

theorem visible_toString (n : Nat) : Visible (toString n) := by
  intro x hx
  rw [Nat.toString_eq_repr, Nat.repr, String.toList_ofList] at hx
  have hd := Nat.isDigit_of_mem_toDigits (by decide) (by decide) hx
  simp only [Char.isDigit, Bool.and_eq_true, decide_eq_true_eq, UInt32.le_iff_toNat_le] at hd
  simp only [Char.toNat]
  exact Nat.lt_of_lt_of_le (by decide) hd.1

/-- An authority ends with its port, its host, or the `@` of its userinfo. -/
theorem Authority.endsVisible_text (a : Authority) (h : ∀ hst ∈ a.host, EndsVisible hst.text) :
    EndsVisible a.text := by
  unfold Authority.text
  refine EndsVisible.append (EndsVisible.append ?_ ?_) ?_
  · split
    · decide
    · exact EndsVisible.append_left _ (by decide) (by decide)
  · cases hh : a.host with
    | none => decide
    | some hst => exact h hst hh
  · split
    · exact ((by decide : Visible ":").append (visible_toString _)).endsVisible
    · decide

/-- An opaque host is written with no control and no space, or as an IPv6 address in
brackets. -/
theorem parseOpaqueHost_endsVisible {cs : List Char} {host : Option Host}
    (h : parseOpaqueHost cs = .ok host) : ∀ hst ∈ host, EndsVisible hst.text := by
  intro hst hhst
  rw [Option.mem_def] at hhst
  subst hhst
  unfold parseOpaqueHost at h
  split at h
  · split at h
    · cases hp : parseIpv6 _ with
      | error e => rw [hp] at h; cases h
      | ok p =>
        rw [hp] at h
        cases h
        exact EndsVisible.append_left _ (by decide) (by decide)
    · cases h
  · split at h
    · cases h
    · next hforbidden =>
      dsimp only at h
      split at h
      · cases h
      · cases h
        refine (visible_encodeWith fun c hc hle => ?_).endsVisible
        have hc' : forbiddenInHost c = false := by
          simpa using fun h' => hforbidden (List.any_eq_true.mpr ⟨c, hc, h'⟩)
        rcases controlOrSpace_cases hle with hlt | rfl
        · simp [controls, hlt]
        · exact absurd hc' (by decide)

/-! ## Path segments as read -/

/-- What closing a segment leaves: the segments before it, an empty one, the buffer, or the
buffer as a drive letter. -/
theorem closeSegment_mem {file : Bool} {buffer : String} {atEnd : Bool} {segs : List String}
    {s : String} (h : s ∈ closeSegment file buffer atEnd segs) :
    s ∈ segs ∨ s = "" ∨ s = buffer ∨ s = normalizeDrive buffer := by
  unfold closeSegment at h
  dsimp only at h
  split at h
  · rcases List.mem_append.mp h with h | h
    · -- what `..` keeps is among the segments
      left
      split at h
      · split at h
        · exact h
        · exact List.dropLast_subset _ h
      · exact h
    · split at h
      · exact Or.inr (Or.inl (List.mem_singleton.mp h))
      · cases h
  · split at h
    · split at h
      · rcases List.mem_append.mp h with h | h
        · exact Or.inl h
        · exact Or.inr (Or.inl (List.mem_singleton.mp h))
      · exact Or.inl h
    · split at h
      · exact Or.inr (Or.inr (Or.inr (List.mem_singleton.mp h)))
      · rcases List.mem_append.mp h with h | h
        · exact Or.inl h
        · exact Or.inr (Or.inr (Or.inl (List.mem_singleton.mp h)))

theorem closeSegment_visible {file : Bool} {buffer : String} {atEnd : Bool} {segs : List String}
    (hb : Visible buffer) (hs : ∀ s ∈ segs, Visible s) :
    ∀ s ∈ closeSegment file buffer atEnd segs, Visible s := by
  intro s hmem
  rcases closeSegment_mem hmem with h | rfl | rfl | rfl
  · exact hs s h
  · exact visible_empty
  · exact hb
  · intro x hx
    simp only [normalizeDrive, String.toList_ofList, List.mem_append, List.mem_singleton] at hx
    rcases hx with hx | rfl
    · exact hb x (List.mem_of_mem_take hx)
    · decide

theorem closeSegment_ne_nil (file : Bool) (buffer : String) (segs : List String) :
    closeSegment file buffer true segs ≠ [] := by
  unfold closeSegment
  split_ifs <;> simp_all

theorem trimLeadingEmpty_subset (segs : List String) : ∀ s ∈ trimLeadingEmpty segs, s ∈ segs := by
  fun_induction trimLeadingEmpty segs with
  | case1 rest h => simp
  | case2 rest h ih => exact fun s hs => List.mem_cons_of_mem _ (ih s hs)
  | case3 segs h => exact fun s hs => hs

theorem trimLeadingEmpty_ne_nil {segs : List String} (hne : segs ≠ []) :
    trimLeadingEmpty segs ≠ [] := by
  fun_induction trimLeadingEmpty segs with
  | case1 rest h => simp
  | case2 rest h ih => exact ih (by simpa using h)
  | case3 segs h => exact hne

theorem finish_segs (rules : PathRules) {segs : List String} (drive : Bool) (rest : List Char)
    (hne : segs ≠ []) (hv : ∀ s ∈ segs, Visible s) :
    (rules.finish segs drive rest).segs ≠ [] ∧
      ∀ s ∈ (rules.finish segs drive rest).segs, Visible s := by
  simp only [PathRules.finish]
  split
  · exact ⟨trimLeadingEmpty_ne_nil hne, fun s hs => hv s (trimLeadingEmpty_subset segs s hs)⟩
  · exact ⟨hne, hv⟩

/-- Reading a path gives at least one segment, each with no control or space: segments are
built from percent-encoded characters. -/
theorem readSegments_segs (rules : PathRules) :
    ∀ (xs : List Char) (buffer : String) (segs : List String) (drive broken : Bool),
      Visible buffer → (∀ s ∈ segs, Visible s) →
        (readSegments rules xs buffer segs drive broken).segs ≠ [] ∧
          ∀ s ∈ (readSegments rules xs buffer segs drive broken).segs, Visible s
  | [], buffer, segs, drive, broken, hb, hs =>
    finish_segs rules _ _ (closeSegment_ne_nil _ _ _) (closeSegment_visible hb hs)
  | c :: xs, buffer, segs, drive, broken, hb, hs => by
    have hc : Visible (encodeChar pathSet c) := visible_encodeChar pathSet_of_le
    rw [readSegments.eq_2]
    split_ifs
    · exact readSegments_segs rules xs _ _ _ _ hb hs
    · exact readSegments_segs rules xs _ _ _ _ visible_empty (closeSegment_visible hb hs)
    · exact finish_segs rules _ _ (closeSegment_ne_nil _ _ _) (closeSegment_visible hb hs)
    · refine readSegments_segs rules xs _ _ _ _ hc fun s hs' => ?_
      rw [List.mem_singleton.mp hs']
      exact hb
    · exact readSegments_segs rules xs _ _ _ _ (hb.append hc) hs

theorem readPath_segs (rules : PathRules) (cs : List Char) :
    (readPath rules cs).segs ≠ [] ∧ ∀ s ∈ (readPath rules cs).segs, Visible s :=
  readSegments_segs rules cs "" [] false false visible_empty (fun _ h => nomatch h)

/-- The path after an authority has segments with no control or space, and at least one in a
special scheme. -/
theorem readPathAfterAuthority_segs (rules : PathRules) (cs : List Char) :
    (∀ s ∈ (readPathAfterAuthority rules cs).segs, Visible s) ∧
      (rules.special = true → (readPathAfterAuthority rules cs).segs ≠ []) := by
  have hpath : ∀ cs, (∀ s ∈ (readPath rules cs).segs, Visible s) ∧
      (rules.special = true → (readPath rules cs).segs ≠ []) :=
    fun cs => ⟨(readPath_segs _ _).2, fun _ => (readPath_segs _ _).1⟩
  unfold readPathAfterAuthority
  split_ifs with hs
  · split <;> exact hpath _
  · -- a non-special path may be empty
    have hempty : ∀ rest, (∀ s ∈ (rules.finish [] false rest).segs, Visible s) ∧
        (rules.special = true → (rules.finish [] false rest).segs ≠ []) := fun rest =>
      ⟨fun s h => by simp [PathRules.finish, trimLeadingEmpty] at h, fun h => absurd h hs⟩
    split
    · exact hempty []
    · exact hempty _
    · exact hempty _
    · exact hpath _
    · exact hpath _

/-- An opaque path read to the end ends with a visible character when its text does. -/
theorem readOpaque_endsVisible :
    ∀ (xs : List Char) (acc : String), (xs = [] → EndsVisible acc) →
      (∀ x ∈ xs.getLast?, 0x20 < x.toNat) → (readOpaque xs acc).2 = [] →
        EndsVisible (readOpaque xs acc).1
  | [], _, hacc, _, _ => hacc rfl
  | c :: xs, acc, _, hlast, hend => by
    rw [readOpaque] at hend ⊢
    by_cases hc : (c == '?' || c == '#') = true
    · rw [if_pos hc] at hend
      cases hend
    · rw [if_neg hc] at hend ⊢
      refine readOpaque_endsVisible xs _ (fun hxs => ?_) (fun x hx => hlast x ?_) hend
      · subst hxs
        have hc : 0x20 < c.toNat := hlast c rfl
        exact EndsVisible.append_left _
          (visible_encodeChar fun hle => absurd hle (by omega)).endsVisible
          (encodeChar_ne_empty _ _)
      · rw [List.getLast?_cons, Option.mem_def.mp hx]
        rfl

/-- Where a reader of the path stops: at the end, or at the `?` or `#` that starts the query or
the fragment. -/
def RestShape (rest : List Char) : Prop :=
  rest = [] ∨ ∃ c more, rest = c :: more ∧ (c = '?' ∨ c = '#')

/-- A path read, with more text after its rest. -/
def PathRead.extend (r : PathRead) (tail : List Char) : PathRead :=
  { r with rest := r.rest ++ tail }

@[simp] theorem PathRead.extend_segs (r : PathRead) (tail : List Char) :
    (r.extend tail).segs = r.segs := rfl

@[simp] theorem PathRead.extend_drive (r : PathRead) (tail : List Char) :
    (r.extend tail).drive = r.drive := rfl

@[simp] theorem PathRead.extend_rest (r : PathRead) (tail : List Char) :
    (r.extend tail).rest = r.rest ++ tail := rfl

theorem withoutBreaks_append (xs ys : List Char) :
    withoutBreaks (xs ++ ys) = withoutBreaks xs ++ withoutBreaks ys :=
  List.filter_append xs ys

section QueryTail

variable (q : List Char)

/-- Path segments read up to a `?` that follows them: the same path, with the query after the
rest. -/
theorem readSegments_query (rules : PathRules) :
    ∀ (xs : List Char) (buffer : String) (segs : List String) (drive broken : Bool),
      readSegments rules (xs ++ '?' :: q) buffer segs drive broken =
        (readSegments rules xs buffer segs drive broken).extend (withoutBreaks ('?' :: q))
  | [], buffer, segs, drive, broken => by
    simp [readSegments, isBreak, PathRules.finish, PathRead.extend]
  | c :: xs, buffer, segs, drive, broken => by
    simp only [List.cons_append, readSegments]
    split_ifs
    · exact readSegments_query rules xs _ _ _ _
    · exact readSegments_query rules xs _ _ _ _
    · simp only [PathRules.finish, PathRead.extend]
      rw [← List.cons_append, withoutBreaks_append]
    · exact readSegments_query rules xs _ _ _ _
    · exact readSegments_query rules xs _ _ _ _

theorem readPath_query (rules : PathRules) (xs : List Char) :
    readPath rules (xs ++ '?' :: q) = (readPath rules xs).extend (withoutBreaks ('?' :: q)) :=
  readSegments_query q rules xs "" [] false false

end QueryTail

theorem readSegments_breaks (rules : PathRules) :
    ∀ (xs : List Char), (∀ x ∈ xs, isBreak x = true) →
      ∀ (buffer : String) (segs : List String) (drive broken : Bool),
        readSegments rules xs buffer segs drive broken = readSegments rules [] buffer segs drive false
  | [], _, _, _, _, _ => rfl
  | x :: xs, h, buffer, segs, drive, broken => by
    rw [readSegments.eq_2, if_pos (h x List.mem_cons_self)]
    exact readSegments_breaks rules xs (fun y hy => h y (List.mem_cons_of_mem x hy)) _ _ _ _

theorem readSegments_breaks_append (rules : PathRules) :
    ∀ (xs ys : List Char), (∀ x ∈ xs, isBreak x = true) →
      ∀ (buffer : String) (segs : List String) (drive broken : Bool),
        ∃ broken', readSegments rules (xs ++ ys) buffer segs drive broken =
          readSegments rules ys buffer segs drive broken'
  | [], _, _, _, _, _, broken => ⟨broken, rfl⟩
  | x :: xs, ys, h, buffer, segs, drive, broken => by
    rw [List.cons_append, readSegments.eq_2, if_pos (h x List.mem_cons_self)]
    exact readSegments_breaks_append rules xs ys (fun y hy => h y (List.mem_cons_of_mem x hy)) _ _ _ _

/-- A path whose only character that is no tab or newline is `a` reads as `a` alone: with an
empty first segment, the breaks cannot split a drive letter from what follows. -/
theorem readPath_single (rules : PathRules) {r : List Char} {a : Char}
    (h : withoutBreaks r = [a]) : readPath rules r = readPath rules [a] := by
  obtain ⟨xs, ys, rfl, hxs, ha, hys⟩ := List.filter_eq_cons_iff.mp h
  have hxs' : ∀ x ∈ xs, isBreak x = true := fun x hx => by simpa using hxs x hx
  have hys' : ∀ y ∈ ys, isBreak y = true := fun y hy => by
    simpa using List.filter_eq_nil_iff.mp hys y hy
  have ha' : isBreak a = false := by simpa using ha
  have hwy : withoutBreaks (a :: ys) = [a] := by
    rw [withoutBreaks, List.filter_cons, if_pos ha, hys]
  obtain ⟨br, hbr⟩ := readSegments_breaks_append rules xs (a :: ys) hxs' "" [] false false
  have hnb : ¬isBreak a = true := by simp [ha']
  rw [readPath, readPath, hbr, readSegments.eq_2, readSegments.eq_2, if_neg hnb, if_neg hnb, hwy]
  have hdrive : isNormalDrive "" = false := by decide
  simp only [hdrive, Bool.and_false, Bool.false_eq_true, if_false]
  split_ifs
  · exact readSegments_breaks rules ys hys' _ _ _ _
  · simp [withoutBreaks, ha']
  · exact readSegments_breaks rules ys hys' _ _ _ _

theorem restShape_nil : RestShape [] := Or.inl rfl

theorem restShape_withoutBreaks {c : Char} (rest : List Char) (hc : (c == '?' || c == '#') = true)
    (hb : isBreak c = false) : RestShape (withoutBreaks (c :: rest)) := by
  refine Or.inr ⟨c, withoutBreaks rest, ?_, by simpa using hc⟩
  simp [withoutBreaks, hb]

theorem readSegments_restShape (rules : PathRules) :
    ∀ (xs : List Char) (buffer : String) (segs : List String) (drive broken : Bool),
      RestShape (readSegments rules xs buffer segs drive broken).rest
  | [], _, _, _, _ => restShape_nil
  | c :: xs, buffer, segs, drive, broken => by
    rw [readSegments.eq_2]
    split_ifs with hb _ hc
    · exact readSegments_restShape rules xs _ _ _ _
    · exact readSegments_restShape rules xs _ _ _ _
    · exact restShape_withoutBreaks xs hc (by simpa using hb)
    · exact readSegments_restShape rules xs _ _ _ _
    · exact readSegments_restShape rules xs _ _ _ _

theorem readOpaque_query (q : List Char) :
    ∀ (xs : List Char) (acc : String),
      readOpaque (xs ++ '?' :: q) acc = ((readOpaque xs acc).1, (readOpaque xs acc).2 ++ '?' :: q)
  | [], acc => by simp [readOpaque]
  | c :: xs, acc => by
    rw [List.cons_append, readOpaque, readOpaque]
    split_ifs
    · rfl
    · exact readOpaque_query q xs _

theorem readOpaque_restShape : ∀ (xs : List Char) (acc : String), RestShape (readOpaque xs acc).2
  | [], _ => restShape_nil
  | c :: xs, acc => by
    rw [readOpaque]
    split_ifs with hc
    · exact Or.inr ⟨c, xs, rfl, by simpa using hc⟩
    · exact readOpaque_restShape xs _

section BreakFree

variable {q : List Char} (hq : ∀ x ∈ q, isBreak x = false)
include hq

theorem withoutBreaks_query : withoutBreaks ('?' :: q) = '?' :: q := by
  rw [withoutBreaks, List.filter_cons, if_pos (by decide), List.filter_eq_self.mpr]
  intro x hx
  simp [hq x hx]

theorem readPathAfterAuthority_query (rules : PathRules) (xs : List Char) :
    readPathAfterAuthority rules (xs ++ '?' :: q) =
      (readPathAfterAuthority rules xs).extend ('?' :: q) := by
  unfold readPathAfterAuthority
  split_ifs with hs
  · rw [List.dropWhile_append]
    split_ifs with hempty
    · have hx : xs.dropWhile isBreak = [] := List.isEmpty_iff.mp hempty
      have hT : ('?' :: q).dropWhile isBreak = '?' :: q := by
        rw [List.dropWhile_cons, if_neg (by decide)]
      have hall : ∀ x ∈ xs, isBreak x = true := List.dropWhile_eq_nil_iff.mp hx
      rw [hT, hx]
      simp only [show ('?' == '/' || '?' == '\\') = false by decide, Bool.false_eq_true, if_false]
      rw [readPath_query, withoutBreaks_query hq, readPath, readPath,
        readSegments_breaks rules xs hall]
    · obtain ⟨c, more, hcm⟩ := List.exists_cons_of_ne_nil (mt List.isEmpty_iff.mpr hempty)
      rw [hcm, List.cons_append]
      simp only
      split_ifs
      · rw [readPath_query, withoutBreaks_query hq]
      · rw [readPath_query, withoutBreaks_query hq]
  · cases xs with
    | nil => rfl
    | cons c more =>
      simp only [List.cons_append]
      split
      · next heq => exact absurd heq (List.cons_ne_nil _ _)
      · next tail heq =>
        obtain ⟨rfl, -⟩ := List.cons.inj heq
        simp [PathRules.finish, PathRead.extend]
      · next tail heq =>
        obtain ⟨rfl, -⟩ := List.cons.inj heq
        simp [PathRules.finish, PathRead.extend]
      · next tail heq =>
        obtain ⟨rfl, rfl⟩ := List.cons.inj heq
        simp [readPath_query, withoutBreaks_query hq]
      · next hn₁ hn₂ hn₃ hn₄ =>
        split
        · next heq => exact absurd heq (List.cons_ne_nil _ _)
        · next tail heq => exact absurd (by rw [(List.cons.inj heq).1]) (hn₂ (more ++ '?' :: q))
        · next tail heq => exact absurd (by rw [(List.cons.inj heq).1]) (hn₃ (more ++ '?' :: q))
        · next tail heq => exact absurd (by rw [(List.cons.inj heq).1]) (hn₄ (more ++ '?' :: q))
        · rw [← List.cons_append, readPath_query, withoutBreaks_query hq]

end BreakFree

theorem readPathAfterAuthority_restShape (rules : PathRules) (xs : List Char) :
    RestShape (readPathAfterAuthority rules xs).rest := by
  unfold readPathAfterAuthority
  split_ifs
  · split <;> exact readSegments_restShape rules _ _ _ _ _
  · split
    · exact restShape_nil
    · next tail => exact Or.inr ⟨'?', tail, rfl, Or.inl rfl⟩
    · next tail => exact Or.inr ⟨'#', tail, rfl, Or.inr rfl⟩
    · exact readSegments_restShape rules _ _ _ _ _
    · exact readSegments_restShape rules _ _ _ _ _

/-! ## Keeping breaks apart -/

theorem readPath_of_withoutBreaks_nil (rules : PathRules) {r : List Char}
    (h : withoutBreaks r = []) : readPath rules r = readPath rules [] :=
  readSegments_breaks rules r (fun x hx => by simpa using List.filter_eq_nil_iff.mp h x hx) _ _ _ _

theorem dropKept_append : ∀ (n : Nat) (xs ys : List Char), n ≤ (withoutBreaks xs).length →
    dropKept n (xs ++ ys) = dropKept n xs ++ ys
  | 0, _, _, _ => by simp [dropKept]
  | n + 1, [], _, h => by simp [withoutBreaks] at h
  | n + 1, c :: xs, ys, h => by
    rw [List.cons_append, dropKept, dropKept]
    by_cases hc : isBreak c = true
    · rw [if_pos hc, if_pos hc]
      exact dropKept_append (n + 1) xs ys (by simpa [withoutBreaks, hc] using h)
    · rw [if_neg hc, if_neg hc]
      exact dropKept_append n xs ys (by simp [withoutBreaks, hc] at h; simpa [withoutBreaks] using h)

theorem withoutBreaks_dropKept : ∀ (n : Nat) (xs : List Char),
    withoutBreaks (dropKept n xs) = (withoutBreaks xs).drop n
  | 0, _ => by simp [dropKept]
  | n + 1, [] => rfl
  | n + 1, c :: xs => by
    rw [dropKept]
    by_cases hc : isBreak c = true
    · rw [if_pos hc, withoutBreaks_dropKept (n + 1) xs]
      simp [withoutBreaks, hc]
    · rw [if_neg hc, withoutBreaks_dropKept n xs]
      simp [withoutBreaks, hc]

theorem takeWhile_query {p : Char → Bool} (hp : p '?' = false) (xs q : List Char) :
    (xs ++ '?' :: q).takeWhile p = xs.takeWhile p := by
  induction xs with
  | nil => simp [hp]
  | cons c xs ih =>
    rw [List.cons_append, List.takeWhile_cons, List.takeWhile_cons, ih]

/-- A fold that keeps its value or takes the position of an `@` ends on such a position or on
its start. -/
theorem foldl_keeps_or_at {f : Option Nat → Char × Nat → Option Nat}
    (hf : ∀ acc p, f acc p = acc ∨ (p.1 = '@' ∧ f acc p = some p.2)) {i : Nat} :
    ∀ (ps : List (Char × Nat)) (acc : Option Nat), ps.foldl f acc = some i →
      acc = some i ∨ ('@', i) ∈ ps
  | [], _, h => Or.inl h
  | p :: ps, acc, h => by
    rcases foldl_keeps_or_at hf ps (f acc p) h with h' | h'
    · rcases hf acc p with hp | ⟨hat, hp⟩
      · exact Or.inl (hp ▸ h')
      · obtain ⟨c, j⟩ := p
        simp only at hat hp
        rw [hp] at h'
        cases h'
        subst hat
        exact Or.inr List.mem_cons_self
    · exact Or.inr (List.mem_cons_of_mem p h')

theorem lastAt_spec {l : List Char} {i : Nat} (h : lastAt l = some i) : l[i]? = some '@' := by
  unfold lastAt at h
  refine (foldl_keeps_or_at ?_ l.zipIdx none h).resolve_left (by simp) |>
    List.mk_mem_zipIdx_iff_getElem?.mp
  intro acc p
  obtain ⟨c, j⟩ := p
  by_cases hc : c = '@'
  · exact Or.inr ⟨hc, by simp [hc]⟩
  · exact Or.inl (by simp [hc])

/-! ## Parsing with a query after the text -/

/-- `v` is what parsing gives for the text that gave `u` with `tail` after it: both are assembled
from the same scheme, authority and path, and the rest of `v` is the rest of `u` and then
`tail`. When `u` has no query and no fragment, its location ends with a visible character. -/
inductive Appended (tail : List Char) : Parsed → Parsed → Prop
  | mk (scheme : String) (special : Bool) (authority : Option Authority) (path : Path)
      (rest : List Char) (h : RestShape rest)
      (hend : rest = [] → EndsVisible (assemble scheme special authority path rest).location) :
      Appended tail (assemble scheme special authority path rest)
        (assemble scheme special authority path (rest ++ tail))

theorem Appended.of_segments {tail : List Char} {scheme : String} {special : Bool}
    {authority : Option Authority} {segs : List String} {rest : List Char} (h : RestShape rest)
    (hne : segs ≠ []) (hv : ∀ s ∈ segs, Visible s) :
    Appended tail (assemble scheme special authority (.segments segs) rest)
      (assemble scheme special authority (.segments segs) (rest ++ tail)) :=
  .mk _ _ _ _ _ h fun _ => endsVisible_location_segments (assemble_path ..) hne hv

/-- Parsing with `tail` after the text succeeds wherever parsing without it does, and the two
results are `Appended`. -/
def Appends (tail : List Char) (short long : Except ParseError Parsed) : Prop :=
  ∀ u, short = .ok u → ∃ v, long = .ok v ∧ Appended tail u v

theorem Appends.of_appended {tail : List Char} {u v : Parsed} (h : Appended tail u v) :
    Appends tail (pure u) (pure v) := by
  intro w hw
  cases hw
  exact ⟨v, rfl, h⟩

theorem ite_bind {α β ε : Type} (c : Prop) [Decidable c] (x y : Except ε α)
    (f : α → Except ε β) : (if c then x >>= f else y >>= f) = (if c then x else y) >>= f := by
  split <;> rfl

theorem Appends.throw_bind {α : Type} {tail : List Char} {e : ParseError}
    {f : α → Except ParseError Parsed} {long : Except ParseError Parsed} :
    Appends tail (throw e >>= f) long := by
  intro u hu
  cases hu

theorem Appends.bind_map {α β : Type} {tail : List Char} {x : Except ParseError α} {g : α → β}
    {f : α → Except ParseError Parsed} {f' : β → Except ParseError Parsed}
    (h : ∀ a, Appends tail (f a) (f' (g a))) : Appends tail (x >>= f) ((g <$> x) >>= f') := by
  intro u hu
  cases x with
  | error e => cases hu
  | ok a => exact h a u hu

theorem Appends.ite {tail : List Char} {c : Prop} [Decidable c]
    {a a' b b' : Except ParseError Parsed} (h₁ : c → Appends tail a a')
    (h₂ : ¬c → Appends tail b b') : Appends tail (if c then a else b) (if c then a' else b') := by
  split
  · exact h₁ ‹_›
  · exact h₂ ‹_›

theorem Appends.bind {α : Type} {tail : List Char} {x : Except ParseError α}
    {f g : α → Except ParseError Parsed} (h : ∀ a, x = .ok a → Appends tail (f a) (g a)) :
    Appends tail (x >>= f) (x >>= g) := by
  intro u hu
  cases x with
  | error e => cases hu
  | ok a => exact h a rfl u hu

theorem splitUserinfo_query (q : List Char) (special : Bool) {cs : List Char} (hcs : cs ≠ ['@']) :
    splitUserinfo special (cs ++ '?' :: q) =
      (fun p => (p.1, p.2 ++ '?' :: q)) <$> splitUserinfo special cs := by
  unfold splitUserinfo
  rw [takeWhile_query (by simp [endsAuthority])]
  split
  · rfl
  · next i hi =>
    -- the last `@` before the end of the authority is a character of `cs`
    obtain ⟨t, ht⟩ := List.takeWhile_prefix (fun c => !endsAuthority special c) (l := cs)
    have hat : cs[i]? = some '@' := by
      rw [← ht, List.getElem?_append_left (List.getElem?_eq_some_iff.mp (lastAt_spec hi)).1]
      exact lastAt_spec hi
    have hlt : i < cs.length := (List.getElem?_eq_some_iff.mp hat).1
    rw [List.drop_append_of_le_length hlt]
    split
    · cases hd : cs.drop (i + 1) with
      | nil =>
        -- `cs` would be `@` alone
        have hi0 : i = 0 := by simpa using ‹(i == 0) = true›
        subst hi0
        have hlen : cs.length = 1 := by
          have := congrArg List.length hd
          simp at this
          omega
        obtain ⟨c, hc⟩ := List.length_eq_one_iff.mp hlen
        subst hc
        simp at hat
        exact absurd (hat ▸ rfl) hcs
      | cons c more =>
        simp only [List.cons_append]
        split <;> rfl
    · simp [List.take_append_of_le_length (Nat.le_of_lt hlt)]

theorem hostSpan_query (q : List Char) (special : Bool) :
    ∀ (cs : List Char) (inBrackets : Bool),
      hostSpan special (cs ++ '?' :: q) inBrackets =
        ((hostSpan special cs inBrackets).1, (hostSpan special cs inBrackets).2 ++ '?' :: q)
  | [], _ => by simp [hostSpan, endsAuthority]
  | c :: cs, inBrackets => by
    rw [List.cons_append, hostSpan, hostSpan]
    split
    · rfl
    · simp only [hostSpan_query q special cs]

theorem readPort_query (q : List Char) (defaultPort : Option Nat) (cs : List Char) :
    readPort defaultPort (cs ++ '?' :: q) =
      (fun p => (p.1, p.2 ++ '?' :: q)) <$> readPort defaultPort cs := by
  unfold readPort
  rw [takeWhile_query (by decide)]
  simp only [List.drop_append_of_le_length (List.takeWhile_prefix Char.isDigit (l := cs)).length_le]
  cases List.drop (List.takeWhile Char.isDigit cs).length cs with
  | nil =>
    simp only [List.nil_append, show (!('?' == '/' || '?' == '\\' || '?' == '?' || '?' == '#')) = false
      by decide, Bool.false_eq_true, if_false]
    split <;> (try split) <;> rfl
  | cons c tail =>
    simp only [List.cons_append]
    split <;> (try split) <;> (try split) <;> rfl

section Query

variable {q : List Char} (hq : ∀ x ∈ q, isBreak x = false)
include hq

theorem readPath_appended (scheme : String) (special : Bool) (authority : Option Authority)
    (rules : PathRules) (more : List Char) :
    Appended ('?' :: q)
      (assemble scheme special authority (.segments (readPath rules more).segs)
        (readPath rules more).rest)
      (assemble scheme special authority (.segments (readPath rules (more ++ '?' :: q)).segs)
        (readPath rules (more ++ '?' :: q)).rest) := by
  rw [readPath_query, withoutBreaks_query hq]
  exact Appended.of_segments (readSegments_restShape _ _ _ _ _ _) (readPath_segs _ _).1
    (readPath_segs _ _).2

theorem hostlessFile_appended {r r' : List Char}
    (h : readPath fileRules r = readPath fileRules r') :
    Appended ('?' :: q) (hostlessFile r') (hostlessFile (r ++ '?' :: q)) := by
  unfold hostlessFile
  rw [← h]
  exact readPath_appended hq "file" true _ fileRules r

theorem fileHost_appended (rest : List Char) (h : Host) :
    Appended ('?' :: q)
      (let path := readPathAfterAuthority fileRules rest
       assemble "file" true (some (fileAuthority (if path.drive then none else some h)))
        (.segments path.segs) path.rest)
      (let path := readPathAfterAuthority fileRules (rest ++ '?' :: q)
       assemble "file" true (some (fileAuthority (if path.drive then none else some h)))
        (.segments path.segs) path.rest) := by
  simp only [readPathAfterAuthority_query hq, PathRead.extend_drive, PathRead.extend_segs,
    PathRead.extend_rest]
  exact Appended.of_segments (readPathAfterAuthority_restShape _ _)
    ((readPathAfterAuthority_segs _ _).2 rfl) (readPathAfterAuthority_segs _ _).1

theorem parseFile_appends (r : List Char) :
    Appends ('?' :: q) (parseFile r) (parseFile (r ++ '?' :: q)) := by
  unfold parseFile
  rw [withoutBreaks_append, withoutBreaks_query hq]
  rcases hw : withoutBreaks r with _ | ⟨a, _ | ⟨b, more⟩⟩
  · -- only breaks: the query alone follows `file:`
    cases q with
    | nil => exact Appends.of_appended (hostlessFile_appended hq (r := []) rfl)
    | cons x q' =>
      simp only [List.nil_append, show ('?' == '/' || '?' == '\\') = false by decide,
        Bool.false_and, Bool.false_eq_true, if_false]
      exact Appends.of_appended (hostlessFile_appended hq (readPath_of_withoutBreaks_nil _ hw))
  · simp only [List.cons_append, List.nil_append, show ('?' == '/' || '?' == '\\') = false by decide,
      Bool.and_false, Bool.false_eq_true, if_false]
    split
    · next hslash =>
      have hw₁ : withoutBreaks (dropKept 1 r) = [] := by rw [withoutBreaks_dropKept, hw]; rfl
      rw [dropKept_append 1 r _ (by simp [hw]), List.dropWhile_cons, if_pos hslash]
      exact Appends.of_appended (hostlessFile_appended hq (readPath_of_withoutBreaks_nil _ hw₁))
    · next hslash =>
      rw [List.dropWhile_cons, if_neg hslash]
      exact Appends.of_appended (hostlessFile_appended hq (readPath_single _ hw))
  · simp only [List.cons_append]
    rw [takeWhile_query (by decide)]
    have hlen : (withoutBreaks r).length = more.length + 2 := by simp [hw]
    have hhc := (List.takeWhile_prefix
      (fun c => !(c == '/' || c == '\\' || c == '?' || c == '#')) (l := more)).length_le
    rw [dropKept_append 2 r _ (by omega), dropKept_append _ r _ (by omega)]
    split
    · split
      · exact Appends.of_appended (hostlessFile_appended hq rfl)
      · split
        · simp only [pure_bind]
          exact Appends.of_appended (hostlessFile_appended hq rfl)
        · apply Appends.bind
          intro h _
          split
          · simp only [pure_bind]
            exact Appends.of_appended (hostlessFile_appended hq rfl)
          · simp only [pure_bind]
            exact Appends.of_appended (fileHost_appended hq _ h)
    · split
      · rw [dropKept_append 1 r _ (by omega)]
        exact Appends.of_appended (hostlessFile_appended hq rfl)
      · exact Appends.of_appended (hostlessFile_appended hq rfl)

/-- What follows the port: the check that a host stands with the userinfo, then the path. -/
theorem authorityTail_appends (c : Bool) (e : ParseError) (f f' : Unit → Except ParseError Parsed)
    (scheme : String) (special : Bool) (a : Authority) (r : List Char)
    (ha : special = false → EndsVisible a.text) :
    Appends ('?' :: q)
      (if c = true then throw e >>= f
       else pure (assemble scheme special (some a)
        (.segments (readPathAfterAuthority { special } r).segs)
        (readPathAfterAuthority { special } r).rest))
      (if c = true then throw e >>= f'
       else pure (assemble scheme special (some a)
        (.segments (readPathAfterAuthority { special } (r ++ '?' :: q)).segs)
        (readPathAfterAuthority { special } (r ++ '?' :: q)).rest)) := by
  split
  · exact Appends.throw_bind
  · rw [readPathAfterAuthority_query hq]
    refine Appends.of_appended
      (Appended.mk _ _ _ _ _ (readPathAfterAuthority_restShape _ _) fun _ => ?_)
    -- a special path has a segment; an empty path leaves the authority at the end
    obtain ⟨hvis, hne⟩ := readPathAfterAuthority_segs { special } r
    cases special with
    | false =>
      refine Parsed.endsVisible_location _ (fun a' ha' => ?_) ?_
      · rw [assemble_authority, Option.mem_def, Option.some.injEq] at ha'
        exact ha' ▸ ha rfl
      · rw [assemble_path]
        exact (Path.visible_text hvis).endsVisible
    | true => exact endsVisible_location_segments (assemble_path ..) (hne rfl) hvis

theorem parseAuthority_appends (scheme : String) (kind : SchemeKind) (cs : List Char)
    (hcs : cs ≠ ['@']) :
    Appends ('?' :: q) (parseAuthority scheme kind cs) (parseAuthority scheme kind (cs ++ '?' :: q)) := by
  unfold parseAuthority
  dsimp only
  rw [splitUserinfo_query q _ hcs]
  apply Appends.bind_map
  rintro ⟨info, rest⟩
  simp only [hostSpan_query]
  generalize hostSpan kind.isSpecial rest false = span
  obtain ⟨hostChars, rest⟩ := span
  simp only [ite_bind]
  apply Appends.bind
  intro host hhost
  -- the host of a non-special scheme ends with a visible character
  have hvis : kind.isSpecial = false → ∀ hst ∈ host, EndsVisible hst.text := by
    intro hs
    rw [if_neg (by simp [hs])] at hhost
    exact parseOpaqueHost_endsVisible hhost
  rcases rest with _ | ⟨c, more⟩
  · have h₁ : ((none : Option Char) == some ':') = false := rfl
    have h₂ : (some '?' == some ':') = false := by decide
    simp only [List.nil_append, List.head?_nil, List.head?_cons, h₁, h₂, Bool.and_false,
      Bool.false_eq_true, if_false, pure_bind]
    exact authorityTail_appends hq _ _ _ _ _ _ _ [] fun hs => Authority.endsVisible_text _ (hvis hs)
  · refine Appends.ite (fun _ => Appends.throw_bind) (fun _ => ?_)
    by_cases hc : c = ':'
    · subst hc
      change Appends _ (readPort _ more >>= _) (readPort _ (more ++ '?' :: q) >>= _)
      rw [readPort_query]
      apply Appends.bind_map
      rintro ⟨port, rest⟩
      exact authorityTail_appends hq _ _ _ _ _ _ _ rest fun hs =>
        Authority.endsVisible_text _ (hvis hs)
    · simp only [List.cons_append, List.cons.injEq, hc, false_and, imp_false,
        not_false_eq_true, implies_true, pure_bind]
      exact authorityTail_appends hq _ _ _ _ _ _ _ (c :: more) fun hs =>
        Authority.endsVisible_text _ (hvis hs)

end Query

theorem parseAuthority_at (scheme : String) (port : Nat) :
    parseAuthority scheme (.special port) ['@'] = .error .emptyHost := rfl

theorem parseAuthority_other_at (scheme : String) :
    parseAuthority scheme .other ['@'] =
      .ok (assemble scheme false (some ⟨"", "", none, none⟩) (.segments []) []) := rfl

theorem splitScheme_query (q : List Char) (xs : List Char) :
    splitScheme (xs ++ '?' :: q) = (splitScheme xs).map fun p => (p.1, p.2 ++ '?' :: q) := by
  cases xs with
  | nil => simp [splitScheme]
  | cons c xs =>
    unfold splitScheme
    simp only [List.cons_append]
    split_ifs
    · rw [← List.cons_append, takeWhile_query (by decide),
        List.drop_append_of_le_length (List.takeWhile_prefix _).length_le]
      cases List.drop (List.takeWhile isSchemeChar (c :: xs)).length (c :: xs) with
      | nil => rfl
      | cons d more =>
        by_cases hd : d = ':'
        · subst hd
          rfl
        · simp only [List.cons_append, List.cons.injEq, hd, false_and, imp_false,
            not_false_eq_true, implies_true, Option.map_none]
    · rfl

/-- A scheme is read from a run of scheme characters, lowercased, followed by `:`. -/
theorem splitScheme_eq_some {xs : List Char} {scheme : String} {rest : List Char}
    (h : splitScheme xs = some (scheme, rest)) :
    ∃ name : List Char, xs = name ++ ':' :: rest ∧
      scheme = String.ofList (name.map Char.toLower) := by
  cases xs with
  | nil => cases h
  | cons c tail =>
    unfold splitScheme at h
    simp only at h
    split_ifs at h
    split at h
    · next rest' heq =>
      simp only [Option.some.injEq, Prod.mk.injEq] at h
      obtain ⟨rfl, rfl⟩ := h
      obtain ⟨t, ht⟩ := List.takeWhile_prefix isSchemeChar (l := c :: tail)
      have hrest : ':' :: rest' = t := by
        have hdrop := @List.drop_left _ (List.takeWhile isSchemeChar (c :: tail)) t
        rwa [ht, heq] at hdrop
      exact ⟨_, by rw [hrest, ht], rfl⟩
    · cases h

theorem splitScheme_length {xs : List Char} {scheme : String} {rest : List Char}
    (h : splitScheme xs = some (scheme, rest)) : xs.length = scheme.length + 1 + rest.length := by
  obtain ⟨name, rfl, rfl⟩ := splitScheme_eq_some h
  simp only [List.length_append, List.length_cons, String.length_ofList, List.length_map]
  omega

theorem splitScheme_suffix {xs : List Char} {scheme : String} {rest : List Char}
    (h : splitScheme xs = some (scheme, rest)) : rest <:+ xs := by
  obtain ⟨name, rfl, -⟩ := splitScheme_eq_some h
  exact (List.suffix_cons ':' rest).trans (List.suffix_append name _)

theorem dropWhile_query {p : Char → Bool} (hp : p '?' = false) (q rest : List Char) :
    (rest ++ '?' :: q).dropWhile p = rest.dropWhile p ++ '?' :: q := by
  rw [List.dropWhile_append]
  split
  · next h => rw [List.isEmpty_iff.mp h, List.dropWhile_cons, if_neg (by simp [hp]), List.nil_append]
  · rfl

theorem mem_getLast?_of_suffix {α : Type} {l₁ l₂ : List α} (h : l₁ <:+ l₂) {x : α}
    (hx : x ∈ l₁.getLast?) : x ∈ l₂.getLast? := by
  obtain ⟨t, rfl⟩ := h
  rw [List.getLast?_append, Option.mem_def.mp hx]
  rfl

theorem getLast?_withoutBreaks {r : List Char} (h : ∀ x ∈ r.getLast?, isBreak x = false) :
    (withoutBreaks r).getLast? = r.getLast? := by
  rcases List.eq_nil_or_concat r with rfl | ⟨init, x, rfl⟩
  · rfl
  · have hx : isBreak x = false := h x (by simp)
    simp [withoutBreaks, List.filter_append, hx]

section Parse

variable {q : List Char} (hq : ∀ x ∈ q, isBreak x = false)
include hq

omit hq in
theorem readOpaque_appended (scheme : String) (rest : List Char)
    (hlast : ∀ x ∈ rest.getLast?, 0x20 < x.toNat) :
    Appended ('?' :: q)
      (assemble scheme false none (.flat (readOpaque rest "").1) (readOpaque rest "").2)
      (assemble scheme false none (.flat (readOpaque (rest ++ '?' :: q) "").1)
        (readOpaque (rest ++ '?' :: q) "").2) := by
  rw [readOpaque_query]
  refine Appended.mk _ _ _ _ _ (readOpaque_restShape _ _) fun hend => ?_
  refine Parsed.endsVisible_location _ (fun a ha => ?_) ?_
  · rw [assemble_authority] at ha
    cases ha
  · rw [assemble_path]
    exact readOpaque_endsVisible rest "" (fun _ => by decide) hlast hend

/-- Parsing a text with `?` and a query after it: what parsing the text gives, with the query
after the rest. The text is given trimmed as `r`, which ends with a visible character, and its
authority is not `@` alone. -/
theorem parse_appends {c : String} {r : List Char} (hc : trimInput c = r)
    (hcq : trimInput (c ++ "?" ++ String.ofList q) = r ++ '?' :: q)
    (hr : ∀ x ∈ r.getLast?, 0x20 < x.toNat)
    (hnot : ∀ scheme, schemeKind scheme = .other →
      splitScheme (withoutBreaks r) ≠ some (scheme, ['/', '/', '@'])) :
    Appends ('?' :: q) (parse c) (parse (c ++ "?" ++ String.ofList q)) := by
  unfold parse
  rw [hc, hcq]
  dsimp only
  rw [withoutBreaks_append, withoutBreaks_query hq, splitScheme_query]
  cases hs : splitScheme (withoutBreaks r) with
  | none => exact fun u hu => by cases hu
  | some p =>
    obtain ⟨scheme, rest⟩ := p
    have hlen := splitScheme_length hs
    -- an opaque path ends where the text does
    have hlast : ∀ x ∈ rest.getLast?, 0x20 < x.toNat := fun x hx =>
      hr x (by
        rw [← getLast?_withoutBreaks fun y hy => isBreak_eq_false (hr y hy)]
        exact mem_getLast?_of_suffix (splitScheme_suffix hs) hx)
    simp only [Option.map_some]
    split
    · rw [dropKept_append _ _ _ (by omega)]
      exact parseFile_appends hq _
    · rw [dropWhile_query (by decide)]
      by_cases hat : rest.dropWhile (fun c => c == '/' || c == '\\') = ['@']
      · rw [hat, parseAuthority_at]
        exact fun u hu => by cases hu
      · exact parseAuthority_appends hq _ _ _ hat
    · next hother =>
      rcases rest with _ | ⟨a, rest⟩
      · exact Appends.of_appended (readOpaque_appended scheme [] hlast)
      · by_cases ha : a = '/'
        · subst ha
          rcases rest with _ | ⟨b, more⟩
          · exact Appends.of_appended (readPath_appended hq scheme false none _ [])
          · by_cases hb : b = '/'
            · subst hb
              exact parseAuthority_appends hq _ _ _ fun h => hnot scheme hother (by rw [hs, h])
            · simp only [List.cons_append, List.cons.injEq, hb, false_and, imp_false,
                not_false_eq_true, implies_true]
              exact Appends.of_appended (readPath_appended hq scheme false none _ (b :: more))
        · simp only [List.cons_append, List.cons.injEq, ha, false_and, imp_false,
            not_false_eq_true, implies_true]
          exact Appends.of_appended (readOpaque_appended scheme (a :: rest) hlast)

end Parse

/-- With no query and no fragment before it, a plain query after the text is the query of the
longer text, and the location of the shorter one ends with a visible character. -/
theorem Appended.query_eq {q : List Char} {u v : Parsed} (h : Appended ('?' :: q) u v)
    (hquery : u.query = none) (hfrag : u.fragment = none) (hq : PlainQuery q) :
    v = { u with query := some (String.ofList q) } ∧ EndsVisible u.location := by
  cases h with
  | mk scheme special authority path rest hshape hend =>
    rcases hshape with rfl | ⟨c, more, rfl, rfl | rfl⟩
    · refine ⟨?_, hend rfl⟩
      simp only [assemble, List.nil_append, readQueryFragment_plain special hq]
      rfl
    · exfalso
      revert hquery
      simp only [assemble, readQueryFragment]
      split <;> simp
    · exfalso
      revert hfrag
      simp [assemble, readQueryFragment]

/-! ## Trimming -/

theorem dropWhile_visible {l : List Char} (h : ∀ x ∈ l.head?, 0x20 < x.toNat) :
    l.dropWhile isControlOrSpace = l := by
  cases l with
  | nil => rfl
  | cons a l => rw [List.dropWhile_cons, if_neg (by simp [isControlOrSpace_eq_false (h a rfl)])]

theorem trimInput_getLast (s : String) : ∀ x ∈ (trimInput s).getLast?, 0x20 < x.toNat := by
  intro x hx
  simp only [trimInput, List.getLast?_reverse] at hx
  have hnot := List.head?_dropWhile_not isControlOrSpace
    (s.toList.dropWhile isControlOrSpace).reverse
  rw [Option.mem_def.mp hx] at hnot
  exact lt_of_isControlOrSpace_eq_false hnot

theorem trimInput_head (s : String) : ∀ x ∈ (trimInput s).head?, 0x20 < x.toNat := by
  intro x hx
  simp only [trimInput, List.head?_reverse] at hx
  have hx' := mem_getLast?_of_suffix (List.dropWhile_suffix _) hx
  rw [List.getLast?_reverse] at hx'
  have hnot := List.head?_dropWhile_not isControlOrSpace s.toList
  rw [Option.mem_def.mp hx'] at hnot
  exact lt_of_isControlOrSpace_eq_false hnot

theorem trimInput_ofList {l : List Char} (hh : ∀ x ∈ l.head?, 0x20 < x.toNat)
    (hl : ∀ x ∈ l.getLast?, 0x20 < x.toNat) : trimInput (String.ofList l) = l := by
  simp only [trimInput, String.toList_ofList, dropWhile_visible hh]
  rw [dropWhile_visible (by rwa [List.head?_reverse]), List.reverse_reverse]

theorem trimInput_of_endsVisible {s : String} (h : EndsVisible s) :
    trimInput s = s.toList.dropWhile isControlOrSpace := by
  simp only [trimInput]
  rw [dropWhile_visible, List.reverse_reverse]
  rw [List.head?_reverse]
  exact fun x hx => h x (mem_getLast?_of_suffix (List.dropWhile_suffix _) hx)

/-- Text ending with a visible character is trimmed on the left only, also with more text after
it. -/
theorem trimInput_append {s : String} (h : EndsVisible s) (hne : s ≠ "") {t : List Char}
    (ht : ∀ x ∈ t.getLast?, 0x20 < x.toNat) (htne : t ≠ []) :
    trimInput (s ++ String.ofList t) = trimInput s ++ t := by
  obtain ⟨y, hy⟩ := Option.ne_none_iff_exists'.mp
    (mt List.getLast?_eq_none_iff.mp (mt String.toList_eq_nil_iff.mp hne))
  obtain ⟨z, hz⟩ := Option.ne_none_iff_exists'.mp (mt List.getLast?_eq_none_iff.mp htne)
  -- the last character of `s` is kept, so trimming the left stops inside `s`
  have hkeep : (s.toList.dropWhile isControlOrSpace).isEmpty = false := by
    rw [Bool.eq_false_iff]
    intro he
    have hall := List.dropWhile_eq_nil_iff.mp (List.isEmpty_iff.mp he) y (List.mem_of_getLast? hy)
    simp [isControlOrSpace_eq_false (h y hy)] at hall
  rw [trimInput_of_endsVisible h]
  simp only [trimInput, String.toList_append, String.toList_ofList, List.dropWhile_append, hkeep,
    Bool.false_eq_true, if_false]
  rw [dropWhile_visible, List.reverse_reverse]
  rw [List.head?_reverse, List.getLast?_append, hz, Option.some_or]
  intro x hx
  rw [Option.mem_some_iff] at hx
  subst hx
  exact ht _ hz

theorem length_trimInput_le (s : String) : (trimInput s).length ≤ s.length := by
  simp only [trimInput, List.length_reverse]
  calc _ ≤ (s.toList.dropWhile isControlOrSpace).reverse.length := List.length_dropWhile_le _ _
    _ = (s.toList.dropWhile isControlOrSpace).length := List.length_reverse
    _ ≤ s.toList.length := List.length_dropWhile_le _ _
    _ = s.length := String.length_toList

theorem parse_eq_of_trimInput {s t : String} (h : trimInput s = trimInput t) : parse s = parse t := by
  unfold parse
  rw [h]

/-! ## Canonical URLs -/

theorem Parsed.text_eq_location {u : Parsed} (hquery : u.query = none) (hfrag : u.fragment = none) :
    u.text = u.location := by
  simp [Parsed.text, hquery, hfrag]

theorem Parsed.location_ne_empty (u : Parsed) : u.location ≠ "" := by
  rw [ne_eq, ← String.toList_eq_nil_iff]
  simp [Parsed.location]

/-- A URL parsed from its own text has an authority other than `@` alone: that authority would
be written as nothing, and the text would be shorter than the one parsed. -/
theorem splitScheme_ne_at {c : String} {u : Parsed} (hu : parse c = .ok u) (htext : u.text = c)
    {scheme : String} (hother : schemeKind scheme = .other) :
    splitScheme (withoutBreaks (trimInput c)) ≠ some (scheme, ['/', '/', '@']) := by
  intro hs
  have hp : parse c = .ok (assemble scheme false (some ⟨"", "", none, none⟩) (.segments []) []) := by
    unfold parse
    dsimp only
    rw [hs]
    simp only [hother]
    exact parseAuthority_other_at scheme
  rw [hp, Except.ok.injEq] at hu
  subst hu
  have htext_len : c.length = scheme.length + 3 := by
    rw [← htext, ← String.length_toList]
    simp [Parsed.text, Parsed.location, Authority.text, Path.text, assemble, readQueryFragment,
      String.length_toList]
  have hlen := splitScheme_length hs
  have hkept : (withoutBreaks (trimInput c)).length ≤ (trimInput c).length := List.length_filter_le _ _
  have htrim := length_trimInput_le c
  simp only [List.length_cons, List.length_nil] at hlen
  omega

theorem ofList_append_query (r q : List Char) :
    String.ofList r ++ "?" ++ String.ofList q = String.ofList (r ++ '?' :: q) := by
  apply String.ext
  simp

theorem append_query (c : String) (q : List Char) :
    c ++ "?" ++ String.ofList q = c ++ String.ofList ('?' :: q) := by
  apply String.ext
  simp

/-- A URL that parsing accepts with no query and no fragment, and that is written as its own
text, reads with `?` and a plain query after it as the same URL with that query; its text ends
with a visible character. -/
theorem parse_append_query {c : String} {u : Parsed} (hu : parse c = .ok u)
    (hquery : u.query = none) (hfrag : u.fragment = none) (htext : u.text = c) {q : List Char}
    (hq : PlainQuery q) :
    parse (c ++ "?" ++ String.ofList q) = .ok { u with query := some (String.ofList q) } ∧
      EndsVisible c := by
  -- parse the trimmed text `r` first: it starts and ends with a visible character
  set r := trimInput c with hr
  have htail : ∀ x ∈ ('?' :: q), 0x20 < x.toNat := by
    intro x hx
    rcases List.mem_cons.mp hx with rfl | hx
    · decide
    · exact hq.visible x hx
  have htail_last : ∀ x ∈ ('?' :: q).getLast?, 0x20 < x.toNat :=
    fun x hx => htail x (List.mem_of_getLast? hx)
  have hc₀ : trimInput (String.ofList r) = r := trimInput_ofList (trimInput_head c) (trimInput_getLast c)
  have hcq₀ : trimInput (String.ofList r ++ "?" ++ String.ofList q) = r ++ '?' :: q := by
    rw [ofList_append_query]
    apply trimInput_ofList
    · rw [List.head?_append]
      cases hh : r.head? with
      | none =>
        intro x hx
        simp only [Option.none_or, List.head?_cons, Option.mem_def, Option.some.injEq] at hx
        subst hx
        decide
      | some y =>
        intro x hx
        simp only [Option.some_or] at hx
        exact trimInput_head c x (by rw [hh]; exact hx)
    · rw [List.getLast?_append, Option.or_of_isSome (by simp)]
      exact htail_last
  have hu₀ : parse (String.ofList r) = .ok u := by
    rw [parse_eq_of_trimInput (hc₀.trans hr), hu]
  obtain ⟨v, hv, happ⟩ := parse_appends hq.isBreak hc₀ hcq₀ (trimInput_getLast c)
    (fun scheme hother => splitScheme_ne_at hu htext hother) u hu₀
  obtain ⟨rfl, hend⟩ := happ.query_eq hquery hfrag hq
  have hc : EndsVisible c := by
    rw [← htext, Parsed.text_eq_location hquery hfrag]
    exact hend
  have hcne : c ≠ "" := by
    rw [← htext, Parsed.text_eq_location hquery hfrag]
    exact u.location_ne_empty
  refine ⟨?_, hc⟩
  rw [← hv]
  apply parse_eq_of_trimInput
  rw [hcq₀, append_query, trimInput_append hc hcne htail_last (List.cons_ne_nil _ _)]

/-- With a location that ends with a visible character, removing the query leaves the
location. -/
theorem Parsed.withoutQuery_of_endsVisible {u : Parsed} (h : EndsVisible u.location) :
    u.withoutQuery = u.location := by
  unfold Parsed.withoutQuery
  split
  · have hkeep : u.location.toList.reverse.dropWhile (· == ' ') = u.location.toList.reverse := by
      cases hl : u.location.toList.reverse with
      | nil => rfl
      | cons y ys =>
        have hy : 0x20 < y.toNat := h y (by rw [← List.head?_reverse, hl]; rfl)
        rw [List.dropWhile_cons, if_neg]
        intro he
        rw [beq_iff_eq.mp he] at hy
        exact absurd hy (by decide)
    rw [hkeep, List.reverse_reverse, String.ofList_toList]
  · rfl

/-! ## The running library -/

theorem plainQuery_of_querySafe {q : List Char} (h : ∀ x ∈ q, QuerySafe x) : PlainQuery q := by
  have table : ∀ n : Fin 0x80, QuerySafe (Char.ofNat n) →
      specialQuerySet (Char.ofNat n) = false := by
    decide
  intro x hx
  have hlt : x.toNat < 0x80 := by have := (h x hx).2.1; omega
  have hset := table ⟨x.toNat, hlt⟩ (by rw [Char.ofNat_toNat]; exact h x hx)
  rw [Char.ofNat_toNat] at hset
  exact ⟨hlt, hset⟩

theorem library_parse_eq_ok {c : String} {u : Parsed} : library.parse c = .ok u ↔ parse c = .ok u := by
  cases h : parse c with
  | ok v =>
    rw [library_parse_ok h]
    exact ⟨fun he => by cases he; rfl, fun he => by cases he; rfl⟩
  | error e => simp [library_parse_error h]

/-- The URL library the program runs with meets the laws signed links rely on. -/
theorem library_lawful : library.Lawful where
  parse_with_query {c u q} hu hquery hfrag htext hsafe := by
    obtain ⟨hparse, hend⟩ := parse_append_query (library_parse_eq_ok.mp hu) hquery hfrag htext
      (plainQuery_of_querySafe (q := q.toList) hsafe)
    rw [String.ofList_toList] at hparse
    have hloc : u.location = c := by
      rw [← htext]
      exact (Parsed.text_eq_location hquery hfrag).symm
    refine ⟨{ u with query := some q }, library_parse_eq_ok.mpr hparse, rfl, ?_⟩
    exact (Parsed.withoutQuery_of_endsVisible (u := { u with query := some q })
      (hloc ▸ hend)).trans hloc
  formPairs_pairsText := formPairs_join
  formEncode_safe := formEncode_safe
  formEncode_chars := formEncode_chars

end ChunkStore.Url
