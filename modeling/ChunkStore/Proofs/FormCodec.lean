import ChunkStore.Url.Percent
import ChunkStore.Url.Library
import Mathlib.Tactic.SplitIfs
/-!
# Percent-encoding and form encoding

The byte loops of text (`ByteArray.toList`, `ByteArray.foldl`) are read as list functions on the
UTF-8 bytes, character by character (`toUTF8_toList`). On that reading:

* form decoding undoes form encoding (`formDecode_formEncode`), and a query written as
  `name=value&` pairs reads back as the decoded pairs, in order (`formPairs_written`);
* percent-encoding writes no control or space when its set holds every control and the space
  (`visible_encodeWith`), its text ends with a visible character when the encoded text does
  (`endsVisible_encodeWith`), and it writes ASCII text outside its set as it is
  (`encodeWith_plain`).
-/

namespace ChunkStore

/-! ## Bytes of text -/

theorem byteArray_toList_loop (bs : ByteArray) (i : Nat) (r : List UInt8) :
    ByteArray.toList.loop bs i r = r.reverse ++ bs.data.toList.drop i := by
  have hlen : bs.data.toList.length = bs.size := by simp
  fun_induction ByteArray.toList.loop bs i r with
  | case1 i r hi ih =>
    have hi' : i < bs.data.toList.length := by omega
    rw [ih, List.reverse_cons, List.append_assoc, List.singleton_append,
      List.drop_eq_getElem_cons (l := bs.data.toList) hi']
    simp [ByteArray.get!, hi]
  | case2 i r hi =>
    simp [List.drop_eq_nil_of_le (show bs.data.toList.length ≤ i by omega)]

theorem byteArray_toList (bs : ByteArray) : bs.toList = bs.data.toList := by
  simp [ByteArray.toList, byteArray_toList_loop]

theorem byteArray_foldl_loop {β : Type} (f : β → UInt8 → β) (bs : ByteArray)
    (h : bs.size ≤ bs.size) :
    ∀ (i j : Nat) (b : β), i + j = bs.size →
      ByteArray.foldlM.loop (m := Id) (fun b a => pure (f b a)) bs bs.size h i j b =
        (bs.data.toList.drop j).foldl f b := by
  have hlen : bs.data.toList.length = bs.size := by simp
  intro i
  -- `i` counts the bytes still to fold, from position `j`
  induction i with
  | zero =>
    intro j b hij
    rw [ByteArray.foldlM.loop, dif_neg (by omega),
      List.drop_eq_nil_of_le (show bs.data.toList.length ≤ j by omega)]
    rfl
  | succ i ih =>
    intro j b hij
    have hj : j < bs.data.toList.length := by omega
    rw [ByteArray.foldlM.loop, dif_pos (by omega),
      List.drop_eq_getElem_cons (l := bs.data.toList) hj]
    exact ih (j + 1) _ (by omega)

theorem byteArray_foldl {β : Type} (f : β → UInt8 → β) (init : β) (bs : ByteArray) :
    bs.foldl f init = bs.data.toList.foldl f init := by
  simp only [ByteArray.foldl, ByteArray.foldlM, dif_pos (Nat.le_refl bs.size), Nat.sub_zero]
  exact byteArray_foldl_loop f bs _ bs.size 0 init rfl

theorem toUTF8_toList (s : String) : s.toUTF8.toList = s.toList.flatMap String.utf8EncodeChar := by
  rw [byteArray_toList, String.toUTF8_eq_toByteArray, ← String.utf8Encode_toList,
    List.utf8Encode, List.toList_data_toByteArray]

theorem utf8EncodeChar_ascii {c : Char} (h : c.toNat < 0x80) :
    String.utf8EncodeChar c = [UInt8.ofNat c.toNat] := by
  simp [String.utf8EncodeChar, show c.toNat ≤ 127 by omega]

theorem flatMap_utf8_ascii :
    ∀ l : List Char, (∀ c ∈ l, c.toNat < 0x80) →
      l.flatMap String.utf8EncodeChar = l.map fun c => UInt8.ofNat c.toNat
  | [], _ => rfl
  | c :: l, h => by
    rw [List.flatMap_cons, List.map_cons, utf8EncodeChar_ascii (h c List.mem_cons_self),
      flatMap_utf8_ascii l (fun x hx => h x (List.mem_cons_of_mem c hx)), List.singleton_append]

theorem byte_ne_of_char_ne {c d : Char} (hc : c.toNat < 0x80) (hd : d.toNat < 0x80) (h : c ≠ d) :
    UInt8.ofNat c.toNat ≠ UInt8.ofNat d.toNat := by
  intro he
  have hc' : (UInt8.ofNat c.toNat).toNat = c.toNat := by simp; omega
  have hd' : (UInt8.ofNat d.toNat).toNat = d.toNat := by simp; omega
  exact h (Char.toNat_inj.mp (hc' ▸ hd' ▸ congrArg UInt8.toNat he))

theorem decodeLossy_toUTF8 (s : String) : Text.decodeLossy s.toUTF8 = s := by
  rw [Text.decodeLossy]
  simp only [String.fromUTF8?, String.toUTF8_eq_toByteArray, dif_pos s.isValidUTF8]
  rfl

theorem foldl_toList_of_step {α : Type} {f : String → α → String} {g : α → List Char}
    (hf : ∀ acc a, (f acc a).toList = acc.toList ++ g a) :
    ∀ (l : List α) (acc : String), (l.foldl f acc).toList = acc.toList ++ l.flatMap g
  | [], acc => by simp
  | a :: l, acc => by
    rw [List.foldl_cons, foldl_toList_of_step hf l, hf, List.flatMap_cons, List.append_assoc]

namespace Url

/-! ## Form encoding -/

/-- The characters form encoding writes for one byte. -/
def formChars (b : UInt8) : List Char :=
  if b == 32 then ['+']
  else if (48 ≤ b && b ≤ 57) || (65 ≤ b && b ≤ 90) || (97 ≤ b && b ≤ 122) || b == 42 ||
      b == 45 || b == 46 || b == 95 then [Char.ofNat b.toNat]
  else (percentByte b).toList

theorem formEncode_toList (s : String) :
    (formEncode s).toList = s.toUTF8.data.toList.flatMap formChars := by
  rw [formEncode, byteArray_foldl, foldl_toList_of_step (g := formChars), String.toList_empty,
    List.nil_append]
  intro acc b
  simp only [formChars]
  split_ifs <;> simp [String.toList_push]

theorem percentDecodeList_cons {b : UInt8} (h : b ≠ 37) (rest : List UInt8) :
    percentDecodeList (b :: rest) = b :: percentDecodeList rest := by
  match rest with
  | [] => simp [percentDecodeList]
  | [x] => simp [percentDecodeList]
  | x :: y :: r => simp [percentDecodeList, h]

theorem percentDecodeList_of_ne : ∀ l : List UInt8, (∀ b ∈ l, b ≠ 37) → percentDecodeList l = l
  | [], _ => rfl
  | b :: l, h => by
    rw [percentDecodeList_cons (h b List.mem_cons_self),
      percentDecodeList_of_ne l (fun x hx => h x (List.mem_cons_of_mem b hx))]

theorem hexUpper_table :
    ∀ d : Fin 16, (hexUpper d).toNat < 0x80 ∧ UInt8.ofNat (hexUpper d).toNat ≠ 43 ∧
      hexDigit? (UInt8.ofNat (hexUpper d).toNat) = some d.val := by
  decide

theorem ascii_table : ∀ n : Fin 0x80, (Char.ofNat n).toNat = n := by decide

/-- Form decoding reads the characters written for one byte back as that byte, whatever
follows them. -/
theorem percentDecode_formChars (b : UInt8) (rest : List UInt8) :
    percentDecodeList ((((formChars b).flatMap String.utf8EncodeChar).map
      fun b => if b == 43 then 32 else b) ++ rest) = b :: percentDecodeList rest := by
  unfold formChars
  split_ifs with hspace hkept
  · have hb : b = 32 := by simpa using hspace
    subst hb
    exact percentDecodeList_cons (by decide) rest
  · -- a kept byte is ASCII, and neither `+` nor `%`
    have hb : b.toNat < 0x80 ∧ b.toNat ≠ 43 ∧ b.toNat ≠ 37 := by
      simp [UInt8.le_iff_toNat_le, ← UInt8.toNat_inj] at hkept
      omega
    have hc : (Char.ofNat b.toNat).toNat = b.toNat := ascii_table ⟨b.toNat, hb.1⟩
    have h43 : b ≠ 43 := fun h => hb.2.1 (by rw [h]; rfl)
    have h37 : b ≠ 37 := fun h => hb.2.2 (by rw [h]; rfl)
    rw [List.flatMap_singleton, utf8EncodeChar_ascii (by omega), hc, UInt8.ofNat_toNat]
    simp only [List.map_cons, List.map_nil, List.cons_append, List.nil_append, beq_iff_eq, h43,
      if_false]
    exact percentDecodeList_cons h37 rest
  · have hb : b.toNat < 256 := UInt8.toNat_lt_size b
    obtain ⟨hhi, hhi43, hhid⟩ := hexUpper_table ⟨b.toNat / 16, by omega⟩
    obtain ⟨hlo, hlo43, hlod⟩ := hexUpper_table ⟨b.toNat % 16, by omega⟩
    have hpct : String.utf8EncodeChar '%' = [37] := by decide
    simp only [percentByte, String.toList_ofList, List.flatMap_cons, List.flatMap_nil, hpct,
      utf8EncodeChar_ascii hhi, utf8EncodeChar_ascii hlo, List.cons_append, List.nil_append,
      List.map_cons, List.map_nil, beq_iff_eq, hhi43, hlo43, if_false]
    simp only [show ((37 : UInt8) = 43) = False by decide, if_false, percentDecodeList, hhid, hlod]
    rw [Nat.div_add_mod' b.toNat 16, UInt8.ofNat_toNat]

theorem percentDecode_formBytes (l rest : List UInt8) :
    percentDecodeList ((((l.flatMap formChars).flatMap String.utf8EncodeChar).map
      fun b => if b == 43 then 32 else b) ++ rest) = l ++ percentDecodeList rest := by
  induction l with
  | nil => rfl
  | cons b l ih =>
    rw [List.flatMap_cons, List.flatMap_append, List.map_append, List.append_assoc,
      percentDecode_formChars, ih, List.cons_append]

/-- Form decoding undoes form encoding. -/
theorem formDecode_formEncode (s : String) : formDecode (formEncode s).toUTF8.toList = s := by
  have h := percentDecode_formBytes s.toUTF8.data.toList []
  rw [List.append_nil, show percentDecodeList [] = [] from rfl, List.append_nil] at h
  rw [formDecode, toUTF8_toList, formEncode_toList, h]
  exact decodeLossy_toUTF8 s

/-- ASCII text without `+` and `%` form-decodes to itself. -/
theorem formDecode_plain {t : String} (h : ∀ c ∈ t.toList, c.toNat < 0x80 ∧ c ≠ '+' ∧ c ≠ '%') :
    formDecode t.toUTF8.toList = t := by
  have hbytes := flatMap_utf8_ascii t.toList (fun c hc => (h c hc).1)
  have hplus : ∀ c ∈ t.toList, UInt8.ofNat c.toNat ≠ 43 := fun c hc =>
    byte_ne_of_char_ne (d := '+') (h c hc).1 (by decide) (h c hc).2.1
  have hpct : ∀ c ∈ t.toList, UInt8.ofNat c.toNat ≠ 37 := fun c hc =>
    byte_ne_of_char_ne (d := '%') (h c hc).1 (by decide) (h c hc).2.2
  have hkeep : (t.toList.map fun c => UInt8.ofNat c.toNat).map
      (fun b => if b == 43 then 32 else b) = t.toList.map fun c => UInt8.ofNat c.toNat := by
    rw [List.map_map]
    exact List.map_congr_left fun c hc => by simp [hplus c hc]
  rw [formDecode, toUTF8_toList, hbytes, hkeep, percentDecodeList_of_ne _ (by simpa using hpct),
    ← hbytes, ← toUTF8_toList, byteArray_toList]
  exact decodeLossy_toUTF8 t

/-! ## Pairs of a form-encoded query -/

/-- Name-value pairs written one after another as `name=value&`. -/
def writtenPairs : List (List UInt8 × List UInt8) → List UInt8
  | [] => []
  | (n, v) :: ps => n ++ 61 :: v ++ 38 :: writtenPairs ps

theorem splitWhere_append_sep {α : Type} {p : α → Bool} {xs : List α} {y : α} (ys : List α)
    (hxs : ∀ x ∈ xs, p x = false) (hy : p y = true) :
    splitWhere p (xs ++ y :: ys) = xs :: splitWhere p ys := by
  induction xs with
  | nil => simp [splitWhere, hy]
  | cons x xs ih =>
    rw [List.cons_append, splitWhere, if_neg (by simp [hxs x List.mem_cons_self]),
      ih (fun z hz => hxs z (List.mem_cons_of_mem x hz))]

/-- A query of pairs written `name=value&` reads back as the decoded pairs, in order, when no
name holds `=` or `&` and no value holds `&`. -/
theorem formPairs_written {query : String} {ps : List (List UInt8 × List UInt8)}
    (hq : query.toUTF8.toList = writtenPairs ps)
    (hn : ∀ p ∈ ps, ∀ b ∈ p.1, b ≠ 61 ∧ b ≠ 38) (hv : ∀ p ∈ ps, ∀ b ∈ p.2, b ≠ 38) :
    formPairs query = ps.map fun p => (formDecode p.1, formDecode p.2) := by
  rw [formPairs, hq]
  clear hq
  induction ps with
  | nil => rfl
  | cons p ps ih =>
    obtain ⟨n, v⟩ := p
    have hnv : ∀ b ∈ n ++ 61 :: v, (b == 38) = false := by
      intro b hb
      rcases List.mem_append.mp hb with hb | hb
      · simpa using (hn (n, v) List.mem_cons_self b hb).2
      · rcases List.mem_cons.mp hb with rfl | hb
        · rfl
        · simpa using hv (n, v) List.mem_cons_self b hb
    have hname : ∀ b ∈ n, (b != 61) = true := fun b hb => by
      simpa using (hn (n, v) List.mem_cons_self b hb).1
    rw [writtenPairs, show n ++ 61 :: v ++ 38 :: writtenPairs ps =
        (n ++ 61 :: v) ++ 38 :: writtenPairs ps by simp, splitWhere_append_sep _ hnv rfl,
      List.filterMap_cons, ih (fun q hq => hn q (List.mem_cons_of_mem _ hq))
        (fun q hq => hv q (List.mem_cons_of_mem _ hq))]
    simp [List.takeWhile_append_of_pos hname, List.dropWhile_append_of_pos hname]

/-! ## The laws of form encoding -/

theorem formChars_safe : ∀ n : Fin 0x80, FormSafe (Char.ofNat n) →
    formChars (UInt8.ofNat n) = [Char.ofNat n] := by
  decide

/-- Letters, digits and `*-._` are form-encoded as themselves. -/
theorem formEncode_safe {s : String} (h : ∀ x ∈ s.toList, FormSafe x) : formEncode s = s := by
  have hkept : ∀ l : List Char, (∀ x ∈ l, FormSafe x) →
      l.flatMap (fun c => formChars (UInt8.ofNat c.toNat)) = l := by
    intro l hl
    induction l with
    | nil => rfl
    | cons x l ih =>
      have hx := formChars_safe ⟨x.toNat, (hl x List.mem_cons_self).ascii⟩
        (by rw [Char.ofNat_toNat]; exact hl x List.mem_cons_self)
      rw [Char.ofNat_toNat] at hx
      rw [List.flatMap_cons, hx, ih fun y hy => hl y (List.mem_cons_of_mem x hy),
        List.singleton_append]
  rw [← String.toList_inj, formEncode_toList, ← byteArray_toList, toUTF8_toList,
    flatMap_utf8_ascii _ fun x hx => (h x hx).ascii, List.flatMap_map]
  exact hkept _ h

/-- Form encoding writes letters, digits, `*-._`, `+` and `%`, and nothing else. -/
theorem formChars_chars (b : UInt8) : ∀ x ∈ formChars b, FormSafe x ∨ x = '+' ∨ x = '%' := by
  intro x hx
  unfold formChars at hx
  split_ifs at hx with hspace hkept
  · exact .inr (.inl (List.mem_singleton.mp hx))
  · have hr : (48 ≤ b.toNat ∧ b.toNat ≤ 57) ∨ (65 ≤ b.toNat ∧ b.toNat ≤ 90) ∨
        (97 ≤ b.toNat ∧ b.toNat ≤ 122) ∨ b.toNat = 42 ∨ b.toNat = 45 ∨ b.toNat = 46 ∨
        b.toNat = 95 := by
      simp [UInt8.le_iff_toNat_le, ← UInt8.toNat_inj] at hkept
      omega
    have table : ∀ n : Fin 0x80, ((48 ≤ n.val ∧ n.val ≤ 57) ∨ (65 ≤ n.val ∧ n.val ≤ 90) ∨
        (97 ≤ n.val ∧ n.val ≤ 122) ∨ n.val = 42 ∨ n.val = 45 ∨ n.val = 46 ∨ n.val = 95) →
        FormSafe (Char.ofNat n) := by
      decide
    rw [List.mem_singleton.mp hx]
    exact .inl (table ⟨b.toNat, by omega⟩ hr)
  · have hb : b.toNat < 256 := UInt8.toNat_lt_size b
    have table : ∀ d : Fin 16, FormSafe (hexUpper d) := by decide
    simp only [percentByte, String.toList_ofList, List.mem_cons, List.not_mem_nil, or_false] at hx
    rcases hx with rfl | rfl | rfl
    · exact .inr (.inr rfl)
    · exact .inl (table ⟨b.toNat / 16, by omega⟩)
    · exact .inl (table ⟨b.toNat % 16, by omega⟩)

theorem formEncode_chars (s : String) :
    ∀ x ∈ (formEncode s).toList, FormSafe x ∨ x = '+' ∨ x = '%' := by
  intro x hx
  rw [formEncode_toList, List.mem_flatMap] at hx
  obtain ⟨b, -, hb⟩ := hx
  exact formChars_chars b x hb

theorem formEncode_bytes (s : String) : ∀ b ∈ (formEncode s).toUTF8.toList, b ≠ 61 ∧ b ≠ 38 := by
  have hchar : ∀ x ∈ (formEncode s).toList, x.toNat < 0x80 ∧ x ≠ '=' ∧ x ≠ '&' := by
    intro x hx
    rcases formEncode_chars s x hx with h | rfl | rfl
    · refine ⟨h.ascii, ?_, ?_⟩ <;> rintro rfl <;> exact absurd h (by decide)
    · decide
    · decide
  intro b hb
  rw [toUTF8_toList, flatMap_utf8_ascii _ fun x hx => (hchar x hx).1, List.mem_map] at hb
  obtain ⟨x, hx, rfl⟩ := hb
  exact ⟨byte_ne_of_char_ne (d := '=') (hchar x hx).1 (by decide) (hchar x hx).2.1,
    byte_ne_of_char_ne (d := '&') (hchar x hx).1 (by decide) (hchar x hx).2.2⟩

theorem toUTF8_join_pairs (ps : List (String × String)) :
    (String.join (ps.map fun p => formEncode p.1 ++ "=" ++ formEncode p.2 ++ "&")).toUTF8.toList =
      writtenPairs (ps.map fun p => ((formEncode p.1).toUTF8.toList, (formEncode p.2).toUTF8.toList)) := by
  induction ps with
  | nil => simp [writtenPairs]
  | cons p ps ih =>
    have heq : "=".toList.flatMap String.utf8EncodeChar = [61] := by decide
    have hamp : "&".toList.flatMap String.utf8EncodeChar = [38] := by decide
    simp only [toUTF8_toList] at ih ⊢
    simp only [List.map_cons, String.join_cons, String.toList_append, List.flatMap_append, ih,
      heq, hamp, writtenPairs, List.append_assoc, List.cons_append, List.nil_append]

theorem formPairs_join (ps : List (String × String)) :
    formPairs (String.join (ps.map fun p => formEncode p.1 ++ "=" ++ formEncode p.2 ++ "&")) = ps := by
  rw [formPairs_written (toUTF8_join_pairs ps)]
  · simp only [List.map_map, Function.comp_def, formDecode_formEncode]
    simp
  · intro p hp b hb
    obtain ⟨q, -, rfl⟩ := List.mem_map.mp hp
    exact formEncode_bytes q.1 b hb
  · intro p hp b hb
    obtain ⟨q, -, rfl⟩ := List.mem_map.mp hp
    exact (formEncode_bytes q.2 b hb).2

/-! ## What percent-encoding writes -/

/-- Text with no control and no space in it. -/
def Visible (s : String) : Prop := ∀ x ∈ s.toList, 0x20 < x.toNat

/-- Text that is empty or ends with a character that is no control and no space. -/
def EndsVisible (s : String) : Prop := ∀ x ∈ s.toList.getLast?, 0x20 < x.toNat

instance : DecidablePred Visible := fun s =>
  decidable_of_iff (s.toList.all fun x => 0x20 < x.toNat) (by simp [Visible])

instance : DecidablePred EndsVisible := fun s =>
  decidable_of_iff (s.toList.getLast?.all fun x => 0x20 < x.toNat) (by
    unfold EndsVisible
    cases s.toList.getLast? <;> simp)

theorem Visible.endsVisible {s : String} (h : Visible s) : EndsVisible s :=
  fun x hx => h x (List.mem_of_getLast? hx)

theorem Visible.append {a b : String} (ha : Visible a) (hb : Visible b) : Visible (a ++ b) := by
  intro x hx
  rw [String.toList_append, List.mem_append] at hx
  exact hx.elim (ha x) (hb x)

theorem EndsVisible.append {a b : String} (ha : EndsVisible a) (hb : EndsVisible b) :
    EndsVisible (a ++ b) := by
  intro x hx
  rw [String.toList_append, List.getLast?_append] at hx
  cases h : b.toList.getLast? with
  | none => rw [h, Option.none_or] at hx; exact ha x hx
  | some y => rw [h, Option.some_or] at hx; exact hb x (h ▸ hx)

theorem EndsVisible.append_left (a : String) {b : String} (hb : EndsVisible b) (hne : b ≠ "") :
    EndsVisible (a ++ b) := by
  intro x hx
  obtain ⟨y, hy⟩ := Option.ne_none_iff_exists'.mp
    (mt List.getLast?_eq_none_iff.mp (mt String.toList_eq_nil_iff.mp hne))
  rw [String.toList_append, List.getLast?_append, hy, Option.some_or] at hx
  exact hb x (by rw [hy]; exact hx)

theorem percentByte_visible (b : UInt8) : Visible (percentByte b) := by
  have hb : b.toNat < 256 := UInt8.toNat_lt_size b
  have table : ∀ d : Fin 16, 0x20 < (hexUpper d).toNat := by decide
  intro x hx
  simp only [percentByte, String.toList_ofList, List.mem_cons, List.not_mem_nil, or_false] at hx
  rcases hx with rfl | rfl | rfl
  · decide
  · exact table ⟨b.toNat / 16, by omega⟩
  · exact table ⟨b.toNat % 16, by omega⟩

theorem encodeChar_toList (set : EncodeSet) (c : Char) :
    (encodeChar set c).toList =
      if c.toNat < 0x80 && !set c then [c]
      else (String.utf8EncodeChar c).flatMap fun b => (percentByte b).toList := by
  unfold encodeChar
  split
  · simp [Char.toString_eq_singleton]
  · rw [byteArray_foldl, ← byteArray_toList, toUTF8_toList, String.toList_singleton,
      List.flatMap_singleton, foldl_toList_of_step (g := fun b => (percentByte b).toList)
        (fun acc b => String.toList_append), String.toList_empty, List.nil_append]

theorem encodeChar_ne_empty (set : EncodeSet) (c : Char) : encodeChar set c ≠ "" := by
  rw [ne_eq, ← String.toList_eq_nil_iff, encodeChar_toList]
  split
  · exact List.cons_ne_nil c []
  · obtain ⟨b, bs, hb⟩ := List.exists_cons_of_ne_nil (String.utf8EncodeChar_ne_nil (c := c))
    rw [hb, List.flatMap_cons]
    simp [percentByte]

theorem visible_encodeChar {set : EncodeSet} {c : Char} (h : c.toNat ≤ 0x20 → set c = true) :
    Visible (encodeChar set c) := by
  intro x hx
  rw [encodeChar_toList] at hx
  split at hx
  · next hkeep =>
    rw [List.mem_singleton.mp hx]
    refine Nat.lt_of_not_le fun hle => ?_
    simp [h hle] at hkeep
  · obtain ⟨b, -, hb⟩ := List.mem_flatMap.mp hx
    exact percentByte_visible b x hb

theorem encodeWith_toList (set : EncodeSet) (cs : List Char) :
    (encodeWith set cs).toList = cs.flatMap fun c => (encodeChar set c).toList := by
  rw [encodeWith, foldl_toList_of_step (g := fun c => (encodeChar set c).toList)
    (fun acc c => String.toList_append), String.toList_empty, List.nil_append]

theorem encodeWith_append_char (set : EncodeSet) (cs : List Char) (c : Char) :
    encodeWith set (cs ++ [c]) = encodeWith set cs ++ encodeChar set c := by
  simp [encodeWith, List.foldl_append]

theorem visible_encodeWith {set : EncodeSet} {cs : List Char}
    (h : ∀ c ∈ cs, c.toNat ≤ 0x20 → set c = true) : Visible (encodeWith set cs) := by
  intro x hx
  rw [encodeWith_toList, List.mem_flatMap] at hx
  obtain ⟨c, hc, hxc⟩ := hx
  exact visible_encodeChar (h c hc) x hxc

theorem endsVisible_encodeWith {set : EncodeSet} {cs : List Char}
    (h : ∀ x ∈ cs.getLast?, 0x20 < x.toNat) : EndsVisible (encodeWith set cs) := by
  rcases List.eq_nil_or_concat cs with rfl | ⟨cs, c, rfl⟩
  · intro x hx
    simp [encodeWith] at hx
  · rw [List.concat_eq_append, encodeWith_append_char]
    have hc : 0x20 < c.toNat := h c (by simp)
    exact EndsVisible.append_left _ (visible_encodeChar (by omega)).endsVisible
      (encodeChar_ne_empty set c)

theorem encodeWith_plain {set : EncodeSet} {cs : List Char}
    (h : ∀ c ∈ cs, c.toNat < 0x80 ∧ set c = false) : encodeWith set cs = String.ofList cs := by
  apply String.ext
  rw [encodeWith_toList, String.toList_ofList]
  induction cs with
  | nil => rfl
  | cons c cs ih =>
    have hc := h c List.mem_cons_self
    rw [List.flatMap_cons, encodeChar_toList, if_pos (by simp [hc.1, hc.2]),
      ih fun d hd => h d (List.mem_cons_of_mem c hd), List.singleton_append]

end Url

end ChunkStore
