import ChunkStore.Proofs.JsonGrammar
import ChunkStore.Json.Scan
import ChunkStore.Proofs.Digits
/-!
# Scanning written tokens

The scanners walk a byte array by index. Here the view is the bytes from an index on
(`remaining`): one step of a scanner takes one byte off their front. On that view each scanner
reads the text the printer writes for its token and stops right after it:

* blanks are skipped up to the next byte that is not one (`skipBlanks_of_remaining`);
* a literal word is matched whole (`scanWord_of_remaining`);
* a quoted string is read back as the string it quotes, whatever characters it holds
  (`scanString_jsonQuote`);
* a natural below `2^64` written in decimal is read as itself when what follows cannot continue
  a number (`scanNumber_toString`).
-/

namespace ChunkStore.Json

/-- The bytes of `bs` from index `i` on. -/
def remaining (bs : ByteArray) (i : Nat) : List UInt8 := bs.toList.drop i

section Remaining

variable {bs : ByteArray} {i : Nat}

theorem byteAt?_eq_head? (bs : ByteArray) (i : Nat) : byteAt? bs i = (remaining bs i).head? := by
  rw [remaining, byteArray_toList, List.head?_drop, byteAt?]
  split
  · next h =>
    rw [Array.getElem?_toList, Array.getElem?_eq_getElem h]
    rfl
  · simp
    omega

theorem byteAt?_of_remaining {b : UInt8} {r : List UInt8} (h : remaining bs i = b :: r) :
    byteAt? bs i = some b := by
  rw [byteAt?_eq_head?, h]
  rfl

theorem byteAt?_of_remaining_nil (h : remaining bs i = []) : byteAt? bs i = none := by
  rw [byteAt?_eq_head?, h]
  rfl

theorem remaining_add {t r : List UInt8} (h : remaining bs i = t ++ r) :
    remaining bs (i + t.length) = r := by
  rw [remaining, ← List.drop_drop, ← remaining, h, List.drop_left]

theorem remaining_succ {b : UInt8} {r : List UInt8} (h : remaining bs i = b :: r) :
    remaining bs (i + 1) = r :=
  remaining_add (t := [b]) h

theorem length_le_of_remaining {t r : List UInt8} (h : remaining bs i = t ++ r) :
    t.length ≤ bs.size - i := by
  have hlen := congrArg List.length h
  rw [remaining, List.length_drop, byteArray_toList, Array.length_toList, ByteArray.size_data,
    List.length_append] at hlen
  omega

end Remaining

/-! ## Blanks and words -/

/-- The next byte, if there is one, is not a blank. -/
def SolidHead (r : List UInt8) : Prop := ∀ b ∈ r.head?, isBlankByte b = false

theorem skipBlanks_of_remaining {bs : ByteArray} {r : List UInt8} (hr : SolidHead r) :
    ∀ {bl : List UInt8} {i : Nat}, Blanks bl → remaining bs i = bl ++ r →
      skipBlanks bs i = i + bl.length
  | [], i, _, h => by
    rw [skipBlanks]
    cases r with
    | nil =>
      have hnone := byteAt?_of_remaining_nil h
      simp only [byteAt?] at hnone
      split at hnone
      · cases hnone
      · next hi =>
        rw [dif_neg hi]
        rfl
    | cons b r =>
      have hb := byteAt?_of_remaining h
      simp only [byteAt?] at hb
      split at hb
      · next hi =>
        rw [dif_pos hi]
        simp only [Option.some.injEq] at hb
        have hsolid := hr b rfl
        simp only [isBlankByte] at hsolid
        simp [hb, hsolid]
      · cases hb
  | b :: bl, i, hbl, h => by
    have hb := byteAt?_of_remaining h
    simp only [byteAt?] at hb
    split at hb
    · next hi =>
      rw [skipBlanks, dif_pos hi]
      simp only [Option.some.injEq] at hb
      have hblank := hbl b List.mem_cons_self
      simp only [isBlankByte] at hblank
      simp only [hb, hblank, if_true]
      rw [skipBlanks_of_remaining hr (fun x hx => hbl x (List.mem_cons_of_mem b hx))
        (remaining_succ h)]
      simp only [List.length_cons]
      omega
    · cases hb

theorem scanWord_of_remaining {bs : ByteArray} {r : List UInt8} :
    ∀ (w : List UInt8) {i : Nat}, remaining bs i = w ++ r → scanWord bs i w = .ok (i + w.length)
  | [], i, _ => rfl
  | b :: w, i, h => by
    rw [scanWord, byteAt?_of_remaining h]
    simp only [beq_self_eq_true, if_true]
    rw [scanWord_of_remaining w (remaining_succ h)]
    simp only [List.length_cons]
    exact congrArg _ (by omega)

/-! ## Strings -/

/-- A byte a string holds as it is: not a control byte, not a quote, not a backslash. -/
def isPlainByte (b : UInt8) : Bool := 32 ≤ b && b != 34 && b != 92

/-- Bytes appended one by one. -/
def pushAll (acc : ByteArray) (bytes : List UInt8) : ByteArray := bytes.foldl ByteArray.push acc

theorem toList_push (acc : ByteArray) (b : UInt8) : (acc.push b).toList = acc.toList ++ [b] := by
  rw [byteArray_toList, byteArray_toList, ByteArray.data_push, Array.toList_push]

theorem toList_pushAll : ∀ (bytes : List UInt8) (acc : ByteArray),
    (pushAll acc bytes).toList = acc.toList ++ bytes
  | [], acc => by simp [pushAll]
  | b :: bytes, acc => by
    rw [pushAll, List.foldl_cons, ← pushAll, toList_pushAll bytes, toList_push, List.append_assoc,
      List.singleton_append]

theorem toList_byteArray_append (a b : ByteArray) : (a ++ b).toList = a.toList ++ b.toList := by
  simp only [byteArray_toList, ByteArray.toList_data_append]

/-- Plain bytes are copied one at a time, one round each. -/
theorem scanStringBody_plain {bs : ByteArray} :
    ∀ (bytes : List UInt8) {i : Nat} {acc : ByteArray} {fuel : Nat} {r : List UInt8},
      (∀ b ∈ bytes, isPlainByte b = true) → remaining bs i = bytes ++ r → bytes.length ≤ fuel →
      scanStringBody bs i acc fuel =
        scanStringBody bs (i + bytes.length) (pushAll acc bytes) (fuel - bytes.length)
  | [], i, acc, fuel, r, _, _, _ => by simp [pushAll]
  | b :: bytes, i, acc, fuel, r, hplain, h, hf => by
    obtain ⟨f, rfl⟩ : ∃ f, fuel = f + 1 := ⟨fuel - 1, by simp at hf; omega⟩
    have hb := hplain b List.mem_cons_self
    simp only [isPlainByte, Bool.and_eq_true, decide_eq_true_eq, bne_iff_ne, ne_eq] at hb
    obtain ⟨⟨hlow, hquote⟩, hback⟩ := hb
    have hctrl : ¬ b < 32 := by
      rw [UInt8.lt_iff_toNat_lt]
      rw [UInt8.le_iff_toNat_le] at hlow
      simpa using hlow
    rw [scanStringBody, byteAt?_of_remaining h]
    simp only [beq_iff_eq, hquote, hback, hctrl, if_false]
    rw [scanStringBody_plain bytes (fun x hx => hplain x (List.mem_cons_of_mem b hx))
      (remaining_succ h) (by simp at hf; omega)]
    simp only [List.length_cons, pushAll, List.foldl_cons]
    congr 1 <;> omega

/-- Past ASCII every byte of a character's encoding has its top bit set. -/
theorem high_of_mem_utf8EncodeChar {c : Char} (hc : 128 ≤ c.toNat) :
    ∀ b ∈ String.utf8EncodeChar c, 128 ≤ b.toNat := by
  have hne : c.utf8Size ≠ 1 := by
    rw [Ne, Char.utf8Size_eq_one_iff, UInt32.le_iff_toNat_le]
    unfold Char.toNat at hc
    simp only [UInt32.reduceToNat]
    omega
  have hpos := c.utf8Size_pos
  have hle := c.utf8Size_le_four
  -- every byte is some value with the top bits `10`, `110`, `1110` or `11110` or-ed in
  have hor : ∀ (x y : UInt8), 128 ≤ y.toNat → 128 ≤ (x ||| y).toNat := fun x y hy => by
    rw [UInt8.toNat_or]
    exact Nat.le_trans hy Nat.right_le_or
  match h : c.utf8Size, hne with
  | 2, _ =>
    rw [String.utf8EncodeChar_eq_cons_cons h]
    simp only [List.mem_cons, List.not_mem_nil, or_false]
    rintro b (rfl | rfl) <;> exact hor _ _ (by decide)
  | 3, _ =>
    rw [String.utf8EncodeChar_eq_cons_cons_cons h]
    simp only [List.mem_cons, List.not_mem_nil, or_false]
    rintro b (rfl | rfl | rfl) <;> exact hor _ _ (by decide)
  | 4, _ =>
    rw [String.utf8EncodeChar_eq_cons_cons_cons_cons h]
    simp only [List.mem_cons, List.not_mem_nil, or_false]
    rintro b (rfl | rfl | rfl | rfl) <;> exact hor _ _ (by decide)
  | 0, _ => omega
  | n + 5, _ => omega

/-- How the reader takes the bytes one character is written as: copied as they are, a
backslash and one letter, or a backslash, `u` and four hex digits of a control character. -/
theorem escapeBytes_cases (c : Char) :
    (escapeBytes c = String.utf8EncodeChar c ∧ ∀ b ∈ escapeBytes c, isPlainByte b = true) ∨
    (∃ e b, escapeBytes c = [92, e] ∧ e ≠ 117 ∧ simpleEscape e = some b ∧
      String.utf8EncodeChar c = [b]) ∨
    (c.toNat < 32 ∧ escapeBytes c = 92 :: 117 :: textBytes (hex4 c.toNat)) := by
  unfold escapeBytes escapeJsonChar
  split
  · exact .inr (.inl ⟨34, 34, by decide, by decide, by decide, by decide⟩)
  · exact .inr (.inl ⟨92, 92, by decide, by decide, by decide, by decide⟩)
  · exact .inr (.inl ⟨110, 10, by decide, by decide, by decide, by decide⟩)
  · exact .inr (.inl ⟨114, 13, by decide, by decide, by decide, by decide⟩)
  · exact .inr (.inl ⟨116, 9, by decide, by decide, by decide, by decide⟩)
  · exact .inr (.inl ⟨98, 8, by decide, by decide, by decide, by decide⟩)
  · exact .inr (.inl ⟨102, 12, by decide, by decide, by decide, by decide⟩)
  · next hquote hback _ _ _ _ _ =>
    split
    · next hctrl =>
      refine .inr (.inr ⟨hctrl, ?_⟩)
      have hu : textBytes "\\u" = [92, 117] := by decide
      rw [textBytes_append, hu, List.cons_append, List.cons_append, List.nil_append]
    · next hctrl =>
      have hbytes : textBytes c.toString = String.utf8EncodeChar c := by
        simp [textBytes]
      refine .inl ⟨hbytes, ?_⟩
      rw [hbytes]
      by_cases hascii : c.toNat < 128
      · -- one byte, the character's own code
        rw [utf8EncodeChar_ascii hascii]
        intro b hb
        rw [List.mem_singleton] at hb
        subst hb
        have hq : UInt8.ofNat c.toNat ≠ 34 :=
          byte_ne_of_char_ne (d := '"') hascii (by decide) hquote
        have hbk : UInt8.ofNat c.toNat ≠ 92 :=
          byte_ne_of_char_ne (d := '\\') hascii (by decide) hback
        have hval : (UInt8.ofNat c.toNat).toNat = c.toNat := by simp; omega
        have hlow : (32 : UInt8) ≤ UInt8.ofNat c.toNat := by
          rw [UInt8.le_iff_toNat_le, hval]
          simp only [UInt8.reduceToNat]
          omega
        simp [isPlainByte, hq, hbk, hlow]
      · intro b hb
        have hhigh := high_of_mem_utf8EncodeChar (by omega) b hb
        have hlow : (32 : UInt8) ≤ b := by
          rw [UInt8.le_iff_toNat_le]
          simp only [UInt8.reduceToNat]
          omega
        have hq : b ≠ 34 := fun h => by subst h; simp at hhigh
        have hbk : b ≠ 92 := fun h => by subst h; simp at hhigh
        simp [isPlainByte, hq, hbk, hlow]

theorem scanHex4_of_remaining {bs : ByteArray} {i : Nat} {a b c d : UInt8} {r : List UInt8}
    {va vb vc vd : Nat} (h : remaining bs i = [a, b, c, d] ++ r) (ha : hexValue a = some va)
    (hb : hexValue b = some vb) (hc : hexValue c = some vc) (hd : hexValue d = some vd) :
    scanHex4 bs i = .ok (((va * 16 + vb) * 16 + vc) * 16 + vd, i + 4) := by
  have hsize := length_le_of_remaining h
  simp only [List.length_cons, List.length_nil] at hsize
  have h1 := remaining_succ h
  have h2 := remaining_succ h1
  have h3 := remaining_succ h2
  rw [scanHex4, if_pos (by omega)]
  simp [byteAt?_of_remaining h, byteAt?_of_remaining h1, byteAt?_of_remaining h2,
    byteAt?_of_remaining h3, ha, hb, hc, hd]

theorem textBytes_hex4_control {k : Nat} (hk : k < 32) : (textBytes (hex4 k)).length = 4 ∧
    (textBytes (hex4 k)).map hexValue = [some 0, some 0, some (k / 16), some (k % 16)] := by
  have table : ∀ k < 32, (textBytes (hex4 k)).length = 4 ∧
      (textBytes (hex4 k)).map hexValue = [some 0, some 0, some (k / 16), some (k % 16)] := by
    decide +kernel
  exact table k hk

theorem scanHex4_hex4 {bs : ByteArray} {i k : Nat} {r : List UInt8} (hk : k < 32)
    (h : remaining bs i = textBytes (hex4 k) ++ r) : scanHex4 bs i = .ok (k, i + 4) := by
  obtain ⟨hlen, hval⟩ := textBytes_hex4_control hk
  match hbytes : textBytes (hex4 k), hlen, hval with
  | [a, b, c, d], _, hval =>
    simp only [List.map_cons, List.map_nil, List.cons.injEq] at hval
    rw [hbytes] at h
    rw [scanHex4_of_remaining h hval.1 hval.2.1 hval.2.2.1 hval.2.2.2.1]
    have hcode : ((0 * 16 + 0) * 16 + k / 16) * 16 + k % 16 = k := by omega
    rw [hcode]

theorem toList_utf8Of (c : Char) : (utf8Of c.toNat).toList = String.utf8EncodeChar c := by
  rw [utf8Of, toUTF8_toList, Char.ofNat_toNat]
  simp

theorem scanUnicodeEscape_control {bs : ByteArray} {i k : Nat} {r : List UInt8} (hk : k < 32)
    (h : remaining bs i = textBytes (hex4 k) ++ r) :
    scanUnicodeEscape bs i = .ok (utf8Of k, i + 4) := by
  unfold scanUnicodeEscape
  simp [scanHex4_hex4 hk h, bind, Except.bind, pure, Except.pure,
    show ¬ (0xDC00 ≤ k ∧ k ≤ 0xDFFF) by omega, show k < 0xD800 by omega]

/-- The bytes written for one character are read as that character's UTF-8 bytes, in at most
as many rounds as there are bytes. -/
theorem scanStringBody_char {bs : ByteArray} (c : Char) {i : Nat} {acc : ByteArray} {fuel : Nat}
    {r : List UInt8} (h : remaining bs i = escapeBytes c ++ r) (hf : (escapeBytes c).length ≤ fuel) :
    ∃ acc' fuel', acc'.toList = acc.toList ++ String.utf8EncodeChar c ∧
      fuel ≤ fuel' + (escapeBytes c).length ∧
      scanStringBody bs i acc fuel = scanStringBody bs (i + (escapeBytes c).length) acc' fuel' := by
  rcases escapeBytes_cases c with ⟨hbytes, hplain⟩ | ⟨e, b, hbytes, he, hsimple, hutf⟩ |
    ⟨hctrl, hbytes⟩
  · -- copied byte by byte
    refine ⟨pushAll acc (escapeBytes c), fuel - (escapeBytes c).length, ?_, by omega,
      scanStringBody_plain _ hplain h hf⟩
    rw [toList_pushAll, hbytes]
  · -- a backslash and a letter
    rw [hbytes] at h hf ⊢
    obtain ⟨f, rfl⟩ : ∃ f, fuel = f + 1 := ⟨fuel - 1, by simp at hf; omega⟩
    refine ⟨acc.push b, f, by rw [toList_push, hutf], by simp, ?_⟩
    rw [scanStringBody, byteAt?_of_remaining h, byteAt?_of_remaining (remaining_succ h)]
    simp [he, hsimple]
  · -- a backslash, `u` and four hex digits
    rw [hbytes] at h hf ⊢
    obtain ⟨f, rfl⟩ : ∃ f, fuel = f + 1 := ⟨fuel - 1, by simp at hf; omega⟩
    have h2 := remaining_succ (remaining_succ h)
    have hlen := (textBytes_hex4_control hctrl).1
    refine ⟨acc ++ utf8Of c.toNat, f, by rw [toList_byteArray_append, toList_utf8Of], by simp, ?_⟩
    rw [scanStringBody, byteAt?_of_remaining h, byteAt?_of_remaining (remaining_succ h)]
    simp only [List.length_cons, hlen, beq_self_eq_true, if_true, reduceCtorEq, if_false,
      show ((92 : UInt8) == 34) = false by decide]
    rw [scanUnicodeEscape_control hctrl h2]

/-- The body of a written string, up to its closing quote, is read as the UTF-8 bytes of the
characters it writes, provided there is a round for each of its bytes. -/
theorem scanStringBody_written {bs : ByteArray} {r : List UInt8} :
    ∀ (cs : List Char) {i : Nat} {acc : ByteArray} {fuel : Nat},
      remaining bs i = cs.flatMap escapeBytes ++ 34 :: r → (cs.flatMap escapeBytes).length < fuel →
      ∃ acc', acc'.toList = acc.toList ++ cs.flatMap String.utf8EncodeChar ∧
        scanStringBody bs i acc fuel = .ok (acc', i + (cs.flatMap escapeBytes).length + 1)
  | [], i, acc, fuel, h, hf => by
    obtain ⟨f, rfl⟩ : ∃ f, fuel = f + 1 := ⟨fuel - 1, by simp at hf; omega⟩
    refine ⟨acc, by simp, ?_⟩
    rw [scanStringBody, byteAt?_of_remaining h]
    simp
  | c :: cs, i, acc, fuel, h, hf => by
    rw [List.flatMap_cons, List.append_assoc] at h
    simp only [List.flatMap_cons, List.length_append] at hf ⊢
    obtain ⟨acc₁, fuel₁, hacc₁, hfuel₁, hstep⟩ :=
      @scanStringBody_char bs c i acc fuel _ h (by omega)
    obtain ⟨acc', hacc', hrest⟩ :=
      @scanStringBody_written bs r cs _ acc₁ fuel₁ (remaining_add h) (by omega)
    refine ⟨acc', by rw [hacc', hacc₁, List.append_assoc], ?_⟩
    rw [hstep, hrest]
    congr 2
    omega

theorem fromUTF8?_toUTF8 (s : String) : String.fromUTF8? s.toUTF8 = some s := by
  simp only [String.fromUTF8?, String.toUTF8_eq_toByteArray, dif_pos s.isValidUTF8]
  rfl

theorem byteArray_eq_of_toList {a b : ByteArray} (h : a.toList = b.toList) : a = b := by
  rw [byteArray_toList, byteArray_toList] at h
  cases a
  cases b
  simp only [ByteArray.mk.injEq]
  exact Array.ext' h

/-- A quoted string is read back as the string it quotes, from the byte after the opening
quote to the byte after the closing one. -/
theorem scanString_jsonQuote {bs : ByteArray} {i : Nat} {r : List UInt8} (s : String)
    (h : remaining bs i = textBytes (jsonQuote s) ++ r) :
    scanString bs (i + 1) = .ok (s, i + (textBytes (jsonQuote s)).length) := by
  rw [textBytes_jsonQuote] at h ⊢
  have hbody : remaining bs (i + 1) = s.toList.flatMap escapeBytes ++ 34 :: r :=
    remaining_succ (b := 34) (by rw [h]; simp)
  have hlen := length_le_of_remaining hbody
  obtain ⟨body, hbytes, hscan⟩ := @scanStringBody_written bs r s.toList (i + 1) ByteArray.empty
    (bs.size + 1) hbody (by omega)
  have hempty : ByteArray.empty.toList = [] := by
    rw [byteArray_toList]
    rfl
  have hutf : body = s.toUTF8 := by
    apply byteArray_eq_of_toList
    rw [hbytes, hempty, List.nil_append, toUTF8_toList]
  rw [scanString, hscan, hutf]
  dsimp only
  rw [fromUTF8?_toUTF8]
  simp only [Option.getD_some, List.length_cons, List.length_append, List.length_nil]
  congr 2
  omega

/-! ## Numbers -/

/-- The values of the decimal digits of `n`, most significant first. -/
def decimalDigits (n : Nat) : List Nat := (Nat.toDigits 10 n).map fun c => c.toNat - 48

/-- The number that decimal digits write, added on to `acc`. -/
def decimalFrom (acc : Nat) (ds : List Nat) : Nat := ds.foldl (fun a d => a * 10 + d) acc

/-- The byte of a decimal digit. -/
def digitByte (d : Nat) : UInt8 := UInt8.ofNat (48 + d)

theorem digitChar_table : ∀ d < 10,
    String.utf8EncodeChar (Nat.digitChar d) = [digitByte d] ∧ (Nat.digitChar d).toNat - 48 = d := by
  decide

theorem textBytes_toString (n : Nat) :
    textBytes (toString n) = (decimalDigits n).map digitByte := by
  have hrepr : (toString n).toList = Nat.toDigits 10 n := by simp [Nat.repr]
  -- each digit is one byte
  have hdigits : ∀ l : List Char, (∀ c ∈ l, ∃ d < 10, c = d.digitChar) →
      l.flatMap String.utf8EncodeChar = l.map (digitByte ∘ fun c => c.toNat - 48) := by
    intro l hl
    induction l with
    | nil => rfl
    | cons c l ih =>
      obtain ⟨d, hd, rfl⟩ := hl c List.mem_cons_self
      rw [List.flatMap_cons, List.map_cons, (digitChar_table d hd).1,
        ih (fun x hx => hl x (List.mem_cons_of_mem _ hx))]
      simp [(digitChar_table d hd).2]
  rw [textBytes, hrepr, decimalDigits, List.map_map]
  exact hdigits _ fun c hc => Decimal.mem_toDigits (by decide) hc

theorem lt_of_mem_decimalDigits {n d : Nat} (h : d ∈ decimalDigits n) : d < 10 := by
  rw [decimalDigits, List.mem_map] at h
  obtain ⟨c, hc, rfl⟩ := h
  obtain ⟨d, hd, rfl⟩ := Decimal.mem_toDigits (by decide) hc
  rw [(digitChar_table d hd).2]
  exact hd

theorem decimalDigits_of_lt {n : Nat} (hn : n < 10) : decimalDigits n = [n] := by
  simp [decimalDigits, Nat.toDigits_of_lt_base hn, (digitChar_table n hn).2]

theorem decimalDigits_append {m k : Nat} (hm : 0 < m) (hk : k < 10) :
    decimalDigits (10 * m + k) = decimalDigits m ++ [k] := by
  rw [decimalDigits, ← Nat.toDigits_append_toDigits (by decide) hm hk, List.map_append,
    ← decimalDigits, ← decimalDigits, decimalDigits_of_lt hk]

theorem decimalFrom_append (acc : Nat) (xs ys : List Nat) :
    decimalFrom acc (xs ++ ys) = decimalFrom (decimalFrom acc xs) ys :=
  List.foldl_append

theorem decimalFrom_decimalDigits (n : Nat) : decimalFrom 0 (decimalDigits n) = n := by
  induction n using Nat.base_induction 10 (by decide) with
  | single m hm => simp [decimalDigits_of_lt hm, decimalFrom]
  | digit m k hk hm ih =>
    rw [decimalDigits_append hm hk, decimalFrom_append, ih]
    simp only [decimalFrom, List.foldl_cons, List.foldl_nil]
    omega

theorem decimalDigits_cons {n : Nat} (hn : 0 < n) : ∃ d ds, decimalDigits n = d :: ds ∧ 0 < d := by
  induction n using Nat.base_induction 10 (by decide) with
  | single m hm => exact ⟨m, [], decimalDigits_of_lt hm, hn⟩
  | digit m k hk hm ih =>
    obtain ⟨d, ds, hds, hd⟩ := ih hm
    exact ⟨d, ds ++ [k], by rw [decimalDigits_append hm hk, hds, List.cons_append], hd⟩

/-- What may follow a number: nothing, or a byte that cannot continue it (no digit, point or
exponent). -/
def EndsNumber (r : List UInt8) : Prop :=
  ∀ b ∈ r.head?, isDigitByte b = false ∧ b ≠ 46 ∧ b ≠ 101 ∧ b ≠ 69

theorem digitByte_table : ∀ d < 10,
    isDigitByte (digitByte d) = true ∧ (digitByte d).toNat - 48 = d ∧ (digitByte d = 48 ↔ d = 0) := by
  decide

theorem le_decimalFrom (acc : Nat) (ds : List Nat) : acc ≤ decimalFrom acc ds := by
  induction ds generalizing acc with
  | nil => exact Nat.le_refl acc
  | cons d ds ih => exact Nat.le_trans (by omega) (ih (acc * 10 + d))

theorem digitAt?_of_remaining {bs : ByteArray} {k d : Nat} {r : List UInt8} (hd : d < 10)
    (h : remaining bs k = digitByte d :: r) : digitAt? bs k = some d := by
  rw [digitAt?, byteAt?_of_remaining h]
  simp [(digitByte_table d hd).1, (digitByte_table d hd).2.1]

theorem digitAt?_of_endsNumber {bs : ByteArray} {k : Nat} {r : List UInt8}
    (h : remaining bs k = r) (hr : EndsNumber r) : digitAt? bs k = none := by
  rw [digitAt?, byteAt?_eq_head?, h]
  cases r with
  | nil => rfl
  | cons b r => simp [(hr b rfl).1]

/-- The digit loop reads a run of digits whose value stays within 64 bits, and hands what
follows to `scanAfterInteger`. -/
theorem scanDigits_of_remaining {bs : ByteArray} {positive : Bool} :
    ∀ (ds : List Nat) {sig k fuel : Nat} {r : List UInt8}, (∀ d ∈ ds, d < 10) →
      remaining bs k = ds.map digitByte ++ r → EndsNumber r → decimalFrom sig ds ≤ u64Max →
      ds.length < fuel →
      scanNumber.digits bs positive sig k fuel =
        scanAfterInteger bs positive (decimalFrom sig ds) (k + ds.length)
  | [], sig, k, fuel, r, _, h, hr, _, hf => by
    obtain ⟨f, rfl⟩ : ∃ f, fuel = f + 1 := ⟨fuel - 1, by omega⟩
    rw [scanNumber.digits, digitAt?_of_endsNumber h hr]
    rfl
  | d :: ds, sig, k, fuel, r, hds, h, hr, hv, hf => by
    obtain ⟨f, rfl⟩ : ∃ f, fuel = f + 1 := ⟨fuel - 1, by simp at hf; omega⟩
    have hd := hds d List.mem_cons_self
    -- the value so far never passes the whole value, which fits
    have hle := le_decimalFrom (sig * 10 + d) ds
    have hv' : decimalFrom (sig * 10 + d) ds ≤ u64Max := hv
    rw [scanNumber.digits, digitAt?_of_remaining hd h]
    dsimp only
    rw [if_neg (by omega), scanDigits_of_remaining ds (fun x hx => hds x (List.mem_cons_of_mem d hx))
      (remaining_succ h) hr hv' (by simp at hf; omega)]
    simp only [List.length_cons]
    exact congrArg _ (by omega)

theorem scanAfterInteger_unsigned {bs : ByteArray} {k : Nat} {r : List UInt8}
    (h : remaining bs k = r) (hr : EndsNumber r) (sig : Nat) :
    scanAfterInteger bs true sig k = .ok (.unsigned sig, k) := by
  unfold scanAfterInteger
  rw [byteAt?_eq_head?, h]
  cases r with
  | nil => rfl
  | cons b r =>
    obtain ⟨-, h46, h101, h69⟩ := hr b rfl
    simp [h46, h101, h69]

theorem scanAfterInteger_signed {bs : ByteArray} {k : Nat} {r : List UInt8}
    (h : remaining bs k = r) (hr : EndsNumber r) {sig : Nat} (hpos : 0 < sig)
    (hle : sig ≤ Nat.pow 2 63) :
    scanAfterInteger bs false sig k = .ok (.signed (-(sig : Int)), k) := by
  unfold scanAfterInteger
  rw [byteAt?_eq_head?, h]
  cases r with
  | nil => simp [Nat.pos_iff_ne_zero.1 hpos, hle]
  | cons b r =>
    obtain ⟨-, h46, h101, h69⟩ := hr b rfl
    simp [h46, h101, h69, Nat.pos_iff_ne_zero.1 hpos, hle]

/-- A number written in decimal is read digit by digit, when it fits in 64 bits and what
follows cannot continue it; what comes after the digits decides its kind. -/
theorem scanNumber_toString {bs : ByteArray} {i : Nat} {r : List UInt8} (positive : Bool)
    {n : Nat} (hn : n ≤ u64Max) (h : remaining bs i = textBytes (toString n) ++ r)
    (hr : EndsNumber r) :
    scanNumber bs positive i =
      scanAfterInteger bs positive n (i + (textBytes (toString n)).length) := by
  rw [textBytes_toString] at h ⊢
  rcases Nat.eq_zero_or_pos n with rfl | hpos
  · -- a lone zero: no digit may follow it
    rw [decimalDigits_of_lt (by decide)] at h ⊢
    have h0 : digitByte 0 = 48 := by decide
    rw [List.map_singleton, h0, List.singleton_append] at h
    unfold scanNumber
    rw [byteAt?_of_remaining h]
    simp only [beq_self_eq_true, if_true, digitAt?_of_endsNumber (remaining_succ h) hr]
    rfl
  · obtain ⟨d, ds, hds, hd⟩ := decimalDigits_cons hpos
    have hd10 : d < 10 := lt_of_mem_decimalDigits (hds ▸ List.mem_cons_self)
    have hall : ∀ x ∈ ds, x < 10 := fun x hx =>
      lt_of_mem_decimalDigits (hds ▸ List.mem_cons_of_mem d hx)
    have hval : decimalFrom d ds = n := by
      have := decimalFrom_decimalDigits n
      rwa [hds, decimalFrom, List.foldl_cons, Nat.zero_mul, Nat.zero_add] at this
    obtain ⟨hdigit, hvalue, hzero⟩ := digitByte_table d hd10
    rw [hds, List.map_cons, List.cons_append] at h
    have hlen := length_le_of_remaining (remaining_succ h)
    rw [hds]
    unfold scanNumber
    rw [byteAt?_of_remaining h]
    simp only [beq_iff_eq, hzero, Nat.pos_iff_ne_zero.1 hd, if_false, hdigit, if_true, hvalue]
    rw [scanDigits_of_remaining ds hall (remaining_succ h) hr (hval ▸ hn)
      (by simp at hlen; omega), hval]
    simp only [List.length_map, List.length_cons]
    exact congrArg _ (by omega)

end ChunkStore.Json
