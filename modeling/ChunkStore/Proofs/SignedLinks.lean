import ChunkStore.Proofs.QueryAppend
import ChunkStore.Proofs.Digits
import ChunkStore.Chunk.Node
import Mathlib.Algebra.Group.Int.Defs
import Mathlib.Algebra.Group.Nat.Defs
/-!
# Signed links read back

A signed link is its location with the query `ex=<hex>&is=<hex>&hm=<signature>&`. Through every
lawful URL library, reading it back gives the parts it was written from (`signedUrl_round_trip`)
when the location is a URL that the library parses with no query and no fragment and writes as
its own text, both timestamps lie in `[0, 2^32)`, and the signature is not empty.

Three facts meet here. The query is the library's text of its three pairs, since form encoding
keeps the names and the lowercase hex timestamps as they are (`signedQuery_eq_pairsText`), so the
library reads the pairs back. Every character of the query is one that no query set encodes
(`signedQuery_querySafe`), so the library reads the location with the query after it as a URL with
that query, whose location is the first text again. And lowercase hex reads back as the number
below `2^32` it was written from (`hexField_hex64`).

The library the program runs with is lawful (`Url.library_lawful`), so all of this holds of it.
-/

namespace ChunkStore

/-! ## Hex timestamps -/

theorem parseU32_toDigits {n : Nat} (h : n < 2 ^ 32) :
    Decimal.parseU32 16 (String.ofList (Nat.toDigits 16 n)) = .ok n :=
  Decimal.parseUnsigned_toDigits (by decide) (by decide) h

theorem hexField_hex64 (name : String) {n : Int} (h0 : 0 ≤ n) (h1 : n < 2 ^ 32) :
    SignedUrl.hexField name (some (SignedUrl.hex64 n)) = .ok n := by
  have hbits : SignedUrl.hex64 n = String.ofList (Nat.toDigits 16 n.toNat) := by
    simp [SignedUrl.hex64, show ¬ n < 0 by omega]
  rw [SignedUrl.hexField, hbits, parseU32_toDigits (by omega)]
  simp [Int.toNat_of_nonneg h0]

theorem formSafe_of_mem_hex64 {n : Int} {c : Char} (h : c ∈ (SignedUrl.hex64 n).toList) :
    FormSafe c := by
  have table : ∀ d : Fin 16, FormSafe (Nat.digitChar d) := by decide
  rw [SignedUrl.hex64, String.toList_ofList] at h
  obtain ⟨d, hd, rfl⟩ := Decimal.mem_toDigits (by decide) h
  exact table ⟨d, hd⟩

/-- Each character of a text passes a decidable test when running the test along the text
passes. -/
theorem forall_mem_toList_of_all {P : Char → Prop} [DecidablePred P] {s : String}
    (h : s.toList.all (fun c => decide (P c)) = true) : ∀ c ∈ s.toList, P c :=
  fun c hc => of_decide_eq_true (List.all_eq_true.1 h c hc)

/-! ## The query of a signed link -/

section Query

variable {L : UrlLibrary} (hL : L.Lawful)

/-- The query a signed link carries after its location. -/
def signedQuery (L : UrlLibrary) (ex is : Int) (sig : String) : String :=
  "ex=" ++ SignedUrl.hex64 ex ++ "&is=" ++ SignedUrl.hex64 is ++ "&hm=" ++ L.formEncode sig ++ "&"

theorem encodePartsWith_eq (L : UrlLibrary) (url : String) (ex is : Int) (sig : String) :
    SignedUrl.encodePartsWith L url ex is sig = url ++ "?" ++ signedQuery L ex is sig := by
  simp only [SignedUrl.encodePartsWith, signedQuery, String.append_assoc,
    show "?ex=" = "?" ++ "ex=" by decide]

include hL

theorem signedQuery_eq_pairsText (ex is : Int) (sig : String) :
    signedQuery L ex is sig =
      L.pairsText [("ex", SignedUrl.hex64 ex), ("is", SignedUrl.hex64 is), ("hm", sig)] := by
  have hhex : ∀ n, L.formEncode (SignedUrl.hex64 n) = SignedUrl.hex64 n :=
    fun n => hL.formEncode_safe fun x hx => formSafe_of_mem_hex64 hx
  have hex : L.formEncode "ex" = "ex" := hL.formEncode_safe (forall_mem_toList_of_all (by decide))
  have his : L.formEncode "is" = "is" := hL.formEncode_safe (forall_mem_toList_of_all (by decide))
  have hhm : L.formEncode "hm" = "hm" := hL.formEncode_safe (forall_mem_toList_of_all (by decide))
  simp only [UrlLibrary.pairsText, List.map_cons, List.map_nil, String.join_cons,
    String.join_nil, hhex, hex, his, hhm, signedQuery, String.append_empty, String.append_assoc,
    show "&is=" = "&" ++ ("is" ++ "=") by decide, show "&hm=" = "&" ++ ("hm" ++ "=") by decide,
    show "ex=" = "ex" ++ "=" by decide]

theorem formPairs_signedQuery (ex is : Int) (sig : String) :
    L.formPairs (signedQuery L ex is sig) =
      [("ex", SignedUrl.hex64 ex), ("is", SignedUrl.hex64 is), ("hm", sig)] := by
  rw [signedQuery_eq_pairsText hL, hL.formPairs_pairsText]

theorem signedQuery_querySafe (ex is : Int) (sig : String) :
    ∀ x ∈ (signedQuery L ex is sig).toList, QuerySafe x := by
  intro x hx
  simp only [signedQuery, String.toList_append, List.mem_append] at hx
  rcases hx with (((((hx | hx) | hx) | hx) | hx) | hx) | hx
  · exact forall_mem_toList_of_all (by decide) x hx
  · exact .of_formSafe (.inl (formSafe_of_mem_hex64 hx))
  · exact forall_mem_toList_of_all (by decide) x hx
  · exact .of_formSafe (.inl (formSafe_of_mem_hex64 hx))
  · exact forall_mem_toList_of_all (by decide) x hx
  · exact .of_formSafe (hL.formEncode_chars sig x hx)
  · exact forall_mem_toList_of_all (by decide) x hx

end Query

/-! ## Reading a signed link back -/

theorem eq_ok_of_toOption {ε α : Type} {e : Except ε α} {a : α} (h : e.toOption = some a) :
    e = .ok a := by
  cases e with
  | error _ => cases h
  | ok b => cases h; rfl

/-- Through a lawful URL library, a signed link written from a location, a signature window and a
signature reads back as them, when the location is a URL that the library parses with no query
and no fragment and writes as its own text, both timestamps lie in `[0, 2^32)`, and the signature
is not empty. So reading a link written this way and writing it again gives the same text, and
the link of a record made from these parts reads back as them. -/
theorem signedUrl_round_trip (L : UrlLibrary) (hL : L.Lawful) {c : String} {u : L.Url}
    (hu : L.parse c = .ok u) (hquery : L.query u = none) (hfrag : L.fragment u = none)
    (htext : L.serialize u = c) {ex is : Int} (hex : 0 ≤ ex ∧ ex < 2 ^ 32)
    (his : 0 ≤ is ∧ is < 2 ^ 32) {sig : String} (hsig : sig ≠ "") :
    SignedUrl.parseWith L (SignedUrl.encodePartsWith L c ex is sig) = .ok ⟨c, ex, is, sig⟩ ∧
      (SignedUrl.parseWith L (SignedUrl.encodePartsWith L c ex is sig)).map
          (SignedUrl.encodeWith L) = .ok (SignedUrl.encodePartsWith L c ex is sig) ∧
      ∀ size messageId,
        SignedUrl.parseWith L ((Node.ofSigned ⟨c, ex, is, sig⟩ size messageId).signedUrlWith L) =
          .ok ⟨c, ex, is, sig⟩ := by
  -- the library reads the location with the query as a URL with that query
  obtain ⟨v, hv, hvquery, hvurl⟩ :=
    hL.parse_with_query hu hquery hfrag htext (signedQuery_querySafe hL ex is sig)
  have hpairs : L.queryPairs v =
      [("ex", SignedUrl.hex64 ex), ("is", SignedUrl.hex64 is), ("hm", sig)] := by
    rw [UrlLibrary.queryPairs, hvquery, Option.map_some, Option.getD_some,
      formPairs_signedQuery hL]
  have hsig' : sig.isEmpty = false := by simpa using hsig
  have hread : SignedUrl.parseWith L (SignedUrl.encodePartsWith L c ex is sig) =
      .ok ⟨c, ex, is, sig⟩ := by
    rw [encodePartsWith_eq, SignedUrl.parseWith, hv]
    simp only [pure_bind, hpairs, SignedUrl.lastValue]
    simp only [beq_iff_eq, List.foldl_cons, List.foldl_nil, String.reduceEq, ↓reduceIte,
      Bool.false_eq_true, hexField_hex64 _ hex.1 hex.2, hexField_hex64 _ his.1 his.2, hsig',
      hvurl, bind_pure_comp, Except.map_ok]
    rfl
  exact ⟨hread, by rw [hread]; rfl, fun _ _ => hread⟩

/-- The URL library the program runs with, on a link with an opaque host and a signature that
form encoding changes: the library is lawful, and the link reads back. -/
theorem signedUrl_round_trip_opaque_host :
    Url.library.Lawful ∧
      Url.parse "s3://bucket/a/b.bin" =
        .ok ⟨"s3", some ⟨"", "", some (.domain "bucket"), none⟩, .segments ["a", "b.bin"], none,
          none⟩ ∧
      SignedUrl.parseWith Url.library
          (SignedUrl.encodePartsWith Url.library "s3://bucket/a/b.bin" 1700000000 1690000000
            "a b/+é") =
        .ok ⟨"s3://bucket/a/b.bin", 1700000000, 1690000000, "a b/+é"⟩ := by
  have hu : Url.parse "s3://bucket/a/b.bin" =
      .ok ⟨"s3", some ⟨"", "", some (.domain "bucket"), none⟩, .segments ["a", "b.bin"], none,
        none⟩ := eq_ok_of_toOption (by decide +kernel)
  exact ⟨Url.library_lawful, hu, (signedUrl_round_trip Url.library Url.library_lawful
    (Url.library_parse_eq_ok.mpr hu) rfl rfl (by decide +kernel) ⟨by decide, by decide⟩
    ⟨by decide, by decide⟩ (by decide)).1⟩

end ChunkStore
