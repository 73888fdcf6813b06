import ChunkStore.Proofs.JsonScanning
import ChunkStore.Json.Decode
import Mathlib.Data.List.Forall2
/-!
# Decoders read written values

A decoder is run on a text from an index (`Decode.exec`), and the statements here are about
successful runs. `Reads x t a` says that `x`, started where the bytes `t` begin, stops right
after them with `a`, whatever delimiter follows (`Delimited`: a blank, a comma, a closing
bracket or brace, or the end). `Decodes x j a` says that `x` reads every written text of the
JSON value `j` (`Written`), after any blanks, as `a`.

The scalar decoders read their values (`text_decodes`, `u64_decodes`, `i64_decodes`,
`bool_decodes`, `option_decodes_some`); arrays are read item by item (`seq_decodes`), and records
member by member, each member's key naming a field whose decoder reads the member's value
(`ReadsFields`, `struct_decodes`). A whole text is decoded when it is a written value followed
only by blanks (`run_decodes`).

These are the decoders of the library the program runs with; what is proved of them here is what
`JsonCodec.Lawful` asks of any JSON library, and the records are read back through every library
that keeps it.
-/

namespace ChunkStore.Json

/-! ## Runs of a decoder -/

namespace Decode

/-- Run a decoder on the text `bs` from index `i`: its outcome and the index where it stops. -/
def exec {α : Type} (x : Decode α) (bs : ByteArray) (i : Nat) : Except DecodeError α × Nat :=
  (ExceptT.run (ReaderT.run x bs)).run i

section Exec

variable {α β : Type} (bs : ByteArray) (i : Nat)

@[simp] theorem exec_pure (a : α) : (pure a : Decode α).exec bs i = (.ok a, i) := rfl

theorem exec_bind (x : Decode α) (f : α → Decode β) :
    (x >>= f).exec bs i = match x.exec bs i with
      | (.ok a, j) => (f a).exec bs j
      | (.error e, j) => (.error e, j) := by
  simp only [exec, bind, ReaderT.bind, ReaderT.run, ExceptT.run, ExceptT.bind, ExceptT.mk,
    StateT.run, StateT.bind]
  rcases x bs i with ⟨_ | a, j⟩ <;> rfl

theorem exec_bind_ok {x : Decode α} {a : α} {j : Nat} (h : x.exec bs i = (.ok a, j))
    (f : α → Decode β) : (x >>= f).exec bs i = (f a).exec bs j := by
  rw [exec_bind, h]

theorem exec_tryCatch_ok {x : Decode α} {a : α} {j : Nat} (h : x.exec bs i = (.ok a, j))
    (handler : DecodeError → Decode α) : (tryCatch x handler).exec bs i = (.ok a, j) := by
  simp only [exec, tryCatch, tryCatchThe, MonadExceptOf.tryCatch, ReaderT.run, ExceptT.run,
    ExceptT.tryCatch, ExceptT.mk, StateT.run, StateT.bind, bind]
  simp only [exec, ReaderT.run, ExceptT.run, StateT.run] at h
  rw [h]
  rfl

@[simp] theorem exec_get : (get : Decode Nat).exec bs i = (.ok i, i) := rfl
@[simp] theorem exec_set (j : Nat) : (set j : Decode PUnit).exec bs i = (.ok ⟨⟩, j) := rfl
@[simp] theorem exec_read : (read : Decode ByteArray).exec bs i = (.ok bs, i) := rfl
@[simp] theorem exec_modify (f : Nat → Nat) :
    (modify f : Decode PUnit).exec bs i = (.ok ⟨⟩, f i) := rfl
@[simp] theorem exec_eatByte : eatByte.exec bs i = (.ok ⟨⟩, i + 1) := rfl

end Exec

end Decode

open Decode

/-! ## Reading a text -/

/-- What may follow a value: nothing, a blank, a comma, or a closing bracket or brace. -/
def Delimited (r : List UInt8) : Prop :=
  ∀ b ∈ r.head?, isBlankByte b = true ∨ b = 44 ∨ b = 93 ∨ b = 125

theorem Delimited.endsNumber {r : List UInt8} (h : Delimited r) : EndsNumber r := by
  intro b hb
  rcases h b hb with hb | rfl | rfl | rfl
  · simp only [isBlankByte, Bool.or_eq_true, beq_iff_eq] at hb
    rcases hb with ((rfl | rfl) | rfl) | rfl <;> decide
  all_goals decide

/-- `x` reads the bytes `t` as `a`: started where they begin, it stops right after them. -/
def Reads {α : Type} (x : Decode α) (t : List UInt8) (a : α) : Prop :=
  ∀ bs i r, remaining bs i = t ++ r → Delimited r → x.exec bs i = (.ok a, i + t.length)

/-- `x` reads every written text of the value `j`, after any blanks, as `a`. -/
def Decodes {α : Type} (x : Decode α) (j : Json) (a : α) : Prop :=
  ∀ bl t, Blanks bl → Written j t → Reads x (bl ++ t) a

/-! ## Looking at the next byte -/

section Steps

variable {bs : ByteArray} {i : Nat}

theorem peekBlank_exec {bl r : List UInt8} (hbl : Blanks bl) (hr : SolidHead r)
    (h : remaining bs i = bl ++ r) : peekBlank.exec bs i = (.ok r.head?, i + bl.length) := by
  have hskip := skipBlanks_of_remaining hr hbl h
  have hhead : byteAt? bs (i + bl.length) = r.head? := by rw [byteAt?_eq_head?, remaining_add h]
  simp only [peekBlank, exec_bind, exec_read, exec_get, exec_set, exec_pure, hskip, hhead]

theorem fixing_exec {α : Type} {x : Decode α} {a : α} {j : Nat} (h : x.exec bs i = (.ok a, j)) :
    (fixing x).exec bs i = (.ok a, j) :=
  exec_tryCatch_ok bs i h _

theorem string_exec {s : String} {r : List UInt8} (h : remaining bs i = textBytes (jsonQuote s) ++ r) :
    string.exec bs i = (.ok s, i + (textBytes (jsonQuote s)).length) := by
  simp only [string, exec_bind, exec_read, exec_get, scanString_jsonQuote s h, exec_set, exec_pure]

end Steps

theorem solidHead_quote (s : String) (r : List UInt8) :
    SolidHead (textBytes (jsonQuote s) ++ r) := by
  rw [textBytes_jsonQuote]
  intro b hb
  simp only [List.cons_append, List.head?_cons, Option.mem_def, Option.some.injEq] at hb
  subst hb
  rfl

theorem text_decodes (s : String) : Decodes text (.str s) s := by
  intro bl t hbl hw bs i r h _
  cases hw
  rw [List.append_assoc] at h
  have hpeek := peekBlank_exec hbl (solidHead_quote s r) h
  have hq : (textBytes (jsonQuote s) ++ r).head? = some 34 := by
    rw [textBytes_jsonQuote]
    rfl
  rw [hq] at hpeek
  apply fixing_exec
  rw [exec_bind_ok bs i hpeek]
  show string.exec bs (i + bl.length) = _
  rw [string_exec (remaining_add h), List.length_append, Nat.add_assoc]

/-! ## Numbers -/

theorem textBytes_toString_cons (n : Nat) :
    ∃ d ds, textBytes (toString n) = digitByte d :: ds ∧ d < 10 := by
  rw [textBytes_toString]
  rcases Nat.eq_zero_or_pos n with rfl | hpos
  · exact ⟨0, [], by rw [decimalDigits_of_lt (by decide)]; rfl, by decide⟩
  · obtain ⟨d, ds, hds, -⟩ := decimalDigits_cons hpos
    exact ⟨d, ds.map digitByte, by rw [hds]; rfl,
      lt_of_mem_decimalDigits (hds ▸ List.mem_cons_self)⟩

theorem textBytes_toString_neg {i : Int} (h : i < 0) :
    textBytes (toString i) = 45 :: textBytes (toString i.natAbs) := by
  cases i with
  | ofNat n => exact absurd h (Int.not_lt.2 (Int.natCast_nonneg n))
  | negSucc m =>
    have htext : toString (Int.negSucc m) = "-" ++ toString (Int.negSucc m).natAbs := rfl
    rw [htext, textBytes_append]
    rfl

section Numbers

variable {bs : ByteArray} {i : Nat} {r : List UInt8}

theorem number_unsigned {n : Nat} (hn : n ≤ u64Max) (h : remaining bs i = textBytes (toString n) ++ r)
    (hr : Delimited r) :
    (number true).exec bs i = (.ok (.unsigned n), i + (textBytes (toString n)).length) := by
  simp only [number, exec_bind, exec_read, exec_get,
    scanNumber_toString true hn h hr.endsNumber,
    scanAfterInteger_unsigned (remaining_add h) hr.endsNumber, exec_set, exec_pure]

theorem number_signed {n : Nat} (hpos : 0 < n) (hn : n ≤ Nat.pow 2 63)
    (h : remaining bs i = textBytes (toString n) ++ r) (hr : Delimited r) :
    (number false).exec bs i = (.ok (.signed (-(n : Int))), i + (textBytes (toString n)).length) := by
  have hmax : n ≤ u64Max := Nat.le_trans hn (by decide)
  simp only [number, exec_bind, exec_read, exec_get,
    scanNumber_toString false hmax h hr.endsNumber,
    scanAfterInteger_signed (remaining_add h) hr.endsNumber hpos hn, exec_set, exec_pure]

end Numbers

theorem digitByte_solid {d : Nat} (hd : d < 10) :
    isBlankByte (digitByte d) = false ∧ digitByte d ≠ 45 := by
  have table : ∀ d < 10, isBlankByte (digitByte d) = false ∧ digitByte d ≠ 45 := by decide
  exact table d hd

theorem solidHead_digit {d : Nat} (hd : d < 10) (r : List UInt8) : SolidHead (digitByte d :: r) := by
  intro b hb
  simp only [List.head?_cons, Option.mem_def, Option.some.injEq] at hb
  subst hb
  exact (digitByte_solid hd).1

/-- A natural below the bound is read back from its decimal text. -/
theorem natBelow_decodes {bound : Nat} (expected : String) {n : Nat} (hn : n < bound)
    (hbound : bound ≤ Nat.pow 2 64) : Decodes (natBelow bound expected) (Json.nat n) n := by
  intro bl t hbl hw bs i r h hr
  cases hw
  obtain ⟨d, ds, hbytes, hd⟩ := textBytes_toString_cons n
  have hdigit := (digitByte_table d hd).1
  have hminus := (digitByte_solid hd).2
  have htext : (JsonNumber.nat n).text = toString n := rfl
  rw [htext] at h ⊢
  rw [List.append_assoc] at h
  have hpeek := peekBlank_exec hbl (by rw [hbytes]; exact solidHead_digit hd _) h
  rw [hbytes, List.cons_append, List.head?_cons] at hpeek
  have hnum := number_unsigned (by unfold u64Max; omega) (remaining_add h) hr
  apply fixing_exec
  rw [exec_bind_ok bs i hpeek]
  split
  · next heq => cases heq
  · next heq =>
    simp only [Option.some.injEq] at heq
    exact absurd heq hminus
  · next b _ heq =>
    simp only [Option.some.injEq] at heq
    subst heq
    rw [if_pos hdigit, exec_bind_ok _ _ hnum]
    simp [hn, List.length_append, Nat.add_assoc]

/-- A 64-bit unsigned number is read back from its decimal text. -/
theorem u64_decodes {n : Nat} (hn : n < Nat.pow 2 64) : Decodes u64 (Json.nat n) n :=
  natBelow_decodes "u64" hn (Nat.le_refl _)

/-- A 64-bit signed number is read back from its decimal text, with its minus sign. -/
theorem i64_decodes {v : Int} (hlo : -(Nat.pow 2 63 : Int) ≤ v) (hhi : v < (Nat.pow 2 63 : Int)) :
    Decodes i64 (Json.int v) v := by
  intro bl t hbl hw bs i r h hr
  rw [List.append_assoc] at h
  unfold Json.int at hw
  split at hw
  · -- a minus sign, then the digits of the magnitude
    next hneg =>
    cases hw
    have htext : (JsonNumber.neg v).text = toString v := rfl
    rw [htext, textBytes_toString_neg hneg] at h ⊢
    have hpeek := peekBlank_exec hbl (r := 45 :: textBytes (toString v.natAbs) ++ r)
      (fun b hb => by simp only [List.cons_append, List.head?_cons, Option.mem_def,
        Option.some.injEq] at hb; subst hb; rfl) h
    rw [List.cons_append, List.head?_cons] at hpeek
    have hnum := number_signed (n := v.natAbs) (by omega) (by omega)
      (remaining_succ (remaining_add h)) hr
    apply fixing_exec
    rw [exec_bind_ok bs i hpeek]
    show (do eatByte; let s ← number false; _).exec bs (i + bl.length) = _
    rw [exec_bind_ok _ _ (exec_eatByte bs _), exec_bind_ok _ _ hnum]
    have hv : -(v.natAbs : Int) = v := by omega
    simp only [hv, Nat.toString_eq_repr, exec_pure, List.length_append, List.length_cons,
      Prod.mk.injEq, true_and]
    omega
  · -- the digits of a natural below `2^63`
    next hpos =>
    cases hw
    obtain ⟨d, ds, hbytes, hd⟩ := textBytes_toString_cons v.toNat
    have hdigit := (digitByte_table d hd).1
    have hminus := (digitByte_solid hd).2
    have htext : (JsonNumber.nat v.toNat).text = toString v.toNat := rfl
    rw [htext] at h ⊢
    have hpeek := peekBlank_exec hbl (by rw [hbytes]; exact solidHead_digit hd _) h
    rw [hbytes, List.cons_append, List.head?_cons] at hpeek
    have h63 : Nat.pow 2 63 = 9223372036854775808 := rfl
    have hmax : u64Max = 18446744073709551615 := rfl
    have hnum := number_unsigned (n := v.toNat) (by rw [hmax]; rw [h63] at hhi; omega)
      (remaining_add h) hr
    apply fixing_exec
    rw [exec_bind_ok bs i hpeek]
    split
    · next heq => cases heq
    · next heq =>
      simp only [Option.some.injEq] at heq
      exact absurd heq hminus
    · next b _ heq =>
      simp only [Option.some.injEq] at heq
      subst heq
      rw [if_pos hdigit, exec_bind_ok _ _ hnum]
      have hlt : v.toNat < Nat.pow 2 63 := by omega
      have hv : ((v.toNat : Nat) : Int) = v := by omega
      simp [hlt, hv, List.length_append, Nat.add_assoc]

/-! ## Punctuation -/

theorem delimited_of_blanks {b : List UInt8} (hb : Blanks b) {c : UInt8} (hc : c = 44 ∨ c = 93 ∨ c = 125)
    (rest : List UInt8) : Delimited (b ++ c :: rest) := by
  intro x hx
  cases b with
  | nil =>
    simp only [List.nil_append, List.head?_cons, Option.mem_def, Option.some.injEq] at hx
    subst hx
    exact .inr hc
  | cons y b =>
    simp only [List.cons_append, List.head?_cons, Option.mem_def, Option.some.injEq] at hx
    subst hx
    exact .inl (hb _ List.mem_cons_self)

theorem solidHead_of_eq {r : List UInt8} {c : UInt8} {rest : List UInt8} (hr : r = c :: rest)
    (hc : isBlankByte c = false) : SolidHead r := by
  intro x hx
  rw [hr] at hx
  simp only [List.head?_cons, Option.mem_def, Option.some.injEq] at hx
  subst hx
  exact hc

section Punctuation

variable {bs : ByteArray} {i : Nat}

theorem peekBlank_at {b : List UInt8} (hb : Blanks b) {c : UInt8} (hc : isBlankByte c = false)
    {rest : List UInt8} (h : remaining bs i = b ++ c :: rest) :
    peekBlank.exec bs i = (.ok (some c), i + b.length) :=
  peekBlank_exec hb (solidHead_of_eq rfl hc) h

theorem word_exec {w r : List UInt8} (h : remaining bs (i + 1) = w ++ r) :
    (word w).exec bs i = (.ok (), i + 1 + w.length) := by
  simp only [word, exec_bind, exec_read, exec_get, scanWord_of_remaining w h, exec_set]

theorem peekBlank_first {bl : List UInt8} (hbl : Blanks bl) {c : UInt8}
    (hc : isBlankByte c = false) {w r : List UInt8} (h : remaining bs i = bl ++ c :: w ++ r) :
    peekBlank.exec bs i = (.ok (some c), i + bl.length) ∧
      remaining bs (i + bl.length + 1) = w ++ r := by
  have h' : remaining bs i = bl ++ c :: (w ++ r) := by
    rw [h]
    simp
  exact ⟨peekBlank_at hbl hc h', remaining_succ (remaining_add h')⟩

theorem closing_exec {α : Type} {body : Decode α} {close : Decode Unit} {a : α} {j k : Nat}
    (hbody : body.exec bs i = (.ok a, j)) (hclose : close.exec bs j = (.ok (), k)) :
    (closing body close).exec bs i = (.ok a, k) := by
  have h₁ : (tryCatch (do let a ← body; pure (Except.ok a)) fun e => pure (Except.error e) :
      Decode (Except DecodeError α)).exec bs i = (.ok (.ok a), j) := by
    apply exec_tryCatch_ok
    rw [exec_bind_ok bs i hbody]
    rfl
  have h₂ : (tryCatch (do close; pure none) fun e => pure (some e) :
      Decode (Option DecodeError)).exec bs j = (.ok none, k) := by
    apply exec_tryCatch_ok
    rw [exec_bind_ok bs j hclose]
    rfl
  unfold closing
  rw [exec_bind_ok bs i h₁, exec_bind_ok bs j h₂]
  rfl

theorem enter_exec {budget : Nat} (hb : 2 ≤ budget) :
    (enter budget).exec bs i = (.ok (budget - 1), i + 1) := by
  unfold enter
  rw [if_neg (by omega)]
  rfl

theorem endObject_exec {b : List UInt8} (hb : Blanks b) {rest : List UInt8}
    (h : remaining bs i = b ++ 125 :: rest) : endObject.exec bs i = (.ok (), i + b.length + 1) := by
  unfold endObject
  rw [exec_bind_ok bs i (peekBlank_at hb rfl h)]
  rfl

theorem endArray_exec {b : List UInt8} (hb : Blanks b) {rest : List UInt8}
    (h : remaining bs i = b ++ 93 :: rest) : endArray.exec bs i = (.ok (), i + b.length + 1) := by
  unfold endArray
  rw [exec_bind_ok bs i (peekBlank_at hb rfl h)]
  rfl

theorem colon_exec {b : List UInt8} (hb : Blanks b) {rest : List UInt8}
    (h : remaining bs i = b ++ 58 :: rest) : colon.exec bs i = (.ok (), i + b.length + 1) := by
  unfold colon
  rw [exec_bind_ok bs i (peekBlank_at hb rfl h)]
  rfl

theorem nextKey_end {first : Bool} {b : List UInt8} (hb : Blanks b) {rest : List UInt8}
    (h : remaining bs i = b ++ 125 :: rest) : (nextKey first).exec bs i = (.ok false, i + b.length) := by
  unfold nextKey
  rw [exec_bind_ok bs i (peekBlank_at hb rfl h)]
  rfl

/-- Before a key, after the separator its position calls for, a member follows. -/
theorem nextKey_more {first : Bool} {b b' : List UInt8} (hb : Blanks b) (hb' : Blanks b')
    {rest : List UInt8} (h : remaining bs i = b ++ separator first ++ b' ++ 34 :: rest) :
    (nextKey first).exec bs i = (.ok true, i + (b ++ separator first ++ b').length) := by
  unfold nextKey
  cases first with
  | true =>
    simp only [separator, if_true, List.append_nil] at h ⊢
    rw [exec_bind_ok bs i (peekBlank_at (hb.append hb') rfl (by rw [h, List.append_assoc]))]
    rfl
  | false =>
    simp only [separator, Bool.false_eq_true, if_false] at h ⊢
    have h₁ : remaining bs i = b ++ 44 :: (b' ++ 34 :: rest) := by
      rw [h]
      simp
    have h₂ := remaining_succ (remaining_add h₁)
    rw [exec_bind_ok bs i (peekBlank_at hb rfl h₁)]
    show (do eatByte; let x ← peekBlank; _).exec bs (i + b.length) = _
    rw [exec_bind_ok _ _ (exec_eatByte bs _), exec_bind_ok _ _ (peekBlank_at hb' rfl h₂)]
    show (Except.ok true, i + b.length + 1 + b'.length) = _
    simp only [List.length_append, List.length_cons, List.length_nil]
    congr 1
    omega

/-- A written member is read as: a member follows, its key, its colon; its value starts after
the colon. -/
theorem member_parts {first : Bool} {k : String} {b b' g rest : List UInt8} (hb : Blanks b)
    (hb' : Blanks b') (hg : Blanks g)
    (h : remaining bs i = b ++ separator first ++ b' ++ textBytes (jsonQuote k) ++ g ++ 58 :: rest) :
    (nextKey first).exec bs i = (.ok true, i + (b ++ separator first ++ b').length) ∧
    string.exec bs (i + (b ++ separator first ++ b').length) =
      (.ok k, i + (b ++ separator first ++ b').length + (textBytes (jsonQuote k)).length) ∧
    colon.exec bs (i + (b ++ separator first ++ b').length + (textBytes (jsonQuote k)).length) =
      (.ok (), i + (b ++ separator first ++ b').length + (textBytes (jsonQuote k)).length +
        g.length + 1) ∧
    remaining bs (i + (b ++ separator first ++ b').length + (textBytes (jsonQuote k)).length +
      g.length + 1) = rest := by
  have h₁ : remaining bs i = (b ++ separator first ++ b') ++ (textBytes (jsonQuote k) ++
      (g ++ 58 :: rest)) := by
    rw [h]
    simp
  have h₂ := remaining_add h₁
  have h₃ := remaining_add h₂
  refine ⟨@nextKey_more bs i first b b' hb hb' ((k.toList.flatMap escapeBytes ++ [34]) ++ (g ++ 58 :: rest))
    (by rw [h₁, textBytes_jsonQuote]; simp), string_exec h₂, colon_exec hg h₃,
    remaining_succ (remaining_add h₃)⟩

end Punctuation

/-! ## Records -/

/-- Reading the members `ms` of an object into the draft `s` ends with the draft `s'`: each key
names a field that is not yet set and whose decoder reads the member's value, and once the
members are read no required field is missing. -/
inductive ReadsFields {σ : Type} (fields : List (Decode.Field σ)) (budget : Nat) :
    List (String × Json) → σ → σ → Prop
  | done {s : σ} : (fields.find? fun f => f.required && !f.isSet s) = none →
      ReadsFields fields budget [] s s
  | field {k : String} {v : Json} {ms : List (String × Json)} {s s₁ s' : σ} (f : Decode.Field σ) :
      fields.find? (·.name == k) = some f → f.isSet s = false → Decodes (f.decode budget s) v s₁ →
      ReadsFields fields budget ms s₁ s' → ReadsFields fields budget ((k, v) :: ms) s s'

theorem MembersWritten.delimited {ms : List (String × Json)} {r : List UInt8}
    (h : MembersWritten false ms r) (rest : List UInt8) : Delimited (r ++ 125 :: rest) := by
  cases h with
  | nil hb => exact delimited_of_blanks hb (.inr (.inr rfl)) rest
  | cons hb _ _ _ _ _ =>
    simp only [separator, Bool.false_eq_true, if_false, List.append_assoc, List.cons_append]
    exact delimited_of_blanks hb (.inl rfl) _

theorem fieldsByName_reads {σ : Type} {fields : List (Decode.Field σ)} {budget : Nat} {bs : ByteArray} :
    ∀ {ms : List (String × Json)} {s s' : σ}, ReadsFields fields budget ms s s' →
      ∀ {first : Bool} {t : List UInt8} {i fuel : Nat} {rest : List UInt8},
        MembersWritten first ms t → remaining bs i = t ++ 125 :: rest → ms.length < fuel →
        (fieldsByName fields budget first s fuel).exec bs i = (.ok s', i + t.length)
  | _, _, _, .done hnone, first, t, i, fuel, rest, hw, h, hf => by
    cases hw with
    | nil hb =>
      obtain ⟨n, rfl⟩ : ∃ n, fuel = n + 1 := ⟨fuel - 1, by simp at hf; omega⟩
      rw [fieldsByName, exec_bind_ok bs i (nextKey_end hb h)]
      simp [hnone]
  | _, _, _, @ReadsFields.field _ _ _ k v ms s s₁ s' f hfind hset hdec hrest, first, t, i, fuel,
      rest, hw, h, hf => by
    cases hw with
    | @cons _ _ _ _ b b' g g' tv r' hb hb' hg hg' hv hr =>
      obtain ⟨n, rfl⟩ : ∃ n, fuel = n + 1 := ⟨fuel - 1, by simp at hf; omega⟩
      obtain ⟨hkey, hstring, hcolon, hafter⟩ := @member_parts bs i first k b b' g
        (g' ++ tv ++ (r' ++ 125 :: rest)) hb hb' hg (by rw [h]; simp)
      have hvalue := hdec g' tv hg' hv bs _ _ (by rw [hafter, List.append_assoc])
        (hr.delimited rest)
      have hnext := fieldsByName_reads hrest hr (remaining_add (by rw [hafter, List.append_assoc]))
        (by simp at hf; omega)
      rw [fieldsByName, exec_bind_ok bs i hkey, if_pos rfl, exec_bind_ok _ _ hstring]
      simp only [hfind, hset, Bool.false_eq_true, if_false]
      rw [exec_bind_ok _ _ hcolon, exec_bind_ok _ _ hvalue, hnext]
      simp only [List.length_append, List.length_cons]
      congr 1
      omega

theorem MembersWritten.length_le {first : Bool} {ms : List (String × Json)} {t : List UInt8}
    (h : MembersWritten first ms t) : ms.length ≤ t.length := by
  induction ms generalizing first t with
  | nil => exact Nat.zero_le _
  | cons m ms ih =>
    cases h with
    | cons _ _ _ _ _ hr =>
      have := ih hr
      simp only [List.length_cons, List.length_append, textBytes_jsonQuote]
      omega

/-- A record is read from every written object whose members its fields read in order. -/
theorem struct_decodes {σ : Type} (record : String) (fields : List (Decode.Field σ)) (init : σ)
    {budget : Nat} (hb : 2 ≤ budget) {ms : List (String × Json)} {s' : σ}
    (hread : ReadsFields fields (budget - 1) ms init s') :
    Decodes (struct record fields init budget) (.obj ms) s' := by
  intro bl t hbl hw bs i r h _
  cases hw with
  | @obj _ t' hms =>
  have h₁ : remaining bs i = bl ++ 123 :: (t' ++ 125 :: r) := by
    rw [h]
    simp
  have h₂ := remaining_succ (remaining_add h₁)
  have hlen := length_le_of_remaining h₂
  have hfields := @fieldsByName_reads _ _ _ bs _ _ _ hread _ _ _ (bs.size + 1) _ hms h₂
    (by have := hms.length_le; omega)
  have hclose := endObject_exec (b := []) blanks_nil (remaining_add h₂)
  apply fixing_exec
  rw [exec_bind_ok bs i (peekBlank_at hbl rfl h₁)]
  show (do let inner ← enter budget; closing _ endObject).exec bs (i + bl.length) = _
  rw [exec_bind_ok _ _ (enter_exec hb)]
  rw [closing_exec (by rw [exec_bind_ok _ _ (exec_bind_ok _ _ (exec_read bs _) _)]; exact hfields)
    hclose]
  simp only [List.length_append, List.length_cons, List.length_nil]
  congr 1
  omega

/-! ## Arrays -/

/-- A written value that is not a float starts with a byte that is neither a blank nor a
closing bracket, and that is `n` only for `null`. -/
theorem Written.head_solid {j : Json} {t : List UInt8} (hw : Written j t)
    (hj : ∀ x, j ≠ .num (.float x)) :
    ∃ c rest, t = c :: rest ∧ isBlankByte c = false ∧ c ≠ 93 ∧ (c = 110 → j = .null) := by
  have hdigits : ∀ n : Nat, ∃ c rest, textBytes (toString n) = c :: rest ∧
      isBlankByte c = false ∧ c ≠ 93 ∧ c ≠ 110 := by
    intro n
    obtain ⟨d, ds, hbytes, hd⟩ := textBytes_toString_cons n
    have table : ∀ d < 10, isBlankByte (digitByte d) = false ∧ digitByte d ≠ 93 ∧
        digitByte d ≠ 110 := by decide
    exact ⟨_, _, hbytes, table d hd⟩
  cases hw with
  | null => exact ⟨110, _, rfl, rfl, by decide, fun _ => rfl⟩
  | bool b => cases b <;> exact ⟨_, _, rfl, rfl, by decide, fun h => absurd h (by decide)⟩
  | num n =>
    cases n with
    | nat n =>
      obtain ⟨c, rest, h, hc, hc', hn⟩ := hdigits n
      exact ⟨c, rest, h, hc, hc', fun h => absurd h hn⟩
    | neg v =>
      by_cases hneg : v < 0
      · exact ⟨45, _, textBytes_toString_neg hneg, rfl, by decide, fun h => absurd h (by decide)⟩
      · obtain ⟨m, rfl⟩ := Int.eq_ofNat_of_zero_le (Int.not_lt.1 hneg)
        obtain ⟨c, rest, h, hc, hc', hn⟩ := hdigits m
        exact ⟨c, rest, h, hc, hc', fun h => absurd h hn⟩
    | float x => exact absurd rfl (hj x)
  | str s => exact ⟨34, _, textBytes_jsonQuote s, rfl, by decide, fun h => absurd h (by decide)⟩
  | arr _ => exact ⟨91, _, rfl, rfl, by decide, fun h => absurd h (by decide)⟩
  | obj _ => exact ⟨123, _, rfl, rfl, by decide, fun h => absurd h (by decide)⟩

theorem ItemsWritten.length_le {first : Bool} {items : List Json} {t : List UInt8}
    (h : ItemsWritten first items t) (hnf : ∀ j ∈ items, ∀ x, j ≠ .num (.float x)) :
    items.length ≤ t.length := by
  induction items generalizing first t with
  | nil => exact Nat.zero_le _
  | cons j items ih =>
    cases h with
    | cons _ _ hj hr =>
      obtain ⟨c, rest, rfl, -, -, -⟩ := hj.head_solid (hnf j List.mem_cons_self)
      have := ih hr (fun x hx => hnf x (List.mem_cons_of_mem j hx))
      simp only [List.length_cons, List.length_append]
      omega

theorem ItemsWritten.delimited {items : List Json} {r : List UInt8}
    (h : ItemsWritten false items r) (rest : List UInt8) : Delimited (r ++ 93 :: rest) := by
  cases h with
  | nil hb => exact delimited_of_blanks hb (.inr (.inl rfl)) rest
  | cons hb _ _ _ =>
    simp only [separator, Bool.false_eq_true, if_false, List.append_assoc, List.cons_append]
    exact delimited_of_blanks hb (.inl rfl) _

section Items

variable {bs : ByteArray} {i : Nat}

theorem nextItem_end {first : Bool} {b : List UInt8} (hb : Blanks b) {rest : List UInt8}
    (h : remaining bs i = b ++ 93 :: rest) : (nextItem first).exec bs i = (.ok false, i + b.length) := by
  unfold nextItem
  rw [exec_bind_ok bs i (peekBlank_at hb rfl h)]
  rfl

/-- Before the start of a value, after the separator its position calls for, an item follows. -/
theorem nextItem_more {first : Bool} {b b' : List UInt8} (hb : Blanks b) (hb' : Blanks b')
    {c : UInt8} (hc : isBlankByte c = false) (hc' : c ≠ 93) {rest : List UInt8}
    (h : remaining bs i = b ++ separator first ++ b' ++ c :: rest) :
    (nextItem first).exec bs i = (.ok true, i + (b ++ separator first ++ b').length) := by
  unfold nextItem
  cases first with
  | true =>
    simp only [separator, if_true, List.append_nil] at h ⊢
    rw [exec_bind_ok bs i (peekBlank_at (hb.append hb') hc (by rw [h, List.append_assoc]))]
    split
    · next heq => cases heq
    · next heq =>
      simp only [Option.some.injEq] at heq
      exact absurd heq hc'
    · rfl
  | false =>
    simp only [separator, Bool.false_eq_true, if_false] at h ⊢
    have h₁ : remaining bs i = b ++ 44 :: (b' ++ c :: rest) := by
      rw [h]
      simp
    have h₂ := remaining_succ (remaining_add h₁)
    rw [exec_bind_ok bs i (peekBlank_at hb rfl h₁)]
    show (do eatByte; let x ← peekBlank; _).exec bs (i + b.length) = _
    rw [exec_bind_ok _ _ (exec_eatByte bs _), exec_bind_ok _ _ (peekBlank_at hb' hc h₂)]
    split
    · next heq =>
      simp only [Option.some.injEq] at heq
      exact absurd heq hc'
    · show (Except.ok true, i + b.length + 1 + b'.length) = _
      simp only [List.length_append, List.length_cons, List.length_nil]
      congr 1
      omega
    · next heq => cases heq

end Items

/-- The item loop reads written items one after another, each by the element decoder. -/
theorem seqItems_reads {α : Type} {elem : Nat → Decode α} {budget : Nat} {bs : ByteArray} :
    ∀ {items : List Json} {as : List α}, List.Forall₂ (fun j a => Decodes (elem budget) j a) items as →
      (∀ j ∈ items, ∀ x, j ≠ .num (.float x)) →
      ∀ {first : Bool} {t : List UInt8} {i fuel : Nat} {rest : List UInt8} (acc : List α),
        ItemsWritten first items t → remaining bs i = t ++ 93 :: rest → items.length < fuel →
        (seqItems elem budget first acc fuel).exec bs i = (.ok (acc.reverse ++ as), i + t.length)
  | _, _, .nil, _, first, t, i, fuel, rest, acc, hw, h, hf => by
    cases hw with
    | nil hb =>
      obtain ⟨n, rfl⟩ : ∃ n, fuel = n + 1 := ⟨fuel - 1, by omega⟩
      rw [seqItems, exec_bind_ok bs i (nextItem_end hb h)]
      simp
  | _, _, @List.Forall₂.cons _ _ _ j a js as hja hrest, hnf, first, t, i, fuel, rest, acc, hw,
      h, hf => by
    cases hw with
    | @cons _ _ _ b b' tj r' hb hb' hj hr =>
      obtain ⟨n, rfl⟩ : ∃ n, fuel = n + 1 := ⟨fuel - 1, by simp at hf; omega⟩
      obtain ⟨c, tc, rfl, hc, hc', -⟩ := hj.head_solid (hnf j List.mem_cons_self)
      have h₁ : remaining bs i = (b ++ separator first ++ b') ++ ((c :: tc) ++ (r' ++ 93 :: rest)) := by
        rw [h]
        simp
      have hmore := @nextItem_more bs i first b b' hb hb' c hc hc' (tc ++ (r' ++ 93 :: rest))
        (by rw [h₁]; simp)
      have h₂ := remaining_add h₁
      have hvalue := hja [] (c :: tc) blanks_nil hj bs _ _ h₂ (hr.delimited rest)
      rw [List.nil_append] at hvalue
      have hnext := seqItems_reads hrest (fun x hx => hnf x (List.mem_cons_of_mem j hx)) (a :: acc)
        hr (remaining_add h₂) (by simp at hf; omega)
      rw [seqItems, exec_bind_ok bs i hmore, if_pos rfl, exec_bind_ok _ _ hvalue, hnext]
      simp only [List.reverse_cons, List.append_assoc, List.singleton_append, List.length_append,
        List.length_cons]
      congr 1
      omega

theorem seqItems_all {α : Type} {elem : Nat → Decode α} {budget : Nat} {bs : ByteArray}
    {items : List Json} {as : List α}
    (hitems : List.Forall₂ (fun j a => Decodes (elem budget) j a) items as)
    (hnf : ∀ j ∈ items, ∀ x, j ≠ .num (.float x)) {t rest : List UInt8} {k : Nat}
    (hw : ItemsWritten true items t) (h : remaining bs k = t ++ 93 :: rest) :
    (seqItems elem budget true [] (bs.size + 1)).exec bs k = (.ok as, k + t.length) := by
  have hlen := length_le_of_remaining h
  have hcount := hw.length_le hnf
  have hloop := @seqItems_reads _ _ _ bs _ _ hitems hnf _ _ _ (bs.size + 1) _ [] hw h (by omega)
  rwa [List.reverse_nil, List.nil_append] at hloop

/-- An array is read from every written array whose items the element decoder reads in order. -/
theorem seq_decodes {α : Type} {elem : Nat → Decode α} {budget : Nat} (hb : 2 ≤ budget)
    {items : List Json} {as : List α}
    (hitems : List.Forall₂ (fun j a => Decodes (elem (budget - 1)) j a) items as)
    (hnf : ∀ j ∈ items, ∀ x, j ≠ .num (.float x)) : Decodes (seq elem budget) (.arr items) as := by
  intro bl t hbl hw bs i r h _
  cases hw with
  | @arr _ t' hitemsw =>
  have h₁ : remaining bs i = bl ++ 91 :: (t' ++ 93 :: r) := by
    rw [h]
    simp
  have h₂ := remaining_succ (remaining_add h₁)
  have hloop := seqItems_all hitems hnf hitemsw h₂
  have hclose := endArray_exec (b := []) blanks_nil (remaining_add h₂)
  apply fixing_exec
  rw [exec_bind_ok bs i (peekBlank_at hbl rfl h₁)]
  show (do let inner ← enter budget; closing _ endArray).exec bs (i + bl.length) = _
  rw [exec_bind_ok _ _ (enter_exec hb)]
  rw [closing_exec (by rw [exec_bind_ok _ _ (exec_bind_ok _ _ (exec_read bs _) _)]; exact hloop)
    hclose]
  simp only [List.length_append, List.length_cons, List.length_nil]
  congr 1
  omega

/-! ## Building on decoders -/

theorem Decodes.bind_of_pure {α β : Type} {x : Decode α} {j : Json} {a : α} (h : Decodes x j a)
    {f : α → Decode β} {b : β} (hf : f a = pure b) : Decodes (x >>= f) j b := by
  intro bl t hbl hw bs i r hr hd
  rw [exec_bind_ok bs i (h bl t hbl hw bs i r hr hd), hf]
  rfl

theorem Decodes.bind_pure {α β : Type} {x : Decode α} {j : Json} {a : α} (h : Decodes x j a)
    (g : α → β) : Decodes (x >>= fun y => pure (g y)) j (g a) :=
  h.bind_of_pure rfl

theorem Decodes.map {α β : Type} {x : Decode α} {j : Json} {a : α} (h : Decodes x j a)
    (g : α → β) : Decodes (g <$> x) j (g a) := by
  rw [map_eq_pure_bind]
  exact h.bind_pure g

/-- Where an optional value is expected, a written value other than `null` is read by the inner
decoder as present. -/
theorem option_decodes_some {α : Type} {inner : Decode α} {j : Json} {a : α} (h : Decodes inner j a)
    (hnull : j ≠ .null) (hnf : ∀ x, j ≠ .num (.float x)) : Decodes (option inner) j (some a) := by
  intro bl t hbl hw bs i r hr hd
  obtain ⟨c, rest, rfl, hc, -, hn⟩ := hw.head_solid hnf
  rw [List.append_assoc] at hr
  have hpeek := peekBlank_at hbl hc (by rw [hr, List.cons_append])
  have hinner := (h.map some) [] (c :: rest) blanks_nil hw bs _ r (remaining_add hr) hd
  rw [List.nil_append] at hinner
  unfold option
  rw [exec_bind_ok bs i hpeek]
  split
  · next heq => exact absurd (hn (Option.some.inj heq)) hnull
  · rw [hinner, List.length_append, Nat.add_assoc]

theorem option_decodes_null {α : Type} (inner : Decode α) : Decodes (option inner) .null none := by
  intro bl t hbl hw bs i r hr _
  cases hw
  have hbytes : textBytes "null" = 110 :: [117, 108, 108] := by decide
  rw [hbytes] at hr ⊢
  obtain ⟨hpeek, hrest⟩ := peekBlank_first hbl rfl hr
  unfold option
  rw [exec_bind_ok bs i hpeek]
  show (do word [117, 108, 108]; pure none).exec bs (i + bl.length) = _
  rw [exec_bind_ok _ _ (word_exec hrest)]
  simp only [exec_pure, List.length_append, List.length_cons, List.length_nil]
  congr 1

/-- A boolean is read back from its literal. -/
theorem bool_decodes (b : Bool) : Decodes Decode.bool (.bool b) b := by
  intro bl t hbl hw bs i r hr _
  cases hw
  apply fixing_exec
  cases b with
  | true =>
    have hbytes : textBytes (if true then "true" else "false") = 116 :: [114, 117, 101] := by
      decide
    rw [hbytes] at hr ⊢
    obtain ⟨hpeek, hrest⟩ := peekBlank_first hbl rfl hr
    rw [exec_bind_ok bs i hpeek]
    show (do word [114, 117, 101]; pure true).exec bs (i + bl.length) = _
    rw [exec_bind_ok _ _ (word_exec hrest)]
    simp only [exec_pure, List.length_append, List.length_cons, List.length_nil]
    congr 1
  | false =>
    have hbytes : textBytes (if false then "true" else "false") = 102 :: [97, 108, 115, 101] := by
      decide
    rw [hbytes] at hr ⊢
    obtain ⟨hpeek, hrest⟩ := peekBlank_first hbl rfl hr
    rw [exec_bind_ok bs i hpeek]
    show (do word [97, 108, 115, 101]; pure false).exec bs (i + bl.length) = _
    rw [exec_bind_ok _ _ (word_exec hrest)]
    simp only [exec_pure, List.length_append, List.length_cons, List.length_nil]
    congr 1

theorem delimited_of_blanks_end {b : List UInt8} (hb : Blanks b) : Delimited b := by
  intro x hx
  cases b with
  | nil => cases hx
  | cons y b =>
    simp only [List.head?_cons, Option.mem_def, Option.some.injEq] at hx
    subst hx
    exact .inl (hb _ List.mem_cons_self)

/-- A whole text is decoded when it is a written value with blanks around it. -/
theorem run_decodes {α : Type} {d : Nat → Decode α} {j : Json} {a : α}
    (hd : Decodes (d topBudget) j a) {text : String} {bl t bl' : List UInt8} (hbl : Blanks bl)
    (hw : Written j t) (hbl' : Blanks bl') (htext : textBytes text = bl ++ t ++ bl') :
    run d text = .ok a := by
  have h : remaining text.toUTF8 0 = (bl ++ t) ++ bl' := by
    rw [remaining, List.drop_zero, toUTF8_toList_eq_textBytes, htext]
  have hvalue := hd bl t hbl hw _ 0 bl' h (delimited_of_blanks_end hbl')
  have hend := peekBlank_exec (r := []) hbl' (fun _ hb => by cases hb)
    (by rw [remaining_add h, List.append_nil])
  -- the whole text is the value, then a look for anything past the blanks after it
  unfold run
  show (exec _ text.toUTF8 0).1 = _
  rw [exec_bind_ok _ _ hvalue, exec_bind_ok _ _ hend]
  rfl

theorem run_compact {α : Type} {d : Nat → Decode α} {j : Json} {a : α}
    (hd : Decodes (d topBudget) j a) : run d j.compact = .ok a :=
  run_decodes hd blanks_nil (written_compact j) blanks_nil (by rw [List.nil_append, List.append_nil])

theorem run_pretty {α : Type} {d : Nat → Decode α} {j : Json} {a : α}
    (hd : Decodes (d topBudget) j a) (depth : Nat) : run d (j.pretty depth) = .ok a :=
  run_decodes hd blanks_nil (written_pretty depth j) blanks_nil
    (by rw [List.nil_append, List.append_nil])

end ChunkStore.Json
