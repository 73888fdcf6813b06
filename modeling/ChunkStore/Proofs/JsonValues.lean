import ChunkStore.Proofs.JsonDecoding
/-!
# Reading values of any shape

`Decode.value` reads whatever value comes next and keeps it as a `Json`. It gives back a
written value exactly when the value is `Json.readable` at the budget: it holds no double (a
double is kept as the number it denotes, not as the text it was written with), its integers lie
in the ranges a number is kept in, and its arrays and objects are nested no deeper than the
budget lets the reader enter.

The reader looks at the first byte after the blanks and dispatches on it. `value_null`,
`value_quote`, `value_digit` and the others say what it does once that byte is known, so that
`value_decodes` only has to put the pieces of each written shape together; it goes by induction
on the budget, which every array and object uses one level of. `untagged_decodes` carries the
result to decoders that read a whole value and then pick one of the shapes they accept.
-/

namespace ChunkStore.Json

/-- Whether `Decode.value budget` reads `j` back as it is written: naturals below `2^64`,
negative integers of at least `-2^63`, no doubles, and two levels of budget left on entering an
array or object, whose items are then read with one level less. -/
def readable : Nat → Json → Bool
  | b + 2, .arr items => items.all (readable (b + 1))
  | b + 2, .obj ms => ms.all fun m => readable (b + 1) m.2
  | _ + 1, .null | _ + 1, .bool _ | _ + 1, .str _ => true
  | _ + 1, .num (.nat n) => n < Nat.pow 2 64
  | _ + 1, .num (.neg i) => -(Nat.pow 2 63 : Int) ≤ i && i < 0
  | _, _ => false

example : readable 2 (.arr [.str "a", Json.nat 7, .arr []]) = false := by decide
example : readable 3 (.arr [.str "a", Json.nat 7, .arr []]) = true := by decide

theorem readable_not_float {budget : Nat} {j : Json} (h : readable budget j = true) :
    ∀ x, j ≠ .num (.float x) := by
  rintro x rfl
  cases budget <;> simp [readable] at h

@[simp] theorem readable_str (budget : Nat) (s : String) : readable (budget + 1) (.str s) = true := by
  cases budget <;> rfl

@[simp] theorem readable_nat (budget n : Nat) :
    readable (budget + 1) (Json.nat n) = decide (n < Nat.pow 2 64) := by
  cases budget <;> rfl

theorem readable_arr {budget : Nat} {items : List Json} :
    readable (budget + 1) (.arr items) = true ↔ 1 ≤ budget ∧ ∀ j ∈ items, readable budget j = true := by
  cases budget <;> simp [readable]

theorem readable_obj {budget : Nat} {ms : List (String × Json)} :
    readable (budget + 1) (.obj ms) = true ↔
      1 ≤ budget ∧ ∀ m ∈ ms, readable budget m.2 = true := by
  cases budget <;> simp [readable]

namespace Decode

/-! ## One step on each first byte -/

section Branches

variable {bs : ByteArray} {i k k' : Nat} {budget : Nat}

theorem value_null (hpeek : peekBlank.exec bs i = (.ok (some 110), k)) {r : List UInt8}
    (h : remaining bs (k + 1) = [117, 108, 108] ++ r) :
    (value (budget + 1)).exec bs i = (.ok .null, k + 1 + 3) := by
  rw [value]
  apply fixing_exec
  rw [exec_bind_ok bs i hpeek]
  show (do word [117, 108, 108]; pure Json.null).exec bs k = _
  rw [exec_bind_ok bs k (word_exec h)]
  rfl

theorem value_bool (b : Bool)
    (hpeek : peekBlank.exec bs i = (.ok (some (if b then 116 else 102)), k)) {w r : List UInt8}
    (hw : w = if b then [114, 117, 101] else [97, 108, 115, 101])
    (h : remaining bs (k + 1) = w ++ r) :
    (value (budget + 1)).exec bs i = (.ok (.bool b), k + 1 + w.length) := by
  rw [value]
  apply fixing_exec
  rw [exec_bind_ok bs i hpeek]
  cases b with
  | true =>
    subst hw
    rw [if_pos rfl] at h ⊢
    show (do word [114, 117, 101]; pure (Json.bool true)).exec bs k = _
    rw [exec_bind_ok bs k (word_exec h)]
    rfl
  | false =>
    subst hw
    rw [if_neg Bool.false_ne_true] at h ⊢
    show (do word [97, 108, 115, 101]; pure (Json.bool false)).exec bs k = _
    rw [exec_bind_ok bs k (word_exec h)]
    rfl

theorem value_quote (hpeek : peekBlank.exec bs i = (.ok (some 34), k)) {s : String}
    (hs : string.exec bs k = (.ok s, k')) :
    (value (budget + 1)).exec bs i = (.ok (.str s), k') := by
  rw [value]
  apply fixing_exec
  rw [exec_bind_ok bs i hpeek]
  show (do let s ← string; pure (Json.str s)).exec bs k = _
  rw [exec_bind_ok bs k hs]
  rfl

theorem value_minus (hpeek : peekBlank.exec bs i = (.ok (some 45), k)) {sc : Scanned}
    (hn : (number false).exec bs (k + 1) = (.ok sc, k')) :
    (value (budget + 1)).exec bs i = (.ok (.num (numberJson sc)), k') := by
  rw [value]
  apply fixing_exec
  rw [exec_bind_ok bs i hpeek]
  show (do eatByte; let sc ← number false; pure (Json.num (numberJson sc))).exec bs k = _
  rw [exec_bind_ok bs k (exec_eatByte bs k), exec_bind_ok bs (k + 1) hn]
  rfl

theorem value_digit {d : Nat} (hd : d < 10)
    (hpeek : peekBlank.exec bs i = (.ok (some (digitByte d)), k)) {sc : Scanned}
    (hn : (number true).exec bs k = (.ok sc, k')) :
    (value (budget + 1)).exec bs i = (.ok (.num (numberJson sc)), k') := by
  -- a digit is none of the bytes the reader looks for before it tries a number
  have table : ∀ d < 10, digitByte d ≠ 110 ∧ digitByte d ≠ 116 ∧ digitByte d ≠ 102 ∧
      digitByte d ≠ 45 ∧ digitByte d ≠ 34 ∧ digitByte d ≠ 91 ∧ digitByte d ≠ 123 := by decide
  obtain ⟨h110, h116, h102, h45, h34, h91, h123⟩ := table d hd
  rw [value]
  apply fixing_exec
  rw [exec_bind_ok bs i hpeek]
  split
  · next heq => cases heq
  · next heq => exact absurd (Option.some.inj heq) h110
  · next heq => exact absurd (Option.some.inj heq) h116
  · next heq => exact absurd (Option.some.inj heq) h102
  · next heq => exact absurd (Option.some.inj heq) h45
  · next heq => exact absurd (Option.some.inj heq) h34
  · next heq => exact absurd (Option.some.inj heq) h91
  · next heq => exact absurd (Option.some.inj heq) h123
  · next b _ _ _ _ _ _ _ heq =>
    rw [← Option.some.inj heq, if_pos (digitByte_table d hd).1, exec_bind_ok bs k hn]
    rfl

theorem value_bracket (hb : 1 ≤ budget) (hpeek : peekBlank.exec bs i = (.ok (some 91), k))
    {js : List Json} {k'' : Nat}
    (hitems : (items budget true [] (bs.size + 1)).exec bs (k + 1) = (.ok js, k'))
    (hclose : endArray.exec bs k' = (.ok (), k'')) :
    (value (budget + 1)).exec bs i = (.ok (.arr js), k'') := by
  rw [value]
  apply fixing_exec
  rw [exec_bind_ok bs i hpeek]
  show (do let _ ← enter (budget + 1); closing _ endArray).exec bs k = _
  rw [exec_bind_ok _ _ (enter_exec (by omega))]
  refine closing_exec ?_ hclose
  rw [exec_bind_ok _ _ (exec_bind_ok _ _ (exec_read bs _) _), exec_bind_ok _ _ hitems]
  rfl

theorem value_brace (hb : 1 ≤ budget) (hpeek : peekBlank.exec bs i = (.ok (some 123), k))
    {ms : List (String × Json)} {k'' : Nat}
    (hmembers : (members budget true [] (bs.size + 1)).exec bs (k + 1) = (.ok ms, k'))
    (hclose : endObject.exec bs k' = (.ok (), k'')) :
    (value (budget + 1)).exec bs i = (.ok (.obj ms), k'') := by
  rw [value]
  apply fixing_exec
  rw [exec_bind_ok bs i hpeek]
  show (do let _ ← enter (budget + 1); closing _ endObject).exec bs k = _
  rw [exec_bind_ok _ _ (enter_exec (by omega))]
  refine closing_exec ?_ hclose
  rw [exec_bind_ok _ _ (exec_bind_ok _ _ (exec_read bs _) _), exec_bind_ok _ _ hmembers]
  rfl

end Branches

/-! ## The item and member loops -/

theorem items_eq_seqItems (budget : Nat) (first : Bool) (acc : List Json) (fuel : Nat) :
    items budget first acc fuel = seqItems value budget first acc fuel := by
  induction fuel generalizing first acc with
  | zero => rw [items, seqItems]
  | succ n ih => simp only [items, seqItems, ih]

/-- The member loop reads written members one after another, each value by `value`. -/
theorem members_reads {budget : Nat} {bs : ByteArray} :
    ∀ {ms : List (String × Json)}, (∀ m ∈ ms, Decodes (value budget) m.2 m.2) →
      ∀ {first : Bool} {t : List UInt8} {i fuel : Nat} {rest : List UInt8}
        (acc : List (String × Json)),
        MembersWritten first ms t → remaining bs i = t ++ 125 :: rest → ms.length < fuel →
        (members budget first acc fuel).exec bs i = (.ok (acc.reverse ++ ms), i + t.length)
  | [], _, first, t, i, fuel, rest, acc, hw, h, hf => by
    cases hw with
    | nil hb =>
      obtain ⟨n, rfl⟩ : ∃ n, fuel = n + 1 := ⟨fuel - 1, by simp at hf; omega⟩
      rw [members, exec_bind_ok bs i (nextKey_end hb h)]
      simp
  | (k, v) :: ms, hval, first, t, i, fuel, rest, acc, hw, h, hf => by
    cases hw with
    | @cons _ _ _ _ b b' g g' tv r' hb hb' hg hg' hv hr =>
      obtain ⟨n, rfl⟩ : ∃ n, fuel = n + 1 := ⟨fuel - 1, by simp at hf; omega⟩
      obtain ⟨hkey, hstring, hcolon, hafter⟩ := @member_parts bs i first k b b' g
        (g' ++ tv ++ (r' ++ 125 :: rest)) hb hb' hg (by rw [h]; simp)
      have hvalue := hval (k, v) List.mem_cons_self g' tv hg' hv bs _ _
        (by rw [hafter, List.append_assoc]) (hr.delimited rest)
      have hnext := members_reads (fun m hm => hval m (List.mem_cons_of_mem _ hm)) ((k, v) :: acc)
        hr (remaining_add (by rw [hafter, List.append_assoc])) (by simp at hf; omega)
      rw [members, exec_bind_ok bs i hkey, if_pos rfl, exec_bind_ok _ _ hstring,
        exec_bind_ok _ _ hcolon, exec_bind_ok _ _ hvalue, hnext]
      simp only [List.reverse_cons, List.append_assoc, List.singleton_append, List.length_append,
        List.length_cons]
      exact congrArg _ (by omega)

theorem members_all {budget : Nat} {bs : ByteArray} {ms : List (String × Json)}
    (hval : ∀ m ∈ ms, Decodes (value budget) m.2 m.2) {t rest : List UInt8} {k : Nat}
    (hw : MembersWritten true ms t) (h : remaining bs k = t ++ 125 :: rest) :
    (members budget true [] (bs.size + 1)).exec bs k = (.ok ms, k + t.length) := by
  have hlen := length_le_of_remaining h
  have hcount := hw.length_le
  have hloop := @members_reads budget bs ms hval true t k (bs.size + 1) rest [] hw h (by omega)
  rwa [List.reverse_nil, List.nil_append] at hloop

/-! ## Any readable value -/

/-- Every written value that is readable at the budget is read back as it is. The induction is
on the budget: the items of an array and the member values of an object are read with one level
less. -/
theorem value_decodes : ∀ (budget : Nat) (j : Json), readable budget j = true →
    Decodes (value budget) j j
  | 0, j, hj => by cases j <;> simp [readable] at hj
  | budget + 1, j, hj => by
    intro bl t hbl hw bs i r h hr
    cases hw with
    | null =>
      have hbytes : textBytes "null" = 110 :: [117, 108, 108] := by decide
      rw [hbytes] at h ⊢
      obtain ⟨hpeek, hrest⟩ := peekBlank_first hbl rfl h
      rw [value_null hpeek hrest]
      simp only [List.length_append, List.length_cons, List.length_nil]
      congr 1
    | bool b =>
      have hbytes : textBytes (if b then "true" else "false") =
          (if b then 116 else 102) :: (if b then [114, 117, 101] else [97, 108, 115, 101]) := by
        cases b <;> decide
      rw [hbytes] at h ⊢
      obtain ⟨hpeek, hrest⟩ := peekBlank_first hbl (by cases b <;> rfl) h
      rw [value_bool b hpeek rfl hrest]
      simp only [List.length_append, List.length_cons]
      exact congrArg _ (by omega)
    | num n =>
      cases n with
      | nat n =>
        have hn : n < Nat.pow 2 64 := by simpa [readable] using hj
        obtain ⟨d, ds, hbytes, hd⟩ := textBytes_toString_cons n
        have htext : (JsonNumber.nat n).text = toString n := rfl
        rw [htext] at h ⊢
        rw [List.append_assoc] at h
        have hpeek := peekBlank_exec hbl (by rw [hbytes]; exact solidHead_digit hd _) h
        rw [hbytes, List.cons_append, List.head?_cons] at hpeek
        have hnum := number_unsigned (by unfold u64Max; omega) (remaining_add h) hr
        rw [value_digit hd hpeek hnum, List.length_append, Nat.add_assoc]
        rfl
      | neg v =>
        have hv : -(Nat.pow 2 63 : Int) ≤ v ∧ v < 0 := by simpa [readable] using hj
        have htext : (JsonNumber.neg v).text = toString v := rfl
        rw [htext, textBytes_toString_neg hv.2] at h ⊢
        obtain ⟨hpeek, hrest⟩ := peekBlank_first hbl rfl h
        have hnum := number_signed (n := v.natAbs) (by omega) (by omega) hrest hr
        rw [value_minus hpeek hnum]
        have hsign : -(v.natAbs : Int) = v := by omega
        simp only [numberJson, hsign, List.length_append, List.length_cons]
        exact congrArg _ (by omega)
      | float x => simp [readable] at hj
    | str s =>
      rw [List.append_assoc] at h
      have hpeek := peekBlank_exec hbl (solidHead_quote s r) h
      have hq : (textBytes (jsonQuote s) ++ r).head? = some 34 := by
        rw [textBytes_jsonQuote]
        rfl
      rw [hq] at hpeek
      rw [value_quote hpeek (string_exec (remaining_add h)), List.length_append, Nat.add_assoc]
    | @arr items t' hitems =>
      obtain ⟨hb, hall⟩ := readable_arr.1 hj
      -- each item is read by the reader with one level less, which is the induction hypothesis
      have hread : List.Forall₂ (fun j a => Decodes (value budget) j a) items items :=
        List.forall₂_same.2 fun j hj => value_decodes budget j (hall j hj)
      obtain ⟨hpeek, hrest⟩ := peekBlank_first (w := t' ++ [93]) hbl rfl h
      rw [List.append_assoc, List.singleton_append] at hrest
      have hloop := seqItems_all hread (fun j hj => readable_not_float (hall j hj)) hitems hrest
      rw [← items_eq_seqItems] at hloop
      rw [value_bracket hb hpeek hloop (endArray_exec (b := []) blanks_nil (remaining_add hrest))]
      simp only [List.length_append, List.length_cons, List.length_nil]
      exact congrArg _ (by omega)
    | @obj ms t' hms =>
      obtain ⟨hb, hall⟩ := readable_obj.1 hj
      obtain ⟨hpeek, hrest⟩ := peekBlank_first (w := t' ++ [125]) hbl rfl h
      rw [List.append_assoc, List.singleton_append] at hrest
      have hloop := members_all (fun m hm => value_decodes budget m.2 (hall m hm)) hms hrest
      rw [value_brace hb hpeek hloop (endObject_exec (b := []) blanks_nil (remaining_add hrest))]
      simp only [List.length_append, List.length_cons, List.length_nil]
      exact congrArg _ (by omega)

theorem untagged_decodes {α : Type} (typeName : String) {choose : Json → Option α}
    {budget : Nat} {j : Json} {a : α} (hj : readable budget j = true) (hc : choose j = some a) :
    Decodes (untagged typeName choose budget) j a := by
  intro bl t hbl hw bs i r h hr
  unfold untagged
  rw [exec_bind_ok bs i (value_decodes budget j hj bl t hbl hw bs i r h hr), hc]
  rfl

end Decode

end ChunkStore.Json
