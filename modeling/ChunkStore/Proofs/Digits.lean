import ChunkStore.Decimal.Parse
/-!
# Digits read back

The integer reader folds digits of a radix into a number and stops at the first non-digit or at
the first step past its bound. For every radix up to 16 it reads the digits `Nat.toDigits` writes
for a number below the bound back as that number (`parseUnsigned_toDigits`); in particular a
64-bit number is read back from its decimal text (`parseU64_toString`). The induction is on the
number, one digit at a time (`Nat.base_induction`), matching the way the digits split.
-/

namespace ChunkStore.Decimal

theorem mem_toDigits {b n : Nat} {c : Char} (hb : 1 < b) (h : c ∈ Nat.toDigits b n) :
    ∃ d < b, c = d.digitChar := by
  induction n using Nat.base_induction b hb with
  | single m hm =>
    rw [Nat.toDigits_of_lt_base hm, List.mem_singleton] at h
    exact ⟨m, hm, h⟩
  | digit m k hk hm ih =>
    rw [← Nat.toDigits_append_toDigits hb hm hk, Nat.toDigits_of_lt_base hk, List.mem_append,
      List.mem_singleton] at h
    rcases h with h | h
    · exact ih h
    · exact ⟨k, hk, h⟩

theorem digitValue_digitChar {radix d : Nat} (hd : d < radix) (hr : radix ≤ 16) :
    digitValue radix d.digitChar = some d := by
  have table : ∀ r < 17, ∀ d < r, digitValue r d.digitChar = some d := by decide
  exact table radix (by omega) d hd

theorem accumulateDigits_append (radix bound acc : Nat) (xs ys : List Char) :
    accumulateDigits radix bound acc (xs ++ ys) =
      (accumulateDigits radix bound acc xs).bind (accumulateDigits radix bound · ys) := by
  induction xs generalizing acc with
  | nil => rfl
  | cons c xs ih =>
    simp only [List.cons_append, accumulateDigits]
    split
    · rfl
    · split
      · exact ih _
      · rfl

/-- The digits of a number below the bound fold back into the number: every prefix writes a
number no larger, so no step goes past the bound. -/
theorem accumulateDigits_toDigits {radix bound : Nat} (hr : 1 < radix) (hr' : radix ≤ 16)
    (n : Nat) (h : n < bound) : accumulateDigits radix bound 0 (Nat.toDigits radix n) = .ok n := by
  induction n using Nat.base_induction radix hr with
  | single m hm =>
    simp [Nat.toDigits_of_lt_base hm, accumulateDigits, digitValue_digitChar hm hr', h]
  | digit m k hk hm ih =>
    have hprefix : m < bound := Nat.lt_of_le_of_lt (by
      calc m = m * 1 := (Nat.mul_one m).symm
        _ ≤ m * radix := Nat.mul_le_mul_left m (by omega)
        _ ≤ radix * m + k := by rw [Nat.mul_comm]; omega) h
    rw [← Nat.toDigits_append_toDigits hr hm hk, accumulateDigits_append, ih hprefix,
      Nat.toDigits_of_lt_base hk]
    simp [Except.bind, accumulateDigits, digitValue_digitChar hk hr', Nat.mul_comm m radix, h]

/-- Unsigned reading of a text that does not start with `+` reads all of it as digits. -/
theorem parseUnsigned_of_head {radix bound : Nat} {s : String} {c : Char} {cs : List Char}
    (hs : s.toList = c :: cs) (hc : c ≠ '+') :
    parseUnsigned radix bound s = accumulateDigits radix bound 0 (c :: cs) := by
  unfold parseUnsigned
  rw [hs]
  split
  · next h => exact absurd h (List.cons_ne_nil c cs)
  · next h => exact absurd (List.cons.inj h).1 hc
  · next h =>
    obtain ⟨rfl, rfl⟩ := List.cons.inj h
    rfl
  · next h => exact absurd (List.cons.inj h).1 hc
  · rfl

theorem parseUnsigned_toDigits {radix bound n : Nat} (hr : 1 < radix) (hr' : radix ≤ 16)
    (h : n < bound) : parseUnsigned radix bound (String.ofList (Nat.toDigits radix n)) = .ok n := by
  obtain ⟨c, cs, hcs⟩ := List.exists_cons_of_ne_nil (Nat.toDigits_ne_nil (n := n) (b := radix))
  obtain ⟨d, hd, rfl⟩ := mem_toDigits hr (hcs ▸ List.mem_cons_self)
  have hplus : d.digitChar ≠ '+' := by
    have table : ∀ d < 16, Nat.digitChar d ≠ '+' := by decide
    exact table d (by omega)
  rw [parseUnsigned_of_head (by rw [String.toList_ofList, hcs]) hplus, ← hcs]
  exact accumulateDigits_toDigits hr hr' n h

/-- A 64-bit number is read back from its decimal text. -/
theorem parseU64_toString {n : Nat} (h : n < Nat.pow 2 64) : parseU64 (toString n) = .ok n :=
  parseUnsigned_toDigits (by decide) (by decide) h

end ChunkStore.Decimal
