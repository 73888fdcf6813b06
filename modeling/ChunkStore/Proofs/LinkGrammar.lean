import ChunkStore.Link.Signed
import Mathlib.Algebra.Group.Int.Defs
import Mathlib.Algebra.Group.Nat.Defs
/-!
# Which texts read as signed links

Reading a link accepts exactly a grammar. The text must parse as a URL; of the decoded query
pairs, the last `ex` and the last `is` must each be an optional `+` and at least one hex digit of
either case, writing a number below `2^32` (`HexTimestamp`), and the last `hm` must be present
and not empty. The link then reads as those values, at the URL without query and fragment
(`Signs`). When the text fails, the error names the first check it fails, in the order location,
`ex`, `is`, `hm` (`FailsFirst`, `LinkCheck.Reported`). A link from the origin is read the same
way, and a link that does not read stops the operation instead. The main statement is
`signedUrl_parse_accepts_grammar`.

The reading of a timestamp is the one place where the grammar is not the code read back: the
reader folds digits of any radix up to 36 and stops at the first step past `2^32`; here a hex
digit is one of `0-9a-fA-F`, valued by its place among the lowercase digits (`hexDigitValue`),
and the bound is on the whole number.
-/

namespace ChunkStore

/-! ## Hex timestamps -/

/-- The lowercase hex digits, in order. -/
def hexAlphabet : List Char := "0123456789abcdef".toList

/-- The value of a hex digit of either case: its place among the lowercase digits. -/
def hexDigitValue (c : Char) : Nat := hexAlphabet.idxOf c.toLower

/-- The number that hex digits write, most significant first, added on to `acc`. -/
def hexNumberFrom (acc : Nat) (ds : List Char) : Nat :=
  ds.foldl (fun n c => n * 16 + hexDigitValue c) acc

/-- A timestamp as a link writes it: an optional `+`, then at least one hex digit of either case,
writing the number `n`. -/
def HexTimestamp (v : String) (n : Nat) : Prop :=
  ∃ ds, (v.toList = ds ∨ v.toList = '+' :: ds) ∧ ds ≠ [] ∧ (∀ c ∈ ds, c.isHexDigit) ∧
    hexNumberFrom 0 ds = n

/-- Reading a digit in radix 16 accepts exactly the hex digits, at their value. -/
theorem digitValue_sixteen (c : Char) :
    Decimal.digitValue 16 c = if c.isHexDigit then some (hexDigitValue c) else none := by
  by_cases hc : c.toNat < 128
  · -- an ASCII character: the 128 cases are checked one by one
    have table : ∀ k < 128, Decimal.digitValue 16 (Char.ofNat k) =
        if (Char.ofNat k).isHexDigit then some (hexDigitValue (Char.ofNat k)) else none := by
      decide +kernel
    have h := table c.toNat hc
    rwa [Char.ofNat_toNat] at h
  · -- past ASCII no range of digits or letters holds `c`
    have hval : 128 ≤ c.val.toNat := by
      unfold Char.toNat at hc
      omega
    have above : ∀ n : UInt32, n.toNat < 128 → n < c.val := fun n hn => by
      rw [UInt32.lt_iff_toNat_lt]
      omega
    have hhex : c.isHexDigit = false := by
      simp [Char.isHexDigit, Char.isDigit, above 57 (by decide), above 102 (by decide),
        above 70 (by decide)]
    have past : ∀ n : UInt32, n.toNat < 128 → ¬ c.val ≤ n := fun n hn h => by
      rw [UInt32.le_iff_toNat_le] at h
      omega
    simp [Decimal.digitValue, hhex, Char.le_def, past 57 (by decide), past 122 (by decide),
      past 90 (by decide)]

theorem le_hexNumberFrom (acc : Nat) (ds : List Char) : acc ≤ hexNumberFrom acc ds := by
  induction ds generalizing acc with
  | nil => exact Nat.le_refl acc
  | cons c ds ih => exact Nat.le_trans (by omega) (ih (acc * 16 + hexDigitValue c))

/-- Folding digits in radix 16 from a value below the bound succeeds exactly when every
character is a hex digit and the whole number stays below the bound, and gives that number. -/
theorem accumulateDigits_sixteen {bound : Nat} :
    ∀ (acc : Nat) (ds : List Char) (n : Nat), acc < bound →
      (Decimal.accumulateDigits 16 bound acc ds = .ok n ↔
        (∀ c ∈ ds, c.isHexDigit) ∧ hexNumberFrom acc ds = n ∧ n < bound)
  | acc, [], n, hacc => by
    simp only [Decimal.accumulateDigits, Except.ok.injEq, List.not_mem_nil, false_implies,
      implies_true, hexNumberFrom, List.foldl_nil, true_and]
    constructor
    · rintro rfl
      exact ⟨rfl, hacc⟩
    · rintro ⟨rfl, -⟩
      rfl
  | acc, c :: ds, n, _ => by
    rw [Decimal.accumulateDigits, digitValue_sixteen]
    by_cases hc : c.isHexDigit
    · have hstep : hexNumberFrom acc (c :: ds) = hexNumberFrom (acc * 16 + hexDigitValue c) ds :=
        rfl
      simp only [hc, if_true, hstep, List.mem_cons, forall_eq_or_imp, true_and]
      by_cases hnext : acc * 16 + hexDigitValue c < bound
      · rw [if_pos hnext]
        exact accumulateDigits_sixteen _ ds n hnext
      · -- the digit takes the number past the bound, and later digits only add to it
        rw [if_neg hnext]
        have hle := le_hexNumberFrom (acc * 16 + hexDigitValue c) ds
        constructor
        · intro h
          cases h
        · rintro ⟨-, rfl, hlt⟩
          omega
    · simp [hc]

/-- **Timestamps read as hex below `2^32`.** Reading a 32-bit number in radix 16 succeeds exactly
on an optional `+` and at least one hex digit of either case writing a number below `2^32`. -/
theorem parseU32_sixteen_eq_ok_iff (v : String) (n : Nat) :
    Decimal.parseU32 16 v = .ok n ↔ HexTimestamp v n ∧ n < 2 ^ 32 := by
  have hbound : (0 : Nat) < Nat.pow 2 32 := by decide
  unfold Decimal.parseU32 Decimal.parseUnsigned HexTimestamp
  split
  · next h => simp [h]
  · next h => simp [h, show '+'.isHexDigit = false by decide]
  · next h => simp [h, show '-'.isHexDigit = false by decide]
  · next rest hne h =>
    -- after the sign come the digits
    rw [accumulateDigits_sixteen 0 rest n hbound, Nat.pow_eq]
    constructor
    · rintro ⟨hhex, hval, hlt⟩
      exact ⟨⟨rest, .inr h, hne, hhex, hval⟩, hlt⟩
    · rintro ⟨⟨ds, hds | hds, -, hhex, hval⟩, hlt⟩
      · rw [h] at hds
        subst hds
        exact absurd (hhex '+' List.mem_cons_self) (by decide)
      · rw [h, List.cons.injEq] at hds
        obtain ⟨-, rfl⟩ := hds
        exact ⟨hhex, hval, hlt⟩
  · next hnil _ _ hplus =>
    -- no sign: the whole text is the digits
    rw [accumulateDigits_sixteen 0 v.toList n hbound, Nat.pow_eq]
    constructor
    · rintro ⟨hhex, hval, hlt⟩
      exact ⟨⟨v.toList, .inl rfl, hnil, hhex, hval⟩, hlt⟩
    · rintro ⟨⟨ds, hds | hds, -, hhex, hval⟩, hlt⟩
      · subst hds
        exact ⟨hhex, hval, hlt⟩
      · exact absurd hds (hplus ds)

/-! ## The last value of a parameter -/

/-- The value of the last pair named `name`, if any. -/
def lastOccurrence (pairs : List (String × String)) (name : String) : Option String :=
  ((pairs.filter (·.1 == name)).getLast?).map (·.2)

theorem lastOccurrence_cons (k v : String) (pairs : List (String × String)) (name : String) :
    lastOccurrence ((k, v) :: pairs) name =
      if k = name then (lastOccurrence pairs name).or (some v) else lastOccurrence pairs name := by
  by_cases hk : k = name
  · subst hk
    simp only [lastOccurrence, List.filter_cons, beq_self_eq_true, if_true, List.getLast?_cons]
    cases (pairs.filter (·.1 == k)).getLast? <;> rfl
  · simp [lastOccurrence, hk]

theorem foldl_lastValue (name : String) :
    ∀ (pairs : List (String × String)) (acc : Option String),
      pairs.foldl (fun acc (k, v) => if k == name then some v else acc) acc =
        (lastOccurrence pairs name).or acc
  | [], acc => by simp [lastOccurrence]
  | (k, v) :: pairs, acc => by
    rw [List.foldl_cons, foldl_lastValue name pairs, lastOccurrence_cons]
    by_cases hk : k = name
    · cases lastOccurrence pairs name <;> simp [hk]
    · simp [hk]

theorem lastValue_eq_lastOccurrence (pairs : List (String × String)) (name : String) :
    SignedUrl.lastValue pairs name = lastOccurrence pairs name := by
  rw [SignedUrl.lastValue, foldl_lastValue]
  exact Option.or_none

/-! ## The checks of a link -/

/-- A timestamp parameter passes its check: its last value is a hex timestamp below `2^32`. -/
def TimestampOk (pairs : List (String × String)) (name : String) : Prop :=
  ∃ v n, lastOccurrence pairs name = some v ∧ HexTimestamp v n ∧ n < 2 ^ 32

/-- A timestamp parameter reads as `n` exactly when its value is a hex timestamp of `n` below
`2^32`. -/
theorem hexField_eq_ok_iff (name : String) (value : Option String) (n : Int) :
    SignedUrl.hexField name value = .ok n ↔
      ∃ v, value = some v ∧ ∃ k, HexTimestamp v k ∧ k < 2 ^ 32 ∧ n = k := by
  cases value with
  | none => simp [SignedUrl.hexField]
  | some v =>
    simp only [Option.some.injEq, exists_eq_left']
    cases h : Decimal.parseU32 16 v with
    | error e =>
      simp only [SignedUrl.hexField, h, reduceCtorEq, false_iff, not_exists, not_and]
      intro k hk hlt _
      have := (parseU32_sixteen_eq_ok_iff v k).2 ⟨hk, hlt⟩
      rw [h] at this
      cases this
    | ok k =>
      simp only [SignedUrl.hexField, h, Except.ok.injEq]
      constructor
      · rintro rfl
        exact ⟨k, (parseU32_sixteen_eq_ok_iff v k).1 h |>.1,
          (parseU32_sixteen_eq_ok_iff v k).1 h |>.2, rfl⟩
      · rintro ⟨k', hk', hlt', rfl⟩
        have := (parseU32_sixteen_eq_ok_iff v k').2 ⟨hk', hlt'⟩
        rw [h] at this
        cases this
        rfl

/-- A failed timestamp check names its parameter: it is missing, or not a hex timestamp. -/
theorem hexField_eq_error (name : String) (value : Option String) (e : ModelError)
    (h : SignedUrl.hexField name value = .error e) :
    ∃ d, e = .signedUrl d ∧
      (d = "missing " ++ name ++ " parameter" ∨ ∃ rest, d = name ++ " is not a hex timestamp: " ++ rest) := by
  cases value with
  | none =>
    simp only [SignedUrl.hexField, Except.error.injEq] at h
    exact ⟨_, h.symm, .inl rfl⟩
  | some v =>
    cases hp : Decimal.parseU32 16 v with
    | ok n => simp [SignedUrl.hexField, hp] at h
    | error err =>
      simp only [SignedUrl.hexField, hp, Except.error.injEq] at h
      exact ⟨_, h.symm, .inr ⟨Text.quote v ++ ": " ++ err.message, by simp only [String.append_assoc]⟩⟩

/-- What a parsed location carries to read as the signed link `s`: both timestamps pass their
checks with the values `s` holds, the last `hm` is the non-empty signature, and the location is
the one given less its query. -/
def Signs (p : Url.Parsed) (s : SignedUrl) : Prop :=
  (∃ v, lastOccurrence p.queryPairs "ex" = some v ∧
    ∃ n, HexTimestamp v n ∧ n < 2 ^ 32 ∧ s.expiresAt = n) ∧
  (∃ v, lastOccurrence p.queryPairs "is" = some v ∧
    ∃ n, HexTimestamp v n ∧ n < 2 ^ 32 ∧ s.issuedAt = n) ∧
  lastOccurrence p.queryPairs "hm" = some s.signature ∧ s.signature ≠ "" ∧
  s.url = p.withoutQuery

theorem signs_iff_hexField (p : Url.Parsed) (s : SignedUrl) :
    Signs p s ↔
      SignedUrl.hexField "ex" (lastOccurrence p.queryPairs "ex") = .ok s.expiresAt ∧
      SignedUrl.hexField "is" (lastOccurrence p.queryPairs "is") = .ok s.issuedAt ∧
      lastOccurrence p.queryPairs "hm" = some s.signature ∧ s.signature ≠ "" ∧
      s.url = p.withoutQuery := by
  simp only [Signs, hexField_eq_ok_iff]

/-- A link reads as `s` exactly when its text parses as a location that signs `s`. -/
theorem parse_eq_ok_iff_signs (u : String) (s : SignedUrl) :
    SignedUrl.parse u = .ok s ↔ ∃ p, Url.parse u = .ok p ∧ Signs p s := by
  cases hurl : Url.parse u with
  | error e =>
    simp [SignedUrl.parse, SignedUrl.parseWith, Url.library_parse_error hurl, bind, Except.bind,
      throw, throwThe, MonadExceptOf.throw]
  | ok p =>
    simp only [SignedUrl.parse, SignedUrl.parseWith, Url.library_parse_ok hurl,
      Url.library_queryPairs, Url.library_withoutQuery, bind, Except.bind, pure, Except.pure,
      lastValue_eq_lastOccurrence, Except.ok.injEq, exists_eq_left', signs_iff_hexField]
    cases hex : SignedUrl.hexField "ex" (lastOccurrence p.queryPairs "ex") with
    | error e => simp
    | ok ex =>
      cases his : SignedUrl.hexField "is" (lastOccurrence p.queryPairs "is") with
      | error e => simp
      | ok is =>
        obtain ⟨url, e, i, sig⟩ := s
        cases hhm : lastOccurrence p.queryPairs "hm" with
        | none => simp [throw, throwThe, MonadExceptOf.throw]
        | some hm =>
          by_cases hem : hm = ""
          · -- an empty signature counts as missing
            simp [hem, throw, throwThe, MonadExceptOf.throw]
            intro _ _ hsig hne
            exact absurd hsig hne
          · simp only [hem, String.isEmpty_iff, if_false, Except.ok.injEq, SignedUrl.mk.injEq,
              Option.some.injEq]
            constructor
            · rintro ⟨rfl, rfl, rfl, rfl⟩
              exact ⟨rfl, rfl, rfl, hem, rfl⟩
            · rintro ⟨rfl, rfl, rfl, -, rfl⟩
              exact ⟨rfl, rfl, rfl, rfl⟩

theorem timestampOk_iff_hexField (pairs : List (String × String)) (name : String) :
    TimestampOk pairs name ↔ ∃ n, SignedUrl.hexField name (lastOccurrence pairs name) = .ok n := by
  simp only [TimestampOk, hexField_eq_ok_iff]
  constructor
  · rintro ⟨v, k, hv, hk, hlt⟩
    exact ⟨k, v, hv, k, hk, hlt, rfl⟩
  · rintro ⟨-, v, hv, k, hk, hlt, -⟩
    exact ⟨v, k, hv, hk, hlt⟩

theorem not_timestampOk_of_hexField_eq_error {pairs : List (String × String)} {name : String}
    {e : ModelError} (h : SignedUrl.hexField name (lastOccurrence pairs name) = .error e) :
    ¬ TimestampOk pairs name := by
  rw [timestampOk_iff_hexField]
  rintro ⟨n, hn⟩
  rw [h] at hn
  cases hn

/-- The checks reading a link makes, in the order it makes them. -/
inductive LinkCheck where
  /-- The text is a URL. -/
  | location
  /-- The last `ex` is a hex timestamp below `2^32`. -/
  | expiry
  /-- The last `is` is a hex timestamp below `2^32`. -/
  | issue
  /-- The last `hm` is present and not empty. -/
  | signature
  deriving DecidableEq, Repr

/-- `c` is the first check the text `u` fails: it passes every check before `c`. -/
def FailsFirst (u : String) : LinkCheck → Prop
  | .location => ∃ e, Url.parse u = .error e
  | .expiry => ∃ p, Url.parse u = .ok p ∧ ¬ TimestampOk p.queryPairs "ex"
  | .issue => ∃ p, Url.parse u = .ok p ∧ TimestampOk p.queryPairs "ex" ∧
      ¬ TimestampOk p.queryPairs "is"
  | .signature => ∃ p, Url.parse u = .ok p ∧ TimestampOk p.queryPairs "ex" ∧
      TimestampOk p.queryPairs "is" ∧ ∀ sig, lastOccurrence p.queryPairs "hm" = some sig → sig = ""

/-- The detail a failed timestamp check gives for the parameter `name`. -/
def TimestampReported (name d : String) : Prop :=
  d = "missing " ++ name ++ " parameter" ∨ ∃ rest, d = name ++ " is not a hex timestamp: " ++ rest

/-- The detail an error gives for each failed check. -/
def LinkCheck.Reported : LinkCheck → String → Prop
  | .location, d => ∃ rest, d = "unparsable url " ++ rest
  | .expiry, d => TimestampReported "ex" d
  | .issue, d => TimestampReported "is" d
  | .signature, d => d = "missing hm parameter"

/-- A link that does not read names the first check it fails. -/
theorem parse_eq_error_reports (u : String) (e : ModelError) (h : SignedUrl.parse u = .error e) :
    ∃ c d, FailsFirst u c ∧ e = .signedUrl d ∧ c.Reported d := by
  cases hurl : Url.parse u with
  | error err =>
    simp only [SignedUrl.parse, SignedUrl.parseWith, Url.library_parse_error hurl, bind,
      Except.bind, throw, throwThe, MonadExceptOf.throw, Except.error.injEq] at h
    exact ⟨.location, _, ⟨err, hurl⟩, h.symm, Text.quote u ++ ": " ++ err.message,
      by simp only [String.append_assoc]⟩
  | ok p =>
    simp only [SignedUrl.parse, SignedUrl.parseWith, Url.library_parse_ok hurl,
      Url.library_queryPairs, Url.library_withoutQuery, bind, Except.bind, pure, Except.pure,
      lastValue_eq_lastOccurrence] at h
    cases hex : SignedUrl.hexField "ex" (lastOccurrence p.queryPairs "ex") with
    | error err =>
      simp only [hex, Except.error.injEq] at h
      obtain ⟨d, hd, hrep⟩ := hexField_eq_error _ _ _ hex
      exact ⟨.expiry, d, ⟨p, hurl, not_timestampOk_of_hexField_eq_error hex⟩, h ▸ hd, hrep⟩
    | ok ex =>
      have hexOk := (timestampOk_iff_hexField _ _).2 ⟨ex, hex⟩
      cases his : SignedUrl.hexField "is" (lastOccurrence p.queryPairs "is") with
      | error err =>
        simp only [hex, his, Except.error.injEq] at h
        obtain ⟨d, hd, hrep⟩ := hexField_eq_error _ _ _ his
        exact ⟨.issue, d, ⟨p, hurl, hexOk, not_timestampOk_of_hexField_eq_error his⟩, h ▸ hd, hrep⟩
      | ok is =>
        have hisOk := (timestampOk_iff_hexField _ _).2 ⟨is, his⟩
        simp only [hex, his] at h
        cases hhm : lastOccurrence p.queryPairs "hm" with
        | none =>
          simp only [hhm, throw, throwThe, MonadExceptOf.throw, Except.error.injEq] at h
          refine ⟨.signature, _, ⟨p, hurl, hexOk, hisOk, ?_⟩, h.symm, rfl⟩
          intro sig hsig
          rw [hhm] at hsig
          cases hsig
        | some hm =>
          by_cases hem : hm = ""
          · simp only [hhm, hem, String.isEmpty_iff, if_true, throw, throwThe, MonadExceptOf.throw,
              Except.error.injEq] at h
            refine ⟨.signature, _, ⟨p, hurl, hexOk, hisOk, ?_⟩, h.symm, rfl⟩
            intro sig hsig
            rw [hhm, Option.some.injEq] at hsig
            rw [← hsig, hem]
          · simp [hhm, hem] at h

/-! ## Links from the origin -/

theorem fromOrigin_eq_ok_iff (u : String) (s : SignedUrl) :
    SignedUrl.fromOrigin u = .ok s ↔ SignedUrl.parse u = .ok s := by
  unfold SignedUrl.fromOrigin
  cases SignedUrl.parse u <;> simp

theorem fromOrigin_fails_iff (u : String) :
    (∃ p, SignedUrl.fromOrigin u = .error p) ↔ ∃ e, SignedUrl.parse u = .error e := by
  unfold SignedUrl.fromOrigin
  cases SignedUrl.parse u <;> simp

/-- Reading a link accepts exactly the texts that parse as a location signing the result, and
otherwise reports the first check the text fails; a link from the origin reads the same way, and
stops the operation exactly when reading fails. -/
theorem signedUrl_parse_accepts_grammar (u : String) :
    (∀ s, SignedUrl.parse u = .ok s ↔ ∃ p, Url.parse u = .ok p ∧ Signs p s) ∧
    (∀ e, SignedUrl.parse u = .error e →
      ∃ c d, FailsFirst u c ∧ e = .signedUrl d ∧ c.Reported d) ∧
    (∀ s, SignedUrl.fromOrigin u = .ok s ↔ SignedUrl.parse u = .ok s) ∧
    ((∃ p, SignedUrl.fromOrigin u = .error p) ↔ ∃ e, SignedUrl.parse u = .error e) :=
  ⟨parse_eq_ok_iff_signs u, parse_eq_error_reports u, fromOrigin_eq_ok_iff u,
    fromOrigin_fails_iff u⟩

end ChunkStore
