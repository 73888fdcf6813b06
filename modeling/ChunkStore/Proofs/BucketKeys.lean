import ChunkStore.Proofs.FormCodec
import ChunkStore.Proofs.JsonScanning
import ChunkStore.Config
import ChunkStore.Link.Signed
import ChunkStore.Rate.Limiter
/-!
# Bucket keys keep credential and channel pairs apart

The limiter keeps one bucket per credential and channel, under the key
`token ++ "/channels/" ++ channel ++ "/messages"`. A credential may hold any character, the
separators included, so the key alone does not say where the credential ends. A channel id is a
non-empty run of ASCII digits (`isChannelId`), which a validated configuration guarantees for its
channels (`StoreConfig.isChannelId_of_validate`) and the reading of an attachment link for the
channel it names (`isChannelId_of_channelId`). A channel holds no `/`, so the last `/` of the key
before `/messages` ends the credential's part and the channel is what follows it: two pairs with
such channels share a key only if they are the same pair (`bucketKey_separates_pairs`).
-/

namespace ChunkStore

/-- Whether a text is a channel id as configurations and attachment links carry it: a non-empty
run of ASCII digits. -/
def isChannelId (c : String) : Bool := !c.isEmpty && c.toList.all Char.isDigit

theorem slash_not_mem_of_isChannelId {c : String} (h : isChannelId c = true) :
    '/' ∉ c.toList := by
  intro hmem
  have hall : c.toList.all Char.isDigit = true := by
    simp only [isChannelId, Bool.and_eq_true] at h
    exact h.2
  have := List.all_eq_true.1 hall '/' hmem
  exact absurd this (by decide)

/-- Two texts that each end with a `/` followed by a part without one are equal only part for
part: the part is what follows the last `/`. -/
theorem append_slash_inj {a b c d : List Char} (hc : '/' ∉ c) (hd : '/' ∉ d)
    (h : a ++ '/' :: c = b ++ '/' :: d) : a = b ∧ c = d := by
  rcases List.append_eq_append_iff.1 h with ⟨e, rfl, he⟩ | ⟨e, rfl, he⟩
  · cases e with
    | nil =>
      simp only [List.nil_append, List.cons.injEq, true_and] at he
      exact ⟨by simp, he⟩
    | cons x e =>
      -- a `/` after the shorter text would lie inside its part
      simp only [List.cons_append, List.cons.injEq] at he
      exact absurd (he.2 ▸ List.mem_append_right e List.mem_cons_self) hc
  · cases e with
    | nil =>
      simp only [List.nil_append, List.cons.injEq, true_and] at he
      exact ⟨by simp, he.symm⟩
    | cons x e =>
      simp only [List.cons_append, List.cons.injEq] at he
      exact absurd (he.2 ▸ List.mem_append_right e List.mem_cons_self) hd

theorem bucketKey_toList (token channel : String) :
    (bucketKey token channel).toList =
      (token.toList ++ "/channels".toList) ++ '/' :: (channel.toList ++ "/messages".toList) := by
  simp only [bucketKey, String.toList_append]
  simp [show "/channels/".toList = "/channels".toList ++ ['/'] by decide]

theorem bucketKey_inj_of_slash_free {t₁ t₂ c₁ c₂ : String} (h₁ : '/' ∉ c₁.toList)
    (h₂ : '/' ∉ c₂.toList) (h : bucketKey t₁ c₁ = bucketKey t₂ c₂) : t₁ = t₂ ∧ c₁ = c₂ := by
  have hkey := congrArg String.toList h
  rw [bucketKey_toList, bucketKey_toList, ← List.cons_append, ← List.cons_append,
    ← List.append_assoc, ← List.append_assoc] at hkey
  -- both keys end in `/messages`; what stands before it ends in `/` and the channel
  have hpre := List.append_cancel_right hkey
  obtain ⟨ht, hc⟩ := append_slash_inj h₁ h₂ hpre
  exact ⟨String.ext (List.append_cancel_right ht), String.ext hc⟩

/-- **Bucket keys separate credential and channel pairs.** For any credentials, and channels
that are channel ids, two pairs share a bucket key only if they are the same pair, even when a
credential holds the key's separators. -/
theorem bucketKey_separates_pairs {t₁ t₂ c₁ c₂ : String} (h₁ : isChannelId c₁ = true)
    (h₂ : isChannelId c₂ = true) (h : bucketKey t₁ c₁ = bucketKey t₂ c₂) : t₁ = t₂ ∧ c₁ = c₂ :=
  bucketKey_inj_of_slash_free (slash_not_mem_of_isChannelId h₁) (slash_not_mem_of_isChannelId h₂) h

theorem bucketKey_separates_pairs_long_credential :
    isChannelId "42" = true ∧
      bucketKey "Bot a/channels/7" "42" = bucketKey "Bot a/channels/7" "42" ∧
      ("Bot a/channels/7" = "Bot a/channels/7" ∧ "42" = "42") :=
  ⟨by decide, rfl, bucketKey_separates_pairs (by decide) (by decide) rfl⟩

/-- Without the condition on channels, a credential ending in the separator and a channel that
starts after it collide. -/
example : bucketKey "a/channels/1" "2" = bucketKey "a" "1/channels/2" := by decide

/-! ## Where channel ids come from -/

/-- A byte of the text is an ASCII digit only if the characters are ASCII digits: a character
past ASCII is written with bytes of 128 and above. -/
theorem isDigit_of_bytes {s : String}
    (h : s.toUTF8.toList.all (fun b => 48 ≤ b && b ≤ 57) = true) :
    s.toList.all Char.isDigit = true := by
  rw [toUTF8_toList, List.all_flatMap, List.all_eq_true] at h
  refine List.all_eq_true.2 fun x hx => ?_
  have hbytes := List.all_eq_true.1 (h x hx)
  by_cases hascii : x.toNat < 0x80
  · rw [utf8EncodeChar_ascii hascii] at hbytes
    have hb := hbytes _ List.mem_cons_self
    have hx : (UInt8.ofNat x.toNat).toNat = x.toNat := by simp; omega
    simp only [Bool.and_eq_true, decide_eq_true_eq, UInt8.le_iff_toNat_le, hx] at hb
    simp only [Char.isDigit, Bool.and_eq_true, decide_eq_true_eq, UInt32.le_iff_toNat_le]
    simp only [Char.toNat, UInt32.toNat] at hb
    exact ⟨by simpa using hb.1, by simpa using hb.2⟩
  · -- the first byte of a character past ASCII is no digit
    obtain ⟨b, hb⟩ := List.exists_mem_of_ne_nil _ String.utf8EncodeChar_ne_nil
    have hhigh := @Json.high_of_mem_utf8EncodeChar x (by omega) b hb
    have hdig := hbytes b hb
    simp only [Bool.and_eq_true, decide_eq_true_eq, UInt8.le_iff_toNat_le] at hdig
    simp at hdig
    omega

/-- Every channel of a configuration that passes validation is a channel id. -/
theorem StoreConfig.isChannelId_of_validate {c : StoreConfig} (h : c.validate = .ok ()) :
    ∀ ch ∈ c.channels, isChannelId ch = true := by
  have hfind : c.channels.find?
      (fun ch => ch.isEmpty || !ch.toUTF8.toList.all fun b => 48 ≤ b && b ≤ 57) = none := by
    cases hf : c.channels.find?
        (fun ch => ch.isEmpty || !ch.toUTF8.toList.all fun b => 48 ≤ b && b ≤ 57) with
    | none => rfl
    | some ch =>
      -- a non-numeric channel stops validation with its error, whatever the checks before say
      unfold StoreConfig.validate at h
      rw [hf] at h
      revert h
      cases c.tokens.isEmpty || c.channels.isEmpty <;>
        cases c.tokens.any fun t => (Text.trimBlank t).isEmpty <;> exact fun h => nomatch h
  intro ch hch
  have hok := List.find?_eq_none.1 hfind ch hch
  simp only [Bool.or_eq_true, Bool.not_eq_true', not_or, Bool.not_eq_false] at hok
  simp only [isChannelId, hok.1, Bool.not_false, Bool.true_and]
  exact isDigit_of_bytes (by simpa using hok.2)

/-- The channel read from an attachment link is a channel id. -/
theorem isChannelId_of_channelId {url ch : String} (h : channelId url = some ch) :
    isChannelId ch = true := by
  unfold channelId at h
  split at h
  · cases h
  · split at h
    · cases h
    · split at h
      · next c _ _ =>
        split at h
        · next hc =>
          cases h
          exact hc
        · cases h
      · cases h

/-- No two pairs a validated configuration's transport uses share a bucket: an upload's channel
is one of the configuration's, a listing's one read from a link. -/
theorem transport_pairs_keep_apart {cfg : StoreConfig} (hv : cfg.validate = .ok ())
    {t₁ t₂ c₁ c₂ : String} (hc₁ : c₁ ∈ cfg.channels ∨ ∃ url, channelId url = some c₁)
    (hc₂ : c₂ ∈ cfg.channels ∨ ∃ url, channelId url = some c₂)
    (h : bucketKey t₁ c₁ = bucketKey t₂ c₂) : t₁ = t₂ ∧ c₁ = c₂ := by
  have hid : ∀ c, (c ∈ cfg.channels ∨ ∃ url, channelId url = some c) → isChannelId c = true := by
    rintro c (hc | ⟨url, hc⟩)
    · exact StoreConfig.isChannelId_of_validate hv c hc
    · exact isChannelId_of_channelId hc
  exact bucketKey_separates_pairs (hid c₁ hc₁) (hid c₂ hc₂) h

end ChunkStore
