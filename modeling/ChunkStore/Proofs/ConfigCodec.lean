import ChunkStore.Proofs.JsonLibrary
import ChunkStore.Config
import Mathlib.Data.List.DropRight
/-!
# The configuration read back from its JSON

Credentials and channels are list settings. A list setting is read from a string, a 64-bit
number, or an array of those (`listShape`), as the decimal texts of its numbers and the parts of
its strings: each string split at commas, each part trimmed of blanks, empty parts dropped
(`commaValues`). So one string of comma-joined parts reads as the array of the parts
(`commaValues_intercalate`).

Every value a list setting gives is `CommaFree`: not empty, without a comma, and with no blank at
either end (`commaFree_of_mem_commaValues`); and an array of strings reads back as itself exactly
when each string is comma-free (`commaValues_texts_eq_self_iff`). A configuration is written with
its credentials and channels as arrays of strings and every other field as itself, so it reads
back as itself exactly when its credentials and channels are comma-free
(`config_comma_lists_read_back`).
-/

namespace ChunkStore

/-! ## Comma lists -/

/-- A value that a list setting gives back as it is: not empty, without a comma, and with no
blank at either end. -/
def CommaFree (s : String) : Prop := s ≠ "" ∧ ',' ∉ s.toList ∧ Text.trimBlank s = s

theorem commaValues_text_cons (t : String) (items : List Scalar) :
    commaValues (.text t :: items) =
      ((t.toList.splitOn ',').map (Text.trimBlank ∘ String.ofList)).filter (!·.isEmpty) ++
        commaValues items :=
  rfl

theorem commaValues_number_cons (n : Nat) (items : List Scalar) :
    commaValues (.number n :: items) = toString n :: commaValues items :=
  rfl

theorem not_mem_of_mem_splitOn {a : Char} :
    ∀ {xs p : List Char}, p ∈ xs.splitOn a → a ∉ p
  | [], p, hp => by
    rw [List.splitOn_nil, List.mem_singleton] at hp
    subst hp
    exact List.not_mem_nil
  | x :: xs, p, hp => by
    rw [List.splitOn_cons_eq_if_modifyHead] at hp
    split at hp
    · -- a separator closes the part before it
      rcases List.mem_cons.1 hp with rfl | hp
      · exact List.not_mem_nil
      · exact not_mem_of_mem_splitOn hp
    · -- any other character starts the first part
      next hx =>
      obtain ⟨q, qs, hq⟩ := List.exists_cons_of_ne_nil (List.splitOn_ne_nil a xs)
      rw [hq, List.modifyHead_cons] at hp
      rcases List.mem_cons.1 hp with rfl | hp
      · have hxa : x ≠ a := fun h => hx (by simp [h])
        have hqa := not_mem_of_mem_splitOn (hq ▸ List.mem_cons_self : q ∈ xs.splitOn a)
        simp only [List.mem_cons, not_or]
        exact ⟨fun h => hxa h.symm, hqa⟩
      · exact not_mem_of_mem_splitOn (hq ▸ List.mem_cons_of_mem q hp)

theorem splitOn_intercalate_comma :
    ∀ ls : List (List Char), ls ≠ [] →
      ([','].intercalate ls).splitOn ',' = ls.flatMap (·.splitOn ',')
  | [l], _ => by simp
  | l :: l' :: ls, _ => by
    rw [List.intercalate_cons_cons, List.append_assoc, List.singleton_append,
      List.splitOn_append_cons_self, splitOn_intercalate_comma (l' :: ls) (List.cons_ne_nil _ _)]
    simp only [List.flatMap_cons]

/-! ## Trimming -/

theorem trimBlank_toList (s : String) :
    (Text.trimBlank s).toList = (s.toList.dropWhile Text.isBlank).rdropWhile Text.isBlank := by
  rw [Text.trimBlank, String.toList_ofList]
  rfl

theorem mem_of_mem_trimBlank {s : String} {c : Char} (h : c ∈ (Text.trimBlank s).toList) :
    c ∈ s.toList := by
  rw [trimBlank_toList] at h
  exact (List.dropWhile_sublist _).subset ((List.rdropWhile_prefix _ _).subset h)

theorem dropWhile_rdropWhile {p : Char → Bool} {u : List Char} (h : ∀ c ∈ u.head?, p c = false) :
    (u.rdropWhile p).dropWhile p = u.rdropWhile p := by
  obtain ⟨rest, hrest⟩ := List.rdropWhile_prefix p u
  cases hv : u.rdropWhile p with
  | nil => rfl
  | cons c cs =>
    rw [hv, List.cons_append] at hrest
    have hc : p c = false := h c (by rw [← hrest]; rfl)
    simp [hc]

theorem trimBlank_trimBlank (s : String) : Text.trimBlank (Text.trimBlank s) = Text.trimBlank s := by
  apply String.toList_injective
  have hfront : ∀ c ∈ (s.toList.dropWhile Text.isBlank).head?, Text.isBlank c = false := by
    intro c hc
    have := List.head?_dropWhile_not Text.isBlank s.toList
    rw [Option.mem_def.1 hc] at this
    exact this
  rw [trimBlank_toList, trimBlank_toList, dropWhile_rdropWhile hfront, List.rdropWhile_idempotent]

/-! ## What a list setting gives -/

theorem commaFree_of_mem_parts {t x : String}
    (h : x ∈ ((t.toList.splitOn ',').map (Text.trimBlank ∘ String.ofList)).filter (!·.isEmpty)) :
    CommaFree x := by
  rw [List.mem_filter, List.mem_map] at h
  obtain ⟨⟨p, hp, rfl⟩, hne⟩ := h
  refine ⟨fun h => ?_, fun hc => ?_, trimBlank_trimBlank _⟩
  · simp only [Bool.not_eq_true', String.isEmpty_eq_false_iff] at hne
    exact hne h
  · have := mem_of_mem_trimBlank hc
    rw [String.toList_ofList] at this
    exact not_mem_of_mem_splitOn hp this

theorem commaFree_toString (n : Nat) : CommaFree (toString n) := by
  have hdigits : ∀ c ∈ (toString n).toList, c ≠ ',' ∧ Text.isBlank c = false := by
    intro c hc
    rw [Nat.toString_eq_repr, Nat.toList_repr] at hc
    obtain ⟨d, hd, rfl⟩ := Decimal.mem_toDigits (by decide) hc
    have table : ∀ d < 10, Nat.digitChar d ≠ ',' ∧ Text.isBlank (Nat.digitChar d) = false := by
      decide
    exact table d hd
  refine ⟨Nat.repr_ne_empty, fun hc => (hdigits ',' hc).1 rfl, String.toList_injective ?_⟩
  have hsolid : ∀ c ∈ (toString n).toList, ¬ Text.isBlank c = true := fun c hc => by
    simp [(hdigits c hc).2]
  rw [trimBlank_toList, List.dropWhile_eq_self_iff.2 fun hl => hsolid _ (List.getElem_mem hl),
    List.rdropWhile_eq_self_iff.2 fun hl => hsolid _ (List.getLast_mem hl)]

/-- Every value a list setting gives is comma-free. -/
theorem commaFree_of_mem_commaValues : ∀ {items : List Scalar} {x : String},
    x ∈ commaValues items → CommaFree x
  | [], _, h => by cases h
  | .text t :: items, x, h => by
    rw [commaValues_text_cons, List.mem_append] at h
    rcases h with h | h
    · exact commaFree_of_mem_parts h
    · exact commaFree_of_mem_commaValues h
  | .number n :: items, x, h => by
    rw [commaValues_number_cons, List.mem_cons] at h
    rcases h with rfl | h
    · exact commaFree_toString n
    · exact commaFree_of_mem_commaValues h

theorem parts_of_commaFree {s : String} (h : CommaFree s) :
    ((s.toList.splitOn ',').map (Text.trimBlank ∘ String.ofList)).filter (!·.isEmpty) = [s] := by
  obtain ⟨hne, hcomma, htrim⟩ := h
  have hempty : s.isEmpty = false := by
    cases he : s.isEmpty
    · rfl
    · exact absurd (String.isEmpty_iff.1 he) hne
  rw [List.splitOn_eq_singleton hcomma]
  simp [String.ofList_toList, htrim, hempty]

theorem commaValues_texts_eq_self_iff (l : List String) :
    commaValues (l.map .text) = l ↔ ∀ s ∈ l, CommaFree s := by
  constructor
  · intro h s hs
    exact commaFree_of_mem_commaValues (h ▸ hs)
  · intro h
    induction l with
    | nil => rfl
    | cons s l ih =>
      rw [List.map_cons, commaValues_text_cons, parts_of_commaFree (h s List.mem_cons_self),
        ih fun x hx => h x (List.mem_cons_of_mem s hx), List.singleton_append]

theorem commaValues_map_text (l : List String) :
    commaValues (l.map .text) =
      ((l.flatMap fun t => t.toList.splitOn ',').map (Text.trimBlank ∘ String.ofList)).filter
        (!·.isEmpty) := by
  induction l with
  | nil => rfl
  | cons t l ih =>
    rw [List.map_cons, commaValues_text_cons, ih, List.flatMap_cons, List.map_append,
      List.filter_append]

theorem commaValues_intercalate (parts : List String) :
    commaValues [.text (",".intercalate parts)] = commaValues (parts.map .text) := by
  cases parts with
  | nil => simp [commaValues, Text.trimBlank]
  | cons p ps =>
    have hjoin : (",".intercalate (p :: ps)).toList =
        [','].intercalate ((p :: ps).map String.toList) :=
      String.toList_intercalate
    rw [commaValues_text_cons, hjoin, splitOn_intercalate_comma _ (by simp), List.flatMap_map,
      commaValues_map_text]
    exact List.append_nil _

/-! ## Reading list settings and configurations -/

/-- The ranges a configuration's numbers are kept in: 64-bit naturals. -/
def StoreConfig.InRange (c : StoreConfig) : Prop :=
  c.chunkSize < Nat.pow 2 64 ∧ (∀ n ∈ c.uploadConcurrency, n < Nat.pow 2 64) ∧
    c.requestTimeoutSecs < Nat.pow 2 64

namespace Json.Decode

theorem exists_of_mapM_eq_some {α β : Type} {f : α → Option β} :
    ∀ {xs : List α} {ys : List β}, xs.mapM f = some ys → ∀ x ∈ xs, ∃ y, f x = some y
  | [], _, _, x, hx => by cases hx
  | x :: xs, ys, h, z, hz => by
    rw [List.mapM_cons] at h
    cases hx : f x with
    | none => simp [hx] at h
    | some y =>
      cases hxs : xs.mapM f with
      | none => simp [hx, hxs] at h
      | some ys' =>
        rcases List.mem_cons.1 hz with rfl | hz
        · exact ⟨y, hx⟩
        · exact exists_of_mapM_eq_some hxs z hz

theorem readable_of_scalarShape {budget : Nat} {j : Json} {s : Scalar} (h : scalarShape j = some s) :
    readable (budget + 1) j = true := by
  cases j with
  | str t => exact readable_str budget t
  | num n =>
    cases n with
    | nat n =>
      by_cases hn : n < Nat.pow 2 64
      · exact (readable_nat budget n).trans (decide_eq_true hn)
      · simp [scalarShape, hn] at h
    | neg _ => cases h
    | float _ => cases h
  | null => cases h
  | bool _ => cases h
  | arr _ => cases h
  | obj _ => cases h

/-- Whatever shape a list setting accepts is read back whole at a budget of two levels. -/
theorem readable_of_listShape {budget : Nat} (hb : 2 ≤ budget) {j : Json} {items : List Scalar}
    (h : listShape j = some items) : readable budget j = true := by
  obtain ⟨b, rfl⟩ : ∃ b, budget = b + 1 + 1 := ⟨budget - 2, by omega⟩
  cases j with
  | arr js =>
    refine readable_arr.2 ⟨by omega, fun j hj => ?_⟩
    obtain ⟨s, hs⟩ := exists_of_mapM_eq_some h j hj
    exact readable_of_scalarShape hs
  | _ =>
    -- one scalar, as a list of one
    simp only [listShape] at h
    obtain ⟨s, hs, -⟩ := Option.map_eq_some_iff.1 h
    exact readable_of_scalarShape hs

theorem listShape_strings (l : List String) : listShape (.arr (l.map .str)) = some (l.map .text) := by
  show (l.map Json.str).mapM scalarShape = some (l.map Scalar.text)
  induction l with
  | nil => rfl
  | cons s l ih => simp [List.mapM_cons, scalarShape, ih]

section Lawful

variable {J : JsonCodec} (hJ : J.Lawful)
include hJ

theorem commaList_decodes {budget : Nat} (hb : 2 ≤ budget) {j : Json} {items : List Scalar}
    (h : listShape j = some items) : Decodes (commaList J budget) j (commaValues items) :=
  (hJ.untagged_decodes "ListInput" (readable_of_listShape hb h) h).map commaValues

/-- A configuration reads back from its JSON with its credentials and channels read as list
settings and every other field as itself. -/
theorem config_decodes {budget : Nat} (hb : 3 ≤ budget) {c : StoreConfig} (hc : c.InRange) :
    Decodes (configWith J budget) c.toJson
      { c with tokens := commaValues (c.tokens.map .text),
               channels := commaValues (c.channels.map .text) } := by
  obtain ⟨tokens, channels, chunkSize, asyncWrite, conc, timeout, baseUrl, userAgent⟩ := c
  obtain ⟨hsize, hconc, htimeout⟩ := hc
  -- the fields in the order they are written, with the concurrency's value left open
  have hread : ∀ (jc : Json) (conc' : Option Nat), Decodes (J.option J.usize) jc conc' →
      ReadsFields (configFields J) (budget - 1)
        [("tokens", .arr (tokens.map .str)), ("channels", .arr (channels.map .str)),
          ("chunk_size", Json.nat chunkSize), ("async_write", .bool asyncWrite),
          ("upload_concurrency", jc), ("request_timeout_secs", Json.nat timeout),
          ("base_url", .str baseUrl), ("user_agent", .str userAgent)] {}
        { tokens := some (commaValues (tokens.map .text)),
          channels := some (commaValues (channels.map .text)), chunkSize := some chunkSize,
          asyncWrite := some asyncWrite, uploadConcurrency := some conc',
          requestTimeoutSecs := some timeout, baseUrl := some baseUrl,
          userAgent := some userAgent } := fun jc conc' hopt =>
    .field _ rfl rfl ((commaList_decodes hJ (by omega) (listShape_strings tokens)).bind_pure _) <|
    .field _ rfl rfl ((commaList_decodes hJ (by omega) (listShape_strings channels)).bind_pure _) <|
    .field _ rfl rfl ((hJ.u64_decodes hsize).bind_pure _) <|
    .field _ rfl rfl ((hJ.bool_decodes asyncWrite).bind_pure _) <|
    .field _ rfl rfl (hopt.bind_pure _) <|
    .field _ rfl rfl ((hJ.u64_decodes htimeout).bind_pure _) <|
    .field _ rfl rfl ((hJ.text_decodes baseUrl).bind_pure _) <|
    .field _ rfl rfl ((hJ.text_decodes userAgent).bind_pure _) <|
    .done rfl
  cases conc with
  | none =>
    exact (hJ.struct_decodes "DriverConfig" (configFields J) {} (by omega)
      (hread _ _ (hJ.option_decodes_null J.usize))).bind_pure _
  | some n =>
    exact (hJ.struct_decodes "DriverConfig" (configFields J) {} (by omega)
      (hread _ _ (hJ.option_decodes_some (hJ.usize_decodes (hconc n rfl)) nofun nofun))).bind_pure _

theorem config_decodes_lists {budget : Nat} (hb : 3 ≤ budget) {jt jc : Json}
    {ts cs : List Scalar} (ht : listShape jt = some ts) (hc : listShape jc = some cs) :
    Decodes (configWith J budget) (.obj [("tokens", jt), ("channels", jc)])
      { tokens := commaValues ts, channels := commaValues cs } := by
  have hread : ReadsFields (configFields J) (budget - 1) [("tokens", jt), ("channels", jc)] {}
      { tokens := some (commaValues ts), channels := some (commaValues cs) } :=
    .field _ rfl rfl ((commaList_decodes hJ (by omega) ht).bind_pure _) <|
    .field _ rfl rfl ((commaList_decodes hJ (by omega) hc).bind_pure _) <| .done rfl
  exact (hJ.struct_decodes "DriverConfig" (configFields J) {} (by omega) hread).bind_pure _

end Lawful

end Json.Decode

/-- **Comma lists and the configuration read back.** Through every lawful JSON library,
credentials and channels given as a string, a 64-bit number or an array of those read as the
values of their scalars; one comma-joined string reads as the array of its parts; and a
configuration whose numbers are 64-bit reads back from its JSON as itself exactly when each of
its credentials and channels is comma-free. -/
theorem config_comma_lists_read_back (J : JsonCodec) (hJ : J.Lawful) :
    (∀ (jt jc : Json) (ts cs : List Scalar), Json.Decode.listShape jt = some ts →
      Json.Decode.listShape jc = some cs →
      J.run (Json.Decode.configWith J) (J.compact (Json.obj [("tokens", jt), ("channels", jc)])) =
        .ok { tokens := commaValues ts, channels := commaValues cs }) ∧
    (∀ parts : List String,
      commaValues [.text (",".intercalate parts)] = commaValues (parts.map .text)) ∧
    (∀ c : StoreConfig, c.InRange →
      (J.run (Json.Decode.configWith J) (J.compact c.toJson) = .ok c ↔
        ∀ s ∈ c.tokens ++ c.channels, CommaFree s)) := by
  refine ⟨fun jt jc ts cs ht hc => ?_, commaValues_intercalate, fun c hc => ?_⟩
  · exact hJ.run_compact (Json.Decode.config_decodes_lists hJ (by decide) ht hc)
  · rw [hJ.run_compact (Json.Decode.config_decodes hJ (by decide) hc)]
    constructor
    · intro h s hs
      have hread := Except.ok.inj h
      rcases List.mem_append.1 hs with hs | hs
      · exact (commaValues_texts_eq_self_iff _).1 (congrArg StoreConfig.tokens hread) s hs
      · exact (commaValues_texts_eq_self_iff _).1 (congrArg StoreConfig.channels hread) s hs
    · intro h
      rw [(commaValues_texts_eq_self_iff _).2 fun s hs => h s (List.mem_append_left _ hs),
        (commaValues_texts_eq_self_iff _).2 fun s hs => h s (List.mem_append_right _ hs)]

/-- The library the program runs with is lawful; it reads padded and numeric list settings, and
a configuration of comma-free lists back as itself. -/
theorem config_comma_lists_read_back_samples :
    Json.library.Lawful ∧
    Json.Decode.run Json.Decode.config
        (Json.obj [("tokens", .str " a, b ,,"), ("channels", .arr [Json.nat 5, .str "6,7"])]).compact =
      .ok { tokens := commaValues [.text " a, b ,,"],
            channels := commaValues [.number 5, .text "6,7"] } ∧
    commaValues [.text (",".intercalate ["a", " b"])] = commaValues (["a", " b"].map .text) ∧
    (Json.Decode.run Json.Decode.config
        (StoreConfig.toJson { tokens := ["t"], channels := ["1"] }).compact =
        .ok { tokens := ["t"], channels := ["1"] } ↔
      ∀ s ∈ ["t"] ++ ["1"], CommaFree s) :=
  ⟨Json.library_lawful,
    (config_comma_lists_read_back Json.library Json.library_lawful).1 _ _ _ _ rfl rfl,
    (config_comma_lists_read_back Json.library Json.library_lawful).2.1 ["a", " b"],
    (config_comma_lists_read_back Json.library Json.library_lawful).2.2
      { tokens := ["t"], channels := ["1"] } ⟨by decide, by simp, by decide⟩⟩

end ChunkStore
