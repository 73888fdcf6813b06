import ChunkStore.Proofs.JsonLibrary
import ChunkStore.Proofs.Digits
import ChunkStore.Proofs.ManifestAssembly
import ChunkStore.Chunk.Message
/-!
# Records read back from their JSON

Through every lawful JSON library, a chunk record, a message of the origin and a manifest each
decode from the JSON they are written as, compact or pretty, to themselves, whatever text their
strings hold. The numbers are what bounds the statement: a record's size and message id are
64-bit naturals and its signature window 64-bit integers (`Node.InRange`), a message's id and
its attachments' sizes are 64-bit naturals (`Message.InRange`), and a manifest's size is its
chunks' total, which is how loading checks it.

Each record is read field by field (`ReadsFields`): the key of each member names a field not read
yet, whose decoder reads the member's value. A message id is written as its decimal text and read
back from the text or from the number (`snowflake_decodes_text`, `snowflake_decodes_number`); a
message without a channel writes no `channel_id` and reads back without one.
-/

namespace ChunkStore

/-- The ranges a chunk record's fields are kept in: size and message id are 64-bit naturals,
the times of the signature window 64-bit integers. -/
def Node.InRange (n : Node) : Prop :=
  n.size < Nat.pow 2 64 ∧ n.messageId < Nat.pow 2 64 ∧
    -(Nat.pow 2 63 : Int) ≤ n.expiresAt ∧ n.expiresAt < (Nat.pow 2 63 : Int) ∧
    -(Nat.pow 2 63 : Int) ≤ n.issuedAt ∧ n.issuedAt < (Nat.pow 2 63 : Int)

instance (n : Node) : Decidable n.InRange := by
  unfold Node.InRange
  infer_instance

/-- A message's id and its attachments' sizes are 64-bit naturals. -/
def Message.InRange (m : Message) : Prop :=
  m.id < Nat.pow 2 64 ∧ ∀ a ∈ m.attachments, a.size < Nat.pow 2 64

namespace Json.Decode

section Lawful

variable {J : JsonCodec} (hJ : J.Lawful)
include hJ

/-! ## Chunk records -/

theorem node_decodes {budget : Nat} (hb : 2 ≤ budget) {n : Node} (hn : n.InRange) :
    Decodes (nodeWith J budget) n.toJson n := by
  obtain ⟨hsize, hmid, hex, hex', his, his'⟩ := hn
  have hread : ReadsFields (nodeFields J) (budget - 1)
      [("url", .str n.url), ("size", Json.nat n.size), ("mid", Json.nat n.messageId),
        ("ex", Json.int n.expiresAt), ("is", Json.int n.issuedAt), ("hm", .str n.signature)] {}
      { url := some n.url, size := some n.size, messageId := some n.messageId,
        expiresAt := some n.expiresAt, issuedAt := some n.issuedAt,
        signature := some n.signature } :=
    .field _ rfl rfl ((hJ.text_decodes n.url).bind_pure _) <|
    .field _ rfl rfl ((hJ.u64_decodes hsize).bind_pure _) <|
    .field _ rfl rfl ((hJ.u64_decodes hmid).bind_pure _) <|
    .field _ rfl rfl ((hJ.i64_decodes hex hex').bind_pure _) <|
    .field _ rfl rfl ((hJ.i64_decodes his his').bind_pure _) <|
    .field _ rfl rfl ((hJ.text_decodes n.signature).bind_pure _) <|
    .done rfl
  exact (hJ.struct_decodes "Node" (nodeFields J) {} hb hread).bind_pure _

/-! ## Messages -/

theorem attachment_decodes {budget : Nat} (hb : 2 ≤ budget) {a : Attachment}
    (ha : a.size < Nat.pow 2 64) : Decodes (attachmentWith J budget) a.toJson a := by
  have hread : ReadsFields (attachmentFields J) (budget - 1)
      [("url", .str a.url), ("size", Json.nat a.size), ("filename", .str a.filename)] {}
      { url := some a.url, size := some a.size, filename := some a.filename } :=
    .field _ rfl rfl ((hJ.text_decodes a.url).bind_pure _) <|
    .field _ rfl rfl ((hJ.u64_decodes ha).bind_pure _) <|
    .field _ rfl rfl ((hJ.text_decodes a.filename).bind_pure _) <|
    .done rfl
  exact (hJ.struct_decodes "Attachment" (attachmentFields J) {} hb hread).bind_pure _

theorem snowflake_decodes_text {budget id : Nat} (hb : 1 ≤ budget) (hid : id < Nat.pow 2 64) :
    Decodes (snowflake J budget) (.str (toString id)) id := by
  obtain ⟨b, rfl⟩ : ∃ b, budget = b + 1 := ⟨budget - 1, by omega⟩
  unfold snowflake
  have hshape : snowflakeShape (.str (toString id)) = some (.inl (toString id)) := rfl
  refine (hJ.untagged_decodes "Raw" (readable_str b _) hshape).bind_of_pure ?_
  simp only [Decimal.parseU64_toString hid]

theorem snowflake_decodes_number {budget id : Nat} (hb : 1 ≤ budget) (hid : id < Nat.pow 2 64) :
    Decodes (snowflake J budget) (Json.nat id) id := by
  obtain ⟨b, rfl⟩ : ∃ b, budget = b + 1 := ⟨budget - 1, by omega⟩
  have hshape : snowflakeShape (Json.nat id) = some (.inr id) := by
    simp [snowflakeShape, Json.nat, hid]
  unfold snowflake
  exact (hJ.untagged_decodes "Raw" (by simp [hid]) hshape).bind_of_pure rfl

/-- A message is read back from its JSON with the id written either way the origin sends it. -/
theorem message_decodes {budget : Nat} (hb : 4 ≤ budget) {m : Message} (hm : m.InRange)
    {idJson : Json} (hid : Decodes (snowflake J (budget - 1)) idJson m.id)
    {rest : List (String × Json)}
    (hrest : m.toJson = .obj (("id", .str (toString m.id)) :: rest)) :
    Decodes (messageWith J budget) (.obj (("id", idJson) :: rest)) m := by
  obtain ⟨id, channel, atts⟩ := m
  obtain ⟨-, hsizes⟩ := hm
  -- the attachments are an array read one level further in, each as an attachment record
  have hatts : Decodes (J.seq (attachmentWith J) (budget - 1)) (.arr (atts.map Attachment.toJson))
      atts :=
    hJ.seq_decodes (by omega)
      (List.forall₂_map_left_iff.2 (List.forall₂_same.2 fun a ha =>
        attachment_decodes hJ (by omega) (hsizes a ha)))
      (fun j hj x => by
        obtain ⟨a, -, rfl⟩ := List.mem_map.1 hj
        simp [Attachment.toJson])
  cases channel with
  | none =>
    have hr : rest = [("attachments", .arr (atts.map Attachment.toJson))] := by
      simpa [Message.toJson] using hrest.symm
    subst hr
    have hread : ReadsFields (messageFields J) (budget - 1)
        [("id", idJson), ("attachments", .arr (atts.map Attachment.toJson))] {}
        { id := some id, attachments := some atts } :=
      .field _ rfl rfl (hid.bind_pure _) <| .field _ rfl rfl (hatts.bind_pure _) <| .done rfl
    exact (hJ.struct_decodes "Message" (messageFields J) {} (by omega) hread).bind_pure _
  | some c =>
    have hr : rest = [("channel_id", .str c), ("attachments", .arr (atts.map Attachment.toJson))] := by
      simpa [Message.toJson] using hrest.symm
    subst hr
    have hread : ReadsFields (messageFields J) (budget - 1)
        [("id", idJson), ("channel_id", .str c), ("attachments", .arr (atts.map Attachment.toJson))]
        {} { id := some id, channelId := some (some c), attachments := some atts } :=
      .field _ rfl rfl (hid.bind_pure _) <|
      .field _ rfl rfl ((hJ.option_decodes_some (hJ.text_decodes c) nofun nofun).bind_pure _) <|
      .field _ rfl rfl (hatts.bind_pure _) <| .done rfl
    exact (hJ.struct_decodes "Message" (messageFields J) {} (by omega) hread).bind_pure _

/-! ## Manifests -/

theorem manifest_decodes {budget : Nat} (hb : 4 ≤ budget) {m : Manifest}
    (hnodes : ∀ n ∈ m.nodes, n.InRange) (hsize : m.size < Nat.pow 2 64) :
    Decodes (manifestWith J budget) m.toJson m := by
  have hlist : Decodes (J.seq (nodeWith J) (budget - 1)) (.arr (m.nodes.map Node.toJson))
      m.nodes :=
    hJ.seq_decodes (by omega)
      (List.forall₂_map_left_iff.2 (List.forall₂_same.2 fun n hn =>
        node_decodes hJ (by omega) (hnodes n hn)))
      (fun j hj x => by
        obtain ⟨n, -, rfl⟩ := List.mem_map.1 hj
        simp [Node.toJson])
  have hread : ReadsFields (manifestFields J) (budget - 1)
      [("name", .str m.name), ("size", Json.nat m.size), ("nodes", .arr (m.nodes.map Node.toJson))]
      {} { name := some m.name, size := some m.size, nodes := some m.nodes } :=
    .field _ rfl rfl ((hJ.text_decodes m.name).bind_pure _) <|
    .field _ rfl rfl ((hJ.u64_decodes hsize).bind_pure _) <|
    .field _ rfl rfl (hlist.bind_pure _) <| .done rfl
  exact (hJ.struct_decodes "Manifest" (manifestFields J) {} (by omega) hread).bind_pure _

end Lawful

end Json.Decode

theorem Message.toJson_id (m : Message) :
    ∃ rest, m.toJson = .obj (("id", .str (toString m.id)) :: rest) :=
  ⟨_, rfl⟩

/-- Through a lawful JSON library, a saved manifest whose size is its chunks' total loads back
as itself. -/
theorem Manifest.loadWith_saveText {J : JsonCodec} (hJ : J.Lawful) (path : String) {m : Manifest}
    (hnodes : ∀ n ∈ m.nodes, n.InRange) (hsize : m.size = chunkTotal m.nodes) :
    Manifest.loadWith J path (m.saveText J) = .ok m := by
  have hlt : m.size < Nat.pow 2 64 := by
    rw [hsize, chunkTotal_eq]
    exact Nat.mod_lt _ (by decide)
  refine loadWith_eq_ok_iff.2
    ⟨hJ.run_pretty (Json.Decode.manifest_decodes hJ (by decide) hnodes hlt), ?_⟩
  rw [← chunkTotal_eq, hsize]

/-- **Records read back from their JSON.** Through every lawful JSON library, a chunk record and
a message decode from their compact JSON to themselves, a message also when its id is written as
a number, and a saved manifest whose size is its chunks' total loads back as itself, with any
text in their strings. -/
theorem records_read_back_from_json (J : JsonCodec) (hJ : J.Lawful) :
    (∀ n : Node, n.InRange → J.run (Json.Decode.nodeWith J) (J.compact n.toJson) = .ok n) ∧
    (∀ m : Message, m.InRange →
      J.run (Json.Decode.messageWith J) (J.compact m.toJson) = .ok m) ∧
    (∀ (m : Message) (rest : List (String × Json)), m.InRange →
      m.toJson = .obj (("id", .str (toString m.id)) :: rest) →
      J.run (Json.Decode.messageWith J) (J.compact (Json.obj (("id", Json.nat m.id) :: rest))) =
        .ok m) ∧
    (∀ (path : String) (m : Manifest), (∀ n ∈ m.nodes, n.InRange) → m.size = chunkTotal m.nodes →
      Manifest.loadWith J path (m.saveText J) = .ok m) := by
  refine ⟨fun n hn => ?_, fun m hm => ?_, fun m rest hm hrest => ?_,
    fun path m hnodes hsize => Manifest.loadWith_saveText hJ path hnodes hsize⟩
  · exact hJ.run_compact (Json.Decode.node_decodes hJ (by decide) hn)
  · obtain ⟨rest, hrest⟩ := m.toJson_id
    rw [hrest]
    exact hJ.run_compact (Json.Decode.message_decodes hJ (by decide) hm
      (Json.Decode.snowflake_decodes_text hJ (by decide) hm.1) hrest)
  · exact hJ.run_compact (Json.Decode.message_decodes hJ (by decide) hm
      (Json.Decode.snowflake_decodes_number hJ (by decide) hm.1) hrest)

/-- The library the program runs with is lawful, and reads back a record with a quote in its
link and a newline in its signature, messages with and without a channel, and a manifest with a
tab in its name. -/
theorem records_read_back_from_json_samples :
    Json.library.Lawful ∧
    Json.Decode.run Json.Decode.node
        (Node.toJson ⟨"s3://bucket/a\"b", 5, 12, 100, -3, "sig\n"⟩).compact =
      .ok ⟨"s3://bucket/a\"b", 5, 12, 100, -3, "sig\n"⟩ ∧
    Json.Decode.run Json.Decode.message (Message.toJson ⟨9, none, [⟨"u", 5, "f"⟩]⟩).compact =
      .ok ⟨9, none, [⟨"u", 5, "f"⟩]⟩ ∧
    Json.Decode.run Json.Decode.message
        (Json.obj [("id", Json.nat 9), ("channel_id", .str "7"), ("attachments", .arr [])]).compact =
      .ok ⟨9, some "7", []⟩ ∧
    Manifest.load "m.json" (Manifest.saveText Json.library ⟨"a\tb", 5, [⟨"u", 5, 1, 0, 0, "h"⟩]⟩) =
      .ok ⟨"a\tb", 5, [⟨"u", 5, 1, 0, 0, "h"⟩]⟩ :=
  ⟨Json.library_lawful,
    (records_read_back_from_json Json.library Json.library_lawful).1 _ (by decide),
    (records_read_back_from_json Json.library Json.library_lawful).2.1 _ ⟨by decide, by simp⟩,
    (records_read_back_from_json Json.library Json.library_lawful).2.2.1 ⟨9, some "7", []⟩ _
      ⟨by decide, by simp⟩ rfl,
    (records_read_back_from_json Json.library Json.library_lawful).2.2.2 "m.json" _
      (by simp only [List.mem_singleton, forall_eq]; decide) (by decide)⟩

end ChunkStore
