import ChunkStore.Storage.Transport
/-!
# Renewing signatures

Chunk links stop working when their signature lapses. To renew them, the lapsed records are
grouped by message, and for each message (in increasing id order) the channel named in its link
is listed from just before the message onwards. Every listed message that has lapsed records
and has not been renewed yet is renewed from its first attachment's link: all its records take
the new link and signature window. One listing can renew several messages.

A record whose link names no channel, or a listing that fails, stops the renewal with a
`refresh` error naming the message; records renewed before that keep their new links. A listed
link that cannot be read as a signed link means the origin broke its contract, which stops
everything.
-/

namespace ChunkStore

/-- Lapsed records grouped by message id, ids ascending, each with its record indices in order. -/
def expiredGroups (nodes : Array Node) (now : Int) : List (Nat × List Nat) :=
  let lapsed := (List.range nodes.size).filter fun i =>
    match nodes[i]? with
    | some n => n.isExpiredAt now
    | none => false
  let ids := (lapsed.filterMap fun i => (nodes[i]?).map (·.messageId)).mergeSort (· ≤ ·)
  ids.eraseDups.map fun id =>
    (id, lapsed.filter fun i => ((nodes[i]?).map (·.messageId)) == some id)

/-- The progress of a renewal. -/
structure Renewal where
  nodes : Array Node
  renewed : List Nat := []
  rewritten : Nat := 0

/-- Give the records at `indices` a new link and signature window. -/
def renewRecords (signed : SignedUrl) (indices : List Nat) (nodes : Array Node) : Array Node :=
  indices.foldl (fun ns i =>
    match ns[i]? with
    | some n => ns.set! i (n.applySigned signed)
    | none => ns) nodes

/-- Renew the records of the listed messages that need it. -/
def applyPage (groups : List (Nat × List Nat)) : List Message → Renewal → Outcome Renewal
  | [], r => .ok r
  | m :: rest, r =>
    match groups.find? (·.1 == m.id) with
    | none => applyPage groups rest r
    | some (_, indices) =>
      if r.renewed.contains m.id then applyPage groups rest r
      else
        let r := { r with renewed := m.id :: r.renewed }
        match m.firstAttachment with
        | none => applyPage groups rest r
        | some a =>
          match SignedUrl.fromOrigin a.url with
          | .error p => .panicked p.message
          | .ok signed =>
            applyPage groups rest
              { r with nodes := renewRecords signed indices r.nodes,
                       rewritten := r.rewritten + indices.length }

/-- Renew message after message (`todo` are the groups not yet visited). -/
def renewGroups (t : Transport σ) (groups : List (Nat × List Nat)) :
    List (Nat × List Nat) → Renewal → σ → Outcome Renewal × Renewal × σ
  | [], r, s => (.ok r, r, s)
  | (id, indices) :: todo, r, s =>
    if r.renewed.contains id then renewGroups t groups todo r s
    else
      let first := (indices.head? >>= fun i => r.nodes[i]?).getD ⟨"", 0, 0, 0, 0, ""⟩
      match first.channelId with
      | none =>
        (.failed (.refresh id (.protocol ("no channel in chunk url " ++ first.url))), r, s)
      | some ch =>
        match t.listMessages ch (id - 1) .after s with
        | (.error e, s) => (.failed (.refresh id e), r, s)
        | (.ok page, s) =>
          match applyPage groups page r with
          | .ok r => renewGroups t groups todo r s
          | .failed e => (.failed e, r, s)
          | .panicked m => (.panicked m, r, s)

/-- Renew every record lapsed at `now`: how many records were rewritten, and the records as
they were left. -/
def refreshExpired (t : Transport σ) (nodes : Array Node) (now : Int) (s : σ) :
    Outcome Nat × Array Node × σ :=
  let groups := expiredGroups nodes now
  match renewGroups t groups groups { nodes } s with
  | (.ok r, _, s) => (.ok r.rewritten, r.nodes, s)
  | (.failed e, r, s) => (.failed e, r.nodes, s)
  | (.panicked m, r, s) => (.panicked m, r.nodes, s)

end ChunkStore
