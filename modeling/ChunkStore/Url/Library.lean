/-!
# What signed links ask of a URL library

Signed links are read and written through a URL library: a parser of absolute URLs with their
text, and the form encoding of name-value pairs (`application/x-www-form-urlencoded`).
`UrlLibrary` names the operations the link codec uses, and `UrlLibrary.Lawful` the behaviour it
relies on, as the URL standard and the form encoding describe it:

* a URL with no query and no fragment, written as its own text, reads with `?` and a query after
  it as a URL with that query, when every character of the query is one that no query set
  encodes; removing the query and the fragment then writes the first text again
  (`parse_with_query`);
* the pairs of a text of form-encoded names and values, each pair written `name=value&`, are
  the names and values (`formPairs_pairsText`): every piece before a `&` is one pair, and the
  empty piece after the last `&` is none;
* form encoding writes letters, digits and `*-._` as themselves (`formEncode_safe`), and writes
  nothing else but `+` and `%` (`formEncode_chars`).

The library that runs is one instance of these operations; the theory of signed links holds for
every lawful library.
-/

namespace ChunkStore

/-- A character form encoding writes as itself: an ASCII letter or digit, `*`, `-`, `.` or `_`. -/
def FormSafe (c : Char) : Prop := c.isAlphanum = true ∨ c ∈ ['*', '-', '.', '_']

instance (c : Char) : Decidable (FormSafe c) := inferInstanceAs (Decidable (_ ∨ _))

theorem FormSafe.ascii {c : Char} (h : FormSafe c) : c.toNat < 0x80 := by
  rcases h with h | h
  · -- the letter and digit tests, read off their definitions
    change ((decide (c.val ≥ 'A'.val ∧ c.val ≤ 'Z'.val) ||
      (decide (c.val ≥ 'a'.val) && decide (c.val ≤ 'z'.val))) ||
      (decide (c.val ≥ '0'.val) && decide (c.val ≤ '9'.val))) = true at h
    simp only [Bool.or_eq_true, Bool.and_eq_true, decide_eq_true_eq, UInt32.le_iff_toNat_le] at h
    rcases h with ((⟨-, h⟩ | ⟨-, h⟩) | ⟨-, h⟩) <;> simp at h <;> omega
  · simp only [List.mem_cons, List.not_mem_nil, or_false] at h
    rcases h with rfl | rfl | rfl | rfl <;> decide

/-- A character that the query of a URL keeps as it is written, whatever the scheme: printable
ASCII other than the space, `"`, `#`, `<`, `>` and `'`. -/
def QuerySafe (c : Char) : Prop :=
  0x20 < c.toNat ∧ c.toNat < 0x7F ∧ c ∉ ['"', '#', '<', '>', '\'']

instance (c : Char) : Decidable (QuerySafe c) := inferInstanceAs (Decidable (_ ∧ _ ∧ _))

theorem QuerySafe.of_formSafe {c : Char} (h : FormSafe c ∨ c = '+' ∨ c = '%') : QuerySafe c := by
  have table : ∀ n : Fin 0x80, FormSafe (Char.ofNat n) → QuerySafe (Char.ofNat n) := by decide
  rcases h with h | rfl | rfl
  · have hc := table ⟨c.toNat, h.ascii⟩ (by rwa [Char.ofNat_toNat])
    rwa [Char.ofNat_toNat] at hc
  · decide
  · decide

/-- The operations of a URL library that signed links use. -/
structure UrlLibrary where
  /-- A parsed URL. -/
  Url : Type
  /-- Parse an absolute URL, or give the text of the reason it is none. -/
  parse : String → Except String Url
  /-- The text of a URL. -/
  serialize : Url → String
  query : Url → Option String
  fragment : Url → Option String
  /-- The text of a URL once its query and its fragment are set to none. -/
  withoutQuery : Url → String
  /-- Form-encode a name or a value. -/
  formEncode : String → String
  /-- The decoded name-value pairs of a form-encoded text. -/
  formPairs : String → List (String × String)

namespace UrlLibrary

variable (L : UrlLibrary)

/-- The decoded name-value pairs of a URL's query; none when it has no query. -/
def queryPairs (u : L.Url) : List (String × String) := ((L.query u).map L.formPairs).getD []

/-- Name-value pairs written one after another as form-encoded `name=value&`. -/
def pairsText (ps : List (String × String)) : String :=
  String.join (ps.map fun p => L.formEncode p.1 ++ "=" ++ L.formEncode p.2 ++ "&")

/-- What the link codec relies on of a URL library. -/
structure Lawful : Prop where
  /-- A query of characters no query set encodes, after a URL written as its own text. -/
  parse_with_query : ∀ {c : String} {u : L.Url} {q : String}, L.parse c = .ok u →
    L.query u = none → L.fragment u = none → L.serialize u = c → (∀ x ∈ q.toList, QuerySafe x) →
    ∃ v, L.parse (c ++ "?" ++ q) = .ok v ∧ L.query v = some q ∧ L.withoutQuery v = c
  formPairs_pairsText : ∀ ps, L.formPairs (L.pairsText ps) = ps
  formEncode_safe : ∀ {s : String}, (∀ x ∈ s.toList, FormSafe x) → L.formEncode s = s
  formEncode_chars : ∀ s, ∀ x ∈ (L.formEncode s).toList, FormSafe x ∨ x = '+' ∨ x = '%'

end UrlLibrary

end ChunkStore
