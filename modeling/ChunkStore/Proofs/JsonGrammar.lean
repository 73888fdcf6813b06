import ChunkStore.Json.Value
import ChunkStore.Proofs.FormCodec
/-!
# Written JSON text

`Written j t` says that the bytes `t` are a text of the JSON value `j`: strings quoted with the
escapes `jsonQuote` writes, numbers as `JsonNumber.text` writes them, and any run of blanks
(space, newline, tab, return) around the brackets, commas and colons of arrays and objects. It
is the grammar the decoders are proved against, so that what is proved of a decoder holds for
every layout of the same value.

Both printers write texts of this grammar: the compact one (`written_compact`) and the pretty
one at any indentation (`written_pretty`). The bytes of a quoted string are the opening quote,
the bytes each character is escaped to, and the closing quote (`textBytes_jsonQuote`).
-/

namespace ChunkStore.Json

/-- The UTF-8 bytes of a text, character by character. -/
def textBytes (s : String) : List UInt8 := s.toList.flatMap String.utf8EncodeChar

@[simp] theorem textBytes_append (s t : String) :
    textBytes (s ++ t) = textBytes s ++ textBytes t := by
  simp [textBytes]

theorem toUTF8_toList_eq_textBytes (s : String) : s.toUTF8.toList = textBytes s :=
  toUTF8_toList s

/-- The bytes the reader passes over between tokens: space, newline, tab and return. -/
def isBlankByte (b : UInt8) : Bool := b == 32 || b == 10 || b == 9 || b == 13

/-- A run of blanks. -/
def Blanks (l : List UInt8) : Prop := ∀ b ∈ l, isBlankByte b = true

@[simp] theorem blanks_nil : Blanks [] := by simp [Blanks]

theorem Blanks.append {l l' : List UInt8} (h : Blanks l) (h' : Blanks l') : Blanks (l ++ l') := by
  intro b hb
  rcases List.mem_append.1 hb with hb | hb
  · exact h b hb
  · exact h' b hb

theorem Blanks.cons {b : UInt8} {l : List UInt8} (hb : isBlankByte b = true) (h : Blanks l) :
    Blanks (b :: l) := by
  intro x hx
  rcases List.mem_cons.1 hx with rfl | hx
  · exact hb
  · exact h x hx

/-- What stands before an item or a member: nothing before the first, a comma before the others. -/
def separator (first : Bool) : List UInt8 := if first then [] else [44]

mutual
/-- `t` is a text of the value `j`. -/
inductive Written : Json → List UInt8 → Prop
  | null : Written .null (textBytes "null")
  | bool (b : Bool) : Written (.bool b) (textBytes (if b then "true" else "false"))
  | num (n : JsonNumber) : Written (.num n) (textBytes n.text)
  | str (s : String) : Written (.str s) (textBytes (jsonQuote s))
  | arr {items : List Json} {t : List UInt8} :
      ItemsWritten true items t → Written (.arr items) (91 :: t ++ [93])
  | obj {fields : List (String × Json)} {t : List UInt8} :
      MembersWritten true fields t → Written (.obj fields) (123 :: t ++ [125])

/-- `t` is the text of the items `items` of an array, up to its closing bracket; `first` says
that no item has come before them. -/
inductive ItemsWritten : Bool → List Json → List UInt8 → Prop
  | nil {first : Bool} {b : List UInt8} : Blanks b → ItemsWritten first [] b
  | cons {first : Bool} {j : Json} {js : List Json} {b b' t r : List UInt8} :
      Blanks b → Blanks b' → Written j t → ItemsWritten false js r →
      ItemsWritten first (j :: js) (b ++ separator first ++ b' ++ t ++ r)

/-- `t` is the text of the members `fields` of an object, up to its closing brace; `first`
says that no member has come before them. -/
inductive MembersWritten : Bool → List (String × Json) → List UInt8 → Prop
  | nil {first : Bool} {b : List UInt8} : Blanks b → MembersWritten first [] b
  | cons {first : Bool} {k : String} {v : Json} {ms : List (String × Json)}
      {b b' g g' t r : List UInt8} :
      Blanks b → Blanks b' → Blanks g → Blanks g' → Written v t → MembersWritten false ms r →
      MembersWritten first ((k, v) :: ms)
        (b ++ separator first ++ b' ++ textBytes (jsonQuote k) ++ g ++ 58 :: g' ++ t ++ r)
end

/-! ## Quoted strings -/

/-- The bytes one character of a string is written as. -/
def escapeBytes (c : Char) : List UInt8 := textBytes (escapeJsonChar c)

theorem textBytes_jsonQuote (s : String) :
    textBytes (jsonQuote s) = 34 :: s.toList.flatMap escapeBytes ++ [34] := by
  have hfold : ∀ (l : List Char) (acc : String),
      (l.foldl (fun acc c => acc ++ escapeJsonChar c) acc).toList =
        acc.toList ++ l.flatMap fun c => (escapeJsonChar c).toList :=
    foldl_toList_of_step fun acc c => String.toList_append
  have hquote : String.utf8EncodeChar '"' = [34] := by decide
  have hesc : escapeBytes = fun c => (escapeJsonChar c).toList.flatMap String.utf8EncodeChar := rfl
  rw [jsonQuote, String.foldl_eq_foldl_toList, textBytes, String.toList_append, hfold, hesc]
  simp [List.flatMap_assoc, hquote]

/-! ## The printers write the grammar -/

theorem textBytes_indent (depth : Nat) : textBytes (indent depth) = List.replicate (2 * depth) 32 := by
  have hspace : ∀ n, (List.replicate n ' ').flatMap String.utf8EncodeChar = List.replicate n 32 := by
    intro n
    induction n with
    | zero => rfl
    | succ n ih =>
      rw [List.replicate_succ, List.flatMap_cons, ih]
      rfl
  simp [textBytes, indent, hspace]

theorem blanks_indent (depth : Nat) : Blanks (textBytes (indent depth)) := by
  rw [textBytes_indent]
  intro b hb
  rw [List.eq_of_mem_replicate hb]
  rfl

@[simp] theorem textBytes_openBracket : textBytes "[" = [91] := by decide
@[simp] theorem textBytes_closeBracket : textBytes "]" = [93] := by decide
@[simp] theorem textBytes_openBrace : textBytes "\x7b" = [123] := by decide
@[simp] theorem textBytes_closeBrace : textBytes "\x7d" = [125] := by decide
@[simp] theorem textBytes_comma : textBytes "," = [44] := by decide
@[simp] theorem textBytes_colon : textBytes ":" = [58] := by decide
@[simp] theorem textBytes_empty : textBytes "" = [] := rfl
@[simp] theorem textBytes_brackets : textBytes "[]" = [91, 93] := by decide
@[simp] theorem textBytes_braces : textBytes "\x7b\x7d" = [123, 125] := by decide
@[simp] theorem textBytes_newline : textBytes "\n" = [10] := by decide
@[simp] theorem textBytes_openBracket_newline : textBytes "[\n" = [91, 10] := by decide
@[simp] theorem textBytes_openBrace_newline : textBytes "\x7b\n" = [123, 10] := by decide
@[simp] theorem textBytes_comma_newline : textBytes ",\n" = [44, 10] := by decide
@[simp] theorem textBytes_colon_space : textBytes ": " = [58, 32] := by decide

mutual
/-- The compact printer writes a text of the value. -/
theorem written_compact : ∀ j : Json, Written j (textBytes j.compact)
  | .null => .null
  | .bool true => .bool true
  | .bool false => .bool false
  | .num n => .num n
  | .str s => .str s
  | .arr items => by
    rw [compact]
    by_cases h : items = []
    · subst h
      simpa [compactItems] using Written.arr (ItemsWritten.nil blanks_nil : ItemsWritten true [] [])
    · simpa [separator] using Written.arr (itemsWritten_compact true items h)
  | .obj fields => by
    rw [compact]
    by_cases h : fields = []
    · subst h
      simpa [compactFields] using
        Written.obj (MembersWritten.nil blanks_nil : MembersWritten true [] [])
    · simpa [separator] using Written.obj (membersWritten_compact true fields h)

theorem itemsWritten_compact (first : Bool) : ∀ items : List Json, items ≠ [] →
    ItemsWritten first items (separator first ++ textBytes (compactItems items))
  | [j], _ => by
    simpa [compactItems] using
      (ItemsWritten.cons blanks_nil blanks_nil (written_compact j) (ItemsWritten.nil blanks_nil) :
        ItemsWritten first [j] _)
  | j :: j' :: rest, _ => by
    simpa [compactItems, separator] using
      (ItemsWritten.cons blanks_nil blanks_nil (written_compact j)
        (itemsWritten_compact false (j' :: rest) (List.cons_ne_nil _ _)) :
        ItemsWritten first (j :: j' :: rest) _)

theorem membersWritten_compact (first : Bool) : ∀ fields : List (String × Json), fields ≠ [] →
    MembersWritten first fields (separator first ++ textBytes (compactFields fields))
  | [(k, v)], _ => by
    simpa [compactFields] using
      (MembersWritten.cons blanks_nil blanks_nil blanks_nil blanks_nil (written_compact v)
        (MembersWritten.nil blanks_nil) : MembersWritten first [(k, v)] _)
  | (k, v) :: f :: rest, _ => by
    simpa [compactFields, separator] using
      (MembersWritten.cons blanks_nil blanks_nil blanks_nil blanks_nil (written_compact v)
        (membersWritten_compact false (f :: rest) (List.cons_ne_nil _ _)) :
        MembersWritten first ((k, v) :: f :: rest) _)
end

theorem blanks_newline_indent (depth : Nat) : Blanks (10 :: textBytes (indent depth)) :=
  Blanks.cons rfl (blanks_indent depth)

mutual
/-- The pretty printer writes a text of the value, at any depth. -/
theorem written_pretty (depth : Nat) : ∀ j : Json, Written j (textBytes (pretty depth j))
  | .null => written_compact .null
  | .bool b => written_compact (.bool b)
  | .num n => written_compact (.num n)
  | .str s => written_compact (.str s)
  | .arr [] => by
    simpa [pretty] using Written.arr (ItemsWritten.nil blanks_nil : ItemsWritten true [] [])
  | .obj [] => by
    simpa [pretty] using Written.obj (MembersWritten.nil blanks_nil : MembersWritten true [] [])
  | .arr (j :: js) => by
    simpa [pretty, separator] using Written.arr (itemsWritten_pretty (depth + 1) true (j :: js)
      (List.cons_ne_nil _ _) _ (blanks_newline_indent depth))
  | .obj (f :: fs) => by
    simpa [pretty, separator] using Written.obj (membersWritten_pretty (depth + 1) true (f :: fs)
      (List.cons_ne_nil _ _) _ (blanks_newline_indent depth))

theorem itemsWritten_pretty (depth : Nat) (first : Bool) : ∀ items : List Json, items ≠ [] →
    ∀ tail, Blanks tail →
      ItemsWritten first items (separator first ++ 10 :: textBytes (prettyItems depth items) ++ tail)
  | [j], _, tail, htail => by
    simpa [prettyItems] using
      (ItemsWritten.cons blanks_nil (blanks_newline_indent depth) (written_pretty depth j)
        (ItemsWritten.nil htail) : ItemsWritten first [j] _)
  | j :: j' :: rest, _, tail, htail => by
    simpa [prettyItems, separator] using
      (ItemsWritten.cons blanks_nil (blanks_newline_indent depth) (written_pretty depth j)
        (itemsWritten_pretty depth false (j' :: rest) (List.cons_ne_nil _ _) tail htail) :
        ItemsWritten first (j :: j' :: rest) _)

/-- The pretty members after a separator and a line break, followed by any blanks. -/
theorem membersWritten_pretty (depth : Nat) (first : Bool) :
    ∀ fields : List (String × Json), fields ≠ [] → ∀ tail, Blanks tail →
      MembersWritten first fields
        (separator first ++ 10 :: textBytes (prettyFields depth fields) ++ tail)
  | [(k, v)], _, tail, htail => by
    simpa [prettyFields] using
      (MembersWritten.cons blanks_nil (blanks_newline_indent depth) blanks_nil
        (Blanks.cons rfl blanks_nil) (written_pretty depth v) (MembersWritten.nil htail) :
        MembersWritten first [(k, v)] _)
  | (k, v) :: f :: rest, _, tail, htail => by
    simpa [prettyFields, separator] using
      (MembersWritten.cons blanks_nil (blanks_newline_indent depth) blanks_nil
        (Blanks.cons rfl blanks_nil) (written_pretty depth v)
        (membersWritten_pretty depth false (f :: rest) (List.cons_ne_nil _ _) tail htail) :
        MembersWritten first ((k, v) :: f :: rest) _)
end

end ChunkStore.Json
