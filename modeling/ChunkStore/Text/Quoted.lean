import ChunkStore.Text.Escaped
/-!
# Quoted text for messages

Messages quote user text in double quotes with escapes: backslash, quote, tab, carriage return,
newline and NUL by letter, and characters that do not print by themselves (see
`escapedInQuotes`) as `\u{hex}` with lowercase, unpadded hex digits. Everything else,
non-ASCII letters included, is written as is.

`isBlank` is the white-space property used when trimming text.
-/

namespace ChunkStore.Text

/-- Whether a character is written as an escape in quoted text. -/
def isHidden (c : Char) : Bool := escapedInQuotes c.toNat

/-- Lowercase hex digits of `n`, at least one. -/
def hexDigits (n : Nat) : String :=
  String.ofList (Nat.toDigits 16 n)

/-- One character inside quoted text. -/
def quoteChar (c : Char) : String :=
  match c with
  | '\\' => "\\\\"
  | '"' => "\\\""
  | '\t' => "\\t"
  | '\r' => "\\r"
  | '\n' => "\\n"
  | '\x00' => "\\0"
  | c => if isHidden c then "\\u" ++ "\x7b" ++ hexDigits c.toNat ++ "\x7d" else c.toString

/-- Text in double quotes with the escapes above. -/
def quote (s : String) : String :=
  s.foldl (fun acc c => acc ++ quoteChar c) "\"" ++ "\""

/-- A list of texts as `["a", "b"]`, each quoted. -/
def quoteList (xs : List String) : String :=
  "[" ++ ", ".intercalate (xs.map quote) ++ "]"

/-- White space: tab through carriage return, space, next line, no-break space, the Ogham space
mark, the spaces from en quad to hair space, line and paragraph separators, narrow no-break
space, medium mathematical space and the ideographic space. -/
def isBlank (c : Char) : Bool :=
  let n := c.toNat
  (0x9 ≤ n ∧ n ≤ 0xD) || n = 0x20 || n = 0x85 || n = 0xA0 || n = 0x1680 ||
    (0x2000 ≤ n ∧ n ≤ 0x200A) || n = 0x2028 || n = 0x2029 || n = 0x202F || n = 0x205F ||
    n = 0x3000

/-- Text without leading and trailing white space. -/
def trimBlank (s : String) : String :=
  String.ofList ((s.toList.dropWhile isBlank).reverse.dropWhile isBlank).reverse

end ChunkStore.Text
