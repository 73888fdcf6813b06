import ChunkStore.Url.Host
import ChunkStore.Url.Library
/-!
# Absolute URLs

A URL is a scheme, an optional authority (userinfo, host, port), a path and an optional query
and fragment. Parsing follows the URL standard for absolute URLs: leading and trailing controls
and spaces are dropped and tabs and newlines skipped; the scheme is lowercased; the special
schemes (`http`, `https`, `ws`, `wss`, `ftp`, `file`) always have a host and a path of segments,
accept `\` as `/`, and drop their default port; `.` and `..` segments are resolved while the
path is read. A non-special URL whose scheme is not followed by `/` has an opaque path.

Paths keep some rules of their own:

* `..` never removes a segment that starts with a drive letter (`C:` or `C|`) standing alone or
  followed by `\`, whatever the scheme;
* a `file` path loses its leading empty segments; when its host is empty or `localhost`, the
  slash that ends the host counts as an empty first segment;
* in a `file` path, a drive letter closing the first segment is written with `:` and takes the
  place of the host, and a first segment `C:` that a tab or newline ends is split from what
  follows.
-/

namespace ChunkStore.Url

/-- What a scheme implies for parsing. -/
inductive SchemeKind where
  /-- A special scheme other than `file`, with its default port. -/
  | special (defaultPort : Nat)
  | file
  | other
  deriving Repr, DecidableEq

/-- The kind of a lowercased scheme. -/
def schemeKind : String → SchemeKind
  | "http" => .special 80
  | "https" => .special 443
  | "ws" => .special 80
  | "wss" => .special 443
  | "ftp" => .special 21
  | "file" => .file
  | _ => .other

/-- Whether a scheme kind is special. -/
def SchemeKind.isSpecial : SchemeKind → Bool
  | .other => false
  | _ => true

/-- The part after `//`: percent-encoded userinfo, the host (none when empty) and a port that
is not the scheme's default. -/
structure Authority where
  username : String
  password : String
  host : Option Host
  port : Option Nat
  deriving Repr, DecidableEq

/-- A path: opaque text, or segments each written after a `/`. -/
inductive Path where
  | flat (text : String)
  | segments (list : List String)
  deriving Repr, DecidableEq

/-- A parsed URL; every component is stored percent-encoded. -/
structure Parsed where
  scheme : String
  authority : Option Authority
  path : Path
  query : Option String
  fragment : Option String
  deriving Repr, DecidableEq

/-! ## Reading -/

/-- Controls and the space, trimmed from both ends of the input. -/
def isControlOrSpace (c : Char) : Bool := c.toNat ≤ 0x20

/-- Tabs and newlines, which parsing skips wherever they stand. -/
def isBreak (c : Char) : Bool := c == '\t' || c == '\n' || c == '\r'

/-- The input's characters with controls and spaces trimmed from both ends. -/
def trimInput (s : String) : List Char :=
  let cs := s.toList.dropWhile isControlOrSpace
  (cs.reverse.dropWhile isControlOrSpace).reverse

/-- Characters with tabs and newlines removed. -/
def withoutBreaks (cs : List Char) : List Char := cs.filter (!isBreak ·)

/-- Drop the first `n` characters that are not tabs or newlines, and the breaks before them. -/
def dropKept : Nat → List Char → List Char
  | 0, cs => cs
  | _, [] => []
  | n + 1, c :: cs => if isBreak c then dropKept (n + 1) cs else dropKept n cs

/-- Whether a character may continue a scheme. -/
def isSchemeChar (c : Char) : Bool := c.isAlphanum || c == '+' || c == '-' || c == '.'

/-- The lowercased scheme and what follows its colon. -/
def splitScheme (cs : List Char) : Option (String × List Char) :=
  match cs with
  | c :: _ =>
    if c.isAlpha then
      let name := cs.takeWhile isSchemeChar
      match cs.drop name.length with
      | ':' :: rest => some (String.ofList (name.map Char.toLower), rest)
      | _ => none
    else none
  | [] => none

/-- Whether a segment is `.` (also written `%2e`). -/
def isSingleDot (s : String) : Bool := s == "." || s.toLower == "%2e"

/-- Whether a segment is `..` (with either dot possibly written `%2e`). -/
def isDoubleDot (s : String) : Bool :=
  let t := s.toLower
  t == ".." || t == ".%2e" || t == "%2e." || t == "%2e%2e"

/-- Whether a segment is a drive letter: an ASCII letter, then `:` or `|`. -/
def isDriveLetter (s : String) : Bool :=
  match s.toList with
  | [a, b] => a.isAlpha && (b == ':' || b == '|')
  | _ => false

/-- Whether a segment is a drive letter written with `:`. -/
def isNormalDrive (s : String) : Bool :=
  match s.toList with
  | [a, b] => a.isAlpha && b == ':'
  | _ => false

/-- A drive letter written with `:`. -/
def normalizeDrive (s : String) : String :=
  String.ofList ((s.toList.take 1) ++ [':'])

/-- Whether `..` leaves a segment in place: one that starts with a drive letter, either alone or
followed by `\` (which only a non-special path keeps inside a segment). This holds in every
scheme, not only `file`. -/
def holdsDrive (s : String) : Bool :=
  match s.toList with
  | a :: b :: more =>
    a.isAlpha && (b == ':' || b == '|') &&
      match more with
      | [] => true
      | c :: _ => c == '\\'
  | _ => false

/-- Add a finished segment to the path. `..` removes the last segment unless that holds a drive
letter, and `.` adds nothing; either leaves an empty last segment when the path ends with it.
In a `file` path a drive letter as first segment is written with `:`. -/
def closeSegment (file : Bool) (buffer : String) (atEnd : Bool) (segs : List String) :
    List String :=
  if isDoubleDot buffer then
    let kept := match segs.getLast? with
      | some last => if holdsDrive last then segs else segs.dropLast
      | none => segs
    kept ++ (if atEnd then [""] else [])
  else if isSingleDot buffer then (if atEnd then segs ++ [""] else segs)
  else if file && segs.isEmpty && isDriveLetter buffer then [normalizeDrive buffer]
  else segs ++ [buffer]

/-- Whether closing `buffer` makes it the drive letter that starts a `file` path. -/
def closesDrive (file : Bool) (buffer : String) (segs : List String) : Bool :=
  file && segs.isEmpty && isDriveLetter buffer

/-- How a path is read: whether `\\` separates segments (special schemes) and whether drive
letters are recognised (`file`). -/
structure PathRules where
  special : Bool
  file : Bool := false

/-- A `file` path loses its leading empty segments, down to a single one. -/
def trimLeadingEmpty : List String → List String
  | "" :: rest => if rest.isEmpty then [""] else trimLeadingEmpty rest
  | segs => segs

/-- A path as read: its segments, whether a drive letter closed its first segment (a `file`
path that then has no host), and the input after it. -/
structure PathRead where
  segs : List String
  drive : Bool
  rest : List Char

/-- The path read so far, finished: a `file` path loses its leading empty segments. -/
def PathRules.finish (rules : PathRules) (segs : List String) (drive : Bool) (rest : List Char) :
    PathRead :=
  { segs := if rules.file then trimLeadingEmpty segs else segs, drive, rest }

/-- Read path segments up to `?`, `#` or the end, after the segments `segs` and within the
segment `buffer`; `drive` records a drive letter closing the first segment, and `broken` that
a tab or newline came since the last character of the segment. Tabs and newlines are skipped,
but they split the text of a segment: in a `file` path whose only text is a drive letter written
with `:` and ended by such a break, the next character starts a new segment. -/
def readSegments (rules : PathRules) :
    List Char → String → List String → Bool → Bool → PathRead
  | [], buffer, segs, drive, _ =>
    rules.finish (closeSegment rules.file buffer true segs)
      (drive || closesDrive rules.file buffer segs) []
  | c :: rest, buffer, segs, drive, broken =>
    if isBreak c then readSegments rules rest buffer segs drive true
    else if c == '/' || (rules.special && c == '\\') then
      readSegments rules rest "" (closeSegment rules.file buffer false segs)
        (drive || closesDrive rules.file buffer segs) false
    else if c == '?' || c == '#' then
      rules.finish (closeSegment rules.file buffer true segs)
        (drive || closesDrive rules.file buffer segs) (withoutBreaks (c :: rest))
    else if rules.file && segs.isEmpty && broken && isNormalDrive buffer then
      readSegments rules rest (encodeChar pathSet c) [buffer] drive false
    else readSegments rules rest (buffer ++ encodeChar pathSet c) segs drive false

/-- Read a whole path from its first segment. -/
def readPath (rules : PathRules) (cs : List Char) : PathRead :=
  readSegments rules cs "" [] false false

/-- Read an opaque path up to `?`, `#` or the end. -/
def readOpaque : List Char → String → String × List Char
  | [], acc => (acc, [])
  | c :: rest, acc =>
    if c == '?' || c == '#' then (acc, c :: rest) else readOpaque rest (acc ++ encodeChar controls c)

/-- The query and fragment after the path. -/
def readQueryFragment (special : Bool) (cs : List Char) : Option String × Option String :=
  match cs with
  | '?' :: rest =>
    let q := rest.takeWhile (· != '#')
    let query := encodeWith (if special then specialQuerySet else querySet) q
    match rest.drop q.length with
    | _ :: frag => (some query, some (encodeWith fragmentSet frag))
    | [] => (some query, none)
  | '#' :: frag => (none, some (encodeWith fragmentSet frag))
  | _ => (none, none)

/-- Whether a character ends the authority. -/
def endsAuthority (special : Bool) (c : Char) : Bool :=
  c == '/' || c == '?' || c == '#' || (special && c == '\\')

/-- The position of the last `@` in a list. -/
def lastAt (cs : List Char) : Option Nat :=
  cs.zipIdx.foldl (fun acc (c, i) => if c == '@' then some i else acc) none

/-- Split off the userinfo: the text before the last `@` of the authority. -/
def splitUserinfo (special : Bool) (cs : List Char) :
    Except ParseError (List Char × List Char) :=
  match lastAt (cs.takeWhile fun c => !endsAuthority special c) with
  | none => pure ([], cs)
  | some i =>
    let rest := cs.drop (i + 1)
    if i == 0 then
      match rest with
      | c :: _ => if endsAuthority special c then throw .emptyHost else pure ([], rest)
      | [] => pure ([], rest)
    else pure (cs.take i, rest)

/-- The host text: up to a `:` outside brackets or the end of the authority. -/
def hostSpan (special : Bool) : List Char → Bool → List Char × List Char
  | [], _ => ([], [])
  | c :: rest, inBrackets =>
    if (c == ':' && !inBrackets) || endsAuthority special c then ([], c :: rest)
    else
      let inside := if c == '[' then true else if c == ']' then false else inBrackets
      let (h, r) := hostSpan special rest inside
      (c :: h, r)

/-- A port after `:`: digits up to the end of the authority; no digits or the default port
mean no port. -/
def readPort (defaultPort : Option Nat) (cs : List Char) :
    Except ParseError (Option Nat × List Char) := do
  let digits := cs.takeWhile Char.isDigit
  let rest := cs.drop digits.length
  match rest with
  | c :: _ => if !(c == '/' || c == '\\' || c == '?' || c == '#') then throw .invalidPort
  | [] => pure ()
  let n := digits.foldl (fun acc c => acc * 10 + (c.toNat - 48)) (0 : Nat)
  if n > 65535 then throw .invalidPort
  if digits.isEmpty || some n == defaultPort then pure (none, rest) else pure (some n, rest)

/-- The path after an authority. -/
def readPathAfterAuthority (rules : PathRules) (cs : List Char) : PathRead :=
  if rules.special then
    match cs.dropWhile isBreak with
    | c :: more => readPath rules (if c == '/' || c == '\\' then more else cs)
    | [] => readPath rules []
  else
    match cs with
    | [] => rules.finish [] false []
    | '?' :: _ => rules.finish [] false cs
    | '#' :: _ => rules.finish [] false cs
    | '/' :: more => readPath rules more
    | _ => readPath rules cs

/-- A URL from its scheme, authority, path and the rest of the input. -/
def assemble (scheme : String) (special : Bool) (authority : Option Authority) (path : Path)
    (rest : List Char) : Parsed :=
  let (query, fragment) := readQueryFragment special rest
  { scheme, authority, path, query, fragment }

/-- Parse what follows `scheme://` (or, for special schemes, the scheme and any slashes). -/
def parseAuthority (scheme : String) (kind : SchemeKind) (cs : List Char) :
    Except ParseError Parsed := do
  let special := kind.isSpecial
  let (info, rest) ← splitUserinfo special cs
  let username := encodeWith userinfoSet (info.takeWhile (· != ':'))
  let password := encodeWith userinfoSet ((info.dropWhile (· != ':')).drop 1)
  let (hostChars, rest) := hostSpan special rest false
  let host ← if special then
      if hostChars.isEmpty then throw ParseError.emptyHost
      else some <$> parseSpecialHost hostChars
    else parseOpaqueHost hostChars
  if host.isNone && rest.head? == some ':' then throw .emptyHost
  let defaultPort := match kind with
    | .special p => some p
    | _ => none
  let (port, rest) ← match rest with
    | ':' :: more => readPort defaultPort more
    | _ => pure (none, rest)
  if host.isNone && (!username.isEmpty || !password.isEmpty) then throw .emptyHost
  let path := readPathAfterAuthority { special } rest
  pure (assemble scheme special (some { username, password, host, port }) (.segments path.segs)
    path.rest)

/-- The authority of a `file` URL: a host and nothing else. -/
def fileAuthority (host : Option Host) : Authority :=
  { username := "", password := "", host, port := none }

/-- The rules of `file` paths. -/
def fileRules : PathRules := { special := true, file := true }

/-- A `file` URL without a host, with the path read from `cs`. -/
def hostlessFile (cs : List Char) : Parsed :=
  let path := readPath fileRules cs
  assemble "file" true (some (fileAuthority none)) (.segments path.segs) path.rest

/-- Parse what follows `file:`, given with its tabs and newlines, which matter to the path.
After `//` comes a host, unless the text there is a drive letter, which then starts the path.
When the host is empty or `localhost` there is none, and the slash that ends it stays in the
path as an empty first segment, so what follows is not the path's first segment. A drive letter
closing the first segment takes the place of a host. -/
def parseFile (raw : List Char) : Except ParseError Parsed := do
  let isSlash := fun c => c == '/' || c == '\\'
  match withoutBreaks raw with
  | a :: b :: more =>
    if isSlash a && isSlash b then
      let hostChars := more.takeWhile fun c => !(isSlash c || c == '?' || c == '#')
      if isDriveLetter (String.ofList hostChars) then pure (hostlessFile (dropKept 2 raw))
      else
        let rest := dropKept (2 + hostChars.length) raw
        let host ← if hostChars.isEmpty then pure none
          else
            match ← parseSpecialHost hostChars with
            | .domain "localhost" => pure none
            | h => pure (some h)
        match host with
        | none => pure (hostlessFile rest)
        | some h =>
          let path := readPathAfterAuthority fileRules rest
          let host := if path.drive then none else some h
          pure (assemble "file" true (some (fileAuthority host)) (.segments path.segs) path.rest)
    else pure (hostlessFile (if isSlash a then dropKept 1 raw else raw))
  | cs => pure (hostlessFile (cs.dropWhile isSlash))

/-- Parse an absolute URL. -/
def parse (input : String) : Except ParseError Parsed := do
  let raw := trimInput input
  match splitScheme (withoutBreaks raw) with
  | none => throw .relativeWithoutBase
  | some (scheme, rest) =>
    match schemeKind scheme with
    | .file => parseFile (dropKept (scheme.length + 1) raw)
    | .special port =>
      parseAuthority scheme (.special port) (rest.dropWhile fun c => c == '/' || c == '\\')
    | .other =>
      match rest with
      | '/' :: '/' :: more => parseAuthority scheme .other more
      | '/' :: more =>
        let path := readPath { special := false } more
        pure (assemble scheme false none (.segments path.segs) path.rest)
      | _ =>
        let (text, rest) := readOpaque rest ""
        pure (assemble scheme false none (.flat text) rest)

/-! ## Writing -/

/-- The text of an authority. -/
def Authority.text (a : Authority) : String :=
  let info :=
    if a.username.isEmpty && a.password.isEmpty then ""
    else a.username ++ (if a.password.isEmpty then "" else ":" ++ a.password) ++ "@"
  let port := match a.port with
    | some p => ":" ++ toString p
    | none => ""
  info ++ ((a.host.map Host.text).getD "") ++ port

/-- The text of a path. -/
def Path.text : Path → String
  | .flat t => t
  | .segments l => String.join (l.map ("/" ++ ·))

/-- The URL without its query and fragment. A path whose first of several segments is empty
gets a `/.` in front when there is no authority, so that it is not read back as one. -/
def Parsed.location (u : Parsed) : String :=
  let head := match u.authority with
    | some a => "//" ++ a.text
    | none =>
      match u.path with
      | .segments ("" :: _ :: _) => "/."
      | _ => ""
  u.scheme ++ ":" ++ head ++ u.path.text

/-- The whole URL. -/
def Parsed.text (u : Parsed) : String :=
  u.location ++ ((u.query.map ("?" ++ ·)).getD "") ++ ((u.fragment.map ("#" ++ ·)).getD "")

/-- The URL with query and fragment removed; an opaque path then loses its trailing spaces. -/
def Parsed.withoutQuery (u : Parsed) : String :=
  match u.path with
  | .flat _ => String.ofList ((u.location.toList.reverse.dropWhile (· == ' ')).reverse)
  | .segments _ => u.location

/-- The path segments, when the path is a non-empty list of segments. -/
def Parsed.pathSegments (u : Parsed) : Option (List String) :=
  match u.path with
  | .segments [] => none
  | .segments l => some l
  | .flat _ => none

/-- The decoded name-value pairs of the query. -/
def Parsed.queryPairs (u : Parsed) : List (String × String) :=
  (u.query.map formPairs).getD []

/-- The URL library the program runs with: the parser above and form encoding. -/
def library : UrlLibrary where
  Url := Parsed
  parse s := match parse s with
    | .ok u => .ok u
    | .error e => .error e.message
  serialize := Parsed.text
  query := Parsed.query
  fragment := Parsed.fragment
  withoutQuery := Parsed.withoutQuery
  formEncode := formEncode
  formPairs := formPairs

theorem library_parse_ok {c : String} {u : Parsed} (h : parse c = .ok u) :
    library.parse c = .ok u := by
  simp [library, h]

theorem library_parse_error {c : String} {e : ParseError} (h : parse c = .error e) :
    library.parse c = .error e.message := by
  simp [library, h]

@[simp] theorem library_queryPairs (u : Parsed) : library.queryPairs u = u.queryPairs := rfl

@[simp] theorem library_withoutQuery (u : Parsed) : library.withoutQuery u = u.withoutQuery := rfl

end ChunkStore.Url
