import ChunkStore.Url.Mapping
import ChunkStore.Url.Punycode
import ChunkStore.Url.Percent
import ChunkStore.Text.Normal
/-!
# Domain names in ASCII

A domain name is brought to its ASCII form by UTS 46 processing, non-transitional, without the
hyphen, STD3 or length checks:

* every code point goes through the mapping table (a disallowed one fails the name), and the
  result is put in normalization form C;
* no ASCII character that a host may not hold may remain;
* the name is split into labels at dots; an `xn--` label must be ASCII and decode by Punycode to
  a label with a non-ASCII code point that is already normalized and valid in the table;
* no label may start with a combining mark, and zero-width joiners must satisfy the joiner
  rules;
* when some label holds a right-to-left character or an Arabic digit, every label must satisfy
  the bidi rule;
* labels with non-ASCII code points are written as `xn--` and their Punycode; `xn--` labels
  stay as written. Punycode work is bounded: at most 2000 characters are decoded and at most
  1000 code points encoded per label.
-/

namespace ChunkStore.Url

open Text

/-- Whether an ASCII character may not appear in a domain. -/
def forbiddenInDomain (c : Char) : Bool :=
  c.toNat < 0x21 || c.toNat == 0x7F || c == '#' || c == '%' || c == '/' || c == ':' ||
    c == '<' || c == '>' || c == '?' || c == '@' || c == '[' || c == '\\' || c == ']' ||
    c == '^' || c == '|'

/-- Map code points through the table, `acc` holding the output so far latest first; `none` if
one is disallowed. -/
def mapDomain (acc : List Nat) : List Nat → Option (List Nat)
  | [] => some acc.reverse
  | cp :: rest =>
    match idnaStatus cp with
    | .valid => mapDomain (cp :: acc) rest
    | .ignored => mapDomain acc rest
    | .mapped image => mapDomain (image.reverse ++ acc) rest
    | .disallowed => none

/-- A label once mapped and decoded: its code points, and for an `xn--` label the ASCII text it
was written as. -/
structure Label where
  points : List Nat
  written : Option String

/-- The prefix of a Punycode label, `xn--`. -/
def punycodePrefix : List Nat := [0x78, 0x6E, 0x2D, 0x2D]

/-- The longest Punycode text (after `xn--`) that is decoded; longer labels are refused, which
keeps the quadratic cost of decoding bounded. -/
def punycodeDecodeLimit : Nat := 2000

/-- The most code points a label may have to be encoded by Punycode. -/
def punycodeEncodeLimit : Nat := 1000

/-- Decode one mapped label. An `xn--` label must be ASCII, at most `punycodeDecodeLimit` long
after the prefix, and decode to a non-empty label with a non-ASCII code point, in normalization
form C, every code point valid in the table. -/
def decodeLabel (label : List Nat) : Option Label :=
  if punycodePrefix.isPrefixOf label then
    let rest := label.drop punycodePrefix.length
    if rest.any (· ≥ 0x80) || rest.length > punycodeDecodeLimit then none
    else
      match punyDecode (rest.map Char.ofNat) with
      | none => none
      | some points =>
        if points.isEmpty || points.all (· < 0x80) then none
        else if nfc points != points then none
        else if !points.all (fun p => idnaStatus p == .valid) then none
        else some ⟨points, some (String.ofList (label.map Char.ofNat))⟩
  else some ⟨label, none⟩

/-- The joining type of the nearest code point that is not transparent. -/
def nearestJoining (cps : List Nat) : Option JoiningType :=
  (cps.map joiningType).find? (· != .transparent)

/-- Whether the nearest non-transparent code point before a non-joiner joins towards it. -/
def joinsFromLeft (before : List Nat) : Bool :=
  match nearestJoining before with
  | some .left | some .dual => true
  | _ => false

/-- Whether the nearest non-transparent code point after a non-joiner joins towards it. -/
def joinsFromRight (after : List Nat) : Bool :=
  match nearestJoining after with
  | some .right | some .dual => true
  | _ => false

/-- The joiner rules of RFC 5892: a zero-width joiner (U+200D) must follow a virama; a
zero-width non-joiner (U+200C) must follow a virama or stand between a left- or dual-joining
and a right- or dual-joining code point, with only transparent ones between. `before` holds the
code points already passed, nearest first. -/
def joinersHold (before : List Nat) : List Nat → Bool
  | [] => true
  | cp :: after =>
    let ok :=
      if cp = 0x200C ∨ cp = 0x200D then
        match before with
        | prev :: _ =>
          combiningClass prev == viramaClass ||
            (cp = 0x200C && joinsFromLeft before && joinsFromRight after)
        | [] => false
      else true
    ok && joinersHold (cp :: before) after

/-- Whether a label may stand in a domain: it does not start with a combining mark and its
joiners obey the joiner rules. -/
def Label.valid (l : Label) : Bool :=
  (match l.points with
    | first :: _ => !isMark first
    | [] => true) &&
  joinersHold [] l.points

/-- Whether a code point makes a name a bidi domain name: right-to-left, or an Arabic digit. -/
def isRightToLeft (cp : Nat) : Bool :=
  match bidiClass cp with
  | .r | .al | .an => true
  | _ => false

/-- Whether a bidi class may appear in a left-to-right label. -/
def allowedLeftToRight : BidiClass → Bool
  | .l | .en | .es | .cs | .et | .on | .bn | .nsm => true
  | _ => false

/-- Whether a bidi class may appear in a right-to-left label. -/
def allowedRightToLeft : BidiClass → Bool
  | .r | .al | .an | .en | .es | .cs | .et | .on | .bn | .nsm => true
  | _ => false

/-- The bidi rule of RFC 5893 for one label. A label starting left-to-right holds only
left-to-right, number, neutral and mark classes and ends (before trailing marks) left-to-right
or with a European digit. A label starting right-to-left holds no left-to-right class, ends
right-to-left or with a digit, and does not mix European and Arabic digits. No other start is
allowed. The empty label passes. -/
def bidiRuleHolds (label : List Nat) : Bool :=
  match label with
  | [] => true
  | first :: _ =>
    let classes := label.map bidiClass
    let last := (classes.reverse.dropWhile (· == .nsm)).head?
    match bidiClass first with
    | .l => classes.all allowedLeftToRight && (last == some .l || last == some .en)
    | .r | .al =>
      classes.all allowedRightToLeft &&
        (last == some .r || last == some .al || last == some .en || last == some .an) &&
        !(classes.contains .en && classes.contains .an)
    | _ => false

/-- Whether a label can be written in ASCII: it was written so, it is ASCII, or it is short enough
to be encoded by Punycode. -/
def Label.encodable (l : Label) : Bool :=
  l.written.isSome || l.points.all (· < 0x80) || l.points.length ≤ punycodeEncodeLimit

/-- The ASCII form of a label: as written for an `xn--` label, itself if ASCII, otherwise
`xn--` and its Punycode. -/
def Label.ascii (l : Label) : String :=
  match l.written with
  | some w => w
  | none =>
    let chars := l.points.map Char.ofNat
    if l.points.all (· < 0x80) then String.ofList chars else "xn--" ++ punyEncode chars

/-- The ASCII form of a domain name, or `none` if it is not a valid one. -/
def domainToAscii (cs : List Char) : Option String := do
  let mapped ← mapDomain [] (cs.map Char.toNat)
  let normal := nfc mapped
  if normal.any fun n => n < 0x80 && forbiddenInDomain (Char.ofNat n) then none
  let labels ← (splitWhere (· == 0x2E) normal).mapM decodeLabel
  if !labels.all Label.valid then none
  if labels.any (·.points.any isRightToLeft) && !labels.all (bidiRuleHolds ·.points) then none
  if !labels.all Label.encodable then none
  pure (".".intercalate (labels.map Label.ascii))

end ChunkStore.Url
