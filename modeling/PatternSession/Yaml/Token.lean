import PatternSession.Yaml.Scalar

/-!
# Tokens

`tokens?` divides a text into the tokens of documents that are a mapping of scalars. Sequences, and
mappings inside a flow mapping, have no tokens here.

**Keys.** That a scalar is a key shows only at the colon after it. Until then it is a pending key,
which is given up at the end of its line or after 1024 characters. When the colon comes, the token
of the key is put in front of it, and in front of that the beginning of a block mapping, if the key
is further right than the mapping around it.

**Indentation.** Every block mapping has the column of its keys as its indentation. A token further
left ends it. Where a scalar stands right at this column it must turn out to be a key.
-/

namespace PatternSession.Yaml

/-- A token of a document. -/
inductive Token where
  | version (major minor : Nat)
  /-- What the handle of a tag stands for. -/
  | tagHandle (handle start : List Char)
  | documentStart
  | documentEnd
  | blockMapping
  | blockEnd
  | flowMapping
  | flowEnd
  | flowEntry
  | key
  | value
  | alias (name : List Char)
  | anchor (name : List Char)
  | tag (handle rest : List Char)
  | scalar (style : Style) (text : List Char)
  deriving DecidableEq

/-! ## Names, tags and directives -/

/-- The name of an anchor or of an alias after its sign. -/
def Cursor.anchorName? (c : Cursor) : Option (List Char × Cursor) :=
  let name := c.ahead.takeWhile isNameChar
  let c := c.forward name.length
  let closing := ['?', ':', ',', ']', '\x7d', '%', '@', '\x60']
  let ends := endsWord (c.at? 0) || (c.at? 0).any closing.contains
  if name ≠ [] ∧ ends then some (name, c) else none

/-- May the character stand in a tag? -/
def isTagChar (verbatim : Bool) (x : Char) : Bool :=
  isNameChar x || ";/?:@&=+$.%!~*'()".toList.contains x ||
    verbatim && [',', '[', ']'].contains x

/-- The byte of two hexadecimal digits after a percent sign. -/
def percentByte? : List Char → Option (UInt8 × List Char)
  | '%' :: a :: b :: rest =>
    if isHexDigit a && isHexDigit b then some ((numeral 16 [a, b]).toUInt8, rest) else none
  | _ => none

/-- The number of bytes of a character, from the first one. -/
def sequenceLength? (b : UInt8) : Option Nat :=
  if b &&& 0x80 = 0x00 then some 1
  else if b &&& 0xE0 = 0xC0 then some 2
  else if b &&& 0xF0 = 0xE0 then some 3
  else if b &&& 0xF8 = 0xF0 then some 4
  else none

/-- So many further bytes of a character, and what follows them. -/
def furtherBytes? : Nat → List Char → Option (List UInt8 × List Char)
  | 0, cs => some ([], cs)
  | n + 1, cs =>
    (percentByte? cs).bind fun (b, rest) =>
      if b &&& 0xC0 = 0x80 then (furtherBytes? n rest).map fun (bs, rest) => (b :: bs, rest)
      else none

/-- The text of a tag, in which characters may be written byte by byte. -/
def decodeTag? : (fuel : Nat) → List Char → Option (List Char)
  | 0, _ => none
  | _, [] => some []
  | fuel + 1, '%' :: rest => do
    let (first, rest) ← percentByte? ('%' :: rest)
    let (further, rest) ← furtherBytes? ((← sequenceLength? first) - 1) rest
    let text := (String.fromUTF8? (first :: further).toByteArray).getD "\uFFFD"
    (decodeTag? fuel rest).map (text.toList ++ ·)
  | fuel + 1, x :: rest => (decodeTag? fuel rest).map (x :: ·)

/-- The rest of a tag, and the position after it. -/
def Cursor.tagText? (c : Cursor) (verbatim : Bool) : Option (List Char × Cursor) :=
  let written := c.ahead.takeWhile (isTagChar verbatim)
  (decodeTag? (written.length + 1) written).map fun text => (text, c.forward written.length)

/-- A handle: an exclamation mark, letters, and an exclamation mark again, if there is one. -/
def Cursor.handle (c : Cursor) : List Char × Cursor :=
  let letters := (c.ahead.drop 1).takeWhile isNameChar
  let n := letters.length + 1
  let n := if c.at? n = some '!' then n + 1 else n
  (c.ahead.take n, c.forward n)

/-- Is this a handle that ends with an exclamation mark of its own? -/
def isClosedHandle (handle : List Char) : Bool :=
  1 < handle.length && handle.getLast? = some '!'

/-- A tag from its exclamation mark on. A tag of one mark alone has no handle. -/
def Cursor.tag? (c : Cursor) (inFlow : Bool) : Option (Token × Cursor) := do
  let (token, c) ←
    if c.at? 1 = some '<' then do
      let (text, c) ← (c.forward 2).tagText? true
      if text ≠ [] ∧ c.at? 0 = some '>' then some (Token.tag [] text, c.forward 1) else none
    else do
      let (handle, afterHandle) := c.handle
      if isClosedHandle handle then
        let (text, c) ← afterHandle.tagText? false
        if text = [] then none else some (Token.tag handle text, c)
      else
        let (text, c) ← afterHandle.tagText? false
        let text := handle.drop 1 ++ text
        some (if text = [] then .tag [] ['!'] else .tag ['!'] text, c)
  if endsWord (c.at? 0) || inFlow && c.at? 0 = some ',' then some (token, c) else none

/-- A part of a version number. -/
def Cursor.versionNumber? (c : Cursor) : Option (Nat × Cursor) :=
  let digits := c.ahead.takeWhile isDigit
  if digits ≠ [] ∧ digits.length ≤ 9 then some (numeral 10 digits, c.forward digits.length)
  else none

/-- A directive from its percent sign on, with its line. -/
def Cursor.directive? (c : Cursor) : Option (Token × Cursor) := do
  let c := c.forward 1
  let name := c.ahead.takeWhile isNameChar
  let afterName := c.forward name.length
  if name = [] || !endsWord (afterName.at? 0) then none
  let c := afterName.skipWhile isBlank
  if name = "YAML".toList then
    let (major, c) ← c.versionNumber?
    if c.at? 0 ≠ some '.' then none
    let (minor, c) ← (c.forward 1).versionNumber?
    return (.version major minor, ← c.skipRestOfLine?)
  else if name = "TAG".toList then
    let (handle, afterHandle) := c.handle
    if c.at? 0 ≠ some '!' || !(handle = ['!'] || isClosedHandle handle) then none
    if !(afterHandle.at? 0).any isBlank then none
    let (start, c) ← (afterHandle.skipWhile isBlank).tagText? true
    if start = [] || !endsWord (c.at? 0) then none
    return (.tagHandle handle start, ← c.skipRestOfLine?)
  else none

/-! ## The scanner -/

/-- A scalar that may turn out to be a key. -/
structure PendingKey where
  /-- The number of the token. -/
  token : Nat
  index : Nat
  line : Nat
  column : Nat
  /-- Must it be a key? -/
  required : Bool

/-- Can it no longer be a key, seen from a position after it? -/
def PendingKey.isStale (k : PendingKey) (c : Cursor) : Bool :=
  k.line < c.line || k.index + 1024 < c.index

/-- The state between two tokens. -/
structure Scanner where
  cursor : Cursor
  tokens : Array Token := #[]
  /-- One more than the column of the innermost block mapping; 0 outside all. -/
  indent : Nat := 0
  /-- The indentations around it, the innermost first. -/
  outer : List Nat := []
  /-- May a key begin here? -/
  keyAllowed : Bool := true
  inFlow : Bool := false
  /-- The pending key outside the flow mapping. -/
  blockKey : Option PendingKey := none
  /-- The pending key in the flow mapping. -/
  flowKey : Option PendingKey := none

/-- The position after blanks, line ends and comments, and whether a key may begin there. A
byte-order mark at the beginning of a line is skipped too; a tab is skipped where no key may
begin. -/
def spaceFrom (inFlow keyAllowed inComment : Bool) (index line column : Nat) :
    List Char → Bool × Cursor
  | [] => (keyAllowed, ⟨[], index, line, column⟩)
  | '\r' :: '\n' :: rest =>
    spaceFrom inFlow (keyAllowed || !inFlow) false (index + 2) (line + 1) 0 rest
  | x :: rest =>
    if isBreak x then
      spaceFrom inFlow (keyAllowed || !inFlow) false (index + 1) (line + 1) 0 rest
    else if inComment || column = 0 && x = '\uFEFF' || x = ' ' ||
        x = '\t' && (inFlow || !keyAllowed) then
      spaceFrom inFlow keyAllowed inComment (index + 1) line (column + 1) rest
    else if x = '#' then spaceFrom inFlow keyAllowed true (index + 1) line (column + 1) rest
    else (keyAllowed, ⟨x :: rest, index, line, column⟩)

namespace Scanner

def emit (s : Scanner) (t : Token) : Scanner := { s with tokens := s.tokens.push t }

/-- The pending key where the scanner is. -/
def pending (s : Scanner) : Option PendingKey := if s.inFlow then s.flowKey else s.blockKey

def setPending (s : Scanner) (k : Option PendingKey) : Scanner :=
  if s.inFlow then { s with flowKey := k } else { s with blockKey := k }

/-- Gives up the pending key, unless it is required. -/
def dropKey? (s : Scanner) : Option Scanner :=
  if s.pending.any (·.required) then none else some (s.setPending none)

/-- What comes next may be a key. -/
def saveKey? (s : Scanner) : Option Scanner :=
  if s.keyAllowed then
    s.dropKey?.map fun s => s.setPending <| some
      { token := s.tokens.size
        index := s.cursor.index
        line := s.cursor.line
        column := s.cursor.column
        required := !s.inFlow && s.indent = s.cursor.column + 1 }
  else some s

/-- A pending key, given up if it is too far behind, unless it is required. -/
def freshKey? (c : Cursor) (k : Option PendingKey) : Option (Option PendingKey) :=
  match k with
  | some k => if k.isStale c then if k.required then none else some none else some (some k)
  | none => some none

/-- Gives up the pending keys that are too far behind. -/
def dropStale? (s : Scanner) : Option Scanner :=
  (freshKey? s.cursor s.blockKey).bind fun blockKey =>
    (freshKey? s.cursor s.flowKey).map fun flowKey => { s with blockKey, flowKey }

/-- Ends the block mappings further right than `indent`, which is one more than a column. -/
def unrollTo (indent : Nat) (tokens : Array Token) :
    (current : Nat) → (outer : List Nat) → Array Token × Nat × List Nat
  | current, [] => (tokens, current, [])
  | current, next :: outer =>
    if indent < current then unrollTo indent (tokens.push .blockEnd) next outer
    else (tokens, current, next :: outer)

/-- Ends the block mappings further right than `indent`, outside the flow mapping. -/
def unroll (s : Scanner) (indent : Nat) : Scanner :=
  if s.inFlow then s
  else
    let (tokens, indent, outer) := unrollTo indent s.tokens s.indent s.outer
    { s with tokens, indent, outer }

/-- Begins a block mapping at a column, with its token at a place, if the column is further right
than the mapping around it. -/
def roll (s : Scanner) (column place : Nat) : Scanner :=
  if !s.inFlow && s.indent ≤ column then
    { s with
      tokens := s.tokens.insertIdxIfInBounds place .blockMapping
      indent := column + 1
      outer := s.indent :: s.outer }
  else s

/-- After blanks and comments. -/
def skipSpace (s : Scanner) : Scanner :=
  let c := s.cursor
  let (keyAllowed, cursor) := spaceFrom s.inFlow s.keyAllowed false c.index c.line c.column c.ahead
  { s with keyAllowed, cursor }

/-- A token of so many characters. -/
def take (s : Scanner) (n : Nat) (t : Token) : Scanner :=
  { s.emit t with cursor := s.cursor.forward n }

/-- A token that begins or ends a document, or a directive: it ends all mappings. -/
def leave? (s : Scanner) : Option Scanner :=
  (s.unroll 0).dropKey?.map fun s => { s with keyAllowed := false }

/-- A question mark. -/
def key? (s : Scanner) : Option Scanner :=
  if !s.inFlow && !s.keyAllowed then none
  else
    (s.roll s.cursor.column s.tokens.size).dropKey?.map fun s =>
      { s.take 1 .key with keyAllowed := !s.inFlow }

/-- A colon: what is pending is a key, or the key before was told by a question mark. -/
def value? (s : Scanner) : Option Scanner :=
  match s.pending with
  | some k =>
    let s := { s with tokens := s.tokens.insertIdxIfInBounds k.token .key }
    let s := (s.roll k.column k.token).setPending none
    some { s.take 1 .value with keyAllowed := false }
  | none =>
    if !s.inFlow && !s.keyAllowed then none
    else
      let s := s.roll s.cursor.column s.tokens.size
      some { s.take 1 .value with keyAllowed := !s.inFlow }

/-- A brace that opens a mapping. -/
def openFlow? (s : Scanner) : Option Scanner :=
  if s.inFlow then none
  else
    s.saveKey?.map fun s =>
      { s.take 1 .flowMapping with inFlow := true, flowKey := none, keyAllowed := true }

/-- A brace that closes the mapping. -/
def closeFlow? (s : Scanner) : Option Scanner :=
  if s.inFlow then
    s.dropKey?.map fun s => { s.take 1 .flowEnd with inFlow := false, keyAllowed := false }
  else none

/-- A comma. -/
def flowEntry? (s : Scanner) : Option Scanner :=
  if s.inFlow then s.dropKey?.map fun s => { s.take 1 .flowEntry with keyAllowed := true }
  else none

/-- A token that may be, or belong to, a key. -/
def keyPart? (s : Scanner) (read : Cursor → Option (Token × Cursor)) : Option Scanner :=
  s.saveKey?.bind fun s =>
    (read s.cursor).map fun (t, cursor) => { s.emit t with cursor, keyAllowed := false }

/-- A block scalar, which is no key. -/
def block? (s : Scanner) (folded : Bool) : Option Scanner :=
  s.dropKey?.bind fun s =>
    (s.cursor.block? folded s.indent).map fun (text, cursor) =>
      { s.emit (.scalar (if folded then .folded else .literal) text) with
        cursor, keyAllowed := true }

/-- A plain scalar. A key may begin on the line after it. -/
def plain? (s : Scanner) : Option Scanner :=
  s.saveKey?.bind fun s =>
    (s.cursor.plain? s.inFlow s.indent).map fun (text, broken, cursor) =>
      { s.emit (.scalar .plain text) with cursor, keyAllowed := broken }

/-- The characters that a plain scalar does not begin with. -/
def indicators : List Char :=
  ['-', '?', ':', ',', '[', ']', '\x7b', '\x7d', '#', '&', '*', '!', '|', '>', '\'', '"', '%', '@',
    '\x60']

/-- Does a plain scalar begin here? A dash does so before anything but a blank, and outside the flow
mapping also a question mark and a colon. -/
def beginsPlain (s : Scanner) (x : Char) : Bool :=
  let next := s.cursor.at? 1
  !(isBlank x || isBreak x || indicators.contains x) || x = '-' && !next.any isBlank ||
    !s.inFlow && (x = '?' || x = ':') && !endsWord next

/-- The next token, which begins with `x`. -/
def token? (s : Scanner) (x : Char) : Option Scanner :=
  let c := s.cursor
  let isSign := s.inFlow || endsWord (c.at? 1)
  if c.column = 0 ∧ x = '%' then
    s.leave?.bind fun s => c.directive?.map fun (t, cursor) => { s.emit t with cursor }
  else if c.isMarker '-' then s.leave?.map fun s => s.take 3 .documentStart
  else if c.isMarker '.' then s.leave?.map fun s => s.take 3 .documentEnd
  else if x = '[' ∨ x = ']' ∨ x = '-' ∧ endsWord (c.at? 1) then none
  else if x = '\x7b' then s.openFlow?
  else if x = '\x7d' then s.closeFlow?
  else if x = ',' then s.flowEntry?
  else if x = '?' ∧ isSign then s.key?
  else if x = ':' ∧ isSign then s.value?
  else if x = '*' then
    s.keyPart? fun c => (c.forward 1).anchorName?.map fun (name, c) => (.alias name, c)
  else if x = '&' then
    s.keyPart? fun c => (c.forward 1).anchorName?.map fun (name, c) => (.anchor name, c)
  else if x = '!' then s.keyPart? fun c => c.tag? s.inFlow
  else if x = '|' ∧ !s.inFlow then s.block? false
  else if x = '>' ∧ !s.inFlow then s.block? true
  else if x = '\'' ∨ x = '"' then
    s.keyPart? fun c => (c.quoted? x).map fun (text, c) => (.scalar .quoted text, c)
  else if s.beginsPlain x then s.plain?
  else none

/-- The state after the last token. -/
def scan? : (fuel : Nat) → Scanner → Option Scanner
  | 0, _ => none
  | fuel + 1, s =>
    s.skipSpace.dropStale?.bind fun s =>
      match s.cursor.ahead with
      | [] => (s.unroll 0).dropKey?
      | x :: _ => ((s.unroll (s.cursor.column + 1)).token? x).bind (scan? fuel)

end Scanner

/-- The tokens of a text. -/
def tokens? (cs : List Char) : Option (List Token) :=
  (Scanner.scan? (cs.length + 1) { cursor := { ahead := cs } }).map (·.tokens.toList)

end PatternSession.Yaml
