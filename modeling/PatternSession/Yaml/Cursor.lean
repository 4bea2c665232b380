/-!
# Positions in a YAML text

A cursor knows what is ahead and where it is. A carriage return with a line feed is one line end,
and so are each of them alone and three more characters.
-/

namespace PatternSession.Yaml

/-- May the character stand in a document? -/
def isAllowed (c : Char) : Bool :=
  let n := c.toNat
  n = 0x09 || n = 0x0A || n = 0x0D || (0x20 ≤ n && n ≤ 0x7E) || n = 0x85 ||
    (0xA0 ≤ n && n ≤ 0xD7FF) || (0xE000 ≤ n && n ≤ 0xFFFD) || 0x10000 ≤ n

def isBlank (c : Char) : Bool := c = ' ' || c = '\t'

/-- Does the character end a line? -/
def isBreak (c : Char) : Bool :=
  c = '\n' || c = '\r' || c = '\u0085' || c = '\u2028' || c = '\u2029'

/-- Does a word end before this character? A text ends every word. -/
def endsWord (c : Option Char) : Bool := c.all fun c => isBlank c || isBreak c

/-- Does a line end before this character? -/
def endsLine (c : Option Char) : Bool := c.all isBreak

/-- A letter of a name: ASCII letters, digits, `_` and `-`. -/
def isNameChar (c : Char) : Bool := c.isAlphanum || c = '_' || c = '-'

/-- What a line end is in a scalar: most are one line feed, two separators are themselves. -/
def breakChar (c : Char) : Char := if c = '\u2028' ∨ c = '\u2029' then c else '\n'

/-- A position in a text. -/
structure Cursor where
  ahead : List Char
  /-- The number of characters before. -/
  index : Nat := 0
  line : Nat := 0
  column : Nat := 0

namespace Cursor

/-- The character so far ahead. -/
def at? (c : Cursor) (n : Nat) : Option Char := c.ahead[n]?

/-- So many characters further on the same line. -/
def forward (c : Cursor) (n : Nat) : Cursor :=
  { c with ahead := c.ahead.drop n, index := c.index + n, column := c.column + n }

/-- After the characters that pass the test; none of them ends a line. -/
def skipWhile (c : Cursor) (test : Char → Bool) : Cursor :=
  c.forward (c.ahead.takeWhile test).length

/-- The beginning of the next line, from a line end. -/
def nextLine (c : Cursor) : Cursor :=
  match c.ahead with
  | '\r' :: '\n' :: rest => ⟨rest, c.index + 2, c.line + 1, 0⟩
  | _ :: rest => ⟨rest, c.index + 1, c.line + 1, 0⟩
  | [] => c

/-- After a comment, if there is one. -/
def skipComment (c : Cursor) : Cursor :=
  if c.at? 0 = some '#' then c.skipWhile fun x => !isBreak x else c

/-- After blanks and a comment, if the line ends there, and its line end. -/
def skipRestOfLine? (c : Cursor) : Option Cursor :=
  let c := (c.skipWhile isBlank).skipComment
  if endsLine (c.at? 0) then some c.nextLine else none

/-- Does a line begin here with three of a character and the end of a word? -/
def isMarker (c : Cursor) (mark : Char) : Bool :=
  c.column = 0 && c.ahead.take 3 = [mark, mark, mark] && endsWord (c.at? 3)

/-- Does a marker of a document stand here? -/
def isDocumentMarker (c : Cursor) : Bool := c.isMarker '-' || c.isMarker '.'

end Cursor

end PatternSession.Yaml
