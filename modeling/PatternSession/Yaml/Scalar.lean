import PatternSession.Numeral
import PatternSession.Yaml.Cursor

/-!
# Scalars

How scalars are written: plain, between quotes, or as a block of lines.

**Folding.** Where a plain or a quoted scalar goes on in another line, the blanks around the line
end are dropped. A single line end is a space, and of several ones all but the first are kept.

**Quotes.** Between single quotes only the quote itself is escaped, by writing it twice. Between
double quotes a backslash begins an escape, and hides a line end after it.

**Plain scalars** end before a colon that ends a word and before a comment; in a flow mapping also
before a comma and a bracket; in a block mapping where a line is not indented more than the mapping.

**Blocks** are lines at an indentation, which the first line sets unless the head does. The head
also says what becomes of line ends at the end. A folded block joins lines that do not begin with a
blank.
-/

namespace PatternSession.Yaml

/-- How a scalar is written. -/
inductive Style where
  | plain
  | quoted
  /-- A block whose lines are kept. -/
  | literal
  /-- A block whose lines are joined. -/
  | folded
  deriving DecidableEq

/-! ## Folding -/

/-- Blanks and line ends between two pieces of a scalar. -/
structure Gap where
  /-- Blanks before any line end. -/
  blanks : List Char := []
  breaks : List Char := []
  /-- Is there a line end, written or hidden by a backslash? -/
  broken : Bool := false
  /-- Was the first line end hidden? -/
  hidden : Bool := false

namespace Gap

/-- What the gap is in the scalar. -/
def text (g : Gap) : List Char :=
  if g.hidden then g.breaks
  else
    match g.breaks with
    | [] => g.blanks
    | ['\n'] => [' ']
    | '\n' :: more => more
    | all => all

/-- The gap with one more line end. -/
def addBreak (g : Gap) (x : Char) : Gap :=
  { g with blanks := [], breaks := g.breaks ++ [breakChar x], broken := true }

end Gap

/-- The rest of a gap, and the position after it. After a line end, no tab may stand before the
column `indent`. -/
def gapFrom? (indent : Nat) (g : Gap) (index line column : Nat) :
    List Char → Option (Gap × Cursor)
  | [] => some (g, ⟨[], index, line, column⟩)
  | '\r' :: '\n' :: rest => gapFrom? indent (g.addBreak '\n') (index + 2) (line + 1) 0 rest
  | x :: rest =>
    if isBreak x then gapFrom? indent (g.addBreak x) (index + 1) (line + 1) 0 rest
    else if isBlank x then
      if g.broken then
        if x = '\t' ∧ column < indent then none
        else gapFrom? indent g (index + 1) line (column + 1) rest
      else
        gapFrom? indent { g with blanks := g.blanks ++ [x] } (index + 1) line (column + 1) rest
    else some (g, ⟨x :: rest, index, line, column⟩)

/-- The rest of a gap at a position. -/
def Cursor.gap? (c : Cursor) (indent : Nat) (g : Gap) : Option (Gap × Cursor) :=
  gapFrom? indent g c.index c.line c.column c.ahead

/-! ## Plain scalars -/

/-- The characters that have a meaning in a flow mapping wherever they stand. -/
def flowIndicators : List Char := [',', '[', ']', '\x7b', '\x7d']

/-- The length of a piece of a plain scalar, which has no blanks. In a flow mapping a colon right
before an indicator is refused. -/
def pieceLength? (inFlow : Bool) : List Char → Option Nat
  | [] => some 0
  | x :: rest =>
    if isBlank x || isBreak x || inFlow && flowIndicators.contains x then some 0
    else if x = ':' && endsWord rest.head? then some 0
    else if x = ':' && inFlow && rest.head?.any ('?' :: flowIndicators).contains then none
    else (pieceLength? inFlow rest).map (· + 1)

/-- The rest of a plain scalar after `text` and a gap; then, whether its last gap holds a line end,
and the position after it. -/
def plainFrom? (inFlow : Bool) (indent : Nat) :
    (fuel : Nat) → List Char → Gap → Cursor → Option (List Char × Bool × Cursor)
  | 0, _, _, _ => none
  | fuel + 1, text, g, c =>
    if c.isDocumentMarker || c.at? 0 = some '#' then some (text, g.broken, c)
    else
      (pieceLength? inFlow c.ahead).bind fun n =>
        if n = 0 then some (text, g.broken, c)
        else
          let text := text ++ g.text ++ c.ahead.take n
          let c := c.forward n
          if (c.at? 0).any fun x => isBlank x || isBreak x then
            (c.gap? indent {}).bind fun (g, c) =>
              if !inFlow && c.column < indent then some (text, g.broken, c)
              else plainFrom? inFlow indent fuel text g c
          else some (text, false, c)

/-- A plain scalar. -/
def Cursor.plain? (c : Cursor) (inFlow : Bool) (indent : Nat) :
    Option (List Char × Bool × Cursor) :=
  plainFrom? inFlow indent (c.ahead.length + 1) [] {} c

/-! ## Quoted scalars -/

/-- The character of an escape letter. -/
def escapeLetter? : Char → Option Char
  | '0' => some '\x00'
  | 'a' => some '\x07'
  | 'b' => some '\x08'
  | 't' | '\t' => some '\t'
  | 'n' => some '\n'
  | 'v' => some '\x0b'
  | 'f' => some '\x0c'
  | 'r' => some '\r'
  | 'e' => some '\x1b'
  | ' ' => some ' '
  | '"' => some '"'
  | '/' => some '/'
  | '\\' => some '\\'
  | 'N' => some '\u0085'
  | '_' => some '\u00a0'
  | 'L' => some '\u2028'
  | 'P' => some '\u2029'
  | _ => none

/-- The number of digits after an escape letter. -/
def escapeDigits? : Char → Option Nat
  | 'x' => some 2
  | 'u' => some 4
  | 'U' => some 8
  | _ => none

/-- The character of an escape, given what follows the backslash, and the length of this. -/
def escape? : List Char → Option (Char × Nat)
  | [] => none
  | x :: rest =>
    match escapeLetter? x, escapeDigits? x with
    | some c, _ => some (c, 1)
    | none, some n =>
      let digits := rest.take n
      let value := numeral 16 digits
      if digits.length = n && digits.all isHexDigit && value.isValidChar then
        some (Char.ofNat value, n + 1)
      else none
    | none, none => none

/-- The rest of a quoted scalar after `text`, and the position after its closing quote. -/
def quotedFrom? (quote : Char) :
    (fuel : Nat) → List Char → Cursor → Option (List Char × Cursor)
  | 0, _, _ => none
  | fuel + 1, text, c =>
    if c.isDocumentMarker then none
    else
      let fold (g : Gap) (c : Cursor) :=
        (c.gap? 0 g).bind fun (g, c) => quotedFrom? quote fuel (text ++ g.text) c
      match c.ahead with
      | [] => none
      | x :: rest =>
        if isBlank x || isBreak x then fold {} c
        else if x = quote then
          if quote = '\'' ∧ rest.head? = some quote then
            quotedFrom? quote fuel (text ++ [quote]) (c.forward 2)
          else some (text, c.forward 1)
        else if x = '\\' ∧ quote = '"' then
          if rest.head?.any isBreak then
            fold { broken := true, hidden := true } (c.forward 1).nextLine
          else
            (escape? rest).bind fun (y, n) =>
              quotedFrom? quote fuel (text ++ [y]) (c.forward (n + 1))
        else quotedFrom? quote fuel (text ++ [x]) (c.forward 1)

/-- A scalar between quotes, from its opening quote on. -/
def Cursor.quoted? (c : Cursor) (quote : Char) : Option (List Char × Cursor) :=
  quotedFrom? quote (c.ahead.length + 1) [] (c.forward 1)

/-! ## Blocks -/

/-- What becomes of the line ends at the end of a block. -/
inductive Chomping where
  /-- All but the one of the last line are dropped. -/
  | clip
  | strip
  | keep

/-- The head of a block after its indicator: the indentation, if it is given, the line ends at the
end, and the position after it. -/
def blockHead (c : Cursor) : Option (Option Nat × Chomping × Cursor) :=
  let chomping (c : Cursor) : Option Chomping × Cursor :=
    match c.at? 0 with
    | some '+' => (some .keep, c.forward 1)
    | some '-' => (some .strip, c.forward 1)
    | _ => (none, c)
  let digit (c : Cursor) : Option Nat × Cursor :=
    match c.at? 0 with
    | some x => if isDigit x then (digitValue? x, c.forward 1) else (none, c)
    | none => (none, c)
  let (first, c) := chomping c
  let (indent, c) := digit c
  let (second, c) := if first.isNone && indent.isSome then chomping c else (none, c)
  if indent = some 0 then none else some (indent, (first.or second).getD .clip, c)

/-- Line ends and indentation before a line of a block: the line ends, the largest column, and the
position after them. The indentation is `none` as long as it is not known. -/
def blockBreaks? (indent : Option Nat) :
    (fuel : Nat) → List Char → (column : Nat) → Cursor → Option (List Char × Nat × Cursor)
  | 0, _, _, _ => none
  | fuel + 1, breaks, column, c =>
    let spaces := (c.ahead.takeWhile (· = ' ')).length
    let c := c.forward <| match indent with
      | none => spaces
      | some n => min spaces (n - c.column)
    let column := max column c.column
    if indent.all (c.column < ·) ∧ c.at? 0 = some '\t' then none
    else
      match c.at? 0 with
      | some x =>
        if isBreak x then blockBreaks? indent fuel (breaks ++ [breakChar x]) column c.nextLine
        else some (breaks, column, c)
      | none => some (breaks, column, c)

/-- The rest of a block after `text`. The last line ended with `last` and `breaks` follow it;
`blank` says whether it began with a blank. -/
def blockLines? (folded : Bool) (indent : Nat) (chomping : Chomping) :
    (fuel : Nat) → (text last breaks : List Char) → (blank : Bool) → Cursor →
      Option (List Char × Cursor)
  | 0, _, _, _, _, _ => none
  | fuel + 1, text, last, breaks, blank, c =>
    match c.ahead with
    | x :: _ =>
      if c.column = indent then
        let joint :=
          if folded && last = ['\n'] && !blank && !isBlank x then
            if breaks = [] then [' '] else breaks
          else last ++ breaks
        let line := c.ahead.takeWhile fun x => !isBreak x
        let stop := c.forward line.length
        let ended := match stop.at? 0 with
          | some y => [breakChar y]
          | none => []
        (blockBreaks? (some indent) (c.ahead.length + 1) [] 0 stop.nextLine).bind
          fun (breaks, _, c) =>
            blockLines? folded indent chomping fuel (text ++ joint ++ line) ended breaks
              (isBlank x) c
      else finished text last breaks c
    | [] => finished text last breaks c
where
  /-- The block with the line ends at its end. -/
  finished (text last breaks : List Char) (c : Cursor) : Option (List Char × Cursor) :=
    match chomping with
    | .strip => some (text, c)
    | .clip => some (text ++ last, c)
    | .keep => some (text ++ last ++ breaks, c)

/-- A block scalar from its indicator on; `parent` is the indentation of the mapping around it. -/
def Cursor.block? (c : Cursor) (folded : Bool) (parent : Nat) : Option (List Char × Cursor) := do
  let fuel := c.ahead.length + 1
  let (given, chomping, c) ← blockHead (c.forward 1)
  let c ← c.skipRestOfLine?
  let given := given.map fun n => parent - 1 + n
  let (breaks, column, c) ← blockBreaks? given fuel [] 0 c
  let indent := given.getD (max 1 (max column parent))
  blockLines? folded indent chomping fuel [] [] breaks false c

end PatternSession.Yaml
