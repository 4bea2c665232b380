import PatternSession.Regex.Reader

/-!
# Escapes and classes in a pattern

An escape is an expression, a character or a set. Inside a class only the last two have a meaning,
and the letters of positions and references are themselves there. A character that is told by its
number obeys the flag `i`; every other escaped character is exactly itself.

A class is read up to the bracket that closes it; brackets inside it nest. It becomes a piece in the
plain form, with its escapes resolved.
-/

namespace PatternSession.Regex

/-- A character by its number in hexadecimal, with exactly `digits` digits or with one to eight in
braces, and the position after it. -/
def hexEscape (s : Source) (i digits : Nat) : Read (Char × Nat) := do
  let (text, next) :=
    if s.at? i = some '\x7b' then
      let j := s.skipWhile isHexDigit (i + 1)
      let isWhole := s.at? j = some '\x7d' ∧ i + 1 < j ∧ j ≤ i + 9
      if isWhole then (s.slice (i + 1) j, j + 1) else ([], i)
    else
      let text := s.slice i (i + digits)
      if text.length = digits ∧ text.all isHexDigit then (text, i + digits) else ([], i)
  if text = [] then failAt s i .invalidHex
  else
    let n := numeral 16 text
    if n.isValidChar then return (Char.ofNat n, next) else failAt s i .invalidCodepoint

/-- The named set that an escape letter stands for. -/
def escapedSet? : Char → Option Symbol
  | 'd' => some (.named false .digit)
  | 's' => some (.named false .space)
  | 'w' => some (.named false .word)
  | 'D' => some (.named true .digit)
  | 'S' => some (.named true .space)
  | 'W' => some (.named true .word)
  | _ => none

/-- The class that an escape letter stands for, in the plain form. -/
def escapedClass? : Char → Option (List Symbol)
  | 'h' => some (Symbol.ofText "[0-9A-Fa-f]")
  | 'H' => some (Symbol.ofText "[^0-9A-Fa-f]")
  | _ => none

/-- The control character that an escape letter stands for. -/
def control? : Char → Option Char
  | 'a' => some '\x07'
  | 'f' => some '\x0c'
  | 'n' => some '\n'
  | 'r' => some '\r'
  | 't' => some '\t'
  | 'v' => some '\x0b'
  | 'e' => some '\x1b'
  | _ => none

/-- Is this a letter whose escape stands for a position or a reference? Inside a class, where
neither has a meaning, the escape is the letter. -/
def isPositionLetter (c : Char) : Bool := "kAzBKG".toList.contains c

/-- A property between braces or of one letter, after the escape letter: its name, and the position
after it. The escape begins at `first`. -/
def propertyName (s : Source) (first i : Nat) : Read (List Char × Nat) := do
  match s.at? i with
  | some '\x7b' =>
    let j := s.skipWhile (· ≠ '\x7d') (i + 1)
    if j < s.size then return (s.slice (i + 1) j, j + 1) else failAt s first .unclosedUnicodeName
  | some c => return ([c], i + 1)
  | none => failAt s first .unclosedUnicodeName

/-- What an escape is. -/
inductive Escape where
  | expr (e : Expr)
  | char (c : Char) (ignoreCase : Bool)
  | piece (symbols : List Symbol) (ignoreCase : Bool)

/-- An escape at the position of its backslash, and the position after it. -/
def readEscape (s : Source) (i : Nat) (inClass : Bool) : Read (Escape × Nat) := do
  let ignoreCase := (← flags).ignoreCase
  let j := i + 2
  let invalid (c : Char) : Read (Escape × Nat) := failAt s i (.invalidEscape ['\\', c])
  let anchor (a : Anchor) : Read (Escape × Nat) := return (.expr (.anchor a), j)
  let hex (digits : Nat) : Read (Escape × Nat) := do
    let (c, next) ← hexEscape s j digits
    return (.char c ignoreCase, next)
  match s.at? (i + 1) with
  | none => failAt s i .trailingBackslash
  | some c =>
    if isDigit c then
      let (e, next) ← numberedReference s (i + 1)
      return (.expr e, next)
    else if c = 'k' ∧ !inClass then
      let (e, next) ←
        if s.at? j = some '\'' then namedReference s j ['\''] ['\''] true
        else namedReference s j ['<'] ['>'] true
      return (.expr e, next)
    else if c = 'A' ∧ !inClass then anchor .textStart
    else if c = 'z' ∧ !inClass then anchor .textStop
    else if c = 'b' ∧ !inClass then
      if s.at? j = some '\x7b' then invalid c else anchor .wordBoundary
    else if c = 'B' ∧ !inClass then
      if s.at? j = some '\x7b' then invalid c else anchor .notWordBoundary
    else if c = '<' ∧ !inClass then anchor .wordStart
    else if c = '>' ∧ !inClass then anchor .wordStop
    else if c = 'x' then hex 2
    else if c = 'u' then hex 4
    else if c = 'U' then hex 8
    else if (c = 'p' ∨ c = 'P') ∧ j < s.size then
      let (name, next) ← propertyName s i j
      return (.piece [.named (c = 'P') (.property name)] ignoreCase, next)
    else if c = 'K' ∧ !inClass then return (.expr .keepOut, j)
    else if c = 'G' ∧ !inClass then return (.expr .searchStart, j)
    else if c = 'b' then return (.char '\x08' false, j)
    else
      match escapedSet? c, escapedClass? c, control? c with
      | some set, _, _ => return (.piece [set] ignoreCase, j)
      | none, some symbols, _ => return (.piece symbols false, j)
      | none, none, some control => return (.char control false, j)
      | none, none, none =>
        if c.isAlpha && !isPositionLetter c then invalid c else return (.char c false, j)

/-- The symbols of a class up to its closing bracket, and the position after it; `depth` brackets
are open. -/
def classSymbols (s : Source) : (fuel depth : Nat) → Nat → Read (List Symbol × Nat)
  | 0, _, i => failAt s i .invalidClass
  | fuel + 1, depth, i =>
    match s.at? i with
    | none => failAt s i .invalidClass
    | some '\\' => do
      let (escape, next) ← readEscape s i true
      let symbols ← match escape with
        | .char c _ => pure [Symbol.ofChar c]
        | .piece symbols _ => pure symbols
        | .expr _ => failAt s i .invalidClass
      let (others, last) ← classSymbols s fuel depth next
      return (symbols ++ others, last)
    | some '[' => do
      let (others, last) ← classSymbols s fuel (depth + 1) (i + 1)
      return (.written '[' :: others, last)
    | some ']' =>
      if depth = 1 then return ([.written ']'], i + 1)
      else do
        let (others, last) ← classSymbols s fuel (depth - 1) (i + 1)
        return (.written ']' :: others, last)
    | some c => do
      let (others, last) ← classSymbols s fuel depth (i + 1)
      return (.written c :: others, last)

/-- A class at the position of its opening bracket, and the position after it. A closing bracket
right at the beginning does not close it. -/
def readClass (s : Source) (i : Nat) : Read (Expr × Nat) := do
  let first := i + 1
  let (negation, j) := if s.at? first = some '^' then ([Symbol.written '^'], first + 1)
    else ([], first)
  let (bracket, k) := if s.at? j = some ']' then ([Symbol.written ']'], j + 1) else ([], j)
  let (symbols, next) ← classSymbols s (s.size + 1) 1 k
  return (.piece (.written '[' :: negation ++ bracket ++ symbols) (← flags).ignoreCase, next)

end PatternSession.Regex
