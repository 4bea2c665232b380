import PatternSession.Numeral
import PatternSession.Regex.Error
import PatternSession.Regex.Expr
import PatternSession.Regex.Flags
import PatternSession.Regex.Source
import PatternSession.Unicode.Additions

/-!
# The reader of patterns

What a reader of patterns knows at a position, and how it reads the small parts: blanks and
comments, numbers, names, bounds in braces and references.

**Blanks.** A comment in parentheses is skipped between atoms; with the flag `x`, so are white space
and the rest of a line after `#`. Inside a class nothing is skipped.

**References.** The reader keeps the number of groups opened so far, the names given (of equal names
the last number counts) and whether a reference was made by number.

**Positions** of errors count UTF-8 bytes; a comment that a backslash ends may reach one byte past
the end.
-/

namespace PatternSession.Regex

/-- What the reader knows at a position. -/
structure Reader where
  flags : Flags := {}
  /-- The number of groups opened so far, the whole match left out. -/
  opened : Nat := 0
  /-- The names given so far with their groups, the last one first. -/
  names : List (List Char × Nat) := []
  /-- Was a reference made by number? -/
  byNumber : Bool := false

/-- A step of reading: it fails with an error, or changes the reader. -/
abbrev Read := StateT Reader (Except Error)

/-- Fails at a character position. -/
def failAt {α : Type} (s : Source) (i : Nat) (fault : SyntaxFault) : Read α :=
  throw (.parse (s.bytePos i) fault)

def flags : Read Flags := return (← get).flags

/-- May the character stand in a group name? -/
def isNameChar (c : Char) : Bool := c = '_' || Unicode.isAlphanumeric c

/-- A decimal number at position `i`, and the position after it. One that does not fit a machine
word is not read as a number. -/
def decimal? (s : Source) (i : Nat) : Option (Nat × Nat) :=
  let j := s.skipWhile isDigit i
  let n := numeral 10 (s.slice i j)
  if i < j ∧ n < wordValues then some (n, j) else none

/-- A group name at position `i` between two delimiters, and the position after it. With `signed`
the name may be a minus sign with digits instead, or the sign alone. -/
def name? (s : Source) (i : Nat) (opening closing : List Char) (signed : Bool) :
    Option (List Char × Nat) :=
  if s.startsWith i opening then
    let first := i + opening.length
    let last :=
      if signed && s.at? first = some '-' then s.skipWhile isDigit (first + 1)
      else s.skipWhile isNameChar first
    if first < last ∧ s.startsWith last closing then
      some (s.slice first last, last + closing.length)
    else none
  else none

/-- The end of a comment, given a position inside it. -/
def skipComment (s : Source) : (fuel : Nat) → Nat → Read Nat
  | 0, i => failAt s i .unclosedParen
  | fuel + 1, i =>
    match s.at? i with
    | none => failAt s i .unclosedParen
    | some ')' => return i + 1
    | some '\\' =>
      -- A backslash takes the next byte with it; the rest of a longer character is skipped anyway.
      skipComment s fuel (i + 2)
    | some _ => skipComment s fuel (i + 1)

/-- The first position from `i` on that is not skipped. -/
def skipBlanks (s : Source) : (fuel : Nat) → Nat → Read Nat
  | 0, i => return i
  | fuel + 1, i => do
    let extended := (← flags).extended
    match s.at? i with
    | some '#' =>
      if extended then
        let line := s.skipWhile (· ≠ '\n') i
        if line < s.size then skipBlanks s fuel (line + 1) else return s.size
      else return i
    | some ' ' | some '\r' | some '\n' | some '\t' =>
      if extended then skipBlanks s fuel (i + 1) else return i
    | some '(' =>
      if s.startsWith i ['(', '?', '#'] then
        skipBlanks s fuel (← skipComment s (s.size + 1) (i + 3))
      else return i
    | _ => return i

/-- The first position from `i` on that is not skipped. -/
def blanks (s : Source) (i : Nat) : Read Nat := skipBlanks s (s.size + 1) i

/-- The upper bound that a number is. -/
def upperBound (n : Nat) : Option Nat := if n = maxRounds then none else some n

/-- The bounds of a quantifier in braces at position `i`, and the position after it, if it is
one. -/
def braces (s : Source) (i : Nat) : Read (Option (Nat × Option Nat × Nat)) := do
  let first ← blanks s (i + 1)
  let lower := if s.at? first = some ',' then some (0, first) else decimal? s first
  let some (lo, afterLower) := lower | return none
  let j ← blanks s afterLower
  let upper ← match s.at? j with
    | some '\x7d' => pure (some (upperBound lo, j))
    | some ',' => do
      let k ← blanks s (j + 1)
      match decimal? s k with
      | some (hi, k) => pure (some (upperBound hi, k))
      | none => pure (some (none, k))
    | _ => pure none
  let some (hi, afterUpper) := upper | return none
  let last ← blanks s afterUpper
  return if s.at? last = some '\x7d' then some (lo, hi, last + 1) else none

/-- The same, where a comment that is not closed makes it no quantifier. -/
def braces? (s : Source) (i : Nat) : Read (Option (Nat × Option Nat × Nat)) := fun r =>
  match braces s i r with
  | .ok result => .ok result
  | .error _ => .ok (none, r)

/-- A reference by number, and the position after it. Numbers that only a much longer pattern could
have are refused at once. -/
def numberedReference (s : Source) (i : Nat) : Read (Expr × Nat) := do
  match decimal? s i with
  | some (n, j) =>
    if n < s.byteSize / 2 then
      modify fun r => { r with byNumber := true }
      return (.reference n, j)
    else failAt s i .invalidReference
  | none => failAt s i .invalidReference

/-- The group of a name: the one so called, else the one of that number, counted back from the
groups opened so far if it is negative. -/
def groupOfName? (r : Reader) (name : List Char) : Option Nat :=
  match r.names.find? fun p => p.1 = name with
  | some (_, n) => some n
  | none =>
    match name with
    | '-' :: digits =>
      if digits.all isDigit ∧ digits ≠ [] then
        let n := numeral 10 digits
        if n = 0 then some 0
        else if n ≤ r.opened + 1 then some (r.opened + 1 - n) else none
      else none
    | digits =>
      if digits.all isDigit ∧ digits ≠ [] ∧ numeral 10 digits < wordValues / 2 then
        some (numeral 10 digits)
      else none

/-- A reference by name between two delimiters, and the position after it. -/
def namedReference (s : Source) (i : Nat) (opening closing : List Char) (signed : Bool) :
    Read (Expr × Nat) := do
  match name? s i opening closing signed with
  | none => failAt s i .invalidGroupName
  | some (name, j) =>
    match groupOfName? (← get) name with
    | some n => return (.reference n, j)
    | none => failAt s i (.unknownGroup name)

end PatternSession.Regex
