import PatternSession.Numeral
import PatternSession.Regex.Flags
import PatternSession.Regex.Regular.Basic
import PatternSession.Regex.Regular.Blanks
import PatternSession.Regex.Regular.Class
import PatternSession.Unicode.Additions

/-!
# Reading the plain form

`Regular.ofSymbols?` reads an expression from symbols.

**Items.** Alternatives stand between bars; an alternative is items in sequence; a quantifier
belongs to the item before it, and an opening brace is always a quantifier. Groups are numbered by
their opening parentheses.

**Flags** that are set in a group hold up to its end, over bars too.

**Depth.** Groups, quantifiers, classes, alternatives and sequences of two or more items are one
level each. An expression of more than `nestingLimit` levels is refused.
-/

namespace PatternSession.Regex

/-- The deepest nesting of the plain form. -/
def nestingLimit : Nat := 250

/-- The number of values that a bound of a quantifier may have. -/
def boundValues : Nat := 4294967296

/-- An expression with the depth of its form. -/
structure Item where
  value : Regular
  depth : Nat
  /-- Can a quantifier follow? Flags and nothing are not repeated. -/
  repeatable : Bool

namespace Item

def nothing : Item := ⟨.empty, 0, false⟩

/-- Items in sequence. -/
def sequence : List Item → Item
  | [] => nothing
  | [item] => item
  | items =>
    ⟨.sequence (items.map (·.value)), (items.map (·.depth)).foldl max 0 + 1, true⟩

/-- Alternatives. -/
def oneOf : List Item → Item
  | [item] => item
  | items => ⟨.oneOf (items.map (·.value)), (items.map (·.depth)).foldl max 0 + 1, true⟩

/-- The last item with a quantifier. -/
def times (item : Item) (lo : Nat) (hi : Option Nat) (greedy : Bool) : Item :=
  ⟨.times item.value lo hi greedy, item.depth + 1, true⟩

/-- An item between parentheses. -/
def enclosed (item : Item) (wrap : Regular → Regular) : Item :=
  ⟨wrap item.value, item.depth + 1, true⟩

end Item

/-- What the reader knows at a position. -/
structure PlainReader where
  flags : PlainFlags := {}
  /-- The number of groups opened so far. -/
  opened : Nat := 0
  /-- The names given so far. -/
  names : List (List Char) := []

namespace PlainReader

/-- A decimal number with white space around it, if there is one, and the symbols after it. -/
def decimal (symbols : List Symbol) : Option Nat × List Symbol :=
  let digit : Symbol → Bool
    | .written c => isDigit c
    | _ => false
  let symbols := symbols.dropWhile Symbol.isBlank
  let digits := (symbols.takeWhile digit).filterMap Symbol.char?
  let rest := (symbols.drop digits.length).dropWhile Symbol.isBlank
  let n := numeral 10 digits
  (if digits ≠ [] ∧ n < boundValues then some n else none, rest)

/-- The bounds of a quantifier after its opening brace, and the symbols after its closing one. -/
def bounds? (extended : Bool) (symbols : List Symbol) :
    Option ((Nat × Option Nat) × List Symbol) :=
  match decimal (Symbol.skipBlanks extended symbols) with
  | (some lo, .written '\x7d' :: rest) => some ((lo, some lo), rest)
  | (some lo, .written ',' :: rest) =>
    match Symbol.skipBlanks extended rest with
    | .written '\x7d' :: rest => some ((lo, none), rest)
    | rest =>
      match decimal rest with
      | (some hi, .written '\x7d' :: rest) => if lo ≤ hi then some ((lo, some hi), rest) else none
      | _ => none
  | _ => none

/-- The bounds of the quantifier that the symbols begin with, and the symbols after it; `none` if
there is no quantifier, and no bounds if it is malformed. -/
def quantifier? (extended : Bool) :
    List Symbol → Option (Option ((Nat × Option Nat) × List Symbol))
  | .written '?' :: rest => some (some ((0, some 1), rest))
  | .written '*' :: rest => some (some ((0, none), rest))
  | .written '+' :: rest => some (some ((1, none), rest))
  | .written '\x7b' :: rest =>
    some ((bounds? extended rest).map fun (b, rest) => (b, Symbol.skipBlanks extended rest))
  | _ => none

/-- How the flags of a group end. -/
inductive FlagsEnd where
  /-- The flags hold from here on. -/
  | set (f : PlainFlags)
  /-- The flags hold for the group whose content begins here. -/
  | scoped (f : PlainFlags)

/-- The flags of a group up to their end; `seen` are the letters and signs before. A letter may not
stand twice, and a sign not at the end. -/
def flags? (f : PlainFlags) (value : Bool) (seen : List Char) :
    List Symbol → Option (FlagsEnd × List Symbol)
  | .written c :: rest =>
    if c = ')' ∨ c = ':' then
      if seen.head? = some '-' ∨ c = ')' ∧ seen = [] then none
      else some (if c = ')' then .set f else .scoped f, rest)
    else if c ∈ seen then none
    else if c = '-' then flags? f false (c :: seen) rest
    else (f.set? value c).bind fun f => flags? f value (c :: seen) rest
  | _ => none

/-- A group name up to its closing bracket, and the symbols after it. -/
def name? : List Symbol → Option (List Char × List Symbol)
  | symbols =>
    let inside := symbols.takeWhile (· ≠ .written '>')
    let name := inside.filterMap Symbol.char?
    let isLater c := c = '_' || c = '.' || c = '[' || c = ']' || Unicode.isAlphanumeric c
    match name, symbols.drop inside.length with
    | first :: later, _ :: rest =>
      if inside.length = name.length && (first = '_' || Unicode.isAlphabetic first) &&
        later.all isLater then some (name, rest) else none
    | _, _ => none

/-- What opens a group. -/
inductive Opening where
  | capture (name : Option (List Char))
  | scoped (f : PlainFlags)
  | flags (f : PlainFlags)

/-- What stands between an opening parenthesis and the content of the group, and the symbols from
there on. Nothing can be looked at ahead or behind. -/
def opening? (f : PlainFlags) (symbols : List Symbol) : Option (Opening × List Symbol) :=
  match symbols with
  | .written '?' :: .written 'P' :: .written '<' :: rest =>
    (name? rest).map fun (name, rest) => (.capture (some name), rest)
  | .written '?' :: .written '<' :: rest =>
    (name? rest).map fun (name, rest) => (.capture (some name), rest)
  | .written '?' :: rest =>
    (flags? f true [] rest).map fun (flagsEnd, rest) =>
      match flagsEnd with
      | .set f => (.flags f, rest)
      | .scoped f => (.scoped f, rest)
  | _ => some (.capture none, symbols)

/-- The condition of a sign. -/
def lineAnchor (f : PlainFlags) (start : Bool) : Anchor :=
  match f.multiline, f.anyLineEnd with
  | false, _ => if start then .textStart else .textStop
  | true, false => if start then .lineStart else .lineStop
  | true, true => if start then .anyLineStart else .anyLineStop

/-- What `.` matches; with ASCII only it has no meaning. -/
def dotSet? (f : PlainFlags) : Option CharSet :=
  if f.ascii then none
  else if f.dotNewline then some .full
  else some (CharSet.ofChars (if f.anyLineEnd then ['\n', '\r'] else ['\n'])).compl

/-- A symbol on its own, outside classes. -/
def single? (f : PlainFlags) : Symbol → Option Item
  | .written '.' => (dotSet? f).map fun s => ⟨.set s, 0, true⟩
  | .written '^' => some ⟨.anchor (lineAnchor f true), 0, true⟩
  | .written '$' => some ⟨.anchor (lineAnchor f false), 0, true⟩
  | .written c | .escaped c => some ⟨.ofSet (fold f (CharSet.singleton c)), 0, true⟩
  | .named negated s =>
    (s.set? f negated).map fun s => ⟨.ofSet (Regular.charactersOf s), 0, true⟩

mutual

/-- Alternatives up to the end of their group, and the symbols from there on. -/
def alternatives? : (fuel : Nat) → PlainReader → List Symbol →
    Option (Item × PlainReader × List Symbol)
  | 0, _, _ => none
  | fuel + 1, r, symbols => do
    let (items, r, rest) ← choices? fuel r symbols
    return (.oneOf items, r, rest)

/-- Every alternative up to the end of their group. -/
def choices? : (fuel : Nat) → PlainReader → List Symbol →
    Option (List Item × PlainReader × List Symbol)
  | 0, _, _ => none
  | fuel + 1, r, symbols => do
    let (items, r, rest) ← items? fuel r [] symbols
    match rest with
    | .written '|' :: rest =>
      let (others, r, rest) ← choices? fuel r rest
      return (.sequence items :: others, r, rest)
    | _ => return ([.sequence items], r, rest)

/-- Items in sequence after those read (the last one first), and the symbols after them. -/
def items? : (fuel : Nat) → PlainReader → List Item → List Symbol →
    Option (List Item × PlainReader × List Symbol)
  | 0, _, _, _ => none
  | fuel + 1, r, before, symbols => do
    let symbols := Symbol.skipBlanks r.flags.extended symbols
    match quantifier? r.flags.extended symbols with
    | some quantifier =>
      let ((lo, hi), rest) ← quantifier
      let (lazily, rest) := match rest with
        | .written '?' :: rest => (true, rest)
        | _ => (false, rest)
      match before with
      | item :: before =>
        if item.repeatable then
          items? fuel r (item.times lo hi (lazily == r.flags.swapGreed) :: before) rest
        else none
      | [] => none
    | none =>
      match symbols with
      | [] | .written '|' :: _ | .written ')' :: _ => return (before.reverse, r, symbols)
      | .written '(' :: rest =>
        let (item, r, rest) ← group? fuel r rest
        items? fuel r (item :: before) rest
      | .written '[' :: rest =>
        let (s, rest) ← bracketClass? r.flags (2 * rest.length + 2) rest
        items? fuel r (⟨.ofSet (Regular.charactersOf s.set), s.depth, true⟩ :: before) rest
      | first :: rest =>
        let item ← single? r.flags first
        items? fuel r (item :: before) rest

/-- A group after its opening parenthesis, and the symbols after its closing one. -/
def group? : (fuel : Nat) → PlainReader → List Symbol →
    Option (Item × PlainReader × List Symbol)
  | 0, _, _ => none
  | fuel + 1, r, symbols => do
    let symbols := Symbol.skipBlanks r.flags.extended symbols
    let content (inside : PlainReader) (rest : List Symbol) (wrap : Regular → Regular) := do
      let (item, last, rest) ← alternatives? fuel inside rest
      match rest with
      | .written ')' :: rest => return (item.enclosed wrap, { last with flags := r.flags }, rest)
      | _ => none
    match ← opening? r.flags symbols with
    | (.flags f, rest) => return (.nothing, { r with flags := f }, rest)
    | (.scoped f, rest) => content { r with flags := f } rest id
    | (.capture name, rest) =>
      if name.any r.names.contains then none
      else
        let number := r.opened + 1
        content { r with opened := number, names := name.toList ++ r.names } rest (.group number)

end

end PlainReader

/-- The regular expression that symbols write. -/
def Regular.ofSymbols? (symbols : List Symbol) : Option Regular :=
  match PlainReader.alternatives? (4 * symbols.length + 8) {} symbols with
  | some (item, _, []) => if item.depth ≤ nestingLimit then some item.value else none
  | _ => none

end PatternSession.Regex
