import PatternSession.Regex.Flags
import PatternSession.Regex.Regular.Blanks
import PatternSession.Unicode.CaseFolding
import PatternSession.Unicode.Property

/-!
# Classes in the plain form

A class is a set of characters between brackets. `bracketClass?` reads one from its opening bracket
on, and tells how deeply it nests.

**Union.** Parts side by side are united: characters, ranges, named sets, nested classes and, inside
a class, the POSIX names, which are ASCII.

**Operators.** `&&`, `--` and `~~` take the part of the class up to them as their left side and the
part up to the next operator as their right side.

**Literal brackets and dashes.** A closing bracket is literal as the first part, a dash is literal
before any other part and before the closing bracket or another dash. Whatever else follows a dash
is the end of a range, an opening bracket too.

**Case.** Without regard to case, a set is closed under case before it is complemented and before it
is an operand.
-/

namespace PatternSession.Regex

/-- The operators of a class. -/
inductive ClassOperator where
  | inter
  | diff
  | symmDiff

def ClassOperator.apply : ClassOperator → CharSet → CharSet → CharSet
  | inter => CharSet.inter
  | diff => CharSet.diff
  | symmDiff => CharSet.symmDiff

/-- The characters of a POSIX name. -/
def posixSet? : String → Option CharSet
  | "alnum" => some (CharSet.ofRanges [(0x30, 0x39), (0x41, 0x5A), (0x61, 0x7A)])
  | "alpha" => some (CharSet.ofRanges [(0x41, 0x5A), (0x61, 0x7A)])
  | "ascii" => some (CharSet.ofRanges [(0, 0x7F)])
  | "blank" => some (CharSet.ofRanges [(0x09, 0x09), (0x20, 0x20)])
  | "cntrl" => some (CharSet.ofRanges [(0, 0x1F), (0x7F, 0x7F)])
  | "digit" => some (CharSet.ofRanges [(0x30, 0x39)])
  | "graph" => some (CharSet.ofRanges [(0x21, 0x7E)])
  | "lower" => some (CharSet.ofRanges [(0x61, 0x7A)])
  | "print" => some (CharSet.ofRanges [(0x20, 0x7E)])
  | "punct" =>
    some (CharSet.ofRanges [(0x21, 0x2F), (0x3A, 0x40), (0x5B, 0x60), (0x7B, 0x7E)])
  | "space" => some (CharSet.ofRanges [(0x09, 0x0D), (0x20, 0x20)])
  | "upper" => some (CharSet.ofRanges [(0x41, 0x5A)])
  | "word" =>
    some (CharSet.ofRanges [(0x30, 0x39), (0x41, 0x5A), (0x5F, 0x5F), (0x61, 0x7A)])
  | "xdigit" => some (CharSet.ofRanges [(0x30, 0x39), (0x41, 0x46), (0x61, 0x66)])
  | _ => none

/-- The set with the other cases of its characters, of ASCII letters only under `ascii`. -/
def fold (f : PlainFlags) (s : CharSet) : CharSet :=
  if !f.ignoreCase then s
  else if f.ascii then
    let letters lo hi move := (s.inter (CharSet.ofRanges [(lo, hi)])).ranges.toList.map move
    CharSet.ofRanges <| s.ranges.toList ++
      letters 0x41 0x5A (fun r => (r.1 + 0x20, r.2 + 0x20)) ++
      letters 0x61 0x7A (fun r => (r.1 - 0x20, r.2 - 0x20))
  else Unicode.closeUnderCase s

/-- The set with the other cases of its characters, or all other characters if it is negated. With
ASCII only there is no such set. -/
def foldAndNegate? (f : PlainFlags) (negated : Bool) (s : CharSet) : Option CharSet :=
  if !negated then some (fold f s)
  else if f.ascii then none
  else some (fold f s).compl

/-- May the character stand in a class? -/
def isClassChar (f : PlainFlags) (c : Char) : Bool := !f.ascii || c.toNat < 128

/-- The name of a property without an exclamation mark before the equality sign, which has no
meaning. -/
def propertyWithoutSign (name : List Char) : List Char :=
  match name.span fun c => c ≠ '!' with
  | (kind, '!' :: '=' :: value) => kind ++ '=' :: value
  | _ => name

/-- The characters of a named set. -/
def NamedSet.set? (f : PlainFlags) (negated : Bool) (s : NamedSet) : Option CharSet :=
  if f.ascii then
    let positive := match s with
      | digit => posixSet? "digit"
      | space => posixSet? "space"
      | word => posixSet? "word"
      | property _ => none
    if negated then none else positive
  else
    let negate (s : CharSet) := if negated then s.compl else s
    match s with
    | digit => some (negate Unicode.digit)
    | space => some (negate Unicode.space)
    | word => some (negate Unicode.word)
    | property name =>
      (Unicode.property? (propertyWithoutSign name)).map fun s => negate (fold f s)

/-- The characters as written up to the first colon, and the symbols from the colon on. -/
def untilColon : List Symbol → Option (List Char × List Symbol)
  | [] => none
  | .written ':' :: rest => some ([], .written ':' :: rest)
  | .written c :: rest => (untilColon rest).map fun (cs, rest) => (c :: cs, rest)
  | _ => none

/-- A POSIX name with its colons, after the opening bracket: whether it is negated, its characters,
and the symbols after it. -/
def posixClass? (symbols : List Symbol) : Option (Bool × CharSet × List Symbol) :=
  match symbols with
  | .written ':' :: rest =>
    let (negated, rest) := match rest with
      | .written '^' :: rest => (true, rest)
      | _ => (false, rest)
    match untilColon rest with
    | some (name, .written ':' :: .written ']' :: rest) =>
      (posixSet? (String.ofList name)).map fun s => (negated, s, rest)
    | _ => none
  | _ => none

/-- What the symbols read so far in one class denote. -/
structure ClassProgress where
  /-- The left side of an operator that waits for its right side. -/
  pending : Option (ClassOperator × CharSet) := none
  /-- How deeply the left side nests. -/
  pendingDepth : Nat := 0
  /-- The ranges since the last operator. -/
  ranges : List (Nat × Nat) := []
  /-- The number of parts since the last operator. -/
  parts : Nat := 0
  /-- How deeply these parts nest. -/
  depth : Nat := 0

namespace ClassProgress

/-- One more part, which is a set. -/
def add (p : ClassProgress) (s : CharSet) (depth : Nat) : ClassProgress :=
  { p with
    ranges := s.ranges.toList ++ p.ranges
    parts := p.parts + 1
    depth := max p.depth depth }

/-- One more part, which is a range. -/
def addRange (p : ClassProgress) (a b : Char) : ClassProgress :=
  { p with ranges := (a.toNat, b.toNat) :: p.ranges, parts := p.parts + 1 }

/-- The set so far; operands are closed under case if case is ignored. -/
def value (f : PlainFlags) (p : ClassProgress) : CharSet :=
  let right := CharSet.ofRanges p.ranges
  match p.pending with
  | none => right
  | some (op, left) => op.apply (fold f left) (fold f right)

/-- How deeply the set so far nests: a union and an operator are one level each. -/
def valueDepth (p : ClassProgress) : Nat :=
  let right := if 1 < p.parts then p.depth + 1 else p.depth
  match p.pending with
  | none => right
  | some _ => max p.pendingDepth right + 1

/-- An operator was read: what is at hand becomes its left side. -/
def operator (f : PlainFlags) (op : ClassOperator) (p : ClassProgress) : ClassProgress :=
  { pending := some (op, p.value f), pendingDepth := p.valueDepth }

end ClassProgress

/-- The character that a symbol stands for. -/
def Symbol.char? : Symbol → Option Char
  | written c | escaped c => some c
  | named _ _ => none

/-- The set that a symbol stands for on its own. -/
def Symbol.set? (f : PlainFlags) : Symbol → Option CharSet
  | written c | escaped c => if isClassChar f c then some (CharSet.singleton c) else none
  | named negated s => s.set? f negated

/-- A range between two characters, after the first one and the dash. -/
def classRange? (f : PlainFlags) (p : ClassProgress) (first : Symbol) :
    List Symbol → Option (ClassProgress × List Symbol)
  | [] => none
  | last :: rest =>
    match first.char?, last.char? with
    | some a, some b =>
      if a ≤ b ∧ isClassChar f a ∧ isClassChar f b then some (p.addRange a b, rest) else none
    | _, _ => none

/-- One character, named set or range, and the symbols after it. -/
def classItem? (f : PlainFlags) (p : ClassProgress) (first : Symbol) (rest : List Symbol) :
    Option (ClassProgress × List Symbol) :=
  let rest := Symbol.skipBlanks f.extended rest
  let alone := (first.set? f).map fun s => (p.add s 0, rest)
  match rest with
  | .written '-' :: afterDash =>
    match Symbol.skipBlanks f.extended afterDash with
    | .written ']' :: _ | .written '-' :: _ => alone
    | afterDash => classRange? f p first afterDash
  | _ => alone

/-- The dashes that a class begins with, and the symbols after them. -/
def leadingDashes (f : PlainFlags) (p : ClassProgress) : (fuel : Nat) → List Symbol →
    ClassProgress × List Symbol
  | fuel + 1, .written '-' :: rest =>
    leadingDashes f (p.addRange '-' '-') fuel (Symbol.skipBlanks f.extended rest)
  | _, symbols => (p, symbols)

/-- The dashes that a class begins with, or the closing bracket that is literal because it comes
first, and the symbols after them. -/
def classOpening (f : PlainFlags) : List Symbol → ClassProgress × List Symbol
  | .written ']' :: rest => (ClassProgress.addRange {} ']' ']', rest)
  | symbols => leadingDashes f {} symbols.length symbols

/-- A set with the depth of its notation. -/
structure NestedSet where
  set : CharSet
  depth : Nat

mutual

/-- A class after its opening bracket, and the symbols after its closing bracket. -/
def bracketClass? (f : PlainFlags) :
    (fuel : Nat) → List Symbol → Option (NestedSet × List Symbol)
  | 0, _ => none
  | fuel + 1, symbols => do
    let (negated, symbols) := match Symbol.skipBlanks f.extended symbols with
      | .written '^' :: rest => (true, Symbol.skipBlanks f.extended rest)
      | symbols => (false, symbols)
    let (progress, symbols) := classOpening f symbols
    let (s, rest) ← classItems? f fuel progress symbols
    return (⟨← foldAndNegate? f negated s.set, s.depth + 1⟩, rest)

/-- The rest of a class, up to its closing bracket. -/
def classItems? (f : PlainFlags) :
    (fuel : Nat) → ClassProgress → List Symbol → Option (NestedSet × List Symbol)
  | 0, _, _ => none
  | fuel + 1, p, symbols =>
    match Symbol.skipBlanks f.extended symbols with
    | [] => none
    | .written ']' :: rest => some (⟨p.value f, p.valueDepth⟩, rest)
    | .written '[' :: rest =>
      match posixClass? rest with
      | some (negated, s, rest) =>
        (foldAndNegate? f negated s).bind fun s => classItems? f fuel (p.add s 0) rest
      | none =>
        (bracketClass? f fuel rest).bind fun (s, rest) =>
          classItems? f fuel (p.add s.set s.depth) rest
    | .written '&' :: .written '&' :: rest => classItems? f fuel (p.operator f .inter) rest
    | .written '-' :: .written '-' :: rest => classItems? f fuel (p.operator f .diff) rest
    | .written '~' :: .written '~' :: rest => classItems? f fuel (p.operator f .symmDiff) rest
    | first :: rest =>
      (classItem? f p first rest).bind fun (p, rest) => classItems? f fuel p rest

end

end PatternSession.Regex
