import PatternSession.Numeral
import PatternSession.Regex.Symbol

/-!
# Patterns as expressions

`Expr` is the tree of a pattern. Capture groups carry their numbers, which count opening parentheses
from 1; number 0 is kept for the whole match. Classes are kept as they are written, in the plain
form of `Symbol`; what they mean is decided when the plain form is read.

**Size.** `minSize` is the least number of characters that an expression matches, and `constSize`
says whether every match has that many. Both are computed from the shape alone.

**Backtracking.** `needsBacktracking` tells the expressions that depend on something else than the
characters ahead: references, look-around, atomic groups, conditionals and word boundaries. All
others are matched without backtracking.
-/

namespace PatternSession.Regex

/-- A condition on a position. -/
inductive Anchor where
  | textStart
  | textStop
  | lineStart
  | lineStop
  /-- The beginning of a line, where a carriage return ends a line too, alone or before a
  newline. -/
  | anyLineStart
  /-- The end of such a line. -/
  | anyLineStop
  | wordBoundary
  | notWordBoundary
  | wordStart
  | wordStop
  deriving DecidableEq

/-- Does the condition look at word characters? -/
def Anchor.looksAtWords : Anchor → Bool
  | .wordBoundary | .notWordBoundary | .wordStart | .wordStop => true
  | .textStart | .textStop | .lineStart | .lineStop | .anyLineStart | .anyLineStop => false

/-- A look at what is ahead or behind, which has to be there or has not to be there. -/
inductive Look where
  | ahead
  | notAhead
  | behind
  | notBehind
  deriving DecidableEq

/-- The most rounds of a repetition that can be counted. As an upper bound this number is none. -/
def maxRounds : Nat := wordValues - 1

/-- A pattern. -/
inductive Expr where
  /-- Matches the empty text. -/
  | empty
  /-- Any character; a newline only if `newline`. -/
  | any (newline : Bool)
  | anchor (a : Anchor)
  | char (c : Char) (ignoreCase : Bool)
  /-- A class, written in the plain form. -/
  | piece (symbols : List Symbol) (ignoreCase : Bool)
  | concat (es : List Expr)
  /-- The first alternative that leads to a match. -/
  | alt (es : List Expr)
  | group (number : Nat) (e : Expr)
  | look (kind : Look) (e : Expr)
  /-- At least `lo` and at most `hi` times, as often as possible if `greedy`. -/
  | repeated (e : Expr) (lo : Nat) (hi : Option Nat) (greedy : Bool)
  /-- The text of a group. -/
  | reference (number : Nat)
  /-- The first match of the expression and no other. -/
  | atomic (e : Expr)
  /-- Moves the start of the whole match here. -/
  | keepOut
  /-- Holds where the search began. -/
  | searchStart
  /-- Holds if the group took part. -/
  | groupTaken (number : Nat)
  | conditional (condition ifTrue ifFalse : Expr)

namespace Expr

/-- Is this the expression of the empty text? -/
def isEmpty : Expr → Bool
  | empty => true
  | _ => false

/-- May a repetition follow? Nothing that stands for a position alone is repeated. -/
def isRepeatable : Expr → Bool
  | empty | anchor _ | look _ _ => false
  | _ => true

mutual

/-- The least number of characters of a match. -/
def minSize : Expr → Nat
  | empty | anchor _ | look _ _ | reference _ | keepOut | searchStart | groupTaken _ => 0
  | any _ | char _ _ | piece _ _ => 1
  | concat es => minSizeSum es
  | alt es => minSizeLeast es
  | group _ e | atomic e => e.minSize
  | repeated e lo _ _ => e.minSize * lo
  | conditional c t f => c.minSize + min t.minSize f.minSize

/-- The sum of the least sizes. -/
def minSizeSum : List Expr → Nat
  | [] => 0
  | e :: es => e.minSize + minSizeSum es

/-- The smallest of the least sizes. -/
def minSizeLeast : List Expr → Nat
  | [] => 0
  | [e] => e.minSize
  | e :: es => min e.minSize (minSizeLeast es)

end

mutual

/-- Does every match have the least size? -/
def constSize : Expr → Bool
  | empty | any _ | anchor _ | char _ _ | piece _ _ | look _ _ | keepOut | searchStart
  | groupTaken _ => true
  | reference _ => false
  | concat es => constSizeAll es
  | alt es => constSizeAll es && es.all fun e => e.minSize = minSizeLeast es
  | group _ e | atomic e => e.constSize
  | repeated e lo hi _ => e.constSize && hi.getD maxRounds = lo
  | conditional c t f =>
    c.constSize && t.constSize && f.constSize && c.minSize + t.minSize = f.minSize

/-- Do all expressions have a constant size? -/
def constSizeAll : List Expr → Bool
  | [] => true
  | e :: es => e.constSize && constSizeAll es

end

mutual

/-- Does the expression need backtracking? -/
def needsBacktracking : Expr → Bool
  | empty | any _ | char _ _ | piece _ _ => false
  | anchor a => a.looksAtWords
  | concat es | alt es => someNeedsBacktracking es
  | group _ e | repeated e _ _ _ => e.needsBacktracking
  | look _ _ | reference _ | atomic _ | keepOut | searchStart | groupTaken _
  | conditional _ _ _ => true

/-- Does one of the expressions need backtracking? -/
def someNeedsBacktracking : List Expr → Bool
  | [] => false
  | e :: es => e.needsBacktracking || someNeedsBacktracking es

end

mutual

/-- The number of groups opened after the expression, the whole match included, if `opened` are
opened before it. `none` if it refers to a group that is not opened yet. -/
def openedAfter? (opened : Nat) : Expr → Option Nat
  | empty | any _ | anchor _ | char _ _ | piece _ _ | keepOut | searchStart => some opened
  | reference number | groupTaken number => if number < opened then some opened else none
  | concat es | alt es => openedAfterAll? opened es
  | group _ e => e.openedAfter? (opened + 1)
  | look _ e | atomic e | repeated e _ _ _ => e.openedAfter? opened
  | conditional c t f =>
    ((c.openedAfter? opened).bind fun n => t.openedAfter? n).bind fun n => f.openedAfter? n

/-- The same for expressions in sequence. -/
def openedAfterAll? (opened : Nat) : List Expr → Option Nat
  | [] => some opened
  | e :: es => (e.openedAfter? opened).bind fun n => openedAfterAll? n es

end

mutual

/-- The numbers of the groups in the expression. -/
def groups : Expr → List Nat
  | empty | any _ | anchor _ | char _ _ | piece _ _ | reference _ | keepOut | searchStart
  | groupTaken _ => []
  | concat es | alt es => groupsAll es
  | group number e => number :: e.groups
  | look _ e | atomic e | repeated e _ _ _ => e.groups
  | conditional c t f => c.groups ++ t.groups ++ f.groups

/-- The numbers of the groups in the expressions. -/
def groupsAll : List Expr → List Nat
  | [] => []
  | e :: es => e.groups ++ groupsAll es

end

mutual

/-- The characters of an expression that is nothing but characters. -/
def literal? : Expr → Option (List Char)
  | char c false => some [c]
  | concat es => literalAll? es
  | _ => none

/-- The characters of expressions that are nothing but characters. -/
def literalAll? : List Expr → Option (List Char)
  | [] => some []
  | e :: es => (literal? e).bind fun cs => (literalAll? es).map (cs ++ ·)

end

end Expr

end PatternSession.Regex
