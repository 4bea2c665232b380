import PatternSession.CharSet
import PatternSession.Regex.Expr

/-!
# Regular expressions

A `Regular` is what the plain form stands for: an expression that an automaton can match. Cases and
flags are resolved; a text is characters that stand for themselves.

**Simple form.** The functions `ofSet`, `times`, `sequence` and `oneOf` build a `Regular` that is no
larger than need be: nothing is repeated that cannot take a character, sequences and alternatives do
not stand directly inside each other, texts in sequence are one text, alternatives of one character
each are a set, and what all alternatives begin with comes before them. What falls away takes its
groups with it.

**Lengths** are counted in bytes of the UTF-8 form.
-/

namespace PatternSession.Regex

/-- A regular expression. -/
inductive Regular where
  | empty
  /-- Characters in sequence, at least one. -/
  | text (cs : List Char)
  | set (s : CharSet)
  | anchor (a : Anchor)
  /-- At least `lo` and at most `hi` times, as often as possible if `greedy`. -/
  | repeated (e : Regular) (lo : Nat) (hi : Option Nat) (greedy : Bool)
  | group (number : Nat) (e : Regular)
  | concat (es : List Regular)
  /-- The first alternative that leads to a match. -/
  | alt (es : List Regular)
  deriving BEq

/-- The number of bytes of a scalar value. -/
def scalarSize (n : Nat) : Nat :=
  if n < 0x80 then 1 else if n < 0x800 then 2 else if n < 0x10000 then 3 else 4

namespace Regular

/-- The expression that matches nothing. -/
def fail : Regular := .set .empty

/-- A text, which may be empty. -/
def ofChars (cs : List Char) : Regular := if cs = [] then .empty else .text cs

/-- A sum, if both numbers are known. -/
def addLengths (a b : Option Nat) : Option Nat := a.bind fun m => b.map fun n => m + n

mutual

/-- The least length of a match; `none` if there may be no match. -/
def minLength : Regular → Option Nat
  | empty | anchor _ => some 0
  | text cs => some ((cs.map Char.utf8Size).foldl (· + ·) 0)
  | set s => s.ranges[0]?.map fun r => scalarSize r.1
  | repeated e lo _ _ => e.minLength.map fun n => n * lo
  | group _ e => e.minLength
  | concat es => minLengthSum es
  | alt es => minLengthLeast es

/-- The sum of the least lengths. -/
def minLengthSum : List Regular → Option Nat
  | [] => some 0
  | e :: es => addLengths e.minLength (minLengthSum es)

/-- The smallest of the least lengths. -/
def minLengthLeast : List Regular → Option Nat
  | [] => none
  | [e] => e.minLength
  | e :: es => e.minLength.bind fun m => (minLengthLeast es).map fun n => min m n

end

mutual

/-- The greatest length of a match; `none` if there is no bound, or no match. -/
def maxLength : Regular → Option Nat
  | empty | anchor _ => some 0
  | text cs => some ((cs.map Char.utf8Size).foldl (· + ·) 0)
  | set s => s.ranges.back?.map fun r => scalarSize r.2
  | repeated e _ hi _ => hi.bind fun m => e.maxLength.map fun n => n * m
  | group _ e => e.maxLength
  | concat es => maxLengthSum es
  | alt es => maxLengthMost es

/-- The sum of the greatest lengths. -/
def maxLengthSum : List Regular → Option Nat
  | [] => some 0
  | e :: es => addLengths e.maxLength (maxLengthSum es)

/-- The largest of the greatest lengths. -/
def maxLengthMost : List Regular → Option Nat
  | [] => none
  | [e] => e.maxLength
  | e :: es => e.maxLength.bind fun m => (maxLengthMost es).map fun n => max m n

end

/-! ## Building in simple form -/

/-- The set without scalar values that are no characters. -/
def charactersOf (s : CharSet) : CharSet :=
  s.diff (CharSet.ofRanges [(0xD800, 0xDFFF)])

/-- A character of a set. -/
def ofSet (s : CharSet) : Regular :=
  match s.ranges.toList with
  | [(lo, hi)] => if lo = hi then .text [Char.ofNat lo] else .set s
  | _ => .set s

/-- A repetition. What takes no characters is done once at most. -/
def times (e : Regular) (lo : Nat) (hi : Option Nat) (greedy : Bool) : Regular :=
  let (lo, hi) := if e.maxLength = some 0 then (min lo 1, some (min (hi.getD 1) 1)) else (lo, hi)
  if lo = 0 ∧ hi = some 0 then .empty
  else if lo = 1 ∧ hi = some 1 then e
  else .repeated e lo hi greedy

/-- The parts of a sequence, with sequences inside it taken apart. -/
def partsOf : List Regular → List Regular
  | [] => []
  | .concat es :: rest => es ++ partsOf rest
  | .empty :: rest => partsOf rest
  | e :: rest => e :: partsOf rest

/-- Texts that follow each other as one text. -/
def joinTexts : List Regular → List Regular
  | [] => []
  | .text cs :: rest =>
    match joinTexts rest with
    | .text ds :: rest => .text (cs ++ ds) :: rest
    | rest => .text cs :: rest
  | e :: rest => e :: joinTexts rest

/-- Expressions in sequence. -/
def sequence (es : List Regular) : Regular :=
  match joinTexts (partsOf es) with
  | [] => .empty
  | [e] => e
  | es => .concat es

/-- Alternatives, with alternatives inside them taken apart. -/
def choicesOf : List Regular → List Regular
  | [] => []
  | .alt es :: rest => es ++ choicesOf rest
  | e :: rest => e :: choicesOf rest

/-- The characters of alternatives that are one character each. -/
def singleChars? : List Regular → Option (List Char)
  | [] => some []
  | .text [c] :: rest => (singleChars? rest).map (c :: ·)
  | _ => none

/-- The union of alternatives that are sets. -/
def unionOfSets? : List Regular → Option CharSet
  | [] => some .empty
  | .set s :: rest => (unionOfSets? rest).map s.union
  | _ => none

/-- The parts of alternatives that are sequences. -/
def sequences? : List Regular → Option (List (List Regular))
  | [] => some []
  | .concat es :: rest => (sequences? rest).map (es :: ·)
  | _ => none

/-- What both lists begin with. -/
def commonStart : List Regular → List Regular → List Regular
  | e :: es, f :: fs => if e == f then e :: commonStart es fs else []
  | _, _ => []

/-- What all sequences begin with, and the rests. -/
def splitCommonStart : List (List Regular) → List Regular × List (List Regular)
  | [] => ([], [])
  | first :: rest =>
    let common := rest.foldl commonStart first
    (common, (first :: rest).map fun es => es.drop common.length)

/-- Alternatives; what they begin with is taken out at most `fuel` times. -/
def oneOfWithin : (fuel : Nat) → List Regular → Regular
  | fuel, es =>
    match choicesOf es with
    | [] => fail
    | [e] => e
    | es =>
      match singleChars? es, unionOfSets? es with
      | some cs, _ => ofSet (.ofChars cs)
      | none, some s => ofSet s
      | none, none =>
        match fuel, (sequences? es).map splitCommonStart with
        | fuel + 1, some (e :: common, rests) =>
          sequence (e :: common ++ [oneOfWithin fuel (rests.map sequence)])
        | _, _ => .alt es

mutual

/-- The number of parts. -/
def weight : Regular → Nat
  | empty | text _ | set _ | anchor _ => 1
  | repeated e _ _ _ | group _ e => e.weight + 1
  | concat es | alt es => weightSum es + 1

/-- The number of parts of expressions. -/
def weightSum : List Regular → Nat
  | [] => 0
  | e :: es => e.weight + weightSum es

end

/-- Alternatives. Every part that is taken out of them makes them lighter. -/
def oneOf (es : List Regular) : Regular := oneOfWithin (weightSum es) es

/-! ## What a match looks at -/

mutual

/-- The conditions that hold at the beginning of every match, as far as the shape shows. A
repetition shows none. -/
def startAnchors : Regular → List Anchor
  | anchor a => [a]
  | group _ e => e.startAnchors
  | repeated e lo _ _ => if 0 < lo then e.startAnchors else []
  | concat es => startAnchorsOfSequence es
  | alt es => startAnchorsOfChoice es
  | empty | text _ | set _ => []

/-- The same for a sequence: the conditions before the first part that may take a character, and
those of this part. -/
def startAnchorsOfSequence : List Regular → List Anchor
  | [] => []
  | e :: es =>
    e.startAnchors ++ if e.maxLength = some 0 then startAnchorsOfSequence es else []

/-- The same for alternatives: the conditions of all. -/
def startAnchorsOfChoice : List Regular → List Anchor
  | [] => []
  | [e] => e.startAnchors
  | e :: es => e.startAnchors.filter (startAnchorsOfChoice es).contains

end

mutual

/-- The expression read from its end: its parts in reverse order. -/
def mirrored : Regular → Regular
  | repeated e lo hi greedy => .repeated e.mirrored lo hi greedy
  | group n e => .group n e.mirrored
  | concat es => .concat (mirroredAll es).reverse
  | alt es => .alt (mirroredAll es)
  | text cs => .text cs
  | set s => .set s
  | anchor a => .anchor a
  | empty => .empty

/-- The expressions, each read from its end. -/
def mirroredAll : List Regular → List Regular
  | [] => []
  | e :: es => e.mirrored :: mirroredAll es

end

/-- Does every match begin where the text begins? -/
def startsText (e : Regular) : Bool := e.startAnchors.contains .textStart

/-- Does every match end where the text ends? -/
def stopsText (e : Regular) : Bool := e.mirrored.startAnchors.contains .textStop

mutual

/-- Does the expression look at a position? -/
def hasAnchor : Regular → Bool
  | anchor _ => true
  | repeated e _ _ _ | group _ e => e.hasAnchor
  | concat es | alt es => someHasAnchor es
  | empty | text _ | set _ => false

/-- Does one of the expressions look at a position? -/
def someHasAnchor : List Regular → Bool
  | [] => false
  | e :: es => e.hasAnchor || someHasAnchor es

end

mutual

/-- The numbers of the groups. -/
def groups : Regular → List Nat
  | group number e => number :: e.groups
  | repeated e _ _ _ => e.groups
  | concat es | alt es => groupsAll es
  | empty | text _ | set _ | anchor _ => []

/-- The numbers of the groups in the expressions. -/
def groupsAll : List Regular → List Nat
  | [] => []
  | e :: es => e.groups ++ groupsAll es

end

end Regular

end PatternSession.Regex
