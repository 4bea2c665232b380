import PatternSession.CharSet
import PatternSession.Numeral

/-!
# Tables as runs

Tables of characters are kept as texts of numbers: runs of characters that are alike, in the order
of their scalar values. A table of a set tells the lengths of the gaps and of the runs in turn. A
table of values tells for every run its value and its length. Tables are read when they are needed.
-/

namespace PatternSession.Unicode

/-- The words of a text in lines, which blanks separate. A line may end inside a word. -/
def wordsOf (lines : List String) : List String :=
  (((lines.flatMap (·.toList)).splitOn ' ').filter (· ≠ [])).map String.ofList

/-- The ranges that are told by lengths in turn: characters outside, characters inside, and so on,
from `start` on. -/
def rangesOfRuns (start : Nat) : List Nat → List (Nat × Nat)
  | gap :: len :: rest =>
    (start + gap, start + gap + len - 1) :: rangesOfRuns (start + gap + len) rest
  | _ => []

/-- The set that a table of lengths tells. -/
def setOfRuns (lines : List String) : CharSet :=
  CharSet.ofRanges (rangesOfRuns 0 ((wordsOf lines).map fun word => numeral 10 word.toList))

/-- The runs of a table of values, each with its value and its length. -/
def runsOf (lines : List String) : List (List Char × Nat) :=
  (wordsOf lines).map fun word =>
    let (value, digits) := word.toList.span fun c => !c.isDigit
    (value, numeral 10 digits)

/-- Every run with the range of its scalar values, the first one beginning at `start`. -/
def placeRuns {α : Type} (start : Nat) : List (α × Nat) → List ((Nat × Nat) × α)
  | [] => []
  | (a, len) :: rest => ((start, start + len - 1), a) :: placeRuns (start + len) rest

/-- The characters whose value in a table passes a test. -/
def setOfValues (lines : List String) (test : List Char → Bool) : CharSet :=
  CharSet.ofRanges <| (placeRuns 0 (runsOf lines)).filterMap fun (r, value) =>
    if test value then some r else none

end PatternSession.Unicode
