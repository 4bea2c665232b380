/-!
# Sets of characters

A `CharSet` is a set of characters as ranges of scalar values, sorted, disjoint and never touching,
so that a set has one form and membership is a bisection. `ofRanges` brings any ranges into this
form; the set operations are built on it and on the complement.
-/

namespace PatternSession

/-- The largest scalar value. -/
def maxScalar : Nat := 0x10FFFF

/-- Where a number lies, seen from a range: before it, in it or after it. -/
def rangeOrder (n : Nat) (r : Nat × Nat) : Ordering :=
  if n < r.1 then .lt else if r.2 < n then .gt else .eq

/-- An index from `lo` to below `hi` at which the order is equal, in a sequence that goes from
"after" over "equal" to "before". -/
def bisect (order : Nat → Ordering) (lo hi : Nat) : Option Nat :=
  if _h : lo < hi then
    let mid := (lo + hi) / 2
    match order mid with
    | .eq => some mid
    | .lt => bisect order lo mid
    | .gt => bisect order (mid + 1) hi
  else none
termination_by hi - lo
decreasing_by all_goals omega

/-- A set of characters; both ends of a range belong to it. -/
structure CharSet where
  ranges : Array (Nat × Nat)
  deriving DecidableEq

namespace CharSet

def empty : CharSet := ⟨#[]⟩

/-- Every character. -/
def full : CharSet := ⟨#[(0, maxScalar)]⟩

/-- Joins sorted ranges that overlap or touch, the first one being at hand. -/
def mergeSorted (lo hi : Nat) : List (Nat × Nat) → List (Nat × Nat)
  | [] => [(lo, hi)]
  | (a, b) :: rest =>
    if a ≤ hi + 1 then mergeSorted lo (max hi b) rest
    else (lo, hi) :: mergeSorted a b rest

/-- The characters of the ranges; a range whose ends are out of order is empty. -/
def ofRanges (rs : List (Nat × Nat)) : CharSet :=
  match (rs.filter fun r => r.1 ≤ r.2).mergeSort fun a b => a.1 ≤ b.1 with
  | [] => empty
  | (lo, hi) :: rest => ⟨(mergeSorted lo hi rest).toArray⟩

def singleton (c : Char) : CharSet := ⟨#[(c.toNat, c.toNat)]⟩

/-- The characters of a text. -/
def ofChars (cs : List Char) : CharSet := ofRanges (cs.map fun c => (c.toNat, c.toNat))

def containsScalar (s : CharSet) (n : Nat) : Bool :=
  (bisect (fun i => rangeOrder n (s.ranges.getD i (0, 0))) 0 s.ranges.size).isSome

def contains (s : CharSet) (c : Char) : Bool := s.containsScalar c.toNat

/-- The number of scalar values in the ranges. -/
def count (s : CharSet) : Nat := s.ranges.foldl (fun n r => n + (r.2 + 1 - r.1)) 0

def union (s t : CharSet) : CharSet := ofRanges (s.ranges.toList ++ t.ranges.toList)

/-- The gaps before, between and after sorted ranges, from `lo` on. -/
def gaps (lo : Nat) : List (Nat × Nat) → List (Nat × Nat)
  | [] => if lo ≤ maxScalar then [(lo, maxScalar)] else []
  | (a, b) :: rest => if lo < a then (lo, a - 1) :: gaps (b + 1) rest else gaps (b + 1) rest

/-- Every character that is not in the set. -/
def compl (s : CharSet) : CharSet := ⟨(gaps 0 s.ranges.toList).toArray⟩

def inter (s t : CharSet) : CharSet := (s.compl.union t.compl).compl

def diff (s t : CharSet) : CharSet := s.inter t.compl

/-- The characters in exactly one of two sets. -/
def symmDiff (s t : CharSet) : CharSet := (s.union t).diff (s.inter t)

end CharSet

end PatternSession
