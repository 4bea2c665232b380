import PatternSession.Unicode.Runs

/-!
# Simple case folding

Two characters are the same letter in different cases when they fold to the same character.
`foldGroups` lists every set of two or more such characters. The table lists the characters that
fold to another one, as runs with the distance they are moved.
-/

namespace PatternSession.Unicode

/-- For every run: the distance from the end of the run before, the length, and how far its
characters are moved. -/
def foldLines : List String :=
  [
    "65 26 32 90 1 775 10 23 32 1 7 32 33 1 1 1 1 1 1 1 1 1 1 1 1 1 1 1 1 1 1 1 1 1 1 1 1 1 1 1 ",
    "1 1 1 1 1 1 1 1 1 1 1 1 1 1 1 1 1 1 1 1 1 1 1 1 1 1 1 1 1 1 1 1 1 1 1 1 1 1 1 1 1 1 1 1 3 ",
    "1 1 1 1 1 1 1 1 2 1 1 1 1 1 1 1 1 1 1 1 1 1 1 1 1 1 1 1 1 1 1 1 2 1 1 1 1 1 1 1 1 1 1 1 1 ",
    "1 1 1 1 1 1 1 1 1 1 1 1 1 1 1 1 1 1 1 1 1 1 1 1 1 1 1 1 1 1 1 1 1 1 1 1 1 1 1 1 1 1 1 1 1 ",
    "1 1 1 1 1 1 1 1 1 1 1 1 1 -121 0 1 1 1 1 1 1 1 1 1 1 -268 1 1 210 0 1 1 1 1 1 1 1 206 0 1 ",
    "1 1 2 205 0 1 1 2 1 79 0 1 202 0 1 203 0 1 1 1 1 205 0 1 207 1 1 211 0 1 209 0 1 1 3 1 211 ",
    "0 1 213 1 1 214 0 1 1 1 1 1 1 1 1 1 1 218 0 1 1 1 1 218 2 1 1 1 1 218 0 1 1 1 2 217 0 1 1 ",
    "1 1 1 1 1 219 0 1 1 3 1 1 7 1 2 0 1 1 1 1 2 0 1 1 1 1 2 0 1 1 1 1 1 1 1 1 1 1 1 1 1 1 1 1 ",
    "1 1 1 1 1 1 1 1 1 1 2 1 1 1 1 1 1 1 1 1 1 1 1 1 1 1 1 1 1 1 1 1 1 1 1 1 1 2 1 2 0 1 1 1 1 ",
    "1 1 1 -97 0 1 -56 0 1 1 1 1 1 1 1 1 1 1 1 1 1 1 1 1 1 1 1 1 1 1 1 1 1 1 1 1 1 1 1 1 1 1 1 ",
    "1 1 1 1 1 1 1 1 1 1 1 1 1 1 1 1 1 1 1 1 1 1 1 1 1 1 -130 1 1 1 1 1 1 1 1 1 1 1 1 1 1 1 1 1 ",
    "1 1 1 1 1 1 1 1 1 1 7 1 10795 0 1 1 1 1 -163 0 1 10792 2 1 1 1 1 -195 0 1 69 0 1 71 0 1 1 ",
    "1 1 1 1 1 1 1 1 1 1 1 1 246 1 116 42 1 1 1 1 1 3 1 1 8 1 116 6 1 38 1 3 37 1 1 64 1 2 63 1 ",
    "17 32 1 9 32 22 1 1 12 1 8 0 1 -30 0 1 -25 3 1 -15 0 1 -22 1 1 1 1 1 1 1 1 1 1 1 1 1 1 1 1 ",
    "1 1 1 1 1 1 1 1 1 1 1 1 1 1 1 1 1 1 1 1 1 1 -54 0 1 -48 2 1 -60 0 1 -64 1 1 1 1 1 -7 0 1 1 ",
    "2 3 -130 0 16 80 0 32 32 48 1 1 1 1 1 1 1 1 1 1 1 1 1 1 1 1 1 1 1 1 1 1 1 1 1 1 1 1 1 1 1 ",
    "1 1 1 1 1 1 1 1 1 1 1 1 1 1 1 1 1 1 1 9 1 1 1 1 1 1 1 1 1 1 1 1 1 1 1 1 1 1 1 1 1 1 1 1 1 ",
    "1 1 1 1 1 1 1 1 1 1 1 1 1 1 1 1 1 1 1 1 1 1 1 1 1 1 1 1 1 1 1 1 1 1 1 1 1 1 1 1 1 1 1 1 1 ",
    "1 1 1 1 1 1 1 1 1 1 1 1 15 0 1 1 1 1 1 1 1 1 1 1 1 1 1 1 1 1 1 1 1 1 2 1 1 1 1 1 1 1 1 1 1 ",
    "1 1 1 1 1 1 1 1 1 1 1 1 1 1 1 1 1 1 1 1 1 1 1 1 1 1 1 1 1 1 1 1 1 1 1 1 1 1 1 1 1 1 1 1 1 ",
    "1 1 1 1 1 1 1 1 1 1 1 1 1 1 1 1 1 1 1 1 1 1 1 1 1 1 1 1 1 1 1 1 1 1 1 1 1 1 1 1 1 1 1 1 1 ",
    "1 1 1 1 1 1 1 1 1 1 1 1 1 1 1 1 1 1 1 1 1 1 1 1 1 1 1 1 1 1 1 1 1 1 1 1 1 1 1 1 1 1 1 2 38 ",
    "48 2889 38 7264 1 1 7264 5 1 7264 810 6 -8 2178 1 -6222 0 1 -6221 0 1 -6212 0 2 -6210 0 1 ",
    "-6211 0 1 -6204 0 1 -6180 0 1 35267 0 1 1 6 43 -3008 2 3 -3008 320 1 1 1 1 1 1 1 1 1 1 1 1 ",
    "1 1 1 1 1 1 1 1 1 1 1 1 1 1 1 1 1 1 1 1 1 1 1 1 1 1 1 1 1 1 1 1 1 1 1 1 1 1 1 1 1 1 1 1 1 ",
    "1 1 1 1 1 1 1 1 1 1 1 1 1 1 1 1 1 1 1 1 1 1 1 1 1 1 1 1 1 1 1 1 1 1 1 1 1 1 1 1 1 1 1 1 1 ",
    "1 1 1 1 1 1 1 1 1 1 1 1 1 1 1 1 1 1 1 1 1 1 1 1 1 1 1 1 1 1 1 1 1 1 1 1 1 1 1 1 1 1 1 1 1 ",
    "1 1 1 1 1 1 1 1 1 1 1 1 1 1 1 1 1 1 1 1 1 1 1 1 1 1 1 1 1 1 1 1 1 1 1 1 1 1 1 1 1 1 1 1 1 ",
    "1 1 1 1 1 1 1 1 1 1 1 1 1 1 1 1 1 1 1 1 1 1 1 1 1 1 1 1 1 1 1 1 6 1 -58 2 1 -7615 1 1 1 1 ",
    "1 1 1 1 1 1 1 1 1 1 1 1 1 1 1 1 1 1 1 1 1 1 1 1 1 1 1 1 1 1 1 1 1 1 1 1 1 1 1 1 1 1 1 1 1 ",
    "1 1 1 1 1 1 1 1 1 1 1 1 1 1 1 1 1 1 1 1 1 1 1 1 1 1 1 1 1 1 1 1 1 1 1 1 1 1 1 1 1 1 1 1 1 ",
    "1 1 1 1 1 1 1 1 1 1 1 1 1 1 1 1 1 1 1 1 1 1 1 1 1 1 1 1 1 1 1 1 1 1 1 1 1 1 1 1 1 1 1 1 1 ",
    "1 1 1 1 1 9 8 -8 8 6 -8 10 8 -8 8 8 -8 8 6 -8 11 1 -8 1 1 -8 1 1 -8 1 1 -8 8 8 -8 24 8 -8 ",
    "8 8 -8 8 8 -8 8 2 -8 0 2 -74 0 1 -9 1 1 -7173 9 4 -86 0 1 -9 6 1 -7235 4 2 -8 0 2 -100 7 1 ",
    "-7219 4 2 -8 0 2 -112 0 1 -7 11 2 -128 0 2 -126 0 1 -9 297 1 -7517 3 1 -8383 0 1 -8262 6 1 ",
    "28 45 16 16 19 1 1 818 26 26 1840 48 48 48 1 1 1 1 -10743 0 1 -3814 0 1 -10727 2 1 1 1 1 1 ",
    "1 1 1 1 1 -10780 0 1 -10749 0 1 -10783 0 1 -10782 1 1 1 2 1 1 8 2 -10815 0 1 1 1 1 1 1 1 1 ",
    "1 1 1 1 1 1 1 1 1 1 1 1 1 1 1 1 1 1 1 1 1 1 1 1 1 1 1 1 1 1 1 1 1 1 1 1 1 1 1 1 1 1 1 1 1 ",
    "1 1 1 1 1 1 1 1 1 1 1 1 1 1 1 1 1 1 1 1 1 1 1 1 1 1 1 1 1 1 1 1 1 1 1 1 1 1 1 1 1 1 1 1 1 ",
    "1 1 1 1 1 1 1 1 1 1 1 1 1 1 1 1 1 1 1 1 1 1 1 1 1 1 1 1 1 1 1 1 1 1 1 1 1 1 1 1 1 1 1 1 1 ",
    "1 1 1 1 1 1 8 1 1 1 1 1 4 1 1 31053 1 1 1 1 1 1 1 1 1 1 1 1 1 1 1 1 1 1 1 1 1 1 1 1 1 1 1 ",
    "1 1 1 1 1 1 1 1 1 1 1 1 1 1 1 1 1 1 1 1 1 1 1 1 1 1 1 1 1 1 1 1 1 1 1 1 1 1 1 1 1 19 1 1 1 ",
    "1 1 1 1 1 1 1 1 1 1 1 1 1 1 1 1 1 1 1 1 1 1 1 1 1 1 1 1 1 1 1 1 1 1 1 1 1 1 135 1 1 1 1 1 ",
    "1 1 1 1 1 1 1 1 1 1 1 1 1 1 1 3 1 1 1 1 1 1 1 1 1 1 1 1 1 1 1 1 1 1 1 1 1 1 1 1 1 1 1 1 1 ",
    "1 1 1 1 1 1 1 1 1 1 1 1 1 1 1 1 1 1 1 1 1 1 1 1 1 1 1 1 1 1 1 1 1 1 1 1 1 1 1 1 1 1 1 1 1 ",
    "1 1 1 1 1 1 1 1 1 1 1 1 1 1 1 1 1 1 10 1 1 1 1 1 1 1 -35332 0 1 1 1 1 1 1 1 1 1 1 1 1 1 1 ",
    "4 1 1 1 1 -42280 2 1 1 1 1 1 3 1 1 1 1 1 1 1 1 1 1 1 1 1 1 1 1 1 1 1 1 1 1 1 1 1 1 1 1 1 1 ",
    "1 -42308 0 1 -42319 0 1 -42315 0 1 -42305 0 1 -42308 1 1 -42258 0 1 -42282 0 1 -42261 0 1 ",
    "928 0 1 1 1 1 1 1 1 1 1 1 1 1 1 1 1 1 1 1 1 1 1 1 1 1 1 -48 0 1 -42307 0 1 -35384 0 1 1 1 ",
    "1 1 1 1 -42343 0 1 1 3 1 1 5 1 1 1 1 1 1 1 1 1 1 -42561 24 1 1 890 80 -38864 20293 1 1 ",
    "1051 26 32 1221 40 40 136 36 40 156 11 39 1 15 39 1 7 39 1 2 39 1770 51 64 157 22 32 2874 ",
    "32 32 21888 32 32 31392 34 34"]

/-- The numbers of the table. -/
def foldNumbers : List Int := (wordsOf foldLines).filterMap (·.toInt?)

/-- The characters that are moved, each with the one it folds to. -/
def foldPairs (start : Nat) : List Int → List (Nat × Nat)
  | gap :: len :: move :: rest =>
    let first := start + gap.toNat
    (List.range len.toNat).map (fun i => (first + i, (first + i + move : Int).toNat)) ++
      foldPairs (first + len.toNat) rest
  | _ => []

/-- Characters that fold alike, gathered from pairs sorted by the character folded to. -/
def gather : List (Nat × Nat) → List (List Nat)
  | [] => []
  | (c, d) :: rest =>
    match gather rest with
    | (e :: es) :: groups =>
      if e = d then (e :: c :: es) :: groups else [d, c] :: (e :: es) :: groups
    | groups => [d, c] :: groups

/-- The sets of characters that fold alike, the one they fold to first. -/
def foldGroups : Array (List Nat) :=
  (gather ((foldPairs 0 foldNumbers).mergeSort fun a b => a.2 ≤ b.2)).toArray

/-- The set with every character that differs from one of its characters in case only. -/
def closeUnderCase (s : CharSet) : CharSet :=
  let more := foldGroups.toList.filter fun g => g.any s.containsScalar
  CharSet.ofRanges (s.ranges.toList ++ more.flatMap fun g => g.map fun n => (n, n))

end PatternSession.Unicode
