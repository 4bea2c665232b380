import PatternSession.Regex.Regular.Needles
import Std.Data.HashMap

/-!
# The memory of an automaton

An automaton over bytes is built for every regular expression that is not found as texts, once from
the left and once from the right. `Regular.fits` says whether both stay within a limit.

**Counting.** A state takes 32 bytes, every way out of a fork four more and every range of a set of
ASCII characters eight more. Bounded repetitions are written out. Alternatives that are all texts
share what they begin with.

**Sets.** The characters of a set that is not ASCII are sequences of byte ranges, and states are
shared between sequences that end alike. The states already built are kept in a table of fixed size;
where two of them fall on one place, the later one takes it and the earlier one is built again when
it is met again. So the count depends on how many states were built before.

**Counting less.** `upperBound` counts every sequence of a set in full. Only an expression above the
limit by this count is counted exactly.
-/

namespace PatternSession.Regex

/-! ## Sets as byte ranges -/

/-- The bytes of a scalar value. -/
def scalarBytes (n : Nat) : List Nat :=
  if n < 0x80 then [n]
  else if n < 0x800 then [0xC0 + n / 0x40, 0x80 + n % 0x40]
  else if n < 0x10000 then [0xE0 + n / 0x1000, 0x80 + n / 0x40 % 0x40, 0x80 + n % 0x40]
  else [0xF0 + n / 0x40000, 0x80 + n / 0x1000 % 0x40, 0x80 + n / 0x40 % 0x40, 0x80 + n % 0x40]

/-- A range of bytes. -/
abbrev ByteRange := Nat × Nat

/-- The range cut at a value, if the value is inside. -/
def cutAt (value : Nat) (r : Nat × Nat) : List (Nat × Nat) :=
  if r.1 < value ∧ value ≤ r.2 then [(r.1, value - 1), (value, r.2)] else [r]

/-- Where a range has to be cut so that it is a block of so many values, or a row of such blocks. -/
def cutValue? (block : Nat) (r : Nat × Nat) : Option Nat :=
  if r.1 / block = r.2 / block then none
  else if r.1 % block ≠ 0 then some ((r.1 / block + 1) * block)
  else if r.2 % block ≠ block - 1 then some (r.2 / block * block)
  else none

/-- The range as parts whose bytes run through ranges independently of each other. -/
def aligned : (fuel : Nat) → Nat × Nat → List (Nat × Nat)
  | 0, r => [r]
  | fuel + 1, r =>
    match [0x40, 0x1000, 0x40000].findSome? fun block => cutValue? block r with
    | some value => (cutAt value r).flatMap (aligned fuel)
    | none => [r]

/-- The sequences of byte ranges of a range of scalar values. -/
def byteSequences (r : Nat × Nat) : List (List ByteRange) :=
  let characters := (cutAt 0xD800 r).flatMap (cutAt 0xE000)
  let characters := characters.filter fun r => !(0xD800 ≤ r.1 && r.2 ≤ 0xDFFF)
  let oneSize := ((characters.flatMap (cutAt 0x80)).flatMap (cutAt 0x800)).flatMap (cutAt 0x10000)
  (oneSize.flatMap (aligned 16)).map fun r => (scalarBytes r.1).zip (scalarBytes r.2)

/-- The sequences of a set, in order. -/
def setSequences (s : CharSet) : List (List ByteRange) := s.ranges.toList.flatMap byteSequences

/-- Are all characters of the set ASCII? -/
def isAsciiSet (s : CharSet) : Bool := s.ranges.all fun r => r.2 < 0x80

/-! ## Counting -/

/-- What was built so far. -/
structure Tally where
  states : Nat := 0
  bytes : Nat := 0

/-- A step of counting; it stops at the limit. -/
abbrev Count := StateT Tally Option

namespace Count

/-- The memory of a state. -/
def stateSize : Nat := 32

/-- The memory of a way out of a fork. -/
def branchSize : Nat := 4

/-- The memory of a byte range with its target. -/
def rangeSize : Nat := 8

/-- A state with so much memory of its own; its number. -/
def add (limit extra : Nat) : Count Nat := fun t =>
  let bytes := t.bytes + stateSize + extra
  if limit < bytes then none else some (t.states, ⟨t.states + 1, bytes⟩)

/-- A state that is entered and left. -/
def addPlain (limit : Nat) : Count Unit := discard (add limit 0)

/-- A fork of so many ways. -/
def addFork (limit ways : Nat) : Count Unit := discard (add limit (branchSize * ways))

/-- More memory for states that are there. -/
def grow (limit extra : Nat) : Count Unit := fun t =>
  let bytes := t.bytes + extra
  if limit < bytes then none else some ((), { t with bytes })

/-- A step so many times. -/
def times (step : Count Unit) : Nat → Count Unit
  | 0, t => some ((), t)
  | n + 1, t =>
    match step t with
    | some (_, t) => times step n t
    | none => none

/-- The beginning of a hash. -/
def hashSeed : UInt64 := 14695981039346656037

/-- One more number in a hash. -/
def mixHash (h : UInt64) (n : Nat) : UInt64 := (h ^^^ n.toUInt64) * 1099511628211

/-- A byte range with the state it leads to. -/
abbrev Way := ByteRange × Nat

/-- The places of states built from the left. -/
def forwardPlaces : Nat := 10000

/-- The places of states built from the right. -/
def backwardPlaces : Nat := 1000

/-- The states of one set, built from the left. -/
structure ForwardSet where
  /-- At a place: the ways out of a state, and its number. -/
  built : Std.HashMap Nat (List Way × Nat) := {}
  /-- The states not built yet, the innermost first: the ways that are finished (the last one
  first), and the range whose target is still open. -/
  pending : List (List Way × Option ByteRange) := [([], none)]

namespace ForwardSet

/-- The state with these ways: one that is built, or a new one. -/
def build (limit : Nat) (f : ForwardSet) (ways : List Way) : Count (ForwardSet × Nat) := do
  let h := ways.foldl (fun h w => mixHash (mixHash (mixHash h w.1.1) w.1.2) w.2) hashSeed
  let place := h.toNat % forwardPlaces
  match f.built[place]? with
  | some (known, number) =>
    if known = ways then return (f, number)
    else rebuilt place
  | none => rebuilt place
where
  /-- Builds a new state at a place. -/
  rebuilt (place : Nat) : Count (ForwardSet × Nat) := do
    let number ← add limit (rangeSize * ways.length)
    return ({ f with built := f.built.insert place (ways, number) }, number)

/-- The ways of a state whose open range leads to `target`. -/
def close (target : Nat) : List Way × Option ByteRange → List Way
  | (ways, some r) => (r, target) :: ways
  | (ways, none) => ways

/-- Builds all but the first `keep + 1` pending states; the innermost one leads to `target`. -/
def buildAfter (limit keep : Nat) (target : Nat) (f : ForwardSet) :
    List (List Way × Option ByteRange) → Count ForwardSet
  | [] => return f
  | node :: outer => do
    if keep < outer.length then
      let (f, number) ← f.build limit (close target node).reverse
      buildAfter limit keep number f outer
    else return { f with pending := (close target node, none) :: outer }

/-- The number of ranges at the beginning of a sequence that are still open in this order. -/
def sharedStart : List (Option ByteRange) → List ByteRange → Nat
  | some r :: open_, s :: rest => if r = s then sharedStart open_ rest + 1 else 0
  | _, _ => 0

/-- Adds the open ranges of a sequence. -/
def addOpen (pending : List (List Way × Option ByteRange)) :
    List ByteRange → List (List Way × Option ByteRange)
  | [] => pending
  | r :: rest =>
    let pending := match pending with
      | (ways, _) :: outer => (ways, some r) :: outer
      | [] => [([], some r)]
    rest.foldl (fun pending r => ([], some r) :: pending) pending

/-- Adds a sequence that leads to `target`. -/
def addSequence (limit target : Nat) (f : ForwardSet) (ranges : List ByteRange) :
    Count ForwardSet := do
  let shared := sharedStart (f.pending.reverse.map (·.2)) ranges
  let f ← buildAfter limit shared target f f.pending
  return { f with pending := addOpen f.pending (ranges.drop shared) }

end ForwardSet

/-- A set built from the left. -/
def addSetForward (limit : Nat) (sequences : List (List ByteRange)) : Count Unit := do
  let target ← add limit 0
  let f ← sequences.foldlM (fun f ranges => ForwardSet.addSequence limit target f ranges)
    ({} : ForwardSet)
  let f ← ForwardSet.buildAfter limit 0 target f f.pending
  match f.pending with
  | (ways, _) :: _ => discard (f.build limit ways.reverse)
  | [] => return ()

/-- The states of one set, built from the right: at a place, the state that follows, the range, and
the number. -/
abbrev BackwardSet := Std.HashMap Nat ((Nat × ByteRange) × Nat)

/-- A byte range before a state, if it is not built yet. -/
def addRange (limit : Nat) (built : BackwardSet) (next : Nat) (r : ByteRange) :
    Count (BackwardSet × Nat) := do
  let h := mixHash (mixHash (mixHash hashSeed next) r.1) r.2
  let place := h.toNat % backwardPlaces
  let known := built[place]?.filter fun entry => entry.1 = (next, r)
  match known with
  | some (_, number) => return (built, number)
  | none =>
    let number ← add limit 0
    return (built.insert place ((next, r), number), number)

/-- A set built from the right. -/
def addSetBackward (limit : Nat) (sequences : List (List ByteRange)) : Count Unit := do
  addFork limit sequences.length
  let last ← add limit 0
  discard <| sequences.foldlM (fun (built : BackwardSet) ranges => do
    let (built, _) ← ranges.foldlM (fun (built, next) r => addRange limit built next r)
      (built, last)
    return built) {}

/-- A set. -/
def addSet (limit : Nat) (backward : Bool) (s : CharSet) : Count Unit := do
  if isAsciiSet s then
    addPlain limit
    discard (add limit (rangeSize * s.ranges.size))
  else if backward then addSetBackward limit (setSequences s)
  else addSetForward limit (setSequences s)

end Count

/-! ## Alternatives that are texts -/

/-- A tree of texts. Its branches come in groups: where a text ends, a new group begins. -/
inductive TextTree where
  | node (groups : List (List (UInt8 × TextTree)))

namespace TextTree

/-- The tree of no text. -/
def leaf : TextTree := .node [[]]

/-- A branch put in its place among branches. -/
def insertBranch (b : UInt8) (change : TextTree → TextTree) :
    List (UInt8 × TextTree) → List (UInt8 × TextTree)
  | [] => [(b, change leaf)]
  | (a, t) :: rest =>
    if a = b then (a, change t) :: rest
    else if b < a then (b, change leaf) :: (a, t) :: rest
    else (a, t) :: insertBranch b change rest

/-- Changes the last group. -/
def changeLast (change : List (UInt8 × TextTree) → List (UInt8 × TextTree)) :
    List (List (UInt8 × TextTree)) → List (List (UInt8 × TextTree))
  | [] => [change []]
  | [g] => [change g]
  | g :: gs => g :: changeLast change gs

/-- The tree with one more text. -/
def insert : List UInt8 → TextTree → TextTree
  | [], .node groups =>
    if groups.all (·.isEmpty) && 1 < groups.length then .node groups else .node (groups ++ [[]])
  | b :: bs, .node groups => .node (changeLast (insertBranch b (insert bs)) groups)

mutual

/-- The memory of the states of a tree: a fork between its groups and, where a text ends, the end. A
leaf is the end itself. -/
def size : TextTree → Nat
  | .node groups =>
    if groups.all (·.isEmpty) then 0
    else
      let ways := (groups.filter fun g => !g.isEmpty).length + (groups.length - 1)
      Count.stateSize + Count.branchSize * ways + sizeOfGroups groups

/-- The memory of groups: a state each. -/
def sizeOfGroups : List (List (UInt8 × TextTree)) → Nat
  | [] => 0
  | g :: gs => sizeOfGroup g.length g + sizeOfGroups gs

/-- The memory of a group of so many branches. -/
def sizeOfGroup (count : Nat) : List (UInt8 × TextTree) → Nat
  | [] =>
    if count = 0 then 0
    else Count.stateSize + if count = 1 then 0 else Count.rangeSize * count
  | (_, t) :: rest => t.size + sizeOfGroup count rest

end

mutual

/-- The number of states of a tree. -/
def states : TextTree → Nat
  | .node groups => if groups.all (·.isEmpty) then 0 else 1 + statesOfGroups groups

/-- The number of states of groups. -/
def statesOfGroups : List (List (UInt8 × TextTree)) → Nat
  | [] => 0
  | g :: gs => (if g.isEmpty then 0 else 1) + statesOfGroup g + statesOfGroups gs

/-- The number of states behind branches. -/
def statesOfGroup : List (UInt8 × TextTree) → Nat
  | [] => 0
  | (_, t) :: rest => t.states + statesOfGroup rest

end

end TextTree

namespace Regular

/-- The bytes of a text. -/
def textBytes : Regular → List UInt8
  | text cs => (String.ofList cs).toUTF8.toList
  | _ => []

/-- Counts a tree of texts and its end. -/
def countTexts (limit : Nat) (backward : Bool) (es : List Regular) : Count Unit := do
  let tree := es.foldl (fun t e =>
    t.insert (if backward then e.textBytes.reverse else e.textBytes)) TextTree.leaf
  Count.addPlain limit
  Count.grow limit tree.size
  modify fun t => { t with states := t.states + tree.states }

/-- Counts alternatives; the fork and its end come after the second one. -/
def countChoice (limit : Nat) : List (Count Unit) → Count Unit
  | [] => Count.times (Count.addPlain limit) 2
  | [one] => one
  | first :: second :: others => do
    first
    second
    Count.addFork limit (others.length + 2)
    Count.addPlain limit
    others.forM id

/-- Counts a repetition of a body. -/
def countRepeated (limit : Nat) (takes : Bool) (lo : Nat) (hi : Option Nat) (body : Count Unit) :
    Count Unit := do
  match lo, hi with
  | 0, some 1 =>
    Count.addFork limit 2
    body
    Count.addPlain limit
  | 0, none =>
    if takes then
      Count.addFork limit 2
      body
    else
      body
      Count.addFork limit 2
      Count.addFork limit 2
      Count.addPlain limit
  | n, none =>
    Count.times body n
    Count.addFork limit 2
  | n, some m =>
    if n = 0 then Count.addPlain limit else Count.times body n
    if n < m then
      Count.addPlain limit
      Count.times (do Count.addFork limit 2; body) (m - n)

mutual

/-- Counts the states of an expression. Groups are noted from the left only. -/
def count (limit : Nat) (backward : Bool) : Regular → Count Unit
  | empty | anchor _ => Count.addPlain limit
  | text cs => Count.times (Count.addPlain limit) (String.ofList cs).utf8ByteSize
  | set s => Count.addSet limit backward s
  | group _ e => do
    if backward then e.count limit backward
    else
      Count.addPlain limit
      e.count limit backward
      Count.addPlain limit
  | repeated e lo hi _ =>
    countRepeated limit (e.minLength.any (0 < ·)) lo hi (e.count limit backward)
  | concat es =>
    let parts := countEach limit backward es
    (if backward then parts.reverse else parts).forM id
  | alt es =>
    if 1 < es.length && es.all isText then countTexts limit backward es
    else countChoice limit (countEach limit backward es)

/-- Counts every expression. -/
def countEach (limit : Nat) (backward : Bool) : List Regular → List (Count Unit)
  | [] => []
  | e :: es => e.count limit backward :: countEach limit backward es

end

/-- Counts a whole automaton: the beginning, which skips what comes before a match unless a match
begins or ends the text, the expression as group 0, and the end. -/
def countAll (limit : Nat) (backward : Bool) (e : Regular) : Count Unit := do
  let anchored := if backward then e.stopsText else e.startsText
  if anchored then Count.addPlain limit
  else
    Count.addFork limit 2
    Count.addPlain limit
    discard (Count.add limit Count.rangeSize)
  (Regular.group 0 e).count limit backward
  Count.addPlain limit

mutual

/-- At least the memory of an expression. -/
def upperBound : Regular → Nat
  | empty | anchor _ => Count.stateSize
  | text cs => Count.stateSize * (String.ofList cs).utf8ByteSize
  | set s =>
    if isAsciiSet s then 2 * Count.stateSize + Count.rangeSize * s.ranges.size
    else
      3 * Count.stateSize + (setSequences s).foldl
        (fun n ranges => n + (Count.stateSize + Count.rangeSize) * (ranges.length + 1)) 0
  | group _ e => e.upperBound + 2 * Count.stateSize
  | repeated e lo hi _ =>
    let round := e.upperBound + 2 * Count.stateSize
    4 * Count.stateSize + (max lo (hi.getD 0) + 1) * round
  | concat es => upperBoundSum es
  | alt es => 3 * upperBoundSum es + (3 + es.length) * Count.stateSize

/-- At least the memory of expressions in sequence. -/
def upperBoundSum : List Regular → Nat
  | [] => 0
  | e :: es => e.upperBound + upperBoundSum es

end

/-- Does the automaton stay within the limit? An expression that is found as texts has none. -/
def fits (limit : Nat) (e : Regular) : Bool :=
  e.isNeedleSearch || e.upperBound + 8 * Count.stateSize ≤ limit ||
    ([false, true].all fun backward => ((e.countAll limit backward).run {}).isSome)

end Regular

end PatternSession.Regex
