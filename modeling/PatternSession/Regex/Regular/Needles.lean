import PatternSession.Regex.Regular.Basic

/-!
# Expressions that are found as texts

A small set of texts is looked for directly, without an automaton. `Regular.isNeedleSearch` tells
for which expressions this is done.

**Needles** are what matches begin with, as bytes, in order of preference. A needle is exact if it
is a whole match. Too many needles are none at all.

**Gathering.** What an expression contributes is bounded: by the number of needles, by their length,
by the size of a set and by the rounds of a repetition. Past a bound, needles are cut short and are
no longer exact, or given up.

**Refining.** Needles are then cut to a common beginning, or made fewer by cutting them, where that
makes them easier to find. Exact needles are cut only if that leaves good ones.
-/

namespace PatternSession.Regex

/-- The beginning of a match. -/
structure Needle where
  bytes : List UInt8
  /-- Is it a whole match? -/
  exact : Bool
  deriving DecidableEq

/-- The beginnings of all matches, the preferred ones first; `none` if they are too many. -/
abbrev Needles := Option (List Needle)

/-- How often a byte occurs, as a rank among all bytes. -/
def byteRanks : Array Nat := #[
  55, 52, 51, 50, 49, 48, 47, 46, 45, 103, 242, 66, 67, 229, 44, 43,
  42, 41, 40, 39, 38, 37, 36, 35, 34, 33, 56, 32, 31, 30, 29, 28,
  255, 148, 164, 149, 136, 160, 155, 173, 221, 222, 134, 122, 232, 202, 215, 224,
  208, 220, 204, 187, 183, 179, 177, 168, 178, 200, 226, 195, 154, 184, 174, 126,
  120, 191, 157, 194, 170, 189, 162, 161, 150, 193, 142, 137, 171, 176, 185, 167,
  186, 112, 175, 192, 188, 156, 140, 143, 123, 133, 128, 147, 138, 146, 114, 223,
  151, 249, 216, 238, 236, 253, 227, 218, 230, 247, 135, 180, 241, 233, 246, 244,
  231, 139, 245, 243, 251, 235, 201, 196, 240, 214, 152, 182, 205, 181, 127, 27,
  212, 211, 210, 213, 228, 197, 169, 159, 131, 172, 105, 80, 98, 96, 97, 81,
  207, 145, 116, 115, 144, 130, 153, 121, 107, 132, 109, 110, 124, 111, 82, 108,
  118, 141, 113, 129, 119, 125, 165, 117, 92, 106, 83, 72, 99, 93, 65, 79,
  166, 237, 163, 199, 190, 225, 209, 203, 198, 217, 219, 206, 234, 248, 158, 239]

/-- The rank of a byte; those past the table are the most frequent. -/
def byteRank (b : UInt8) : Nat := byteRanks.getD b.toNat 255

namespace Needle

def inexact (n : Needle) : Needle := { n with exact := false }

/-- The first bytes; a needle that is cut short is not exact. -/
def keepFirst (size : Nat) (n : Needle) : Needle :=
  if n.bytes.length ≤ size then n else ⟨n.bytes.take size, false⟩

/-- Would it be found nearly everywhere? -/
def isPoisonous (n : Needle) : Bool :=
  match n.bytes with
  | [] => true
  | [b] => 250 ≤ byteRank b
  | _ => false

end Needle

namespace Needles

/-- The needle of every match. -/
def start : Needles := some [⟨[], true⟩]

/-- The most needles. -/
def countLimit : Nat := 250

/-- The longest needle. -/
def lengthLimit : Nat := 100

/-- The most characters of a set that become needles, and the most rounds of a repetition. -/
def choiceLimit : Nat := 10

def allInexact (ns : Needles) : Bool := ns.all fun ns => ns.all fun n => !n.exact

def inexact (ns : Needles) : Needles := ns.map fun ns => ns.map Needle.inexact

/-- Is one of the needles empty? -/
def hasEmpty (ns : Needles) : Bool := ns.any fun ns => ns.any fun n => n.bytes.isEmpty

/-- Needles without repetitions side by side; of two equal ones, both must be exact. -/
def dedup : List Needle → List Needle
  | [] => []
  | n :: rest =>
    match dedup rest with
    | m :: rest =>
      if n.bytes = m.bytes then ⟨n.bytes, n.exact && m.exact⟩ :: rest else n :: m :: rest
    | [] => [n]

def keepFirst (size : Nat) (ns : Needles) : Needles :=
  ns.map fun ns => ns.map (Needle.keepFirst size)

/-- Every exact needle of the first kind followed by every needle of the second kind. -/
def followedBy (ns ms : Needles) : Needles :=
  let tooMany := ns.any fun ns => ms.any fun ms => countLimit < ns.length * ms.length
  let joined :=
    match if tooMany then none else ms, ns with
    | none, ns => if hasEmpty ns then none else inexact ns
    | some _, none => none
    | some ms, some ns =>
      some <| dedup <| ns.flatMap fun n =>
        if n.exact then ms.map fun m => ⟨n.bytes ++ m.bytes, m.exact⟩ else [n]
  keepFirst lengthLimit joined

/-- Do both kinds together fit the limit? Needles without end fit. -/
def fit (ns ms : Needles) : Bool :=
  match ns, ms with
  | some ns, some ms => ns.length + ms.length ≤ countLimit
  | _, _ => true

/-- Needles of the first kind, then those of the second kind. Too many are cut to four bytes. -/
def orElse (ns ms : Needles) : Needles :=
  let shorten (ns : Needles) := (keepFirst 4 ns).map dedup
  let (ns, ms) := if fit ns ms then (ns, ms) else (shorten ns, shorten ms)
  if fit ns ms then ns.bind fun ns => ms.map fun ms => dedup (ns ++ ms) else none

/-- The needles of so many rounds. -/
def rounds (ns : Needles) : Nat → Needles
  | 0 => start
  | n + 1 =>
    let before := rounds ns n
    if allInexact before then before else followedBy before ns

/-- The needles of a set. -/
def ofSet (s : CharSet) : Needles :=
  if s.count ≤ choiceLimit then
    some <| s.ranges.toList.flatMap fun r =>
      (List.range (r.2 + 1 - r.1)).map fun i =>
        ⟨(String.singleton (Char.ofNat (r.1 + i))).toUTF8.toList, true⟩
  else none

end Needles

namespace Regular

mutual

/-- The needles of an expression. -/
def needles : Regular → Needles
  | empty | anchor _ => .start
  | text cs =>
    Needles.keepFirst Needles.lengthLimit (some [⟨(String.ofList cs).toUTF8.toList, true⟩])
  | set s => .ofSet s
  | group _ e => e.needles
  | concat es => needlesInSequence .start es
  | alt es => needlesOfChoice (some []) es
  | repeated e lo hi greedy =>
    match lo, hi with
    | 0, hi =>
      let inside := if hi = some 1 then e.needles else e.needles.inexact
      if greedy then inside.orElse .start else Needles.orElse .start inside
    | _, none => e.needles.inexact
    | lo, some hi =>
      let rounds := Needles.rounds e.needles (min lo Needles.choiceLimit)
      if lo = hi ∧ lo ≤ Needles.choiceLimit then rounds else rounds.inexact

/-- The needles of a sequence after those of what is before it. -/
def needlesInSequence (before : Needles) : List Regular → Needles
  | [] => before
  | e :: es =>
    if before.allInexact then before
    else needlesInSequence (before.followedBy e.needles) es

/-- The needles of alternatives after those before them. -/
def needlesOfChoice (before : Needles) : List Regular → Needles
  | [] => before
  | e :: es => if before.isNone then before else needlesOfChoice (before.orElse e.needles) es

end

end Regular

/-! ## Refining -/

namespace Needles

/-- Does the second list begin with the first one? -/
def isStartOf : List UInt8 → List UInt8 → Bool
  | [], _ => true
  | a :: as, b :: bs => a = b && isStartOf as bs
  | _ :: _, [] => false

/-- The needles that do not begin with one before them. -/
def minimal (kept : List Needle) : List Needle → List Needle
  | [] => kept.reverse
  | n :: rest =>
    if kept.any fun m => isStartOf m.bytes n.bytes then minimal kept rest
    else minimal (n :: kept) rest

/-- What both lists begin with. -/
def commonBytes : List UInt8 → List UInt8 → List UInt8
  | a :: as, b :: bs => if a = b then a :: commonBytes as bs else []
  | _, _ => []

/-- What all needles begin with. -/
def commonStart : List Needle → List UInt8
  | [] => []
  | n :: rest => rest.foldl (fun common m => commonBytes common m.bytes) n.bytes

/-- Cuts the needles as long as they are too many: to how many bytes, and how many are enough. -/
def shortened : List (Nat × Nat) → List Needle → List Needle
  | [], ns => ns
  | (size, enough) :: rest, ns =>
    if ns.length ≤ enough then ns
    else shortened rest (minimal [] (ns.map (Needle.keepFirst size)))

/-- The needles that are looked for in the end. -/
def refined (ns : Needles) : Needles :=
  ns.bind fun all =>
    if all.any (·.bytes.isEmpty) then none
    else
      let least := minimal [] all
      let common := commonStart least
      if 1 < all.length ∧ 1 ≤ common.length ∧ common.length ≤ 3 ∧
          common.head?.any (fun b => byteRank b < 200) then
        some (dedup (least.map (Needle.keepFirst 1)))
      else
        let quick := least.all (·.exact) && least.length ≤ 16
        let cut :=
          if 4 < common.length ∨ 1 < common.length ∧ !quick then
            dedup (least.map (Needle.keepFirst common.length))
          else least
        let short := shortened [(5, 10), (4, 10), (3, 64), (2, 64), (1, 10)] cut
        let good := !short.any Needle.isPoisonous
        if cut.all (·.exact) then
          if good && short.all (fun n => 2 < n.bytes.length) && !short.isEmpty &&
            short.length ≤ 64 then some short else some cut
        else if good then some short else none

end Needles

namespace Regular

/-- The fewest plain alternatives that are always looked for directly. -/
def manyTexts : Nat := 3000

/-- Is this a text? -/
def isText : Regular → Bool
  | text _ => true
  | _ => false

/-- Is this a choice of very many texts? -/
def isManyTexts : Regular → Bool
  | alt es => manyTexts ≤ es.length && es.all isText
  | _ => false

/-- Is the expression found by looking for texts? It has no groups, looks at no position, and all
its needles are exact. -/
def isNeedleSearch (e : Regular) : Bool :=
  e.groups.isEmpty && !e.hasAnchor &&
    (e.isManyTexts || match e.needles.refined with
      | some ns => !ns.isEmpty && ns.all (·.exact)
      | none => false)

end Regular

end PatternSession.Regex
