import PatternSession.Regex.Error
import PatternSession.Regex.Regular.Footprint
import PatternSession.Regex.Regular.PlainForm

/-!
# Matching without backtracking

A regular expression is matched by an automaton whose states are all followed at once, one position
after the other.

**Preference.** The states are kept in order of preference, so the match found is the one that
trying alternatives in order would find first: a state is visited once per position, by the most
preferred way that leads to it, and a match cuts off everything less preferred.

**Repetition.** Bounded repetitions are written out. A body that may be empty is repeated as an
optional "once or more", so that an empty round ends the repetition.

**Limit.** An expression whose automaton would be larger than a limit is refused; see
`Regular.fits`.
-/

namespace PatternSession.Regex

/-- Is the character that begins at a position a word character? -/
def isWordAt (text : Array Char) (i : Nat) : Bool :=
  match text[i]? with
  | some c => Unicode.word.contains c
  | none => false

/-- The same for the character before a position. -/
def isWordBefore (text : Array Char) (i : Nat) : Bool := 0 < i && isWordAt text (i - 1)

/-- Does the condition hold at a position? -/
def Anchor.holds (text : Array Char) (i : Nat) : Anchor → Bool
  | textStart => i = 0
  | textStop => i = text.size
  | lineStart => i = 0 || text[i - 1]? = some '\n'
  | lineStop => i = text.size || text[i]? = some '\n'
  | anyLineStart =>
    i = 0 || text[i - 1]? = some '\n' || text[i - 1]? = some '\r' && text[i]? ≠ some '\n'
  | anyLineStop =>
    i = text.size || text[i]? = some '\r' ||
      text[i]? = some '\n' && (i = 0 || text[i - 1]? ≠ some '\r')
  | wordBoundary => isWordBefore text i != isWordAt text i
  | notWordBoundary => isWordBefore text i == isWordAt text i
  | wordStart => !isWordBefore text i && isWordAt text i
  | wordStop => isWordBefore text i && !isWordAt text i

/-- A state of an automaton. -/
inductive State where
  /-- Takes a character of the set. -/
  | take (s : CharSet) (next : Nat)
  /-- Goes both ways, the first one preferred. -/
  | fork (first second : Nat)
  /-- Notes the position. -/
  | note (slot next : Nat)
  /-- Goes on if the condition holds. -/
  | check (a : Anchor) (next : Nat)
  | accept
  | dead

/-- An automaton; group `n` is noted in slots `2 * n` and `2 * n + 1`. -/
structure Automaton where
  states : Array State
  start : Nat
  slots : Nat
  /-- Is it a search for texts, which notes where a match begins and ends and nothing else? -/
  isNeedleSearch : Bool

namespace Automaton

/-- A step of building: states are added from the last one back, so that a state knows what follows
it. -/
abbrev Build := StateM (Array State)

/-- Adds a state and gives its number. -/
def add (s : State) : Build Nat := fun states => (states.size, states.push s)

/-- A state that goes both ways. -/
def addFork (greedy : Bool) (body next : Nat) : Build Nat :=
  add (if greedy then .fork body next else .fork next body)

/-- A loop: after the body comes a fork that goes back to the body or on. Gives the body's entry and
the fork. -/
def addLoop (greedy : Bool) (body : Nat → Build Nat) (next : Nat) : Build (Nat × Nat) := do
  let turn ← add .dead
  let entry ← body turn
  modify fun states => states.set! turn (if greedy then .fork entry next else .fork next entry)
  return (entry, turn)

/-- The body a number of times. -/
def addExactly (body : Nat → Build Nat) : Nat → Nat → Build Nat
  | 0, next => return next
  | n + 1, next => do addExactly body n (← body next)

/-- The body at most a number of times; leaving leads to `leave`. -/
def addAtMost (greedy : Bool) (body : Nat → Build Nat) (leave : Nat) : Nat → Nat → Build Nat
  | 0, next => return next
  | n + 1, next => do addAtMost greedy body leave n (← addFork greedy (← body next) leave)

/-- A repetition of a body. -/
def addRepeated (body : Nat → Build Nat) (mayBeEmpty : Bool) (lo : Nat) (hi : Option Nat)
    (greedy : Bool) (next : Nat) : Build Nat := do
  match hi with
  | some n => addExactly body lo (← addAtMost greedy body next (n - lo) next)
  | none =>
    let (entry, turn) ← addLoop greedy body next
    match lo with
    | 0 => if mayBeEmpty then addFork greedy entry next else return turn
    | n + 1 => addExactly body n entry

/-- A text. -/
def addText : List Char → Nat → Build Nat
  | [], next => return next
  | c :: cs, next => do add (.take (CharSet.singleton c) (← addText cs next))

mutual

/-- Adds the states of an expression, followed by `next`, and gives the number of the first one. -/
def addRegular : Regular → Nat → Build Nat
  | .empty, next => return next
  | .text cs, next => addText cs next
  | .set s, next => add (.take s next)
  | .anchor a, next => add (.check a next)
  | .concat es, next => addSequence es next
  | .alt es, next => addAlternatives es next
  | .group number e, next => do
    let closing ← add (.note (2 * number + 1) next)
    add (.note (2 * number) (← addRegular e closing))
  | .repeated e lo hi greedy, next =>
    addRepeated (addRegular e) (!e.minLength.any (0 < ·)) lo hi greedy next

/-- Expressions in sequence. -/
def addSequence : List Regular → Nat → Build Nat
  | [], next => return next
  | e :: es, next => do addRegular e (← addSequence es next)

/-- Alternatives, the first one preferred. -/
def addAlternatives : List Regular → Nat → Build Nat
  | [], _ => add .dead
  | [e], next => addRegular e next
  | e :: es, next => do
    let others ← addAlternatives es next
    let first ← addRegular e next
    add (.fork first others)

end

/-- The automaton of an expression as the whole match. -/
def ofRegular (e : Regular) : Automaton :=
  let build : Build Nat := do
    let last ← add .accept
    addRegular (.group 0 e) last
  let (start, states) := build.run #[]
  ⟨states, start, 2 * (e.groups.foldl max 0 + 1), e.isNeedleSearch⟩

/-- The automaton of an expression in the plain form. It is refused if the form is malformed or
nests too deeply, or if the automaton is larger than the limit. -/
def compile (limit : Nat) (symbols : List Symbol) : Except Error Automaton :=
  match Regular.ofSymbols? symbols with
  | none => .error (.compile .invalidPiece)
  | some e => if e.fits limit then .ok (ofRegular e) else .error (.compile .tooLarge)

/-- Where groups begin and end. -/
abbrev Slots := Array (Option Nat)

/-- A state that is followed, with what was noted on the way. -/
structure Thread where
  state : Nat
  slots : Slots

/-- The threads at a position in order of preference: those on the worklist, followed until they
take a character or accept. `seen` are the states visited at the position. -/
def closure (m : Automaton) (text : Array Char) (i : Nat) :
    (fuel : Nat) → List Thread → (seen : Array Bool) → (found : List Thread) → List Thread
  | 0, _, _, found => found.reverse
  | _, [], _, found => found.reverse
  | fuel + 1, t :: rest, seen, found =>
    if seen.getD t.state true then m.closure text i fuel rest seen found
    else
      let seen := seen.set! t.state true
      match m.states.getD t.state .dead with
      | .take _ _ | .accept => m.closure text i fuel rest seen (t :: found)
      | .fork a b => m.closure text i fuel (⟨a, t.slots⟩ :: ⟨b, t.slots⟩ :: rest) seen found
      | .note slot next =>
        m.closure text i fuel (⟨next, t.slots.set! slot (some i)⟩ :: rest) seen found
      | .check a next =>
        let rest := if a.holds text i then ⟨next, t.slots⟩ :: rest else rest
        m.closure text i fuel rest seen found
      | .dead => m.closure text i fuel rest seen found

/-- The threads reached from a worklist. A step uses up a thread of the list, or visits a state and
adds two threads at most. -/
def follow (m : Automaton) (text : Array Char) (i : Nat) (work : List Thread) : List Thread :=
  m.closure text i (work.length + 2 * m.states.size + 1) work
    (Array.replicate m.states.size false) []

/-- Does the thread accept? -/
def accepts (m : Automaton) (t : Thread) : Bool :=
  match m.states.getD t.state .dead with
  | .accept => true
  | _ => false

/-- The thread after it took the character, if it does. -/
def advance? (m : Automaton) (c : Char) (t : Thread) : Option Thread :=
  match m.states.getD t.state .dead with
  | .take s next => if s.contains c then some ⟨next, t.slots⟩ else none
  | _ => none

/-- The thread that begins at a position. -/
def fresh (m : Automaton) : Thread := ⟨m.start, Array.replicate m.slots none⟩

/-- The preferred match, following the worklist from position `i` on; `best` is the one found so
far. Unless it is `anchored`, a match may begin at any later position while none is found. -/
def runFrom (m : Automaton) (text : Array Char) (anchored : Bool) :
    (fuel : Nat) → Nat → List Thread → Option Slots → Option Slots
  | 0, _, _, best => best
  | fuel + 1, i, work, best =>
    let threads := m.follow text i work
    let before := threads.takeWhile fun t => !m.accepts t
    let best := match threads[before.length]? with
      | some t => some t.slots
      | none => best
    match text[i]? with
    | none => best
    | some c =>
      let work := before.filterMap (m.advance? c)
      let work := if anchored || best.isSome then work else work ++ [m.fresh]
      if work.isEmpty then best else m.runFrom text anchored fuel (i + 1) work best

/-- The preferred match that begins at position `i`, or unless it is anchored, at the first position
from there on where one begins. -/
def search (m : Automaton) (text : Array Char) (anchored : Bool) (i : Nat) : Option Slots :=
  m.runFrom text anchored (text.size - i + 1) i [m.fresh] none

end Automaton

end PatternSession.Regex
