import PatternSession.Regex.Program

/-!
# Matching with backtracking

The machine runs a program over a text. It has a position in the program and in the text, slots, and
a stack of choices not taken yet; each choice remembers the slots as they were, so that a failure
brings back everything but the number of failures.

**Limits.** Every return to a choice counts against the limit of the search. A search over the limit
fails with an error, and so does one with too many choices open at a time.

**Notes of parts.** An automaton notes its groups in slots that are kept from one automaton to the
next, over failures too. A search for texts notes no groups, so whoever asks for them is given those
of the automaton before it.
-/

namespace PatternSession.Regex.Program

/-- Where to go on after a failure, and what the machine knew there. -/
structure Choice where
  pc : Nat
  position : Nat
  slots : Array (Option Nat)
  atomics : List Nat
  /-- The number of choices below this one. -/
  below : Nat

/-- A machine. -/
structure Machine where
  pc : Nat := 0
  position : Nat
  slots : Array (Option Nat)
  /-- The number of choices at the beginning of every atomic group that is open, the last first. -/
  atomics : List Nat := []
  choices : List Choice := []
  /-- The number of choices. -/
  depth : Nat := 0
  /-- The slots of the last automaton that was asked for groups. -/
  notes : Array (Option Nat) := #[]

/-- The most choices that are open at a time. -/
def choiceLimit : Nat := 1000000

namespace Machine

def slot (m : Machine) (n : Nat) : Option Nat := m.slots.getD n none

def setSlot (m : Machine) (n : Nat) (value : Option Nat) : Machine :=
  { m with slots := m.slots.set! n value }

/-- Goes on at another instruction. -/
def goto (m : Machine) (pc : Nat) : Machine := { m with pc }

/-- Goes on at the next instruction. -/
def advance (m : Machine) : Machine := { m with pc := m.pc + 1 }

/-- Goes on at the next instruction, at another position. -/
def moveTo (m : Machine) (position : Nat) : Machine := { m with pc := m.pc + 1, position }

/-- Remembers a choice. -/
def choose (m : Machine) (pc : Nat) : Machine :=
  { m with
    choices := ⟨pc, m.position, m.slots, m.atomics, m.depth⟩ :: m.choices
    depth := m.depth + 1 }

/-- Takes a choice, of which `rest` are below. -/
def take (m : Machine) (c : Choice) (rest : List Choice) : Machine :=
  ⟨c.pc, c.position, c.slots, c.atomics, rest, c.below, m.notes⟩

/-- Drops the choices above the first `n` ones. -/
def cut (m : Machine) (n : Nat) : Machine :=
  { m with choices := m.choices.drop (m.depth - n), depth := min m.depth n }

end Machine

/-- What an instruction leads to. -/
inductive Outcome where
  | go (m : Machine)
  /-- Back to the last choice. -/
  | fail (m : Machine)
  /-- There is no room for another choice. -/
  | overflow
  | matched (slots : Array (Option Nat))

/-- The position after `cs`, if they stand at a position. -/
def textAt? (text : Array Char) (i : Nat) : List Char → Option Nat
  | [] => some i
  | c :: cs => if text[i]? = some c then textAt? text (i + 1) cs else none

/-- The position after a copy of the characters from `j` to before `stop`, if they stand at `i`. -/
def copyAt? (text : Array Char) (i j stop : Nat) : Option Nat :=
  textAt? text i (text.extract j stop).toList

/-- Goes on at one of two instructions, and keeps the other one as a choice. -/
def goOrChoose (m : Machine) (first second : Nat) : Outcome :=
  if m.depth < choiceLimit then .go ((m.choose second).goto first) else .overflow

/-- The slots from 0 on brought to a size. -/
def resized (slots : Array (Option Nat)) (size : Nat) : Array (Option Nat) :=
  (slots ++ Array.replicate size none).extract 0 size

/-- The notes after an automaton that found this match: all slots of the automaton, and nothing in
the others. A search for texts leaves the notes of groups as they are. -/
def notesAfter (a : Automaton) (before found : Array (Option Nat)) : Array (Option Nat) :=
  if a.isNeedleSearch then (before.set! 0 (found.getD 0 none)).set! 1 (found.getD 1 none)
  else resized found before.size

/-- The notes after an automaton that found no match. -/
def notesAfterFailure (a : Automaton) (before : Array (Option Nat)) : Array (Option Nat) :=
  if a.slots ≤ 2 then before else Array.replicate before.size none

/-- Groups from `first` on, as the notes tell them from group 1 on. -/
def noteGroups (m : Machine) (first count : Nat) : Machine :=
  (List.range count).foldl (fun m i =>
    (m.setSlot (2 * (first + i)) (m.notes.getD (2 * i + 2) none)).setSlot (2 * (first + i) + 1)
      (m.notes.getD (2 * i + 3) none)) m

/-- Takes the match of an automaton, and notes `count` groups from `first` on. -/
def runPart (text : Array Char) (m : Machine) (a : Automaton) (first count : Nat) : Outcome :=
  let found := a.search text true m.position
  let m := if count = 0 then m else
    let before := resized m.notes (2 * count + 2)
    { m with
      notes := match found with
        | some slots => notesAfter a before slots
        | none => notesAfterFailure a before }
  match found with
  | some slots => .go ((noteGroups m first count).moveTo ((slots.getD 1 none).getD m.position))
  | none => .fail m

/-- The slots of a match. A start that was moved past the end is brought back to it. -/
def finalSlots (slots : Array (Option Nat)) : Array (Option Nat) :=
  match slots.getD 0 none, slots.getD 1 none with
  | some start, some stop => if stop < start then slots.set! 0 (some stop) else slots
  | _, _ => slots

/-- One instruction of a search that began at `start`. -/
def step (text : Array Char) (start : Nat) (m : Machine) : Instruction → Outcome
  | .any newline =>
    match text[m.position]? with
    | some c => if newline || c ≠ '\n' then .go (m.moveTo (m.position + 1)) else .fail m
    | none => .fail m
  | .text cs =>
    match textAt? text m.position cs with
    | some j => .go (m.moveTo j)
    | none => .fail m
  | .anchor a => if a.holds text m.position then .go m.advance else .fail m
  | .split first second => goOrChoose m first second
  | .jump target => .go (m.goto target)
  | .save slot => .go (m.setSlot slot (some m.position)).advance
  | .zero slot => .go (m.setSlot slot (some 0)).advance
  | .restore slot => .go (m.moveTo ((m.slot slot).getD 0))
  | .count greedy lo hi counter next =>
    let n := (m.slot counter).getD 0
    if hi = some n then .go (m.goto next)
    else
      let m := m.setSlot counter (some (n + 1))
      if n < lo then .go m.advance
      else if greedy then goOrChoose m (m.pc + 1) next
      else goOrChoose m next (m.pc + 1)
  | .countRounds greedy lo counter last next =>
    let n := (m.slot counter).getD 0
    if 0 < n ∧ m.slot last = some m.position then .fail m
    else
      let m := m.setSlot counter (some (n + 1))
      if n < lo then .go m.advance
      else
        let m := m.setSlot last (some m.position)
        if greedy then goOrChoose m (m.pc + 1) next
        else goOrChoose m next (m.pc + 1)
  | .back size => if size ≤ m.position then .go (m.moveTo (m.position - size)) else .fail m
  | .failLook =>
    match m.choices.dropWhile fun c => c.pc ≠ m.pc + 1 with
    | c :: rest => .fail { m with choices := rest, depth := c.below }
    | [] => .fail { m with choices := [], depth := 0 }
  | .reference group =>
    match m.slot (2 * group), m.slot (2 * group + 1) with
    | some first, some last =>
      if first ≤ last then
        match copyAt? text m.position first last with
        | some j => .go (m.moveTo j)
        | none => .fail m
      else .fail m
    | _, _ => .fail m
  | .groupTaken group => if (m.slot (2 * group)).isSome then .go m.advance else .fail m
  | .run a first count => runPart text m a first count
  | .atomicBegin => .go { m with atomics := m.depth :: m.atomics }.advance
  | .atomicEnd =>
    match m.atomics with
    | n :: outer => .go ({ m with atomics := outer }.cut n).advance
    | [] => .go m.advance
  | .searchStart => if m.position ≤ start then .go m.advance else .fail m
  | .stop => .matched (finalSlots m.slots)

/-- Runs until a match or until no choice is left; `failures` is the number of returns so far. -/
def runFrom (p : Program) (text : Array Char) (start limit : Nat) :
    (fuel failures : Nat) → Machine → Except Error (Option (Array (Option Nat)))
  | 0, _, _ => .error .backtrackLimit
  | fuel + 1, failures, m =>
    match step text start m (p.code.getD m.pc .stop) with
    | .go m => p.runFrom text start limit fuel failures m
    | .matched slots => .ok (some slots)
    | .overflow => .error .choiceLimit
    | .fail m =>
      match m.choices with
      | [] => .ok none
      | c :: rest =>
        if limit ≤ failures then .error .backtrackLimit
        else p.runFrom text start limit fuel (failures + 1) (m.take c rest)

/-- How often the head of a counted repetition is met before its body has to take a character. -/
def rounds : Instruction → Nat
  | .count _ lo hi _ _ => max lo (hi.getD lo) + 1
  | .countRounds _ lo _ _ _ => lo + 1
  | _ => 1

/-- More instructions than a search within the limit can take: between two failures no instruction
is met twice at one position, except in the rounds of a counted repetition. -/
def fuelFor (p : Program) (text : Array Char) (limit : Nat) : Nat :=
  (limit + 1) * (p.code.size + 1) * (text.size + 2) *
    p.code.foldl (fun n i => n * rounds i) 1

/-- The first match at or after position `start`. -/
def search (p : Program) (text : Array Char) (start limit : Nat) :
    Except Error (Option (Array (Option Nat))) :=
  p.runFrom text start limit (p.fuelFor text limit) 0
    { position := start, slots := Array.replicate p.slots none }

end PatternSession.Regex.Program
