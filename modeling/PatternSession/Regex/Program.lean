import PatternSession.Regex.Automaton
import PatternSession.Regex.Spelling

/-!
# Programs of patterns that need backtracking

A pattern that needs backtracking is compiled to a list of instructions for a machine with a stack
of choices. What needs none is left to automata wherever that cannot change the match: an expression
on its own, and in a sequence the parts at its beginning and at its end. The part at the beginning,
and the one at the end where a choice could still be taken back later, must have a constant size, so
that there is no choice in how much they take.

**Slots.** Group `n` has slots `2 * n` and `2 * n + 1`. Look-around and counted repetitions get
slots of their own after those.

**Look-behind** steps back by its size, which must be constant; alternatives of different sizes are
looked for one by one.
-/

namespace PatternSession.Regex

/-- An instruction. Numbers of instructions are positions in the program. -/
inductive Instruction where
  | any (newline : Bool)
  | text (cs : List Char)
  | anchor (a : Anchor)
  /-- A choice: goes to the first, and to the second when that fails. -/
  | split (first second : Nat)
  | jump (target : Nat)
  /-- Notes the position in a slot. -/
  | save (slot : Nat)
  /-- Notes zero in a slot. -/
  | zero (slot : Nat)
  /-- Goes back to the position in a slot. -/
  | restore (slot : Nat)
  /-- The head of a repetition that is counted in a slot; `next` comes after it. -/
  | count (greedy : Bool) (lo : Nat) (hi : Option Nat) (counter next : Nat)
  /-- The same without an upper bound, for a body that may be empty: after a round that takes
  nothing the machine goes back. The position of the last round is in slot `last`. -/
  | countRounds (greedy : Bool) (lo counter last next : Nat)
  /-- Steps back by characters. -/
  | back (size : Nat)
  /-- The inside of a negative look-around matched: all choices made in it are dropped, with the one
  that leads past it. -/
  | failLook
  /-- Takes the text of a group. -/
  | reference (group : Nat)
  | groupTaken (group : Nat)
  /-- Takes the preferred match of an automaton, and notes `count` groups from `first` on, which are
  the groups from 1 on of the automaton. -/
  | run (m : Automaton) (first count : Nat)
  | atomicBegin
  /-- Drops all choices made since the matching `atomicBegin`. -/
  | atomicEnd
  | searchStart
  | stop

/-- A program under construction. -/
structure Assembly where
  code : Array Instruction := #[]
  /-- The number of slots given out. -/
  slots : Nat

namespace Assembly

/-- A step of assembling. -/
abbrev Emit := StateT Assembly (Except Error)

/-- The position of the next instruction. -/
def here : Emit Nat := return (← get).code.size

def push (i : Instruction) : Emit Unit :=
  modify fun a => { a with code := a.code.push i }

/-- Puts an instruction in the place of one that was kept free. -/
def place (position : Nat) (i : Instruction) : Emit Unit :=
  modify fun a => { a with code := a.code.set! position i }

/-- A slot of its own. -/
def newSlot : Emit Nat := do
  let n := (← get).slots
  modify fun a => { a with slots := n + 1 }
  return n

/-- The size limit of an automaton in a program: ten mebibytes. -/
def partSizeLimit : Nat := 10485760

/-- Leaves expressions in sequence to an automaton, or to a comparison if they are characters
only. -/
def pushPart (es : List Expr) : Emit Unit := do
  match es, Expr.literalAll? es with
  | [], _ => return ()
  | _, some cs => push (.text cs)
  | _, none =>
    match Automaton.compile partSizeLimit (Expr.symbolsOfPart es), Expr.groupsAll es with
    | .ok m, groups => push (.run m (groups.headD 0) groups.length)
    | .error e, _ => throw e

/-- A choice that can be left out: `body`, or directly what follows. -/
def pushOptional (greedy : Bool) (body : Emit Unit) : Emit Unit := do
  let head ← here
  push .stop
  body
  let next ← here
  place head (if greedy then .split (head + 1) next else .split next (head + 1))

/-- A repetition of `body`; `mayBeEmpty` tells whether a round may take nothing. -/
def pushRepeated (mayBeEmpty : Bool) (lo : Nat) (hi : Option Nat) (greedy : Bool)
    (body : Emit Unit) : Emit Unit := do
  if hi.isNone && mayBeEmpty then
    let counter ← newSlot
    let last ← newSlot
    push (.zero counter)
    let head ← here
    push .stop
    body
    push (.jump head)
    place head (.countRounds greedy lo counter last (← here))
  else
    match lo, hi with
    | 0, none => pushOptional greedy do
        let first ← here
        body
        push (.jump (first - 1))
    | 1, none =>
      let first ← here
      body
      let next := (← here) + 1
      push (if greedy then .split first next else .split next first)
    | _, _ =>
      let counter ← newSlot
      push (.zero counter)
      let head ← here
      push .stop
      body
      push (.jump head)
      place head (.count greedy lo hi counter (← here))

/-- What has to be ahead, or behind if `size` is given: `body` is tried, and the position is as
before. -/
def pushLook (size : Option Nat) (body : Emit Unit) : Emit Unit := do
  let slot ← newSlot
  push (.save slot)
  size.forM fun n => push (.back n)
  body
  push (.restore slot)

/-- What has not to be ahead, or behind if `size` is given. -/
def pushNotLook (size : Option Nat) (body : Emit Unit) : Emit Unit := do
  let head ← here
  push .stop
  size.forM fun n => push (.back n)
  body
  push .failLook
  place head (.split (head + 1) (← here))

/-- The size of an expression to look behind for. -/
def sizeBehind (e : Expr) : Emit (Option Nat) :=
  if e.constSize then return some e.minSize else throw (.compile .lookBehindSize)

/-- Does a part without backtracking begin a sequence here? -/
def leads (e : Expr) : Bool :=
  e.constSize && !e.needsBacktracking

/-- Does a part without backtracking end a sequence here? Where a choice could be taken back
(`strict`), it must have a constant size. -/
def trails (strict : Bool) (e : Expr) : Bool :=
  (!strict || e.constSize) && !e.needsBacktracking

/-- An expression that needs no backtracking is left to an automaton, unless `strict`. -/
def orPart (strict : Bool) (e : Expr) (otherwise : Emit Unit) : Emit Unit :=
  if !strict && !e.needsBacktracking then pushPart [e] else otherwise

mutual

/-- Emits an expression by its shape. `strict` holds where a choice inside it could be taken back by
what follows. -/
def emit (strict : Bool) : Expr → Emit Unit
  | .empty => return ()
  | .char c false => push (.text [c])
  | .char c true => pushPart [.char c true]
  | .piece symbols ignoreCase => pushPart [.piece symbols ignoreCase]
  | .any newline => push (.any newline)
  | .anchor a => push (.anchor a)
  | .concat es => do
    let lead := (es.takeWhile leads).length
    let tail := ((es.drop lead).reverse.takeWhile (trails strict)).length
    pushPart (es.take lead)
    emitMiddle lead (es.length - lead - tail) es
    pushPart (es.drop (es.length - tail))
  | .alt es => emitAlternatives strict es
  | .group number e => do
    push (.save (2 * number))
    orPart strict e (emit strict e)
    push (.save (2 * number + 1))
  | .repeated e lo hi greedy =>
    if lo = 0 ∧ hi = some 1 then
      pushOptional greedy (orPart strict e (emit strict e))
    else
      let strict := strict || e.needsBacktracking
      pushRepeated (e.minSize = 0) lo hi greedy
        (orPart strict e (emit strict e))
  | .look .ahead e => pushLook none (orPart false e (emit false e))
  | .look .notAhead e => pushNotLook none (orPart false e (emit false e))
  | .look .behind (.alt es) =>
    if Expr.constSize (.alt es) then do
      pushLook (← sizeBehind (.alt es))
        (orPart false (.alt es) (emitAlternatives false es))
    else emitBehind es
  | .look .behind e => do
    pushLook (← sizeBehind e) (orPart false e (emit false e))
  | .look .notBehind (.alt es) =>
    if Expr.constSize (.alt es) then do
      pushNotLook (← sizeBehind (.alt es))
        (orPart false (.alt es) (emitAlternatives false es))
    else emitNotBehind es
  | .look .notBehind e => do
    pushNotLook (← sizeBehind e) (orPart false e (emit false e))
  | .reference number => push (.reference number)
  | .groupTaken number => push (.groupTaken number)
  | .atomic e => do
    push .atomicBegin
    orPart false e (emit false e)
    push .atomicEnd
  | .keepOut => push (.save 0)
  | .searchStart => push .searchStart
  | .conditional c t f => do
    push .atomicBegin
    let head ← here
    push .stop
    orPart strict c (emit strict c)
    push .atomicEnd
    orPart strict t (emit strict t)
    let leave ← here
    push .stop
    place head (.split (head + 1) (← here))
    orPart strict f (emit strict f)
    place leave (.jump (← here))

/-- Emits `count` expressions of a sequence after the first `skip` ones. -/
def emitMiddle : (skip count : Nat) → List Expr → Emit Unit
  | _, _, [] => return ()
  | skip + 1, count, _ :: es => emitMiddle skip count es
  | 0, count + 1, e :: es => do
    emit true e
    emitMiddle 0 count es
  | 0, 0, _ => return ()

/-- Emits alternatives, the first one preferred. -/
def emitAlternatives (strict : Bool) : List Expr → Emit Unit
  | [] => return ()
  | [e] => orPart strict e (emit strict e)
  | e :: es => do
    let head ← here
    push .stop
    orPart strict e (emit strict e)
    let leave ← here
    push .stop
    place head (.split (head + 1) (← here))
    emitAlternatives strict es
    place leave (.jump (← here))

/-- Emits alternatives of which one has to be behind. -/
def emitBehind : List Expr → Emit Unit
  | [] => return ()
  | [e] => do pushLook (← sizeBehind e) (orPart false e (emit false e))
  | e :: es => do
    let head ← here
    push .stop
    pushLook (← sizeBehind e) (orPart false e (emit false e))
    let leave ← here
    push .stop
    place head (.split (head + 1) (← here))
    emitBehind es
    place leave (.jump (← here))

/-- Emits alternatives of which none may be behind. -/
def emitNotBehind : List Expr → Emit Unit
  | [] => return ()
  | e :: es => do
    pushNotLook (← sizeBehind e) (orPart false e (emit false e))
    emitNotBehind es

end

end Assembly

/-- A program; it looks for a match from a position on. -/
structure Program where
  code : Array Instruction
  /-- The number of slots. -/
  slots : Nat
  /-- The number of groups, the whole match included. -/
  groups : Nat

/-- Compiles a pattern of `groups` groups: any number of characters, as few as possible, and the
pattern as the whole match. -/
def Program.compile (groups : Nat) (e : Expr) : Except Error Program :=
  let emitAll : Assembly.Emit Unit := do
    Assembly.pushOptional false do
      Assembly.push (.any true)
      Assembly.push (.jump 0)
    Assembly.emit true (.group 0 e)
    Assembly.push .stop
  (emitAll.run { slots := 2 * groups }).map fun (_, a) => ⟨a.code, a.slots, groups⟩

end PatternSession.Regex
