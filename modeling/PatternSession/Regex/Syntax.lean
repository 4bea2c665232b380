import PatternSession.Regex.Escape

/-!
# Reading patterns

`Pattern.read?` reads the source of a pattern into an `Expr`, with the names of its groups.

**Pieces.** A pattern is alternatives between bars; an alternative is pieces in sequence; a piece is
an atom with at most one quantifier, which may be lazy or possessive. Braces that are no quantifier
are characters.

**Flags** hold from where they are set on. A group with flags of its own sets them back at its end;
any other group does not.

**Names or numbers.** With a named group in it, a pattern may not refer by number.

**Depth.** Groups nest up to a limit, and the fuel of the reader allows for that depth and for every
piece of the source.
-/

namespace PatternSession.Regex

/-- The position after a closing parenthesis. -/
def closeParen (s : Source) (i : Nat) : Read Nat := do
  let j ← blanks s i
  match s.at? j with
  | none => failAt s j .unclosedParen
  | some ')' => return j + 1
  | some _ => failAt s j .closeParenExpected

/-- A new group is opened; its number. -/
def openGroup : Read Nat := do
  modify fun r => { r with opened := r.opened + 1 }
  return (← get).opened

/-- The deepest nesting of groups. -/
def depthLimit : Nat := 64

/-- Pieces in sequence as one expression. -/
def sequence : List Expr → Expr
  | [] => .empty
  | [e] => e
  | es => .concat es

/-- How the flags of a group end. -/
inductive FlagsEnd where
  /-- The flags hold from here on. -/
  | set (next : Nat)
  /-- The flags hold for the group whose content begins here. -/
  | scoped (next : Nat)

/-- The flags of a group from position `i` on; the first one stands at `first`. -/
def readFlags (s : Source) (first : Nat) : (fuel : Nat) → (negated : Bool) → Nat → Read FlagsEnd
  | 0, _, i => failAt s i .unclosedParen
  | fuel + 1, negated, i => do
    let i ← blanks s i
    let unknown : Read FlagsEnd :=
      failAt s first (.unknownFlag ('(' :: '?' :: s.slice first (i + 1)))
    let dangling := negated && i = first + 1
    match s.at? i with
    | none => failAt s i .unclosedParen
    | some 'u' =>
      if negated then failAt s i .unicodeRequired else readFlags s first fuel negated (i + 1)
    | some '-' => if negated then unknown else readFlags s first fuel true (i + 1)
    | some ')' => if i = first || dangling then unknown else return .set (i + 1)
    | some ':' => if dangling then unknown else return .scoped (i + 1)
    | some c =>
      match (← flags).set? (!negated) c with
      | some f =>
        modify fun r => { r with flags := f }
        readFlags s first fuel negated (i + 1)
      | none => unknown

/-- A condition and what to do then: a conditional, or the condition alone if there is nothing to
do. -/
def conditionalOf (condition ifTrue ifFalse : Expr) : Expr :=
  let condition := match condition with
    | .reference n => .groupTaken n
    | e => e
  if ifTrue.isEmpty && ifFalse.isEmpty then condition
  else .conditional condition ifTrue ifFalse

/-- What to do when a condition holds and when it does not: the first alternative and the others. -/
def splitBranches : Expr → Expr × Expr
  | .alt (first :: [second]) => (first, second)
  | .alt (first :: others) => (first, .alt others)
  | e => (e, .empty)

mutual

/-- Alternatives, and the position after them. -/
def readAlternatives (s : Source) : (fuel depth : Nat) → Nat → Read (Expr × Nat)
  | 0, _, i => failAt s i .tooDeep
  | fuel + 1, depth, i => do
    let (first, j) ← readSequence s fuel depth [] i
    let j ← blanks s j
    if s.at? j = some '|' then
      let (others, k) ← readOthers s fuel depth j
      return (.alt (first :: others), k)
    else
      let r ← get
      if r.byNumber && !r.names.isEmpty then throw (.compile .namedGroupsOnly)
      else return (first, j)

/-- The alternatives from a bar on, and the position after them. -/
def readOthers (s : Source) : (fuel depth : Nat) → Nat → Read (List Expr × Nat)
  | 0, _, i => failAt s i .tooDeep
  | fuel + 1, depth, i => do
    if s.at? i = some '|' then
      let (e, j) ← readSequence s fuel depth [] (i + 1)
      let (others, k) ← readOthers s fuel depth (← blanks s j)
      return (e :: others, k)
    else return ([], i)

/-- Pieces in sequence, after those already read (the last one first). -/
def readSequence (s : Source) : (fuel depth : Nat) → List Expr → Nat → Read (Expr × Nat)
  | 0, _, _, i => failAt s i .tooDeep
  | fuel + 1, depth, before, i => do
    if i < s.size then
      let (e, j) ← readPiece s fuel depth i
      if j = i then return (sequence before.reverse, i)
      else readSequence s fuel depth (if e.isEmpty then before else e :: before) j
    else return (sequence before.reverse, i)

/-- An atom with its quantifier, if it has one. -/
def readPiece (s : Source) : (fuel depth : Nat) → Nat → Read (Expr × Nat)
  | 0, _, i => failAt s i .tooDeep
  | fuel + 1, depth, i => do
    let (e, j) ← readAtom s fuel depth i
    let j ← blanks s j
    let quantifier ← match s.at? j with
      | some '?' => pure (some (0, some 1, j + 1))
      | some '*' => pure (some (0, none, j + 1))
      | some '+' => pure (some (1, none, j + 1))
      | some '\x7b' => braces? s j
      | _ => pure none
    match quantifier with
    | none => return (e, j)
    | some (lo, hi, next) =>
      if !e.isRepeatable then failAt s (next - 1) .notRepeatable
      else
        let k ← blanks s next
        let (lazily, k) := if s.at? k = some '?' then (true, k + 1) else (false, k)
        let repeated := Expr.repeated e lo hi (lazily == (← flags).swapGreed)
        if s.at? k = some '+' then return (.atomic repeated, k + 1) else return (repeated, k)

/-- A single atom; nothing where none begins. -/
def readAtom (s : Source) : (fuel depth : Nat) → Nat → Read (Expr × Nat)
  | 0, _, i => failAt s i .tooDeep
  | fuel + 1, depth, i => do
    let i ← blanks s i
    let f ← flags
    match s.at? i with
    | none => return (.empty, i)
    | some '.' => return (.any f.dotNewline, i + 1)
    | some '^' => return (.anchor (if f.multiline then .lineStart else .textStart), i + 1)
    | some '$' => return (.anchor (if f.multiline then .lineStop else .textStop), i + 1)
    | some '(' => readGroup s fuel depth i
    | some '\\' =>
      let (escape, j) ← readEscape s i false
      match escape with
      | .char c ignoreCase => return (.char c ignoreCase, j)
      | .piece symbols ignoreCase => return (.piece symbols ignoreCase, j)
      | .expr e => return (e, j)
    | some '+' | some '*' | some '?' | some '|' | some ')' => return (.empty, i)
    | some '[' => readClass s i
    | some c => return (.char c f.ignoreCase, i + 1)

/-- A group at the position of its opening parenthesis. -/
def readGroup (s : Source) : (fuel depth : Nat) → Nat → Read (Expr × Nat)
  | 0, _, i => failAt s i .tooDeep
  | fuel + 1, depth, start => do
    let depth := depth + 1
    if depthLimit ≤ depth then failAt s start .tooDeep
    else
      let i ← blanks s (start + 1)
      let content (j : Nat) (wrap : Expr → Expr) : Read (Expr × Nat) := do
        let (e, k) ← readAlternatives s fuel depth j
        return (wrap e, ← closeParen s k)
      let named (j : Nat) : Read (Expr × Nat) := do
        let n ← openGroup
        match name? s j ['<'] ['>'] false with
        | some (name, k) =>
          modify fun r => { r with names := (name, n) :: r.names }
          content k (.group n)
        | none => failAt s i .invalidGroupName
      if s.startsWith i ['?', '='] then content (i + 2) (.look .ahead)
      else if s.startsWith i ['?', '!'] then content (i + 2) (.look .notAhead)
      else if s.startsWith i ['?', '<', '='] then content (i + 3) (.look .behind)
      else if s.startsWith i ['?', '<', '!'] then content (i + 3) (.look .notBehind)
      else if s.startsWith i ['?', '<'] then named (i + 1)
      else if s.startsWith i ['?', 'P', '<'] then named (i + 2)
      else if s.startsWith i ['?', 'P', '='] then namedReference s (i + 3) [] [')'] false
      else if s.startsWith i ['?', '>'] then content (i + 2) .atomic
      else if s.startsWith i ['?', '('] then readConditional s fuel depth (i + 2)
      else if s.startsWith i ['?'] then
        let before ← flags
        match ← readFlags s (i + 1) (s.size + 1) false (i + 1) with
        | .set next => return (.empty, next)
        | .scoped next =>
          let result ← content next id
          modify fun r => { r with flags := before }
          return result
      else
        let n ← openGroup
        content i (.group n)

/-- A conditional at the position of its condition. -/
def readConditional (s : Source) : (fuel depth : Nat) → Nat → Read (Expr × Nat)
  | 0, _, i => failAt s i .tooDeep
  | fuel + 1, depth, i => do
    let (condition, j) ← match s.at? i with
      | none => failAt s i .unclosedParen
      | some '\'' => namedReference s i ['\''] ['\''] true
      | some '<' => namedReference s i ['<'] ['>'] true
      | some c => if isDigit c then numberedReference s i else readAlternatives s fuel depth i
    let body ← closeParen s j
    let (branches, k) ← readAlternatives s fuel depth body
    if k = body then
      match condition with
      | .reference n =>
        let next ← closeParen s k
        return (.groupTaken n, next)
      | _ => failAt s k .emptyConditional
    else
      let next ← closeParen s k
      let (ifTrue, ifFalse) := splitBranches branches
      return (conditionalOf condition ifTrue ifFalse, next)

end

/-- A pattern that was read. -/
structure Pattern where
  expr : Expr
  /-- The names with their groups, the last one given first. -/
  names : List (List Char × Nat)

/-- Reads the source of a pattern. -/
def Pattern.read? (source : String) : Except Error Pattern :=
  let s := Source.ofString source
  match (readAlternatives s (4 * s.size + 16 * depthLimit) 0 0).run {} with
  | .error e => .error e
  | .ok ((e, i), r) =>
    if i < s.size then .error (.parse (s.bytePos i) .endNotReached)
    else .ok ⟨e, r.names⟩

end PatternSession.Regex
