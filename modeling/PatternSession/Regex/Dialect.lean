import PatternSession.Matcher
import PatternSession.Regex.Machine
import PatternSession.Regex.Syntax

/-!
# The matcher of the bundled dialect

`dialect` puts the parts together: a source is read, references are checked, and the pattern becomes
an automaton if it needs no backtracking, and a program for the backtracking machine if it does. The
size limit of a caller is for patterns that are an automaton as a whole.

Positions are characters inside and UTF-8 bytes outside; the conversion is made here.
-/

namespace PatternSession.Regex

/-- The backtracking limit when none is given. -/
def defaultBacktrackLimit : Nat := 1000000

/-- A compiled pattern. -/
structure Compiled where
  matching : Automaton ⊕ Program
  backtrackLimit : Nat
  /-- The name of every group, the whole match first. -/
  names : List (Option String)

/-- The names of `count` groups; `names` are those given, the last one first, and of equal names the
last one counts. -/
def groupNames (names : List (List Char × Nat)) (count : Nat) : List (Option String) :=
  let effective := names.filter fun p => (names.find? fun q => q.1 = p.1) = some p
  (List.range count).map fun i =>
    (effective.find? fun p => p.2 = i).map fun p => String.ofList p.1

/-- Compiles a pattern that was read. -/
def Compiled.ofPattern (limits : Limits) (p : Pattern) : Except Error Compiled :=
  let sizeLimit := limits.delegateSizeLimit.getD Assembly.partSizeLimit
  let backtrackLimit := limits.backtrackLimit.getD defaultBacktrackLimit
  match p.expr.openedAfter? 1 with
  | none => .error (.compile .invalidReference)
  | some opened =>
    if p.expr.needsBacktracking then
      (Program.compile opened p.expr).map fun program =>
        ⟨.inr program, backtrackLimit, groupNames p.names opened⟩
    else
      (Automaton.compile sizeLimit (p.expr.symbols 0)).map fun m =>
        ⟨.inl m, backtrackLimit, groupNames p.names (m.slots / 2)⟩

/-- Compiles the source of a pattern. -/
def Compiled.ofSource (limits : Limits) (source : String) : Except Error Compiled :=
  match Pattern.read? source with
  | .error e => .error e
  | .ok p => Compiled.ofPattern limits p

/-- The slots of the first match at or after a character position. -/
def Compiled.searchChars (c : Compiled) (text : Array Char) (start : Nat) :
    Except Error (Option (Array (Option Nat))) :=
  match c.matching with
  | .inl m => .ok (m.search text false start)
  | .inr p => p.search text start c.backtrackLimit

/-- The span of a group, from its slots. -/
def spanOf (bytes : Array Nat) (slots : Array (Option Nat)) (group : Nat) : Option ByteSpan :=
  match slots.getD (2 * group) none, slots.getD (2 * group + 1) none with
  | some first, some last => some ⟨bytes.getD first 0, bytes.getD last 0⟩
  | _, _ => none

/-- The first match at or after a byte position. -/
def Compiled.search (c : Compiled) (text : List Char) (start : Nat) :
    Except Error (Option ByteSpans) :=
  let bytes := (charStarts 0 text ++ [byteLength text]).toArray
  let first := bytes.findIdx fun b => decide (start ≤ b)
  (c.searchChars text.toArray first).map fun found =>
    found.map fun slots => (List.range c.names.length).map (spanOf bytes slots)

/-- The matcher of the dialect. -/
def dialect : Matcher where
  Pattern := Compiled
  compile limits source :=
    match Compiled.ofSource limits source with
    | .ok c => .ok c
    | .error e => .error e.message
  groupNames c := c.names
  search c text start :=
    match c.search text start with
    | .ok found => .ok found
    | .error e => .error e.message

end PatternSession.Regex
