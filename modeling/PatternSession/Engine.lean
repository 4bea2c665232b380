import PatternSession.Text.Buffer

/-!
# The call surface of a matching engine

A session reaches its engine through three calls only: compile and match, compile and substitute,
free. Between calls the engine keeps its compiled pattern, its compiled template and the result of
the last call in a *handle*. The session owns the place for the handle and cannot look into it
except through `Engine.region`. A call may fill the place, replace what is in it or leave it empty.

**Reuse.** A call that passes no pattern (or no template) asks for the one that the handle holds.

**Status.** Positive: matched. Zero: no match. Negative: an error, whose text the engine writes as
the answer's message.

**State.** An engine may have a state of its own beside the handle (a log, a schedule of faults),
so every call takes and returns one. Nothing is assumed about the answers.
-/

namespace PatternSession

/-- Where a group matched, as character positions in the text copy of the call. -/
structure GroupBounds where
  start : Nat
  stop : Nat
  deriving DecidableEq

/-- The result that a handle exposes after a call. -/
structure Region where
  /-- One entry for every group, the whole match first; `none` for a group that took no part. -/
  groups : List (Option GroupBounds) := []
  /-- After a substitution, the rebuilt text of the searched range. -/
  output : List CodeUnit := []

/-- The number of groups beside the whole match. -/
def Region.parens (r : Region) : Nat := r.groups.length - 1

/-- Compile the pattern, if one is given, and search unless the call is for compiling only. -/
structure MatchCall where
  pattern : Option String
  options : Option String
  range : TextRange
  /-- Compile only. -/
  oneShot : Bool

/-- Compile whichever of pattern and template are given, and substitute over the range. -/
structure SubstituteCall where
  pattern : Option String
  template : Option String
  options : Option String
  range : TextRange

/-- What an engine call leaves behind. -/
structure Answer (H : Type) where
  status : Int
  /-- The text written for the caller, if the engine wrote one. -/
  message : Option String
  /-- What is in the place for the handle after the call. -/
  handle : Option H

/-- An engine with states in `S` and handles in `H`. -/
structure Engine (S H : Type) where
  compileAndMatch : S → MatchCall → Option H → S × Answer H
  compileAndSubstitute : S → SubstituteCall → Option H → S × Answer H
  /-- The result of the last call on a handle. -/
  region : H → Region
  /-- Releases what the engine keeps for a handle. -/
  free : S → H → S

/-- The most characters of a message that a bundled engine writes. -/
def messageCapacity : Nat := 79

/-- A message, cut to what fits. -/
def cutMessage (text : String) : String :=
  String.ofList (text.toList.take messageCapacity)

end PatternSession
