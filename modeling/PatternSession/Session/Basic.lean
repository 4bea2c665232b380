import PatternSession.Engine
import PatternSession.Match
import PatternSession.Recompile

/-!
# Sessions

A session holds one compiled pattern on an engine, and a copy of at most one text. It is opened with
one compile-only call over an empty text, and lives until it is disposed; from then on it holds
nothing, and every operation that needs the engine fails.

Operations are functions from a session to a `Turn`: the answer, the session afterwards, and the
supply of text generations, which all sessions share.

**Binding.** `Session.bind` makes the copy one of the text at hand and resolves the bounds against
it. The text is copied first: a rejected range leaves it held just like an accepted one.
-/

namespace PatternSession

/-- A compiled pattern with the engine state that goes with it. -/
structure Session (S H : Type) where
  engine : Engine S H
  pattern : String
  /-- The option code, as given. -/
  options : String
  /-- The engine's own state. -/
  state : S
  /-- The place for the engine's handle. -/
  handle : Option H
  buffer : TextBuffer
  record : CompileRecord
  disposed : Bool

/-- What an operation gives: its answer, and what it leaves behind. -/
structure Turn (S H α : Type) where
  answer : α
  session : Session S H
  supply : Supply

/-- The text that a pattern is validated on. -/
def emptyText : Text := ⟨0, ""⟩

/-- The error of a negative status. -/
def Answer.error {H : Type} (a : Answer H) : Error := .compile (a.message.getD "")

namespace Session

variable {S H : Type}

/-- Gives up the text copy and the handle, whatever of them is held. -/
def release (s : Session S H) : Session S H :=
  match s.handle with
  | some h => { s with state := s.engine.free s.state h, handle := none, buffer := s.buffer.free }
  | none => { s with buffer := s.buffer.free }

/-- Ends the session; a second time changes nothing. -/
def dispose (s : Session S H) : Session S H :=
  if s.disposed then s else { s.release with disposed := true }

/-- What happens when the last holder of the session is gone: a second way to the release, which
finds nothing left after a disposal. -/
def abandon (s : Session S H) : Session S H := s.release

/-- Opens a session: one compile-only call over an empty text, whose copy is given up at once. When
the engine refuses, what is left of the session is disposed. -/
def create (engine : Engine S H) (state : S) (supply : Supply) (pattern options : String) :
    Turn S H (Except Error Unit) :=
  let (buffer, supply) := ({} : TextBuffer).ensure supply emptyText
  let (state, a) := engine.compileAndMatch state
    { pattern := some pattern, options := some options, range := buffer.range ⟨0, 0⟩,
      oneShot := true } none
  let s : Session S H :=
    { engine, pattern, options, state, handle := a.handle, buffer := buffer.free,
      record := .initial options, disposed := false }
  if a.status < 0 then ⟨.error a.error, s.dispose, supply⟩
  else ⟨.ok (), s, supply⟩

/-- The bounds that begin at `start` and have length `len` (or reach to the end), in a text of
`limit` characters. -/
def resolveBounds (limit start : Nat) (len : Option Nat) : Except Error Bounds :=
  if limit < start then .error (.range .start start limit)
  else
    let len := len.getD (limit - start)
    if start + len ≤ limit then .ok ⟨start, start + len⟩
    else .error (.range .length len limit)

/-- Holds a copy of the text, and resolves bounds against it. -/
def bind (s : Session S H) (supply : Supply) (text : Text) (start : Nat) (len : Option Nat) :
    Turn S H (Except Error Bounds) :=
  let (buffer, supply) := s.buffer.ensure supply text
  ⟨resolveBounds buffer.length start len, { s with buffer }, supply⟩

/-- The result on the handle. -/
def region? (s : Session S H) : Option Region := s.handle.map s.engine.region

/-- The groups of the last result as spans of characters, if the whole match is among them. -/
def captures? (s : Session S H) : Option (List Capture) :=
  match s.region? with
  | some { groups := some g :: rest, .. } =>
    some <| (some g :: rest).mapIdx fun i g => ⟨i, g.map fun b => ⟨b.start, b.stop - b.start⟩⟩
  | _ => none

/-- The session as it is shown to a user. -/
def display (s : Session S H) : String := s.pattern

/-- The session as it is shown for inspection. -/
def debug (s : Session S H) : String :=
  "Session \x7b pattern: " ++ quoted s.pattern ++ ", options: " ++ quoted s.options ++ " \x7d"

end Session

end PatternSession
