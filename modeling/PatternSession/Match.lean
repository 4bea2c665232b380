import PatternSession.Error
import PatternSession.Text.Buffer
import PatternSession.Text.Quoted

/-!
# Matches

A `Match` is a snapshot: the spans of its groups as character positions, the text they lie in, and
the bounds that were searched. It needs no engine to be read. The bounds are kept so that the
search can be continued and the occurrence substituted later.
-/

namespace PatternSession

/-- One group of a match. A group that took no part has no span, which differs from an empty
span. -/
structure Capture where
  index : Nat
  span : Option Span
  deriving DecidableEq

def Capture.participated (c : Capture) : Bool := c.span.isSome

/-- A match in a text. -/
structure Match where
  /-- The groups, the whole match first. -/
  captures : List Capture
  text : Text
  /-- The bounds in effect when the match was found. -/
  bounds : Bounds

namespace Match

/-- The span of the whole match. -/
def span (m : Match) : Span :=
  match m.captures with
  | ⟨_, some s⟩ :: _ => s
  | _ => ⟨0, 0⟩

/-- The first character of the match. -/
def index (m : Match) : Nat := m.span.start

/-- The number of characters. -/
def length (m : Match) : Nat := m.span.len

/-- One past the last character. -/
def stop (m : Match) : Nat := m.span.stop

/-- The text of a span. -/
def slice (m : Match) (s : Span) : String :=
  String.ofList (sliceChars m.text.chars s.start s.len)

/-- The matched text. -/
def str (m : Match) : String := m.slice m.span

/-- The text of group `i`, if there is such a group and it took part. -/
def group? (m : Match) (i : Nat) : Option String :=
  (m.captures[i]?.bind (·.span)).map m.slice

/-- Group `i`, if there is one. -/
def capture? (m : Match) (i : Nat) : Option Capture := m.captures[i]?

/-- Where the search goes on after this match: one character further after an empty one. -/
def resumeAt (m : Match) : Nat := m.index + max m.length 1

/-- The match as it is shown to a user. -/
def display (m : Match) : String := m.str

/-- A span as it is shown for inspection. -/
def debugSpan : Option Span → String
  | some s => s!"Some(Span \x7b start: {s.start}, len: {s.len} \x7d)"
  | none => "None"

/-- A group as it is shown for inspection. -/
def debugCapture (c : Capture) : String :=
  s!"Capture \x7b index: {c.index}, span: {debugSpan c.span} \x7d"

/-- The match as it is shown for inspection. -/
def debug (m : Match) : String :=
  "Match \x7b value: " ++ quoted m.str ++ ", captures: [" ++
    ", ".intercalate (m.captures.map debugCapture) ++
    s!"], bounds: {m.bounds.start}..{m.bounds.stop} \x7d"

end Match

end PatternSession
