/-!
# Spans and session errors

Every way in which an operation of a session can fail, as a cause with its data. The wording is in
`Error.message` alone.

The last two causes form the *internal* family (`Error.isInternal`): the search and the
substitution disagreed about an occurrence, which is a defect of the engine and never a user's
mistake.
-/

namespace PatternSession

/-- A run of characters of a text. -/
structure Span where
  start : Nat
  len : Nat
  deriving DecidableEq

/-- One past the last character. -/
def Span.stop (s : Span) : Nat := s.start + s.len

/-- Which argument of a bounded operation lies outside the text. -/
inductive RangeParam where
  | start
  | length
  deriving DecidableEq

def RangeParam.name : RangeParam → String
  | .start => "start"
  | .length => "length"

/-- Why an operation of a session failed. -/
inductive Error where
  /-- The engine refused the pattern, the options or the template, or failed while matching; the
  text is the engine's. -/
  | compile (text : String)
  /-- An offset given by the caller lies outside the text. -/
  | range (param : RangeParam) (value limit : Nat)
  /-- The session was disposed before the call. -/
  | disposed
  /-- The substitution located another occurrence than the search did. -/
  | spanMismatch (matched found : Span)
  /-- The substitution found no occurrence where the search found one. -/
  | occurrenceLost (matched : Span)
  deriving DecidableEq

namespace Error

/-- The text shown to the user. -/
def message : Error → String
  | compile text => text
  | range param value limit => s!"{param.name} out of range: {value} (text length {limit})"
  | disposed => "session has been disposed"
  | spanMismatch m f =>
    s!"substitution replaced a different occurrence (index={f.start}, length={f.len}) " ++
      s!"than the matched one (index={m.start}, length={m.len})"
  | occurrenceLost m =>
    s!"substitution found no occurrence at the matched span (index={m.start}, length={m.len})"

/-- Does the error show a defect of the engine rather than a mistake of the caller? -/
def isInternal : Error → Bool
  | spanMismatch _ _ | occurrenceLost _ => true
  | compile _ | range _ _ _ | disposed => false

end Error

end PatternSession
