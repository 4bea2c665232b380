import PatternSession.Text.Slice

/-!
# Pattern matchers

The bundled engine leaves the matching itself to a `Matcher`: compiling is a function of the
source and the limits, and searching is a function of the compiled pattern, the visible text and
the start position. Positions are byte positions of the UTF-8 form.

**Law.** `Matcher.Lawful` states what the engine relies on: reported spans lie on character
boundaries of the visible text, in order, with one entry for every group of the pattern, and the
whole match begins at or after the start position.
-/

namespace PatternSession

/-- Limits on the resources of a matcher; `none` leaves the matcher's own limit in place. -/
structure Limits where
  /-- The most backtracking steps of one search. -/
  backtrackLimit : Option Nat := none
  /-- The size of a compiled program that needs no backtracking. -/
  delegateSizeLimit : Option Nat := none
  /-- The size of the cache for running such a program. -/
  delegateDfaSizeLimit : Option Nat := none
  deriving DecidableEq

/-- A run of bytes. -/
structure ByteSpan where
  start : Nat
  stop : Nat
  deriving DecidableEq

/-- The groups of one match, the whole match first; `none` for a group that took no part. -/
abbrev ByteSpans := List (Option ByteSpan)

/-- A pattern matcher; errors are given by their text. -/
structure Matcher where
  Pattern : Type
  compile : Limits → String → Except String Pattern
  /-- The name of every group, the whole match first; its length is the number of groups. -/
  groupNames : Pattern → List (Option String)
  /-- The first match at or after a byte position. -/
  search : Pattern → List Char → Nat → Except String (Option ByteSpans)

/-- The span lies between character boundaries of the text. -/
def ByteSpan.Within (s : ByteSpan) (text : List Char) : Prop :=
  (sliceBytes? text s.start s.stop).isSome

/-- What a caller may rely on. -/
structure Matcher.Lawful (m : Matcher) : Prop where
  /-- A search from a boundary reports one entry per group. -/
  length_eq : ∀ p text start spans,
    m.search p text start = .ok (some spans) → spans.length = (m.groupNames p).length
  /-- Groups lie on boundaries. -/
  within : ∀ p text start spans, (dropBytes? text start).isSome →
    m.search p text start = .ok (some spans) → ∀ s ∈ spans, ∀ b, s = some b → b.Within text
  /-- The whole match took part and begins at or after the start position. -/
  start_le : ∀ p text start spans, (dropBytes? text start).isSome →
    m.search p text start = .ok (some spans) → ∃ b rest, spans = some b :: rest ∧ start ≤ b.start

end PatternSession
