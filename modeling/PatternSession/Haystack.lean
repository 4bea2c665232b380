import PatternSession.Engine
import PatternSession.Matcher

/-!
# The decoded text of an engine call

The matcher wants characters and counts bytes; calls bring units and count characters. A
`Haystack` is the decoded copy of a range's text with the byte position of every character, so that
positions can be taken both ways.

**Reuse.** Decoding is done once per text copy: a haystack is reused for a range of the same
generation (`Haystack.serves`). Generation 0 stands for "no copy" and is never reused.
-/

namespace PatternSession

/-- A decoded text copy. -/
structure Haystack where
  /-- The generation of the copy. -/
  generation : Nat
  text : List Char
  /-- The byte position of every character, and of the end. -/
  offsets : List Nat

namespace Haystack

/-- Decodes the whole text of a range, if every unit is a scalar value. -/
def build? (r : TextRange) : Option Haystack :=
  (decodeUnits? r.units).map fun cs => ⟨r.generation, cs, charStarts 0 cs ++ [byteLength cs]⟩

/-- Was this haystack decoded from the copy that the range shows? -/
def serves (h : Haystack) (r : TextRange) : Bool :=
  h.generation ≠ 0 && h.generation = r.generation

/-- The haystack for a range: the one at hand if it serves, else a newly decoded one. -/
def prepare? (cached : Option Haystack) (r : TextRange) : Option Haystack :=
  match cached with
  | some h => if h.serves r then some h else build? r
  | none => build? r

/-- The byte position of a character. -/
def byte (h : Haystack) (index : Nat) : Nat :=
  h.offsets[index]?.getD (byteLength h.text)

/-- The character at a byte position: the first one that does not begin before it. -/
def index (h : Haystack) (byte : Nat) : Nat :=
  h.offsets.findIdx fun b => decide (byte ≤ b)

/-- The text up to the end of the range; the matcher never sees past it. -/
def visible (h : Haystack) (r : TextRange) : List Char :=
  (sliceBytes? h.text 0 (h.byte r.bounds.stop)).getD []

/-- The character positions of a match's groups. -/
def groups (h : Haystack) (spans : ByteSpans) : List (Option GroupBounds) :=
  spans.map fun span => span.map fun s => ⟨h.index s.start, h.index s.stop⟩

end Haystack

end PatternSession
