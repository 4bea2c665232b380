import PatternSession.Text.Slice

/-!
# Texts and the session's copy of one

The engine reads a text as fixed-width units, one per character. A session holds such a copy of at
most one text at a time.

**Identity.** A text is an *object*: two texts with equal content are still two texts. The copy is
kept as long as callers pass the same object (`TextBuffer.ensure`), and is replaced when they pass
another one, whatever its content.

**Generations.** Every copy that is made takes a number from a `Supply` which all sessions share.
No number is given twice, so two ranges with the same generation show the same units. Generation 0
stands for "no copy".
-/

namespace PatternSession

/-- A text object: its content, and the number that tells it from all other objects. -/
structure Text where
  object : Nat
  content : String
  deriving DecidableEq

/-- The characters of a text. -/
def Text.chars (t : Text) : List Char := t.content.toList

/-- One fixed-width unit, as the engine reads and writes characters. -/
abbrev CodeUnit := UInt32

/-- The units of the characters. -/
def unitsOf (cs : List Char) : List CodeUnit := cs.map (·.val)

/-- The character of a unit, if it is a Unicode scalar value. -/
def charOfUnit? (u : CodeUnit) : Option Char :=
  if h : u.isValidChar then some ⟨u, h⟩ else none

/-- The characters of the units, if all of them are scalar values. -/
def decodeUnits? (units : List CodeUnit) : Option (List Char) :=
  units.mapM charOfUnit?

/-- Gives out the generations of text copies. -/
structure Supply where
  /-- The next generation to give out. -/
  next : Nat := 1

/-- A copy of a text. -/
structure TextCopy where
  source : Text
  units : List CodeUnit
  generation : Nat

/-- The place for a session's copy of a text. -/
structure TextBuffer where
  held : Option TextCopy := none

namespace TextBuffer

/-- A new copy of `text` takes the place of whatever was held. -/
def fill (supply : Supply) (text : Text) : TextBuffer × Supply :=
  (⟨some ⟨text, unitsOf text.chars, supply.next⟩⟩, ⟨supply.next + 1⟩)

/-- Makes sure that the copy held is one of this text object. -/
def ensure (b : TextBuffer) (supply : Supply) (text : Text) : TextBuffer × Supply :=
  match b.held with
  | some copy => if copy.source = text then (b, supply) else fill supply text
  | none => fill supply text

/-- Gives up the copy, if there is one. -/
def free (_ : TextBuffer) : TextBuffer := {}

/-- The units held. -/
def units (b : TextBuffer) : List CodeUnit :=
  match b.held with
  | some copy => copy.units
  | none => []

/-- The number of characters held. -/
def length (b : TextBuffer) : Nat := b.units.length

/-- The generation of the copy held, or 0. -/
def generation (b : TextBuffer) : Nat :=
  match b.held with
  | some copy => copy.generation
  | none => 0

end TextBuffer

/-- Character bounds inside a text, the end excluded. -/
structure Bounds where
  start : Nat
  stop : Nat
  deriving DecidableEq

/-- What one engine call is shown: a whole copy, and the bounds to search. -/
structure TextRange where
  units : List CodeUnit
  bounds : Bounds
  generation : Nat

/-- The units that the engine may look at: everything up to the end of the bounds, so that it sees
what precedes the start. -/
def TextRange.visible (r : TextRange) : List CodeUnit := r.units.take r.bounds.stop

/-- A view of the copy held; callers check the bounds against `length` first. -/
def TextBuffer.range (b : TextBuffer) (bounds : Bounds) : TextRange :=
  ⟨b.units, bounds, b.generation⟩

end PatternSession
