/-!
# The source of a pattern

A source is read by character position. Errors tell byte positions of the UTF-8 form, so a source
knows where every character begins.
-/

namespace PatternSession.Regex

/-- The source of a pattern. -/
structure Source where
  chars : Array Char
  /-- The byte position of every character, and of the end. -/
  starts : Array Nat

namespace Source

def ofString (s : String) : Source :=
  let cs := s.toList
  { chars := cs.toArray
    starts := (cs.foldl (fun (ps, n) c => (ps.push n, n + c.utf8Size)) (#[], 0) |>
      fun (ps, n) => ps.push n) }

def size (s : Source) : Nat := s.chars.size

def at? (s : Source) (i : Nat) : Option Char := s.chars[i]?

/-- The byte position of character `i`; past the end every step is one byte. -/
def bytePos (s : Source) (i : Nat) : Nat :=
  match s.starts[i]? with
  | some p => p
  | none => s.starts.back?.getD 0 + (i - s.size)

/-- The length in bytes. -/
def byteSize (s : Source) : Nat := s.starts.back?.getD 0

/-- Do these characters stand at position `i`? -/
def startsWith (s : Source) (i : Nat) : List Char → Bool
  | [] => true
  | c :: cs => s.at? i = some c && s.startsWith (i + 1) cs

/-- The characters from `i` to before `j`. -/
def slice (s : Source) (i j : Nat) : List Char := (s.chars.extract i j).toList

/-- The first position from `i` on whose character fails the test, or the end. -/
def skipWhile (s : Source) (test : Char → Bool) (i : Nat) : Nat :=
  if h : i < s.chars.size then
    if test s.chars[i] then s.skipWhile test (i + 1) else i
  else i
termination_by s.chars.size - i

end Source

end PatternSession.Regex
