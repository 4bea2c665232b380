import PatternSession.Regex.Symbol
import PatternSession.Unicode.Derived

/-!
# Blanks in the plain form

With the flag `x` white space and comments have no meaning between the signs of the plain form.
-/

namespace PatternSession.Regex

namespace Symbol

/-- Is the sign white space as written? -/
def isBlank : Symbol → Bool
  | written c => Unicode.space.contains c
  | escaped _ | named _ _ => false

/-- The symbols after white space and comments, at most `fuel` of them. -/
def skipBlanksWithin : (fuel : Nat) → List Symbol → List Symbol
  | 0, symbols => symbols
  | _, [] => []
  | fuel + 1, first :: rest =>
    if first = .written '#' then skipBlanksWithin fuel (rest.dropWhile (· ≠ .written '\n'))
    else if first.isBlank then skipBlanksWithin fuel rest
    else first :: rest

/-- The symbols after white space and comments, if they have no meaning. -/
def skipBlanks (extended : Bool) (symbols : List Symbol) : List Symbol :=
  if extended then skipBlanksWithin (symbols.length + 1) symbols else symbols

end Symbol

end PatternSession.Regex
