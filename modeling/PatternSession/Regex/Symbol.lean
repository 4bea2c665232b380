/-!
# Symbols

What needs no backtracking is written in a plain form, as a list of symbols, and read again from
there. A symbol is a character as written, which may be part of the form's syntax, a character that
stands for itself, or a set with an escape of its own.

The plain form has its own rules on what a symbol means. Where they differ from those of patterns,
it is the plain form that counts.
-/

namespace PatternSession.Regex

/-- A set that has an escape. -/
inductive NamedSet where
  | digit
  | space
  | word
  /-- The characters with a property, by the name between braces or of one letter. -/
  | property (name : List Char)
  deriving DecidableEq

/-- A sign of the plain form. -/
inductive Symbol where
  /-- A character as written, which may be part of the syntax. -/
  | written (c : Char)
  /-- A character that stands for itself. -/
  | escaped (c : Char)
  | named (negated : Bool) (s : NamedSet)
  deriving DecidableEq

namespace Symbol

/-- The characters that are part of the syntax somewhere. -/
def special : List Char :=
  ['\\', '.', '+', '*', '?', '(', ')', '|', '[', ']', '\x7b', '\x7d', '^', '$', '#', '&', '-', '~']

/-- A character that stands for itself. One that is never part of the syntax needs no escape, so it
may be a letter of a name. -/
def ofChar (c : Char) : Symbol := if special.contains c then .escaped c else .written c

/-- A text as written. -/
def ofText (text : String) : List Symbol := text.toList.map .written

end Symbol

end PatternSession.Regex
