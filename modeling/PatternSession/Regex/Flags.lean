/-!
# Flags

A flag changes how the rest of a pattern is read. `Flags` are those of a pattern, `PlainFlags` those
of its plain form.
-/

namespace PatternSession.Regex

/-- Flags that change how a pattern is read. -/
structure Flags where
  ignoreCase : Bool := false
  multiline : Bool := false
  dotNewline : Bool := false
  /-- `U`: quantifiers are lazy, and greedy with a question mark. -/
  swapGreed : Bool := false
  extended : Bool := false

namespace Flags

/-- The flags with the one of a letter set; `none` for a letter that is no such flag. -/
def set? (f : Flags) (value : Bool) : Char → Option Flags
  | 'i' => some { f with ignoreCase := value }
  | 'm' => some { f with multiline := value }
  | 's' => some { f with dotNewline := value }
  | 'U' => some { f with swapGreed := value }
  | 'x' => some { f with extended := value }
  | _ => none

end Flags

/-- Flags of the plain form, which has two more. -/
structure PlainFlags extends Flags where
  /-- `R`: a carriage return ends a line too. -/
  anyLineEnd : Bool := false
  /-- `u` taken away: sets have ASCII characters only. -/
  ascii : Bool := false

/-- The flags with the one of a letter set; `none` for a letter that is no such flag. -/
def PlainFlags.set? (f : PlainFlags) (value : Bool) : Char → Option PlainFlags
  | 'R' => some { f with anyLineEnd := value }
  | 'u' => some { f with ascii := !value }
  | c => (f.toFlags.set? value c).map fun flags => { f with toFlags := flags }

end PatternSession.Regex
