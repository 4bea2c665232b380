/-!
# Option codes

A session is opened with an option *code*: a string of letters, each of which turns one option
on. The code is kept as written, since it is part of a pattern's identity; `Options` is what the
code says.

**Reading.** `Options.parse` refuses a code at its first unknown letter, and otherwise sets exactly
the options whose letters occur, in any order and any number of times.

**Writing.** `Options.letters` writes each option that is on once, in the order `u i m s x g`.

**Single replacement.** `withoutGlobal` removes every `g` from a code, so that a substitution made
under it touches one occurrence only.
-/

namespace PatternSession

/-- What an option code says. -/
structure Options where
  /-- `u`: a flag that callers may set and that changes nothing, as matching is always by scalar
  value. -/
  unicode : Bool := false
  /-- `i`: letters match without regard to case. -/
  ignoreCase : Bool := false
  /-- `m`: `^` and `$` also match at line boundaries. -/
  multiline : Bool := false
  /-- `s`: `.` also matches a newline. -/
  singleline : Bool := false
  /-- `x`: white space and `#` comments in the pattern are skipped. -/
  extended : Bool := false
  /-- `g`: a replacement touches every occurrence instead of the first. -/
  global : Bool := false
  deriving DecidableEq

namespace Options

/-- The options with the one of letter `c` turned on, if `c` is an option letter. -/
def enable? (o : Options) : Char → Option Options
  | 'u' => some { o with unicode := true }
  | 'i' => some { o with ignoreCase := true }
  | 'm' => some { o with multiline := true }
  | 's' => some { o with singleline := true }
  | 'x' => some { o with extended := true }
  | 'g' => some { o with global := true }
  | _ => none

/-- Turns on the options of the given letters, one after the other. -/
def enableAll (o : Options) : List Char → Except Char Options
  | [] => .ok o
  | c :: cs =>
    match o.enable? c with
    | some o => o.enableAll cs
    | none => .error c

/-- Reads an option code; fails with the first letter that is not an option. -/
def parse (code : String) : Except Char Options :=
  enableAll {} code.toList

/-- The letters of the options that are on, each once. -/
def letters (o : Options) : String :=
  String.ofList <|
    [(o.unicode, 'u'), (o.ignoreCase, 'i'), (o.multiline, 'm'), (o.singleline, 's'),
      (o.extended, 'x'), (o.global, 'g')].filterMap fun (on, letter) =>
        if on then some letter else none

/-- The letters that a pattern can be told inside itself, in the order `i m s x`. -/
def inlineLetters (o : Options) : List Char :=
  [(o.ignoreCase, 'i'), (o.multiline, 'm'), (o.singleline, 's'),
    (o.extended, 'x')].filterMap fun (on, letter) => if on then some letter else none

end Options

/-- The option code with every `g` removed. -/
def withoutGlobal (code : String) : String :=
  String.ofList (code.toList.filter (· ≠ 'g'))

end PatternSession
