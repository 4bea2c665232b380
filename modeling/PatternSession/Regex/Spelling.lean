import PatternSession.Regex.Expr

/-!
# Expressions in the plain form

`Expr.symbols` writes an expression that needs no backtracking in the plain form.

**Places.** Where an expression stands decides whether it is put between parentheses: alone (place
0), as an alternative (1), in a sequence (2) or before a quantifier (3). Alternatives are written
bare only alone, sequences up to place 1, repetitions up to place 2. A class is always written bare.
-/

namespace PatternSession.Regex

/-- Symbols between an opening and a closing parenthesis. -/
def enclosed (opening : String) (inside : List Symbol) : List Symbol :=
  Symbol.ofText opening ++ inside ++ [.written ')']

/-- The same, if it is called for. -/
def enclosedIf (needed : Bool) (opening : String) (inside : List Symbol) : List Symbol :=
  if needed then enclosed opening inside else inside

/-- A quantifier as it is written. -/
def quantifierText (lo : Nat) (hi : Option Nat) (greedy : Bool) : String :=
  let bounds := match lo, hi with
    | 0, some 1 => "?"
    | 0, none => "*"
    | 1, none => "+"
    | lo, none => "\x7b" ++ toString lo ++ ",\x7d"
    | lo, some hi =>
      if lo = hi then "\x7b" ++ toString lo ++ "\x7d"
      else "\x7b" ++ toString lo ++ "," ++ toString hi ++ "\x7d"
  if greedy then bounds else bounds ++ "?"

/-- A condition as it is written. Word boundaries and lines with other ends are never written. -/
def Anchor.text : Anchor → String
  | textStart => "^"
  | textStop => "$"
  | lineStart => "(?m:^)"
  | lineStop => "(?m:$)"
  | anyLineStart | anyLineStop | wordBoundary | notWordBoundary | wordStart | wordStop => ""

namespace Expr

mutual

/-- The expression in the plain form, at a place. What needs backtracking has none. -/
def symbols (place : Nat) : Expr → List Symbol
  | any newline => Symbol.ofText (if newline then "(?s:.)" else ".")
  | anchor a => Symbol.ofText a.text
  | char c ignoreCase => enclosedIf ignoreCase "(?i:" [Symbol.ofChar c]
  | piece inside ignoreCase => enclosedIf ignoreCase "(?i:" inside
  | concat es => enclosedIf (1 < place) "(?:" (symbolsInSequence es)
  | alt es => enclosedIf (0 < place) "(?:" (symbolsBetweenBars es)
  | group _ e => enclosed "(" (symbols 0 e)
  | repeated e lo hi greedy =>
    enclosedIf (2 < place) "(?:" (symbols 3 e ++ Symbol.ofText (quantifierText lo hi greedy))
  | empty | look _ _ | reference _ | atomic _ | keepOut | searchStart | groupTaken _
  | conditional _ _ _ => []

/-- Expressions in sequence. -/
def symbolsInSequence : List Expr → List Symbol
  | [] => []
  | e :: es => symbols 2 e ++ symbolsInSequence es

/-- Alternatives. -/
def symbolsBetweenBars : List Expr → List Symbol
  | [] => []
  | [e] => symbols 1 e
  | e :: es => symbols 1 e ++ .written '|' :: symbolsBetweenBars es

end

/-- Expressions that follow each other as one part. -/
def symbolsOfPart (es : List Expr) : List Symbol := es.flatMap (symbols 1)

end Expr

end PatternSession.Regex
