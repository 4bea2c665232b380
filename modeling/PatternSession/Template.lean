import PatternSession.Numeral

/-!
# Replacement templates

A template is a text with references to the groups of a pattern.

**Tokens.** Read from the left: `$$` is a literal dollar; `$&` is group 0; `$` with a maximal
non-empty run of ASCII digits is the group of that number; `$` with braces is the group whose
number or name stands inside; any other `$` is a literal dollar. `\n`, `\t`, `\r` are newline, tab
and carriage return, `\1` to `\9` are groups, and a backslash before any other character is that
character. Everything else is itself.

**Compiling.** `Template.compileWith` resolves every token against a number of groups and a table of
names, and fails at the first token that stands for nothing. Adjacent literal characters are joined,
so a compiled template has no empty literal and no two literals side by side: two templates that
expand alike on every match are equal. `Template.compile` does so for a pattern, whose table has a
place for each of its groups.

**Writing.** `Template.source` writes a compiled template in a form that compiles to it again.
-/

namespace PatternSession

/-- A piece of a compiled template. -/
inductive Piece where
  | literal (text : List Char)
  | group (index : Nat)
  deriving DecidableEq

namespace Piece

/-- The text of a piece; a group that took no part is nothing. -/
def expand (group : Nat → Option (List Char)) : Piece → List Char
  | literal text => text
  | .group i => (group i).getD []

/-- A literal text, written so that it is read as itself. -/
def quote (text : List Char) : List Char :=
  text.flatMap fun c => if c = '$' ∨ c = '\\' then [c, c] else [c]

/-- A source that is read as the piece. -/
def source : Piece → List Char
  | literal text => quote text
  | .group i => '$' :: '\x7b' :: (toString i).toList ++ ['\x7d']

end Piece

/-- A template compiled against the groups of one pattern. -/
structure Template where
  pieces : List Piece
  deriving DecidableEq

/-- Why a template does not compile. -/
inductive TemplateError where
  /-- The pattern has no group of this number. -/
  | noSuchGroup (index : Nat)
  /-- The digits of a group number that is too large to be read. -/
  | numberTooLarge (digits : List Char)
  | unclosedBrace
  | emptyName
  | undefinedName (name : List Char)
  | trailingBackslash
  deriving DecidableEq

/-- The text shown to the user. -/
def TemplateError.message : TemplateError → String
  | noSuchGroup i => s!"invalid group reference {i} in replacement"
  | numberTooLarge digits =>
    "invalid group reference $" ++ String.ofList digits ++ " in replacement"
  | unclosedBrace => "unterminated $\x7b in replacement"
  | emptyName => "empty group name in replacement"
  | undefinedName name => "undefined group name <" ++ String.ofList name ++ "> in replacement"
  | trailingBackslash => "trailing backslash in replacement"

namespace Template

/-- A unit of template source, not yet resolved against a pattern. -/
inductive Token where
  /-- A character that stands for itself. -/
  | char (c : Char)
  /-- A reference by a single digit or by `&`. -/
  | index (i : Nat)
  /-- A dollar with a run of digits. -/
  | digits (run : List Char)
  /-- A dollar with something in braces. -/
  | braced (inside : List Char)
  /-- A dollar and an opening brace that is never closed. -/
  | unclosed
  /-- A backslash with nothing after it. -/
  | dangling
  deriving DecidableEq

/-- What a backslash before `c` stands for. -/
def escaped (c : Char) : Token :=
  if c = 'n' then .char '\n'
  else if c = 't' then .char '\t'
  else if c = 'r' then .char '\r'
  else if isDigit c ∧ c ≠ '0' then .index (numeral 10 [c])
  else .char c

/-- Where a reading stands between two characters. -/
inductive Reading where
  /-- Between tokens. -/
  | between
  /-- After a dollar. -/
  | dollar
  /-- After a dollar and digits, the last one first. -/
  | run (seen : List Char)
  /-- Inside braces, the last character first. -/
  | brace (seen : List Char)
  /-- After a backslash. -/
  | backslash

/-- The tokens that are complete when the source ends. -/
def Reading.finish : Reading → List Token
  | between => []
  | dollar => [.char '$']
  | run seen => [.digits seen.reverse]
  | brace _ => [.unclosed]
  | backslash => [.dangling]

/-- One more character, read between two tokens. -/
def Reading.start (c : Char) : List Token × Reading :=
  if c = '$' then ([], .dollar)
  else if c = '\\' then ([], .backslash)
  else ([.char c], .between)

/-- One more character: the tokens that it completes, and where the reading stands after it. -/
def Reading.step : Reading → Char → List Token × Reading
  | between, c => Reading.start c
  | dollar, c =>
    if c = '$' then ([.char '$'], .between)
    else if c = '&' then ([.index 0], .between)
    else if isDigit c then ([], .run [c])
    else if c = '\x7b' then ([], .brace [])
    else let (ts, r) := Reading.start c; (.char '$' :: ts, r)
  | run seen, c =>
    if isDigit c then ([], .run (c :: seen))
    else let (ts, r) := Reading.start c; (.digits seen.reverse :: ts, r)
  | brace seen, c =>
    if c = '\x7d' then ([.braced seen.reverse], .between) else ([], .brace (c :: seen))
  | backslash, c => ([escaped c], .between)

/-- The tokens of a source, from where the reading stands. -/
def tokens (r : Reading) : List Char → List Token
  | [] => r.finish
  | c :: cs =>
    let (ts, r) := r.step c
    ts ++ tokens r cs

/-- The number in braces: an optional plus sign and at least one digit, below the limit. -/
def bracedNumber? (inside : List Char) : Option Nat :=
  let run := match inside with
    | '+' :: rest => rest
    | cs => cs
  if run ≠ [] ∧ run.all isDigit ∧ numeral 10 run < wordValues then some (numeral 10 run) else none

/-- A group of that number, if the pattern has one. -/
def checkGroup (groups : Nat) (i : Nat) : Except TemplateError Piece :=
  if i < groups then .ok (.group i) else .error (.noSuchGroup i)

/-- The piece that a token stands for, among so many groups with these names. -/
def Token.resolve (groups : Nat) (names : List (Option String)) :
    Token → Except TemplateError Piece
  | char c => .ok (.literal [c])
  | index i => checkGroup groups i
  | digits run =>
    if numeral 10 run < wordValues then checkGroup groups (numeral 10 run)
    else .error (.numberTooLarge run)
  | braced [] => .error .emptyName
  | braced inside =>
    match bracedNumber? inside with
    | some i => checkGroup groups i
    | none =>
      match names.findIdx? (· = some (String.ofList inside)) with
      | some i => checkGroup groups i
      | none => .error (.undefinedName inside)
  | unclosed => .error .unclosedBrace
  | dangling => .error .trailingBackslash

/-- One more piece in front, joined with a literal by a literal. -/
def consPiece : Piece → List Piece → List Piece
  | .literal a, .literal b :: rest => .literal (a ++ b) :: rest
  | p, rest => p :: rest

/-- The pieces of the tokens, up to the first bad one. -/
def resolveAll (groups : Nat) (names : List (Option String)) :
    List Token → Except TemplateError (List Piece)
  | [] => .ok []
  | t :: ts =>
    match t.resolve groups names with
    | .error e => .error e
    | .ok p =>
      match resolveAll groups names ts with
      | .error e => .error e
      | .ok ps => .ok (consPiece p ps)

/-- Compiles a template against so many groups, the whole match among them, with these names. -/
def compileWith (groups : Nat) (names : List (Option String)) (source : String) :
    Except TemplateError Template :=
  match resolveAll groups names (tokens .between source.toList) with
  | .ok pieces => .ok ⟨pieces⟩
  | .error e => .error e

/-- Compiles a template against the names of a pattern's groups, the whole match first. -/
def compile (names : List (Option String)) (source : String) : Except TemplateError Template :=
  compileWith names.length names source

/-- The text of the template, given the text of every group that took part. -/
def expand (t : Template) (group : Nat → Option (List Char)) : List Char :=
  t.pieces.flatMap (Piece.expand group)

/-- A source that compiles to the template. -/
def source (t : Template) : String :=
  String.ofList (t.pieces.flatMap Piece.source)

end Template

end PatternSession
