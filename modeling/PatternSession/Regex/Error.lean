/-!
# Errors of patterns

What can be wrong with a pattern, and what can stop a search. The wording is in the `message`
functions alone. Positions count UTF-8 bytes of the source.
-/

namespace PatternSession.Regex

/-- Why a source is no pattern. -/
inductive SyntaxFault where
  | endNotReached
  | closeParenExpected
  /-- A conditional has a condition and nothing to do when it holds. -/
  | emptyConditional
  | unclosedParen
  | tooDeep
  | trailingBackslash
  | invalidEscape (escape : List Char)
  | unclosedUnicodeName
  | invalidHex
  | invalidCodepoint
  | invalidClass
  /-- The flags from their opening parenthesis to the first one that is unknown. -/
  | unknownFlag (flags : List Char)
  | unicodeRequired
  | invalidReference
  | invalidGroupName
  | unknownGroup (name : List Char)
  | notRepeatable
  deriving DecidableEq

/-- The text shown to the user. -/
def SyntaxFault.message : SyntaxFault → String
  | endNotReached => "General parsing error: end of string not reached"
  | closeParenExpected => "General parsing error: expected close paren"
  | emptyConditional =>
    "General parsing error: expected conditional to be a backreference or at least an " ++
      "expression for when the condition is true"
  | unclosedParen => "Opening parenthesis without closing parenthesis"
  | tooDeep => "Pattern too deeply nested"
  | trailingBackslash => "Backslash without following character"
  | invalidEscape escape => "Invalid escape: " ++ String.ofList escape
  | unclosedUnicodeName => "Unicode escape not closed"
  | invalidHex => "Invalid hex escape"
  | invalidCodepoint => "Invalid codepoint for hex or unicode escape"
  | invalidClass => "Invalid character class"
  | unknownFlag flags => "Unknown group flag: " ++ String.ofList flags
  | unicodeRequired => "Disabling Unicode not supported"
  | invalidReference => "Invalid back reference"
  | invalidGroupName => "Could not parse group name"
  | unknownGroup name => "Invalid group name in back reference: " ++ String.ofList name
  | notRepeatable => "Target of repeat operator is invalid"

/-- Why a pattern does not compile. -/
inductive CompileFault where
  /-- A reference to a group that is not opened before it. -/
  | invalidReference
  /-- A reference by number in a pattern with named groups. -/
  | namedGroupsOnly
  | lookBehindSize
  /-- A part that is malformed or nests too deeply in the plain form. -/
  | invalidPiece
  /-- A part that needs no backtracking is larger than the limit. -/
  | tooLarge
  deriving DecidableEq

/-- The text shown to the user. -/
def CompileFault.message : CompileFault → String
  | invalidReference => "Invalid back reference"
  | namedGroupsOnly =>
    "Numbered backref/call not allowed because named group was used, use a named backref instead"
  | lookBehindSize => "Look-behind assertion without constant size"
  | invalidPiece => "Regex error: error parsing pattern 0"
  | tooLarge => "Regex error: error building NFA"

/-- Everything that can go wrong with a pattern. -/
inductive Error where
  | parse (position : Nat) (fault : SyntaxFault)
  | compile (fault : CompileFault)
  /-- A search took more backtracking steps than the limit. -/
  | backtrackLimit
  /-- A search had more choices open at a time than the machine keeps. -/
  | choiceLimit
  deriving DecidableEq

/-- The text shown to the user. -/
def Error.message : Error → String
  | parse position fault => s!"Parsing error at position {position}: {fault.message}"
  | compile fault => s!"Error compiling regex: {fault.message}"
  | backtrackLimit => "Error executing regex: Max limit for backtracking count exceeded"
  | choiceLimit => "Error executing regex: Max stack size exceeded for backtracking"

end PatternSession.Regex
