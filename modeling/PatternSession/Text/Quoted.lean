import PatternSession.Unicode.Additions

/-!
# Quoted text

`quoted` writes a text between double quotes for a reader's eye. A quote and a backslash are
escaped, common control characters get their letters, and a character that does not show on its own
(unassigned, control, format, private, a separator other than the space, or one that extends the
character before it) is written as its scalar value in hexadecimal.
-/

namespace PatternSession

/-- A character inside quotes. -/
def quotedChar (c : Char) : String :=
  if c = '\x00' then "\\0"
  else if c = '\t' then "\\t"
  else if c = '\r' then "\\r"
  else if c = '\n' then "\\n"
  else if c = '"' then "\\\""
  else if c = '\\' then "\\\\"
  else if Unicode.isExtending c || !Unicode.isPrintable c then
    "\\u\x7b" ++ String.ofList (Nat.toDigits 16 c.toNat) ++ "\x7d"
  else c.toString

/-- A text between double quotes. -/
def quoted (text : String) : String :=
  "\"" ++ String.join (text.toList.map quotedChar) ++ "\""

end PatternSession
