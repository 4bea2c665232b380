/-!
# Characters and their bytes

Callers count characters; the matcher reports UTF-8 byte positions. This module converts between
the two on `List Char` and cuts texts at either kind of position.

**Byte positions.** `byteLength` is the length of the UTF-8 form, `charStarts` the byte position of
every character, and `byteOffset` the byte position of the character with a given index, or of the
end when there is none. An ASCII text takes a shortcut, since its bytes are its characters.

**Cutting.** `dropBytes?`, `takeBytes?` and `sliceBytes?` cut at byte positions and refuse a
position inside a character or past the end. `sliceChars` cuts at character positions by way of
bytes; its two cuts always fall between characters, and positions past the end stand for the end.
-/

namespace PatternSession

/-- The number of bytes of the UTF-8 form. -/
def byteLength : List Char → Nat
  | [] => 0
  | c :: cs => c.utf8Size + byteLength cs

/-- The byte position of every character, the first standing at `first`. -/
def charStarts (first : Nat) : List Char → List Nat
  | [] => []
  | c :: cs => first :: charStarts (first + c.utf8Size) cs

/-- Is every character a single byte? -/
def isAscii (cs : List Char) : Bool :=
  cs.all fun c => c.val < 128

/-- The byte position of the character at `index`, or of the end when there is none. -/
def byteOffset (cs : List Char) (index : Nat) : Nat :=
  if isAscii cs then min index (byteLength cs)
  else (charStarts 0 cs)[index]?.getD (byteLength cs)

/-- The characters from byte position `n` on, unless it is inside a character or past the end. -/
def dropBytes? : List Char → Nat → Option (List Char)
  | cs, 0 => some cs
  | [], _ + 1 => none
  | c :: cs, n + 1 => if c.utf8Size ≤ n + 1 then dropBytes? cs (n + 1 - c.utf8Size) else none

/-- The characters before byte position `n`, unless it is inside a character or past the end. -/
def takeBytes? : List Char → Nat → Option (List Char)
  | _, 0 => some []
  | [], _ + 1 => none
  | c :: cs, n + 1 =>
    if c.utf8Size ≤ n + 1 then (takeBytes? cs (n + 1 - c.utf8Size)).map (c :: ·) else none

/-- The characters between two byte positions, if both are boundaries in order. -/
def sliceBytes? (cs : List Char) (start stop : Nat) : Option (List Char) :=
  if start ≤ stop then (dropBytes? cs start).bind fun rest => takeBytes? rest (stop - start)
  else none

/-- At most `len` characters from character `start` on. -/
def sliceChars (cs : List Char) (start len : Nat) : List Char :=
  let first := byteOffset cs start
  let rest := (dropBytes? cs first).getD []
  (sliceBytes? cs first (first + byteOffset rest len)).getD []

end PatternSession
