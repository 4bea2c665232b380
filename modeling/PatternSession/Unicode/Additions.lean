import PatternSession.Unicode.Derived

/-!
# Characters of version 17

The tables follow version 16 of the standard, and so do the classes of patterns. Group names and
quoted texts follow version 17. Here is what it adds for them, by range; it takes nothing away.
-/

namespace PatternSession.Unicode

/-- Letters of version 17. -/
def laterLetters : CharSet :=
  CharSet.ofRanges [(0x88F, 0x88F), (0xC5C, 0xC5C), (0xCDC, 0xCDC), (0xA7CE, 0xA7CF),
    (0xA7D2, 0xA7D2), (0xA7D4, 0xA7D4), (0xA7F1, 0xA7F1), (0x10940, 0x10959), (0x10EC5, 0x10EC7),
    (0x10EFA, 0x10EFB), (0x11B60, 0x11B67), (0x11DB0, 0x11DDB), (0x16EA0, 0x16EB8),
    (0x16EBB, 0x16ED3), (0x16FF2, 0x16FF6), (0x187F8, 0x187FF), (0x18D09, 0x18D1E),
    (0x18D80, 0x18DF2), (0x1E6C0, 0x1E6DE), (0x1E6E0, 0x1E6F5), (0x1E6FE, 0x1E6FF),
    (0x2B73A, 0x2B73F), (0x2CEA2, 0x2CEAD), (0x323B0, 0x33479)]

/-- Digits of version 17. -/
def laterDigits : CharSet := CharSet.ofRanges [(0x11DE0, 0x11DE9)]

/-- Characters of version 17 that are neither letters nor digits. -/
def laterSigns : CharSet :=
  CharSet.ofRanges [(0x1ACF, 0x1ADD), (0x1AE0, 0x1AEB), (0x20C1, 0x20C1), (0x2B96, 0x2B96),
    (0xFBC3, 0xFBD2), (0xFD90, 0xFD91), (0xFDC8, 0xFDCE), (0x10ED0, 0x10ED8), (0x1CCFA, 0x1CCFC),
    (0x1CEBA, 0x1CED0), (0x1CEE0, 0x1CEF0), (0x1F6D8, 0x1F6D8), (0x1F777, 0x1F77A),
    (0x1F8D0, 0x1F8D8), (0x1FA54, 0x1FA57), (0x1FA8A, 0x1FA8A), (0x1FA8E, 0x1FA8E),
    (0x1FAC8, 0x1FAC8), (0x1FACD, 0x1FACD), (0x1FAEA, 0x1FAEA), (0x1FAEF, 0x1FAEF),
    (0x1FBFA, 0x1FBFA)]

/-- Characters of version 17 that attach to the one before them. -/
def laterExtending : CharSet :=
  CharSet.ofRanges [(0x1ACF, 0x1ADD), (0x1AE0, 0x1AEB), (0x10EFA, 0x10EFB), (0x11B60, 0x11B60),
    (0x11B62, 0x11B64), (0x11B66, 0x11B66), (0x1E6E3, 0x1E6E3), (0x1E6E6, 0x1E6E6),
    (0x1E6EE, 0x1E6EF), (0x1E6F5, 0x1E6F5)]

/-- Is the character a letter in version 17? -/
def isAlphabetic (c : Char) : Bool := alphabetic.contains c || laterLetters.contains c

/-- Is the character a letter or a number in version 17? -/
def isAlphanumeric (c : Char) : Bool :=
  isAlphabetic c || laterDigits.contains c ||
    match generalCategory c with
    | .nd | .nl | .no => true
    | _ => false

/-- Does the character attach to the one before it, in version 17? Modifier letters do not. -/
def isExtending (c : Char) : Bool :=
  laterExtending.contains c || graphemeExtend.contains c && generalCategory c != .lm

/-- Letters that show nothing: the fillers of Hangul. -/
def fillers : CharSet := CharSet.ofRanges [(0x115F, 0x1160), (0x3164, 0x3164), (0xFFA0, 0xFFA0)]

/-- Does the character show on its own, in version 17? -/
def isPrintable (c : Char) : Bool :=
  c = ' ' || laterLetters.contains c || laterDigits.contains c || laterSigns.contains c ||
    !fillers.contains c && match generalCategory c with
      | .cc | .cf | .cs | .co | .cn | .zl | .zp | .zs => false
      | _ => true

end PatternSession.Unicode
