import PatternSession.Unicode.Category
import PatternSession.Unicode.Listed

/-!
# Properties that are derived

Yes-or-no properties that follow from general categories and from listed properties, by the rules of
the standard.

**Classes of patterns.** `word`, `digit` and `space` are the classes that a pattern writes as `\w`,
`\d` and `\s`.
-/

namespace PatternSession.Unicode

/-- A property that is derived. -/
inductive Derived where
  | alphabetic | cased | changesWhenCasemapped | defaultIgnorable | graphemeBase | graphemeExtend
  | idContinue | idStart | lowercase | math | uppercase | xidContinue | xidStart
  deriving DecidableEq

/-- What a text may use in its syntax. -/
def syntaxCharacters : CharSet := Listed.patternSyntax.set.union Listed.patternWhiteSpace.set

/-- The characters that a name may begin with. -/
def nameStart : CharSet :=
  ((ofCategories [.lu, .ll, .lt, .lm, .lo, .nl]).union Listed.otherIdStart.set).diff
    syntaxCharacters

/-- The characters that a name may contain. -/
def nameContinue : CharSet :=
  (nameStart.union <| (ofCategories [.mn, .mc, .nd, .pc]).union Listed.otherIdContinue.set).diff
    syntaxCharacters

/-- The characters that can stop being allowed in a name when the text is normalised, wherever they
stand. -/
def unstableInNames : CharSet :=
  CharSet.ofRanges [(0x37A, 0x37A), (0x309B, 0x309C), (0xFC5E, 0xFC63), (0xFDFA, 0xFDFB),
    (0xFE70, 0xFE70), (0xFE72, 0xFE72), (0xFE74, 0xFE74), (0xFE76, 0xFE76), (0xFE78, 0xFE78),
    (0xFE7A, 0xFE7A), (0xFE7C, 0xFE7C), (0xFE7E, 0xFE7E)]

/-- The characters that can stop being allowed at the beginning of a name only. -/
def unstableAtStart : CharSet :=
  CharSet.ofRanges [(0xE33, 0xE33), (0xEB3, 0xEB3), (0xFF9E, 0xFF9F)]

/-- Letters in lower case. -/
def lowercase : CharSet := (ofCategories [.ll]).union Listed.otherLowercase.set

/-- Letters in upper case. -/
def uppercase : CharSet := (ofCategories [.lu]).union Listed.otherUppercase.set

/-- Characters that attach to the one before them. -/
def graphemeExtend : CharSet := (ofCategories [.me, .mn]).union Listed.otherGraphemeExtend.set

/-- Characters that are format controls without being ignorable: annotations and the controls of
hieroglyphs. -/
def visibleFormats : CharSet := CharSet.ofRanges [(0xFFF9, 0xFFFB), (0x13430, 0x13440)]

/-- Letters, and what is used like them. -/
def alphabetic : CharSet :=
  (ofCategories [.lu, .ll, .lt, .lm, .lo, .nl]).union Listed.otherAlphabetic.set

/-- The characters with a property. -/
def Derived.set : Derived → CharSet
  | alphabetic => Unicode.alphabetic
  | cased => (Unicode.lowercase.union Unicode.uppercase).union (ofCategories [.lt])
  | changesWhenCasemapped =>
    Listed.changesWhenLowercased.set.union <|
      Listed.changesWhenUppercased.set.union Listed.changesWhenTitlecased.set
  | defaultIgnorable =>
    let ignorable := Listed.otherDefaultIgnorable.set.union <|
      (ofCategories [.cf]).union Listed.variationSelector.set
    ignorable.diff <| Listed.whiteSpace.set.union <|
      visibleFormats.union Listed.prependedConcatenationMark.set
  | graphemeBase =>
    ((ofCategories [.cc, .cf, .cs, .co, .cn, .zl, .zp]).union Unicode.graphemeExtend).compl
  | graphemeExtend => Unicode.graphemeExtend
  | idContinue => nameContinue
  | idStart => nameStart
  | lowercase => Unicode.lowercase
  | math => (ofCategories [.sm]).union Listed.otherMath.set
  | uppercase => Unicode.uppercase
  | xidContinue => nameContinue.diff unstableInNames
  | xidStart => nameStart.diff (unstableInNames.union unstableAtStart)

/-- Decimal digits. -/
def digit : CharSet := ofCategories [.nd]

/-- Word characters: letters, marks, decimal digits, connectors and joiners. -/
def word : CharSet :=
  alphabetic.union <| Listed.joinControl.set.union <| ofCategories [.mn, .mc, .me, .nd, .pc]

/-- White space. -/
def space : CharSet := Listed.whiteSpace.set

end PatternSession.Unicode
