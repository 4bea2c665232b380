import PatternSession.Unicode.Age
import PatternSession.Unicode.Derived
import PatternSession.Unicode.Script
import PatternSession.Unicode.Segmentation

/-!
# Properties by name

`property?` finds the set of a property by the name that a pattern gives.

**Names.** A yes-or-no property, a general category or a script is named alone, in this order of
precedence. With its kind in front, a value of one property is named: a category, a script, the
scripts that a character is used with, an age, or a way of segmentation. Case, spaces, hyphens,
underscores and an "is" that the name begins with make no difference.

**Surrogates** are no characters, so their category has no name. Nor has what belongs to no script.
-/

namespace PatternSession.Unicode

/-- A name as it is compared: without an "is" that it begins with, in lower case, and without
spaces, hyphens and underscores. The name that would be "c" then is "isc". -/
def looseName (name : List Char) : String :=
  let fold (cs : List Char) :=
    (cs.filter fun c => c ≠ ' ' ∧ c ≠ '_' ∧ c ≠ '-' ∧ c.toNat < 128).map Char.toLower
  match name with
  | i :: s :: rest =>
    if (i = 'i' ∨ i = 'I') ∧ (s = 's' ∨ s = 'S') then
      let rest := fold rest
      if rest = ['c'] then "isc" else String.ofList rest
    else String.ofList (fold name)
  | _ => String.ofList (fold name)

/-- The listed property of a name. -/
def listed? : String → Option Listed
  | "asciihexdigit" | "ahex" => some .asciiHexDigit
  | "bidicontrol" | "bidic" => some .bidiControl
  | "bidimirrored" | "bidim" => some .bidiMirrored
  | "caseignorable" | "ci" => some .caseIgnorable
  | "changeswhencasefolded" | "cwcf" => some .changesWhenCasefolded
  | "changeswhenlowercased" | "cwl" => some .changesWhenLowercased
  | "changeswhentitlecased" | "cwt" => some .changesWhenTitlecased
  | "changeswhenuppercased" | "cwu" => some .changesWhenUppercased
  | "dash" => some .dash
  | "deprecated" | "dep" => some .deprecated
  | "diacritic" | "dia" => some .diacritic
  | "emoji" => some .emoji
  | "emojicomponent" | "ecomp" => some .emojiComponent
  | "emojimodifier" | "emod" => some .emojiModifier
  | "emojimodifierbase" | "ebase" => some .emojiModifierBase
  | "emojipresentation" | "epres" => some .emojiPresentation
  | "extendedpictographic" | "extpict" => some .extendedPictographic
  | "extender" | "ext" => some .extender
  | "graphemelink" | "grlink" => some .graphemeLink
  | "hexdigit" | "hex" => some .hexDigit
  | "hyphen" => some .hyphen
  | "idcompatmathcontinue" => some .idCompatMathContinue
  | "idcompatmathstart" => some .idCompatMathStart
  | "ideographic" | "ideo" => some .ideographic
  | "idsbinaryoperator" | "idsb" => some .idsBinaryOperator
  | "idstrinaryoperator" | "idst" => some .idsTrinaryOperator
  | "idsunaryoperator" | "idsu" => some .idsUnaryOperator
  | "joincontrol" | "joinc" => some .joinControl
  | "logicalorderexception" | "loe" => some .logicalOrderException
  | "modifiercombiningmark" | "mcm" => some .modifierCombiningMark
  | "noncharactercodepoint" | "nchar" => some .noncharacter
  | "otheralphabetic" | "oalpha" => some .otherAlphabetic
  | "otherdefaultignorablecodepoint" | "odi" => some .otherDefaultIgnorable
  | "othergraphemeextend" | "ogrext" => some .otherGraphemeExtend
  | "otheridcontinue" | "oidc" => some .otherIdContinue
  | "otheridstart" | "oids" => some .otherIdStart
  | "otherlowercase" | "olower" => some .otherLowercase
  | "othermath" | "omath" => some .otherMath
  | "otheruppercase" | "oupper" => some .otherUppercase
  | "patternsyntax" | "patsyn" => some .patternSyntax
  | "patternwhitespace" | "patws" => some .patternWhiteSpace
  | "prependedconcatenationmark" | "pcm" => some .prependedConcatenationMark
  | "quotationmark" | "qmark" => some .quotationMark
  | "radical" => some .radical
  | "regionalindicator" | "ri" => some .regionalIndicator
  | "sentenceterminal" | "sterm" => some .sentenceTerminal
  | "softdotted" | "sd" => some .softDotted
  | "terminalpunctuation" | "term" => some .terminalPunctuation
  | "unifiedideograph" | "uideo" => some .unifiedIdeograph
  | "variationselector" | "vs" => some .variationSelector
  | "whitespace" | "wspace" | "space" => some .whiteSpace
  | _ => none

/-- The derived property of a name. -/
def derived? : String → Option Derived
  | "alphabetic" | "alpha" => some .alphabetic
  | "cased" => some .cased
  | "changeswhencasemapped" | "cwcm" => some .changesWhenCasemapped
  | "defaultignorablecodepoint" | "di" => some .defaultIgnorable
  | "graphemebase" | "grbase" => some .graphemeBase
  | "graphemeextend" | "grext" => some .graphemeExtend
  | "idcontinue" | "idc" => some .idContinue
  | "idstart" | "ids" => some .idStart
  | "lowercase" | "lower" => some .lowercase
  | "math" => some .math
  | "uppercase" | "upper" => some .uppercase
  | "xidcontinue" | "xidc" => some .xidContinue
  | "xidstart" | "xids" => some .xidStart
  | _ => none

/-- The characters of the yes-or-no property of a name. -/
def yesNoSet? (name : String) : Option CharSet :=
  match listed? name, derived? name with
  | some p, _ => some p.set
  | none, some p => some p.set
  | none, none => none

/-- The categories of a name: two letters, one letter for all that begin with it, or words. -/
def categories? : String → Option (List GeneralCategory)
  | "l" | "letter" => some [.lu, .ll, .lt, .lm, .lo]
  | "lc" | "casedletter" => some [.lu, .ll, .lt]
  | "m" | "mark" | "combiningmark" => some [.mn, .mc, .me]
  | "n" | "number" => some [.nd, .nl, .no]
  | "p" | "punctuation" | "punct" => some [.pc, .pd, .ps, .pe, .pi, .pf, .po]
  | "s" | "symbol" => some [.sm, .sc, .sk, .so]
  | "z" | "separator" => some [.zs, .zl, .zp]
  | "c" | "other" => some [.cc, .cf, .cs, .co, .cn]
  | "lu" | "uppercaseletter" => some [.lu]
  | "ll" | "lowercaseletter" => some [.ll]
  | "lt" | "titlecaseletter" => some [.lt]
  | "lm" | "modifierletter" => some [.lm]
  | "lo" | "otherletter" => some [.lo]
  | "mn" | "nonspacingmark" => some [.mn]
  | "mc" | "spacingmark" => some [.mc]
  | "me" | "enclosingmark" => some [.me]
  | "nd" | "decimalnumber" | "digit" => some [.nd]
  | "nl" | "letternumber" => some [.nl]
  | "no" | "othernumber" => some [.no]
  | "pc" | "connectorpunctuation" => some [.pc]
  | "pd" | "dashpunctuation" => some [.pd]
  | "ps" | "openpunctuation" => some [.ps]
  | "pe" | "closepunctuation" => some [.pe]
  | "pi" | "initialpunctuation" => some [.pi]
  | "pf" | "finalpunctuation" => some [.pf]
  | "po" | "otherpunctuation" => some [.po]
  | "sm" | "mathsymbol" => some [.sm]
  | "sc" | "currencysymbol" => some [.sc]
  | "sk" | "modifiersymbol" => some [.sk]
  | "so" | "othersymbol" => some [.so]
  | "zs" | "spaceseparator" => some [.zs]
  | "zl" | "lineseparator" => some [.zl]
  | "zp" | "paragraphseparator" => some [.zp]
  | "cc" | "control" | "cntrl" => some [.cc]
  | "cf" | "format" => some [.cf]
  | "co" | "privateuse" => some [.co]
  | "cn" | "unassigned" => some [.cn]
  | _ => none

/-- The characters of the category of a name; three of them are not made of categories. -/
def categorySet? (name : String) : Option CharSet :=
  if name = "any" then some .full
  else if name = "ascii" then some (CharSet.ofRanges [(0, 127)])
  else if name = "assigned" then some (ofCategories [.cn]).compl
  else (categories? name).map ofCategories

/-- Is this one of the ways to write a name, which are separated by equality signs? -/
def isNameOf (name entry : String) : Bool :=
  (entry.splitOn "=").any fun written => looseName written.toList = name

/-- The short form of a name, which comes first in its entry. -/
def shortName? (entries : List String) (name : String) : Option (List Char) :=
  ((wordsOf entries).find? (isNameOf name)).map fun entry =>
    entry.toList.takeWhile (· ≠ '=')

/-- The code of the script of a name, which may be the code itself. -/
def scriptCode? (name : String) : Option (List Char) := shortName? scriptNames name

/-- The letter of the age of a name: a version, with a point, or with a "v" and nothing. -/
def ageLetter? (name : String) : Option Char :=
  (ages.find? fun (_, version) =>
    version = name || 'v' :: version.toList.filter (· ≠ '.') = name.toList).map (·.1)

/-- The characters with a value of a segmentation. -/
def Segmentation.set? (p : Segmentation) (name : String) : Option CharSet :=
  (shortName? p.names name).map p.ofValue

/-- The characters with the property that a pattern names. -/
def property? (name : List Char) : Option CharSet :=
  let split := if name.contains ':' then name.span (· ≠ ':') else name.span (· ≠ '=')
  match split with
  | (whole, []) =>
    let name := looseName whole
    (yesNoSet? name).orElse fun _ => (categorySet? name).orElse fun _ =>
      (scriptCode? name).map ofScript
  | (kind, _ :: value) =>
    let value := looseName value
    match looseName kind with
    | "gc" | "generalcategory" => categorySet? value
    | "sc" | "script" => (scriptCode? value).map ofScript
    | "scx" | "scriptextensions" => (scriptCode? value).map ofScriptExtension
    | "age" => (ageLetter? value).map upToAge
    | "gcb" | "graphemeclusterbreak" => graphemeClusterBreak.set? value
    | "wb" | "wordbreak" => wordBreak.set? value
    | "sb" | "sentencebreak" => sentenceBreak.set? value
    | _ => none

end PatternSession.Unicode
