import PatternSession.Config.Settings
import PatternSession.Yaml.Document

/-!
# The reader of settings files

Settings files are YAML, and `yaml` reads them.

**Values.** A value is a whole number that fits a machine word: decimal without leading zeros, or
hexadecimal, octal or binary with its prefix; a plus sign may stand before it. It is written plain,
with any tag, or as a literal block with the tag of whole numbers. A value that is left out, or is a
plain word for "no value", is none. Everything else is refused.

**Records.** The entries are gone through in their order. A field has the value of its entry, of
which there may be one.
-/

namespace PatternSession

namespace Config

/-! ## Values -/

/-- The number of digits in a base, if there are digits only and the number fits a machine word. -/
def number? (base : Nat) (digits : List Char) : Option Nat :=
  if digits ≠ [] ∧ digits.all (isDigitOf base) ∧ numeral base digits < wordValues then
    some (numeral base digits)
  else none

/-- A decimal number; one with a leading zero is none. -/
def decimal? (digits : List Char) : Option Nat :=
  match digits with
  | '0' :: _ :: _ => none
  | _ => number? 10 digits

/-- A whole number as it may be written in a settings file. -/
def whole? (text : List Char) : Option Nat :=
  let unsigned := match text with
    | '+' :: rest => rest
    | _ => text
  match unsigned with
  | '0' :: 'x' :: digits => number? 16 digits
  | '0' :: 'o' :: digits => number? 8 digits
  | '0' :: 'b' :: digits => number? 2 digits
  | digits => decimal? digits

/-- Is this a word for "no value"? -/
def isNull (text : List Char) : Bool :=
  ["~", "null", "Null", "NULL"].any fun s => s.toList = text

/-- The tag of "no value". -/
def nullTag : List Char := "tag:yaml.org,2002:null".toList

/-- The tag of whole numbers. -/
def wholeTag : List Char := "tag:yaml.org,2002:int".toList

/-- The value of a key: `none` if it is refused. -/
def value? (s : Yaml.Scalar) : Option (Option Nat) :=
  match s.style, s.tag with
  | .plain, none => if s.text = [] || isNull s.text then some none else (whole? s.text).map some
  | .plain, some tag =>
    if tag = nullTag then if isNull s.text then some none else none
    else (whole? s.text).map some
  | .literal, some tag => if tag = wholeTag then (whole? s.text).map some else none
  | _, _ => none

/-! ## Records -/

/-- A name with hyphens for underscores. -/
def kebab (name : String) : String :=
  String.ofList (name.toList.map fun c => if c = '_' then '-' else c)

/-- The values of the fields that have one. -/
abbrev Values := String → Option (Option Nat)

/-- The values with another one. -/
def Values.put (values : Values) (field : String) (value : Option Nat) : Values :=
  fun f => if f = field then some value else values f

/-- The field that a key is for. -/
def fieldOf? (d : Declaration) (key : List Char) : Option String :=
  d.fields.find? fun f => d.keyOf kebab f = key

/-- The values after one more entry. -/
def enter? (d : Declaration) (values : Values) (entry : List Char × Yaml.Scalar) :
    Option Values :=
  match fieldOf? d entry.1 with
  | none => if d.denyUnknownFields then none else some values
  | some field =>
    match values field, value? entry.2 with
    | none, some value => some (values.put field value)
    | _, _ => none

/-- The fields of a record. -/
def record? (d : Declaration) (entries : List (List Char × Yaml.Scalar)) :
    Option (String → Option Nat) :=
  (entries.foldlM (enter? d) fun _ => none).map fun values f => (values f).getD (d.absent f)

/-- The reader of YAML. -/
def yaml : Reader where
  Node := Yaml.Scalar
  plain w := ⟨.plain, none, w⟩
  mapping? cs := (Yaml.mapping? cs).map fun entries => entries.map fun e => (e.1.text, e.2)
  number? := value?
  kebab := kebab
  record? := record?

/-- The limits of the settings file at a path. -/
def load (path : String) (file : File) : Except ConfigError Limits := yaml.load path file

end Config

end PatternSession
