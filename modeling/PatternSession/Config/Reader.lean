import PatternSession.Numeral

/-!
# Readers of settings texts

What a text says is left to a `Reader`: which entries a text has that is a mapping, which number a
value is, and what the entries give for the fields of a record. A settings file only declares which
fields there are, how their names are written, what a field is that is absent, and whether an entry
may name something else.

**Law.** `Reader.Lawful` states what may be relied on. Lines of a key, a colon, a blank and digits
are a mapping of these keys and digits. Digits are the number that they write, unless it does not
fit a machine word. The entries of a mapping are the fields of a record, each with its own value, in
whatever order they stand; an entry of no field, a second entry of a field, and a value that is
refused are never passed over.
-/

namespace PatternSession.Config

/-! ## Lines -/

/-- A letter of a key: a small one of ASCII, or any character beyond ASCII that can stand inside a
line. -/
def isKeyLetter (c : Char) : Bool :=
  c.isLower ||
    (0xA0 ≤ c.toNat && !(['\u2028', '\u2029', '\uFEFF', '\uFFFE', '\uFFFF'].contains c))

/-- A word of small letters and hyphens, which begins with a letter. -/
structure KeyWord (w : List Char) : Prop where
  begins : ∃ c rest, w = c :: rest ∧ isKeyLetter c
  letters : ∀ c ∈ w, isKeyLetter c ∨ c = '-'

/-- A decimal number as it is written, with leading zeros or without. -/
structure Decimal (w : List Char) : Prop where
  ne_nil : w ≠ []
  digits : ∀ c ∈ w, c.isDigit

/-- A line of a mapping. -/
structure Line where
  key : List Char
  value : List Char

namespace Line

/-- The line as it is written, without its end. -/
def written (l : Line) : List Char := l.key ++ ':' :: ' ' :: l.value

/-- The line has a word for a key and a decimal number for a value. -/
structure Plain (l : Line) : Prop where
  key : KeyWord l.key
  value : Decimal l.value

end Line

/-- Lines as they are written. The line end of the last one may be missing. -/
def linesText (ended : Bool) : List Line → List Char
  | [] => []
  | [l] => l.written ++ if ended then ['\n'] else []
  | l :: ls => l.written ++ '\n' :: linesText ended ls

/-! ## Readers -/

/-- A record of optional numbers, as it is declared. -/
structure Declaration where
  /-- The fields as the program names them. -/
  fields : List String
  /-- What a field is that has no entry. -/
  absent : String → Option Nat
  /-- Are the words of a name joined by hyphens in a text? -/
  kebabCase : Bool
  /-- Is an entry refused that names no field? -/
  denyUnknownFields : Bool

/-- The key of a field, given how a name is written with hyphens. -/
def Declaration.keyOf (d : Declaration) (kebab : String → String) (field : String) : List Char :=
  (if d.kebabCase then kebab field else field).toList

/-- A reader of texts; it says of what it refuses only that it does. -/
structure Reader where
  /-- A value in a mapping. -/
  Node : Type
  /-- The value that is written by these characters alone, with no quotes and no tag. -/
  plain : List Char → Node
  /-- The entries of a text that is a mapping, in their order, with the characters of every key. -/
  mapping? : List Char → Option (List (List Char × Node))
  /-- The number that a value is, or that it is none. -/
  number? : Node → Option (Option Nat)
  /-- A name with its words joined by hyphens. -/
  kebab : String → String
  /-- What the entries of a mapping give for the fields of a record. -/
  record? : Declaration → List (List Char × Node) → Option (String → Option Nat)

namespace Reader

/-- The key of a field. -/
def keyOf (r : Reader) (d : Declaration) (field : String) : List Char := d.keyOf r.kebab field

/-- The entry of a line. -/
def entryOf (r : Reader) (l : Line) : List Char × r.Node := (l.key, r.plain l.value)

/-- What the settings may rely on. -/
structure Lawful (r : Reader) : Prop where
  /-- Lines are a mapping. A reader need not look for a colon beyond 1024 characters of a key. -/
  lines : ∀ (ended : Bool) (l : Line) (ls : List Line), (∀ m ∈ l :: ls, m.Plain) →
    r.mapping? (linesText ended (l :: ls)) = some ((l :: ls).map r.entryOf) ∨
      (∃ m ∈ l :: ls, 1024 < m.key.length) ∧ r.mapping? (linesText ended (l :: ls)) = none
  /-- A number that fits a machine word is read. -/
  decimal : ∀ n, n < wordValues → r.number? (r.plain (toString n).toList) = some (some n)
  /-- One that does not fit is refused. -/
  overflow : ∀ w, Decimal w → wordValues ≤ Nat.ofDigitChars 10 w 0 → r.number? (r.plain w) = none
  /-- In a name the words are joined by underscores, and hyphens take their place. -/
  kebab_eq : ∀ name, r.kebab name =
    String.ofList (name.toList.map fun c => if c = '_' then '-' else c)
  /-- An entry that names no field is refused, if the declaration says so. -/
  unknown : ∀ d entries key value, d.denyUnknownFields = true → (key, value) ∈ entries →
    (∀ f ∈ d.fields, key ≠ r.keyOf d f) → r.record? d entries = none
  /-- Two entries of one field are refused. -/
  repeated : ∀ d before between after f value value', f ∈ d.fields →
    r.record? d (before ++ (r.keyOf d f, value) :: (between ++ (r.keyOf d f, value') :: after)) =
      none
  /-- So is an entry of a field whose value is refused. -/
  refused : ∀ d entries f value, f ∈ d.fields → (r.keyOf d f, value) ∈ entries →
    r.number? value = none → r.record? d entries = none
  /-- Any other entries are accepted. A field has the value of its entry, or is absent. -/
  accepted : ∀ d entries, (d.fields.map (r.keyOf d)).Nodup → (entries.map Prod.fst).Nodup →
    (∀ e ∈ entries, (∃ f ∈ d.fields, e.1 = r.keyOf d f) ∧ (r.number? e.2).isSome) →
    ∃ values, r.record? d entries = some values ∧ ∀ f ∈ d.fields,
      (∀ value, (r.keyOf d f, value) ∈ entries → r.number? value = some (values f)) ∧
      ((∀ value, (r.keyOf d f, value) ∉ entries) → values f = d.absent f)

end Reader

end PatternSession.Config
