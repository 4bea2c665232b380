import PatternSession.Yaml.Token

/-!
# Documents

`mapping?` reads a text as one document that is a mapping of scalars. A document without content is
the empty mapping.

**Documents.** The first document may begin without a marker. Directives need the marker after them.
A second document is refused.

**Nodes.** A node is a scalar with an anchor and a tag, in either order, or an alias. A node with an
anchor or a tag alone is an empty scalar, and so is a key or a value that is left out.

**Tags.** A handle stands for the beginning of a tag. A tag of one exclamation mark is none, unless
its scalar is left out.

**Anchors** are numbered by how many different names there are before them, and an alias has the
number that its name has at this place. It stands for the last node of that number in the whole
document.
-/

namespace PatternSession.Yaml

/-- A scalar with its tag. -/
structure Scalar where
  style : Style
  tag : Option (List Char)
  text : List Char
  deriving DecidableEq

/-- The scalar of a node that is left out. -/
def Scalar.leftOut (tag : Option (List Char)) : Scalar := ⟨.plain, tag, []⟩

/-- A key or a value. -/
inductive Node where
  | scalar (anchor : Option (List Char)) (s : Scalar)
  | alias (name : List Char)

/-- A mapping of scalars. -/
structure Document where
  anchor : Option (List Char) := none
  entries : List (Node × Node) := []

/-! ## Directives -/

/-- What stands before the content of a document. -/
structure Directives where
  hasVersion : Bool := false
  /-- The handles of tags with what they stand for. -/
  handles : List (List Char × List Char) := []

/-- The handles that need no directive. -/
def standardHandles : List (List Char × List Char) :=
  [(['!'], ['!']), (['!', '!'], "tag:yaml.org,2002:".toList)]

/-- The directives of a document. There may be one version, 1.1 or 1.2, and a handle once. -/
def directives? (d : Directives) : List Token → Option (Directives × List Token)
  | .version major minor :: rest =>
    if d.hasVersion || major ≠ 1 || !(minor = 1 || minor = 2) then none
    else directives? { d with hasVersion := true } rest
  | .tagHandle handle start :: rest =>
    if (d.handles.map (·.1)).contains handle then none
    else directives? { d with handles := (handle, start) :: d.handles } rest
  | tokens => some (d, tokens)

/-! ## Nodes -/

/-- What may stand before the content of a node. -/
structure Properties where
  anchor : Option (List Char) := none
  tag : Option (List Char) := none

/-- The tag of a handle and the text after it; a tag without handle is the text itself. -/
def Directives.tag? (d : Directives) (handle text : List Char) : Option (List Char) :=
  if handle = [] then some text
  else
    ((d.handles ++ standardHandles).find? fun h => h.1 = handle).map fun h => h.2 ++ text

/-- The properties of a node. -/
def properties? (d : Directives) : List Token → Option (Properties × List Token)
  | .anchor name :: .tag handle text :: rest | .tag handle text :: .anchor name :: rest =>
    (d.tag? handle text).map fun tag => ({ anchor := some name, tag := some tag }, rest)
  | .anchor name :: rest => some ({ anchor := some name }, rest)
  | .tag handle text :: rest =>
    (d.tag? handle text).map fun tag => ({ tag := some tag }, rest)
  | tokens => some ({}, tokens)

namespace Properties

def isEmpty (p : Properties) : Bool := p.anchor.isNone && p.tag.isNone

/-- The node with these properties and a scalar that is written. -/
def written (p : Properties) (style : Style) (text : List Char) : Node :=
  .scalar p.anchor ⟨style, p.tag.filter (· ≠ ['!']), text⟩

/-- The node with these properties alone. -/
def leftOut (p : Properties) : Node := .scalar p.anchor (.leftOut p.tag)

end Properties

/-- A key or a value that is left out. -/
def Node.nothing : Node := .scalar none (.leftOut none)

/-- Does a mapping begin here? -/
def opensMapping : List Token → Bool
  | .blockMapping :: _ | .flowMapping :: _ => true
  | _ => false

/-- A node, which must not be a mapping. -/
def node? (d : Directives) (tokens : List Token) : Option (Node × List Token) :=
  match tokens with
  | .alias name :: rest => some (.alias name, rest)
  | tokens =>
    (properties? d tokens).bind fun (p, rest) =>
      match rest with
      | .scalar style text :: rest => some (p.written style text, rest)
      | rest => if p.isEmpty || opensMapping rest then none else some (p.leftOut, rest)

/-- A node, which is left out where one of the tokens comes that end it. -/
def nodeOrNothing? (d : Directives) (ends : Token → Bool) (tokens : List Token) :
    Option (Node × List Token) :=
  match tokens with
  | t :: _ => if ends t then some (.nothing, tokens) else node? d tokens
  | [] => none

/-! ## Mappings -/

/-- Does the token end a key or a value of a block mapping? -/
def endsInBlock (t : Token) : Bool := t = .key || t = .value || t = .blockEnd

/-- The entries of a block mapping up to its end, and the tokens after it. -/
def blockEntries? (d : Directives) :
    (fuel : Nat) → List Token → Option (List (Node × Node) × List Token)
  | 0, _ => none
  | fuel + 1, .key :: rest => do
    let (key, rest) ← nodeOrNothing? d endsInBlock rest
    let (value, rest) ← match rest with
      | .value :: rest => nodeOrNothing? d endsInBlock rest
      | rest => some (.nothing, rest)
    let (entries, rest) ← blockEntries? d fuel rest
    return ((key, value) :: entries, rest)
  | _, .blockEnd :: rest => some ([], rest)
  | _, _ => none

/-- Does the token end a key of a flow mapping? -/
def endsKeyInFlow (t : Token) : Bool := t = .value || t = .flowEntry || t = .flowEnd

/-- Does the token end a value of a flow mapping? -/
def endsValueInFlow (t : Token) : Bool := t = .flowEntry || t = .flowEnd

/-- An entry of a flow mapping, and the tokens after it. A key without a colon has no value. -/
def flowEntry? (d : Directives) : List Token → Option ((Node × Node) × List Token)
  | .key :: rest => do
    let (key, rest) ← nodeOrNothing? d endsKeyInFlow rest
    let (value, rest) ← match rest with
      | .value :: rest => nodeOrNothing? d endsValueInFlow rest
      | rest => some (.nothing, rest)
    return ((key, value), rest)
  | tokens => (node? d tokens).map fun (key, rest) => ((key, .nothing), rest)

/-- The entries of a flow mapping up to its end, and the tokens after it. -/
def flowEntries? (d : Directives) :
    (fuel : Nat) → List Token → Option (List (Node × Node) × List Token)
  | 0, _ => none
  | _, .flowEnd :: rest => some ([], rest)
  | fuel + 1, tokens => do
    let (entry, rest) ← flowEntry? d tokens
    match rest with
    | .flowEntry :: rest =>
      let (entries, rest) ← flowEntries? d fuel rest
      return (entry :: entries, rest)
    | .flowEnd :: rest => return ([entry], rest)
    | _ => none

/-- The content of a document, and the tokens after it. -/
def content? (d : Directives) (tokens : List Token) : Option (Document × List Token) := do
  let (p, rest) ← properties? d tokens
  match rest with
  | .blockMapping :: rest =>
    let (entries, rest) ← blockEntries? d (tokens.length + 1) rest
    return (⟨p.anchor, entries⟩, rest)
  | .flowMapping :: rest =>
    let (entries, rest) ← flowEntries? d (tokens.length + 1) rest
    return (⟨p.anchor, entries⟩, rest)
  | .scalar _ _ :: _ => none
  | rest => if p.isEmpty then none else return ({}, rest)

/-- Has a document with a marker no content? -/
def hasNoContent : List Token → Bool
  | [] | .version _ _ :: _ | .tagHandle _ _ :: _ | .documentStart :: _ | .documentEnd :: _ => true
  | _ => false

/-- The only document of the tokens. -/
def document? (tokens : List Token) : Option Document :=
  match tokens with
  | [] => some {}
  | _ => do
    let (d, rest) ← directives? {} tokens
    let (document, rest) ← match rest with
      | .documentStart :: rest =>
        if hasNoContent rest then some ({}, rest) else content? d rest
      | rest => if rest.length = tokens.length then content? d rest else none
    if rest.all (· = .documentEnd) then some document else none

/-! ## Anchors -/

/-- The anchors of a document up to a place. -/
structure Anchors where
  /-- The names with their numbers, the last one first. -/
  names : List (List Char × Nat) := []
  /-- The numbers with their scalars, the last one first. A mapping has none. -/
  targets : List (Nat × Option Scalar) := []

namespace Anchors

/-- The number that an anchor has next: how many names there are. -/
def next (a : Anchors) : Nat := (a.names.map (·.1)).eraseDups.length

/-- The anchors with one more node. -/
def add (a : Anchors) (anchor : Option (List Char)) (target : Option Scalar) : Anchors :=
  match anchor with
  | none => a
  | some name => ⟨(name, a.next) :: a.names, (a.next, target) :: a.targets⟩

/-- The number of a name. -/
def number? (a : Anchors) (name : List Char) : Option Nat :=
  (a.names.find? fun p => p.1 = name).map (·.2)

/-- The scalar of a number. -/
def scalar? (a : Anchors) (number : Nat) : Option Scalar :=
  (a.targets.find? fun p => p.1 = number).bind (·.2)

end Anchors

/-- A node with its alias as a number, and the anchors after it. -/
def numbered? (a : Anchors) : Node → Option ((Scalar ⊕ Nat) × Anchors)
  | .scalar anchor s => some (.inl s, a.add anchor (some s))
  | .alias name => (a.number? name).map fun n => (.inr n, a)

/-- Entries with their aliases as numbers, and the anchors after them. -/
def numberedEntries? (a : Anchors) : List (Node × Node) →
    Option (List ((Scalar ⊕ Nat) × (Scalar ⊕ Nat)) × Anchors)
  | [] => some ([], a)
  | (key, value) :: rest => do
    let (key, a) ← numbered? a key
    let (value, a) ← numbered? a value
    let (entries, a) ← numberedEntries? a rest
    return ((key, value) :: entries, a)

/-- The scalar that a node is or stands for. -/
def Anchors.resolve? (a : Anchors) : Scalar ⊕ Nat → Option Scalar
  | .inl s => some s
  | .inr n => a.scalar? n

/-- The entries of a document with the scalars that aliases stand for. -/
def Document.entries? (d : Document) : Option (List (Scalar × Scalar)) := do
  let (entries, a) ← numberedEntries? (Anchors.add {} d.anchor none) d.entries
  entries.mapM fun (key, value) => return (← a.resolve? key, ← a.resolve? value)

/-- The mapping of a text. -/
def mapping? (cs : List Char) : Option (List (Scalar × Scalar)) :=
  if cs.all isAllowed then ((tokens? cs).bind document?).bind Document.entries? else none

end PatternSession.Yaml
