import PatternSession.Haystack
import PatternSession.Options
import PatternSession.Substitution

/-!
# The bundled engine

`bundled m limits` is the engine over a matcher `m`. It has no state of its own; everything is in
the handle: the compiled pattern, the template compiled last, the result of the last call and the
decoded text.

**Compiling.** A pattern is compiled together with its options, and a handle made so takes the
place of the old one; when the pattern or the options are refused, the place is left as it was. A
template is compiled against the groups of the present pattern; when it is refused, the handle
keeps its pattern and has no template.

**Results.** Every call that has a handle first clears its result, so a result is always that of
the last call, and empty unless that call matched.

**Messages** are cut to what fits into a message buffer.
-/

namespace PatternSession

/-- The largest status, which is a signed word of 32 bits. -/
def maxStatus : Nat := 2147483647

namespace Bundled

/-- What the engine keeps between calls. -/
structure Handle (m : Matcher) where
  pattern : m.Pattern
  options : Options
  template : Option Template := none
  region : Region := {}
  haystack : Option Haystack := none

variable {m : Matcher}

/-- The source that the matcher compiles: the options as an inline flag group before the
pattern. -/
def sourceOf (pattern : String) (options : Options) : String :=
  match options.inlineLetters with
  | [] => pattern
  | flags => "(?" ++ String.ofList flags ++ ")" ++ pattern

/-- A new handle for a pattern and an option code. -/
def compile (m : Matcher) (limits : Limits) (pattern code : String) : Except String (Handle m) :=
  match Options.parse code with
  | .error c => .error ("unknown option '" ++ c.toString ++ "'")
  | .ok options =>
    match m.compile limits (sourceOf pattern options) with
    | .error e => .error e
    | .ok p => .ok { pattern := p, options }

/-- The handle that a call works on: a new one if a pattern is given, else the one at hand. -/
def resolve (limits : Limits) (pattern code : Option String) (slot : Option (Handle m)) :
    Except String (Handle m) :=
  match pattern with
  | some p => compile m limits p (code.getD "")
  | none =>
    match slot with
    | some h => .ok h
    | none => .error "no compiled pattern"

/-- A failed call. -/
def failed (text : String) (slot : Option (Handle m)) : Answer (Handle m) :=
  ⟨-1, some (cutMessage text), slot⟩

/-- The search on a handle whose result is clear. -/
def searchOn (h : Handle m) (r : TextRange) : Answer (Handle m) :=
  match Haystack.prepare? h.haystack r with
  | none => failed "text contains an invalid character" (some h)
  | some hay =>
    let h := { h with haystack := some hay }
    match m.search h.pattern (hay.visible r) (hay.byte r.bounds.start) with
    | .error e => failed e (some h)
    | .ok none => ⟨0, none, some h⟩
    | .ok (some spans) => ⟨1, none, some { h with region := { groups := hay.groups spans } }⟩

/-- Compile and match. -/
def compileAndMatch (limits : Limits) (call : MatchCall) (slot : Option (Handle m)) :
    Answer (Handle m) :=
  match resolve limits call.pattern call.options slot with
  | .error e => failed e slot
  | .ok h =>
    let h := { h with region := {} }
    if call.oneShot then ⟨0, none, some h⟩ else searchOn h call.range

/-- The handle with the template that a substitution uses: a given one, compiled, else the one at
hand. A template that is refused is given up together with the old one. -/
def withTemplate (template : Option String) (h : Handle m) :
    Except (String × Handle m) (Template × Handle m) :=
  match template with
  | some source =>
    match Template.compile (m.groupNames h.pattern) source with
    | .ok t => .ok (t, { h with template := some t })
    | .error e => .error (e.message, { h with template := none })
  | none =>
    match h.template with
    | some t => .ok (t, h)
    | none => .error ("no compiled replacement", h)

/-- The substitution on a handle whose result is clear. -/
def substituteOn (t : Template) (h : Handle m) (r : TextRange) : Answer (Handle m) :=
  match Haystack.prepare? h.haystack r with
  | none => failed "text contains an invalid character" (some h)
  | some hay =>
    let h := { h with haystack := some hay }
    let text := hay.visible r
    match substitute (m.search h.pattern text) t text (hay.byte r.bounds.start)
        h.options.global with
    | .error e => failed e (some h)
    | .ok none => ⟨0, none, some h⟩
    | .ok (some sub) =>
      ⟨(min sub.count maxStatus : Nat), none, some { h with
        region := { groups := hay.groups sub.first, output := unitsOf sub.rebuilt } }⟩

/-- Compile and substitute. -/
def compileAndSubstitute (limits : Limits) (call : SubstituteCall) (slot : Option (Handle m)) :
    Answer (Handle m) :=
  match resolve limits call.pattern call.options slot with
  | .error e => failed e slot
  | .ok h =>
    match withTemplate call.template { h with region := {} } with
    | .error (e, h) => failed e (some h)
    | .ok (t, h) => substituteOn t h call.range

end Bundled

/-- The engine over a matcher. -/
def bundled (m : Matcher) (limits : Limits) : Engine Unit (Bundled.Handle m) where
  compileAndMatch _ call slot := ((), Bundled.compileAndMatch limits call slot)
  compileAndSubstitute _ call slot := ((), Bundled.compileAndSubstitute limits call slot)
  region h := h.region
  free _ _ := ()

end PatternSession
