import PatternSession.Options
import PatternSession.Session.Search

/-!
# Substituting in a session

Two operations share one engine call.

**Replacing** (`Session.replaceFrom`) gives the whole text: what precedes the start, the range as
the engine rebuilt it, and what follows.

**The result of one match** (`Match.result`) substitutes without `g` over the bounds that the match
was found with. The engine locates the occurrence anew, and its span must be the match's; then the
patch is cut out of the rebuilt range, whose length tells the length of the patch.

Both go through the session's `CompileRecord`, so that a template issued again and again is compiled
once.
-/

namespace PatternSession

namespace Session

variable {S H : Type}

/-- One engine call that substitutes within the bounds, passing what the plan says. -/
def substituteCall (s : Session S H) (options template : String) (bounds : Bounds) :
    Session S H × Answer H :=
  let plan := s.record.plan options template
  let (state, a) := s.engine.compileAndSubstitute s.state
    { pattern := if plan.recompile then some s.pattern else none
      template := plan.template
      options := plan.options
      range := s.buffer.range bounds } s.handle
  let record := if a.status < 0 then s.record.failed else s.record.accepted options template
  ({ s with state, handle := a.handle, record }, a)

/-- The characters of the engine's output. -/
def decodeOutput (units : List CodeUnit) : Except Error (List Char) :=
  match decodeUnits? units with
  | some cs => .ok cs
  | none => .error (.compile "engine produced an invalid character")

/-- The whole text, with the bounds rebuilt by the engine. -/
def readReplaced (s : Session S H) (text : Text) (bounds : Bounds) (a : Answer H) :
    Except Error String :=
  if a.status < 0 then .error a.error
  else if a.status = 0 then .ok text.content
  else
    match s.region? with
    | none => .error (.compile "no compiled pattern")
    | some region =>
      (decodeOutput region.output).map fun rebuilt =>
        let before := sliceChars text.chars 0 bounds.start
        let after := (dropBytes? text.chars (byteOffset text.chars bounds.stop)).getD []
        String.ofList (before ++ rebuilt ++ after)

/-- Replaces from character `start` on: every occurrence when the session's options contain `g`,
else the first. -/
def replaceFrom (s : Session S H) (supply : Supply) (text : Text) (template : String)
    (start : Nat) : Turn S H (Except Error String) :=
  if s.disposed then ⟨.error .disposed, s, supply⟩
  else
    let bound := s.bind supply text start none
    match bound.answer with
    | .error e => ⟨.error e, bound.session, bound.supply⟩
    | .ok bounds =>
      let (s, a) := bound.session.substituteCall s.options template bounds
      ⟨s.readReplaced text bounds a, s, bound.supply⟩

/-- Replaces in the whole text. -/
def replace (s : Session S H) (supply : Supply) (text : Text) (template : String) :
    Turn S H (Except Error String) :=
  s.replaceFrom supply text template 0

end Session

namespace Match

variable {S H : Type}

/-- The patch inside a rebuilt range: it begins where the match does, and is longer than the match
by as much as the rebuilt range is longer than the bounds. -/
def cutPatch (m : Match) (output : List CodeUnit) : Except Error String :=
  if output = [] then .ok ""
  else
    let first := m.index - m.bounds.start
    let total := m.length + output.length
    let width := m.bounds.stop - m.bounds.start
    if total < width ∨ output.length < first + (total - width) then
      .error (.occurrenceLost m.span)
    else
      (Session.decodeOutput ((output.drop first).take (total - width))).map String.ofList

/-- What the result of a match is, from the engine's answer and the session after it. -/
def readPatch (m : Match) (s : Session S H) (a : Answer H) : Except Error String :=
  if a.status < 0 then .error a.error
  else if a.status = 0 then .error (.occurrenceLost m.span)
  else
    match s.captures? with
    | some (⟨_, some found⟩ :: _) =>
      if found ≠ m.span then .error (.spanMismatch m.span found)
      else
        match s.region? with
        | some region => m.cutPatch region.output
        | none => .error (.occurrenceLost m.span)
    | _ => .error (.occurrenceLost m.span)

/-- The replacement text for this occurrence alone. -/
def result (m : Match) (s : Session S H) (supply : Supply) (template : String) :
    Turn S H (Except Error String) :=
  if s.disposed then ⟨.error .disposed, s, supply⟩
  else
    let bound := s.bind supply m.text m.bounds.start (some (m.bounds.stop - m.bounds.start))
    match bound.answer with
    | .error e => ⟨.error e, bound.session, bound.supply⟩
    | .ok bounds =>
      let (s, a) := bound.session.substituteCall (withoutGlobal s.options) template bounds
      ⟨m.readPatch s a, s, bound.supply⟩

end Match

end PatternSession
