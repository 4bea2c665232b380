import PatternSession.Proofs.OptionCodes

/-!
# How a direct call fares

Every argument of a direct call is optional, and a call may end at six points. Whatever is asked of
it, it first comes by a handle, then by a template if it replaces, and only then by its text.

**Theorem (`Call.course`).** A call ends without a look at its range, or it searches its text, or it
substitutes in it. What the handle has decoded is what the one in the place has, or nothing, until
the text is looked at; then it is what was prepared for the range.
-/

namespace PatternSession

namespace Bundled

variable {m : Matcher}

/-! ## Direct calls -/

/-- What is asked of a handle, beside compiling. -/
inductive Task where
  | search (oneShot : Bool)
  | replace (template : Option String)

/-- A direct call, but for the range and the place. -/
structure Call where
  limits : Limits
  pattern : Option String
  options : Option String
  task : Task

/-- The template that is given. -/
def Task.template : Task → Option String
  | search _ => none
  | replace template => template

def Call.answer (c : Call) (r : TextRange) (slot : Option (Handle m)) : Answer (Handle m) :=
  match c.task with
  | .search oneShot => compileAndMatch c.limits ⟨c.pattern, c.options, r, oneShot⟩ slot
  | .replace template => compileAndSubstitute c.limits ⟨c.pattern, template, c.options, r⟩ slot

/-- The handle with which a call comes to its text. A call that is refused, that is for compiling
only or that has no good template does not come to it. -/
def Call.opened? (c : Call) (slot : Option (Handle m)) : Option (Handle m) :=
  match resolve c.limits c.pattern c.options slot with
  | .error _ => none
  | .ok h =>
    match c.task with
    | .search oneShot => if oneShot then none else some { h with region := {} }
    | .replace template =>
      match withTemplate template { h with region := {} } with
      | .error _ => none
      | .ok (_, h) => some h

/-! ## The way of a call to its text -/

/-- Has the handle nothing decoded but what the one in the place has? -/
def Handle.Keeps (slot : Option (Handle m)) (h : Handle m) : Prop :=
  h.haystack = none ∨ ∃ held, slot = some held ∧ h.haystack = held.haystack

/-- How a call fares: it ends without a look at the range, or it comes to its text with a handle. -/
inductive Call.Course (c : Call) (slot : Option (Handle m)) : Option (Handle m) → Prop
  | ended {a : Answer (Handle m)} (answer : ∀ r, c.answer r slot = a)
      (keeps : ∀ left, a.handle = some left → left.Keeps slot) : Course c slot none
  | searched {h : Handle m} (keeps : h.Keeps slot) (clear : h.region = {})
      (task : c.task = .search false) (answer : ∀ r, c.answer r slot = searchOn h r) :
      Course c slot (some h)
  | substituted {h : Handle m} {t : Template} {given : Option String} (keeps : h.Keeps slot)
      (clear : h.region = {}) (task : c.task = .replace given) (template : h.template = some t)
      (answer : ∀ r, c.answer r slot = substituteOn t h r) : Course c slot (some h)

section Calls

variable {c : Call} {slot : Option (Handle m)} {h left : Handle m} {r : TextRange}

theorem resolve_keeps {limits : Limits} {pattern code : Option String}
    (hr : resolve limits pattern code slot = .ok h) : h.Keeps slot := by
  cases pattern with
  | some source =>
    obtain ⟨p, o, -, -, rfl⟩ := compile_eq_ok_iff.1 hr
    exact .inl rfl
  | none =>
    cases slot with
    | none => cases hr
    | some held =>
      obtain rfl := Except.ok.inj hr
      exact .inr ⟨_, rfl, rfl⟩

/-- A template is seen to without a look at what is decoded, or at the result. -/
theorem withTemplate_keeps (template : Option String) (h : Handle m) :
    match withTemplate template h with
    | .ok (t, h') => h'.haystack = h.haystack ∧ h'.region = h.region ∧ h'.template = some t
    | .error (_, h') => h'.haystack = h.haystack := by
  cases template with
  | some source =>
    simp only [withTemplate]
    cases Template.compile (m.groupNames h.pattern) source with
    | error e => rfl
    | ok t => exact ⟨rfl, rfl, rfl⟩
  | none =>
    simp only [withTemplate]
    cases ht : h.template with
    | none => rfl
    | some t => exact ⟨rfl, rfl, ht⟩

/-- **Every call fares in one of these ways.** -/
theorem Call.course (c : Call) (slot : Option (Handle m)) : c.Course slot (c.opened? slot) := by
  unfold opened?
  cases hr : resolve c.limits c.pattern c.options slot with
  | error e =>
    refine .ended (a := failed e slot) ?_ fun left hleft => .inr ⟨left, hleft, rfl⟩
    intro r
    unfold answer
    cases c.task with
    | search oneShot => simp only [compileAndMatch, hr]
    | replace template => simp only [compileAndSubstitute, hr]
  | ok h =>
    have hkeeps : h.Keeps slot := resolve_keeps hr
    dsimp only
    cases htask : c.task with
    | search oneShot =>
      cases oneShot with
      | true =>
        refine .ended (a := ⟨0, none, some { h with region := {} }⟩) ?_ ?_
        · intro r
          simp only [answer, htask, compileAndMatch, hr, if_true]
        · rintro _ ⟨⟩
          exact hkeeps
      | false =>
        refine .searched hkeeps rfl htask ?_
        intro r
        simp only [answer, htask, compileAndMatch, hr, Bool.false_eq_true, if_false]
    | replace template =>
      have hfound := withTemplate_keeps template { h with region := {} }
      dsimp only
      cases hw : withTemplate template { h with region := {} } with
      | error refused =>
        obtain ⟨e, h'⟩ := refused
        rw [hw] at hfound
        refine .ended (a := failed e (some h')) ?_ ?_
        · intro r
          simp only [answer, htask, compileAndSubstitute, hr, hw]
        · rintro _ ⟨⟩
          rw [Handle.Keeps, hfound]
          exact hkeeps
      | ok found =>
        obtain ⟨t, h'⟩ := found
        rw [hw] at hfound
        obtain ⟨hhaystack, hclear, htemplate⟩ := hfound
        refine .substituted ?_ hclear htask htemplate ?_
        · rw [Handle.Keeps, hhaystack]
          exact hkeeps
        · intro r
          simp only [answer, htask, compileAndSubstitute, hr, hw]

theorem searchOn_haystack {hay : Haystack} (hprepare : Haystack.prepare? h.haystack r = some hay)
    (hleft : (searchOn h r).handle = some left) : left.haystack = some hay := by
  rw [searchOn, hprepare] at hleft
  dsimp only at hleft
  split at hleft <;> exact Option.some.inj hleft ▸ rfl

theorem substituteOn_haystack {t : Template} {hay : Haystack}
    (hprepare : Haystack.prepare? h.haystack r = some hay)
    (hleft : (substituteOn t h r).handle = some left) : left.haystack = some hay := by
  rw [substituteOn, hprepare] at hleft
  dsimp only at hleft
  split at hleft <;> exact Option.some.inj hleft ▸ rfl

/-- **What is decoded in the handle that a call leaves:** what the one in the place has decoded, or
nothing, unless the call comes to its text; then what was prepared for the range. -/
theorem Call.left_cases (hleft : (c.answer r slot).handle = some left) :
    (c.opened? slot = none ∧ left.Keeps slot) ∨
      ∃ h, c.opened? slot = some h ∧ h.Keeps slot ∧
        ∀ hay, Haystack.prepare? h.haystack r = some hay → left.haystack = some hay := by
  have hcourse := c.course slot
  revert hcourse
  cases c.opened? slot with
  | none =>
    rintro ⟨answer, keeps⟩
    rw [answer] at hleft
    exact .inl ⟨rfl, keeps left hleft⟩
  | some h =>
    intro hcourse
    refine .inr ⟨h, rfl, ?_⟩
    cases hcourse with
    | searched keeps clear task answer =>
      rw [answer] at hleft
      exact ⟨keeps, fun hay hprepare => searchOn_haystack hprepare hleft⟩
    | substituted keeps clear task template answer =>
      rw [answer] at hleft
      exact ⟨keeps, fun hay hprepare => substituteOn_haystack hprepare hleft⟩

end Calls

end Bundled

end PatternSession
