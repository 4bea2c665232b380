import PatternSession.Bundled

/-!
# Option codes with and without `g`

Letter `g` is read like the others, but a pattern is not told of it. So a code says `global` exactly
when `g` is among its letters (`Options.global_of_parse`), and without its `g`s it compiles to the
same pattern (`Bundled.compile_withoutGlobal`): the two handles of a session differ in their mode
alone.
-/

namespace PatternSession

namespace Options

/-- The options with the mode of replacement set. -/
def setGlobal (o : Options) (on : Bool) : Options := { o with global := on }

theorem setGlobal_setGlobal (o : Options) (first second : Bool) :
    (o.setGlobal first).setGlobal second = o.setGlobal second := rfl

theorem enable?_g (o : Options) : o.enable? 'g' = some (o.setGlobal true) := rfl

/-- The other letters neither look at the mode nor change it. -/
theorem enable?_setGlobal (o : Options) (on : Bool) {c : Char} (hc : c ≠ 'g') :
    (o.setGlobal on).enable? c = (o.enable? c).map (·.setGlobal on) := by
  unfold enable?
  split <;> first | rfl | exact absurd rfl hc

theorem global_of_enable? {o o' : Options} {c : Char} (h : o.enable? c = some o') (hc : c ≠ 'g') :
    o'.global = o.global := by
  have hself : o.setGlobal o.global = o := rfl
  have := o.enable?_setGlobal o.global hc
  rw [hself, h, Option.map_some, Option.some.injEq] at this
  rw [this]
  rfl

theorem global_of_enableAll {o o' : Options} {cs : List Char} (h : o.enableAll cs = .ok o') :
    o'.global = (o.global || decide ('g' ∈ cs)) := by
  induction cs generalizing o with
  | nil =>
    obtain rfl := Except.ok.inj h
    simp
  | cons c cs ih =>
    rw [enableAll] at h
    split at h
    next o₁ h₁ =>
      rw [ih h]
      by_cases hc : c = 'g'
      · subst hc
        obtain rfl := Option.some.inj ((enable?_g o).symm.trans h₁)
        simp [setGlobal]
      · rw [global_of_enable? h₁ hc]
        simp [Ne.symm hc]
    next => cases h

/-- **A code is for every occurrence when `g` is among its letters.** -/
theorem global_of_parse {code : String} {o : Options} (h : parse code = .ok o) :
    o.global = decide ('g' ∈ code.toList) := by
  rw [global_of_enableAll h]
  rfl

theorem enableAll_withoutGlobal {o o' : Options} {cs : List Char} (h : o.enableAll cs = .ok o') :
    (o.setGlobal false).enableAll (cs.filter (· ≠ 'g')) = .ok (o'.setGlobal false) := by
  induction cs generalizing o with
  | nil =>
    obtain rfl := Except.ok.inj h
    rfl
  | cons c cs ih =>
    rw [enableAll] at h
    split at h
    next o₁ h₁ =>
      by_cases hc : c = 'g'
      · subst hc
        obtain rfl := Option.some.inj ((enable?_g o).symm.trans h₁)
        have hrest := ih h
        rw [setGlobal_setGlobal] at hrest
        rw [List.filter_cons_of_neg (by simp)]
        exact hrest
      · rw [List.filter_cons_of_pos (by simpa using hc), enableAll, enable?_setGlobal o false hc,
          h₁]
        exact ih h
    next => cases h

theorem parse_withoutGlobal {code : String} {o : Options} (h : parse code = .ok o) :
    parse (withoutGlobal code) = .ok (o.setGlobal false) := by
  rw [parse, withoutGlobal, String.toList_ofList]
  exact enableAll_withoutGlobal h

end Options

theorem withoutGlobal_not_mem (code : String) : 'g' ∉ (withoutGlobal code).toList := by
  rw [withoutGlobal, String.toList_ofList]
  simp

namespace Bundled

variable {m : Matcher} {limits : Limits} {pattern code : String} {h : Handle m}

/-- What a compiled pattern and its code have to do with each other. -/
theorem compile_eq_ok_iff :
    compile m limits pattern code = .ok h ↔
      ∃ p o, Options.parse code = .ok o ∧ m.compile limits (sourceOf pattern o) = .ok p ∧
        h = { pattern := p, options := o } := by
  unfold compile
  constructor
  · intro hc
    split at hc
    next => cases hc
    next o ho =>
      split at hc
      next => cases hc
      next p hp => exact ⟨p, o, ho, hp, (Except.ok.inj hc).symm⟩
  · rintro ⟨p, o, ho, hp, rfl⟩
    rw [ho]
    dsimp only
    rw [hp]

/-- **A pattern compiles alike with and without `g`.** -/
theorem compile_withoutGlobal (hc : compile m limits pattern code = .ok h) :
    compile m limits pattern (withoutGlobal code) =
      .ok { h with options := h.options.setGlobal false } := by
  obtain ⟨p, o, ho, hp, rfl⟩ := compile_eq_ok_iff.1 hc
  exact compile_eq_ok_iff.2 ⟨p, o.setGlobal false, Options.parse_withoutGlobal ho, hp, rfl⟩

end Bundled

end PatternSession
