import PatternSession.Proofs.GlobalReplacement
import PatternSession.Proofs.SingleReplacement

/-!
# Replacing the first match

A session without `g` replaces the first occurrence. It gets the range rebuilt by the engine, and
puts it between what precedes the start and what follows. The result of a match comes from the same
engine call in another mode, within other bounds, and is cut out of the rebuilt range.

**Theorem (`first_replacement_agrees`).** The two agree, whichever is asked for first, and whatever
happened in between: the replaced text is the text with the result in the place of the match that a
search finds, and one fails exactly as the other does.

**Proof.** Both are led back to the one search that the match came from. The replacement splices its
occurrence into the range (`Session.Sound.replaceFrom_first`), and the result is the expansion
(`answerOn_result`), so both hold the same expansion or the same error of the template.
-/

namespace PatternSession

open Bundled

variable {m : Matcher} {p : m.Pattern}

/-- The text with a patch in the place of a match. -/
def Text.patched (text : Text) (found : Match) (patch : String) : String :=
  String.ofList (text.chars.take found.index ++ patch.toList ++ text.chars.drop found.stop)

/-! ## Replacing in a sound session -/

section Sound

variable {setup : Setup Limits} {s : Session Unit (Handle m)} {supply : Supply} {text : Text}
  {start : Nat} {template : String} {t : Template}

namespace Session.Sound

/-- A template that does not compile is the error of the replacement. -/
theorem replaceFrom_refused (hs : s.Sound m setup p supply) (hd : s.disposed = false)
    (hstart : start ≤ text.chars.length) {e : TemplateError}
    (ht : Template.compile (m.groupNames p) template = .error e) :
    (s.replaceFrom supply text template start).answer =
      .error (.compile (cutMessage e.message)) := by
  rw [hs.replaceFrom_answer hd hstart, substitutionOutcome]
  simp only [ht]
  rfl

/-- Where the search fails, the replacement fails. -/
theorem replaceFrom_failed (hm : m.Lawful) (hs : s.Sound m setup p supply)
    (hd : s.disposed = false) (hstart : start ≤ text.chars.length)
    (ht : Template.compile (m.groupNames p) template = .ok t) {e : String}
    (hlook : look m p text.chars text.chars.length start = .error e) :
    (s.replaceFrom supply text template start).answer = .error (.compile (cutMessage e)) := by
  rw [hs.replaceFrom_answer hd hstart, substitutionOutcome]
  simp only [ht]
  rw [substituteOutcome, substituteWithin, substitute_failed hm (Nat.le_refl _) hstart hlook]
  rfl

/-- Where it finds nothing, the text is unchanged. -/
theorem replaceFrom_unchanged (hm : m.Lawful) (hs : s.Sound m setup p supply)
    (hd : s.disposed = false) (hstart : start ≤ text.chars.length)
    (ht : Template.compile (m.groupNames p) template = .ok t)
    (hlook : look m p text.chars text.chars.length start = .ok none) :
    (s.replaceFrom supply text template start).answer = .ok text.content := by
  rw [hs.replaceFrom_answer hd hstart, substitutionOutcome]
  simp only [ht]
  rw [substituteOutcome, substituteWithin, substitute_ended hm (Nat.le_refl _) hstart hlook]
  rfl

/-- **Without `g` the match found first is replaced by its expansion.** -/
theorem replaceFrom_first (hm : m.Lawful) (hs : s.Sound m setup p supply)
    (hd : s.disposed = false) (hg : 'g' ∉ setup.options.toList)
    (hstart : start ≤ text.chars.length)
    (ht : Template.compile (m.groupNames p) template = .ok t)
    {groups : List (Option GroupBounds)}
    (hlook : look m p text.chars text.chars.length start = .ok (some groups)) :
    (s.replaceFrom supply text template start).answer =
      .ok (text.patched (matchOf text text.chars.length ⟨start, groups⟩)
        (String.ofList (expansionIn text.chars t groups))) := by
  let o : Occurrence := ⟨start, groups⟩
  have hfit : GroupsFit o.pos text.chars.length o.groups :=
    look_fits hm (Nat.le_refl _) _ _ hstart hlook
  obtain ⟨hbefore, horder, hend⟩ := hfit.bounds
  have hordered : Ordered text.chars.length start [o] := ⟨hbefore, horder, hend⟩
  have houtcome : substitutionOutcome m p text.chars ⟨start, text.chars.length⟩ setup.options
      template = splicedOutcome text.chars text.chars.length start t [o] := by
    have hmode : decide ('g' ∈ setup.options.toList) = false := decide_eq_false hg
    simp only [substitutionOutcome, ht, hmode]
    exact substituteOutcome_first (o := o) hm hstart (Nat.le_refl _) hlook t
  rw [hs.replaceFrom_answer hd hstart, houtcome, readReplaced_splicedOutcome hordered]
  rw [Text.patched, index_matchOf hfit, stop_matchOf hfit, String.toList_ofList, List.append_assoc]
  rfl

end Session.Sound

end Sound

/-! ## Agreement -/

/-- Replacing from `start` on agrees with the match that the session finds there. -/
structure ReplacesFirst (m : Matcher) (setup : Setup Limits) (p : m.Pattern)
    (s : Session Unit (Handle m)) (supply : Supply) (text : Text) (start : Nat)
    (template : String) : Prop where
  /-- Without a match the text is unchanged, unless the template does not compile. -/
  unchanged : (s.findAt supply text start).answer = .ok none →
    (∃ t, Template.compile (m.groupNames p) template = .ok t) →
    ∀ s' supply', setup.Reaches m s' supply' →
      (s'.replaceFrom supply' text template start).answer = .ok text.content
  /-- A search that fails makes the replacement fail. -/
  failed : ∀ e, (s.findAt supply text start).answer = .error e →
    (∃ t, Template.compile (m.groupNames p) template = .ok t) →
    ∀ s' supply', setup.Reaches m s' supply' →
      (s'.replaceFrom supply' text template start).answer = .error e
  /-- The result of the match is put in its place, or is the error. It may be asked for at another
  time than the replacement. -/
  agrees : ∀ found, (s.findAt supply text start).answer = .ok (some found) →
    ∀ s₁ supply₁ s₂ supply₂, setup.Reaches m s₁ supply₁ → setup.Reaches m s₂ supply₂ →
      (s₁.replaceFrom supply₁ text template start).answer =
        (found.result s₂ supply₂ template).answer.map (text.patched found)
  /-- Right after the search, the two can be asked for in either order. -/
  order : ∀ found, (s.findAt supply text start).answer = .ok (some found) →
    let t := s.findAt supply text start
    let result := found.result t.session t.supply template
    let replaced := t.session.replaceFrom t.supply text template start
    (result.session.replaceFrom result.supply text template start).answer = replaced.answer ∧
      (found.result replaced.session replaced.supply template).answer = result.answer ∧
      replaced.answer = result.answer.map (text.patched found)

section Agreement

variable {setup : Setup Limits} {s s₁ s₂ : Session Unit (Handle m)}
  {supply supply₁ supply₂ : Supply} {text : Text} {start : Nat} {found : Match}

/-- A match that a search finds is replaced by its result, each asked for at any time. -/
theorem replaceFrom_eq_result (hm : m.Lawful) (hg : 'g' ∉ setup.options.toList)
    (hs₁ : s₁.Sound m setup p supply₁) (hd₁ : s₁.disposed = false)
    (hs₂ : s₂.Sound m setup p supply₂) (hd₂ : s₂.disposed = false)
    (hstart : start ≤ text.chars.length)
    (hfound : searchAnswer m p text ⟨start, text.chars.length⟩ = .ok (some found))
    (template : String) :
    (s₁.replaceFrom supply₁ text template start).answer =
      (found.result s₂ supply₂ template).answer.map (text.patched found) := by
  have hby := foundBy_of_searchAnswer hstart (Nat.le_refl _) hfound
  obtain ⟨groups, hlook, rfl⟩ := searchAnswer_eq_some hfound
  rw [hs₂.result_answer hm hd₂ hby]
  cases ht : Template.compile (m.groupNames p) template with
  | error e => exact hs₁.replaceFrom_refused hd₁ hstart ht
  | ok t =>
    have hexpand : expansionIn text.chars t groups =
        t.expand fun i => ((matchOf text text.chars.length ⟨start, groups⟩).group? i).map
          String.toList := (expand_matchOf (o := ⟨start, groups⟩) t).symm
    rw [hs₁.replaceFrom_first hm hd₁ hg hstart ht hlook, hexpand]
    rfl

theorem replacesFirst (hm : m.Lawful) (hg : 'g' ∉ setup.options.toList)
    (hs : setup.Reaches m s supply)
    (hp : CompilesTo m setup.config setup.pattern setup.options p)
    (hstart : start ≤ text.chars.length) (template : String) :
    ReplacesFirst m setup p s supply text start template := by
  have hfind := (hs.sound_of_compiles hp).findAt_answer hm hs.live hstart
  constructor
  · rintro hnone ⟨t, ht⟩ s' supply' hs'
    rw [hfind] at hnone
    exact (hs'.sound_of_compiles hp).replaceFrom_unchanged hm hs'.live hstart ht
      (searchAnswer_eq_none hnone)
  · rintro e herror ⟨t, ht⟩ s' supply' hs'
    rw [hfind] at herror
    obtain ⟨message, hlook, rfl⟩ := searchAnswer_eq_error herror
    exact (hs'.sound_of_compiles hp).replaceFrom_failed hm hs'.live hstart ht hlook
  · intro found hfound s₁ supply₁ s₂ supply₂ hs₁ hs₂
    rw [hfind] at hfound
    exact replaceFrom_eq_result hm hg (hs₁.sound_of_compiles hp) hs₁.live
      (hs₂.sound_of_compiles hp) hs₂.live hstart hfound template
  · intro found hfound t result replaced
    rw [hfind] at hfound
    have hby := foundBy_of_searchAnswer hstart (Nat.le_refl _) hfound
    have hfinding : Operation.findAt text start ≠ .dispose := by simp
    have htaking : Operation.result found template ≠ .dispose := by simp
    have hreplacing : Operation.replaceFrom text template start ≠ .dispose := by simp
    -- the session after the search, and after either of the two
    have ht : setup.Reaches m t.session t.supply := hs.run hfinding
    have hresult : setup.Reaches m result.session result.supply := ht.run htaking
    have hreplaced : setup.Reaches m replaced.session replaced.supply := ht.run hreplacing
    have hlater := replaceFrom_eq_result hm hg (hresult.sound_of_compiles hp) hresult.live
      (ht.sound_of_compiles hp) ht.live hstart hfound template
    have hnow := replaceFrom_eq_result hm hg (ht.sound_of_compiles hp) ht.live
      (ht.sound_of_compiles hp) ht.live hstart hfound template
    refine ⟨hlater.trans hnow.symm, ?_, hnow⟩
    rw [(hreplaced.sound_of_compiles hp).result_answer hm hreplaced.live hby]
    exact ((ht.sound_of_compiles hp).result_answer hm ht.live hby template).symm

end Agreement

/-! ## The theorem -/

/-- **A replacement without `g`, the search and the result agree,** in every live session without
`g` and after every history. -/
theorem first_replacement_agrees (m : Matcher) (hm : m.Lawful) {setup : Setup Limits}
    (hg : 'g' ∉ setup.options.toList) {s : Session Unit (Handle m)} {supply : Supply}
    (hs : setup.Reaches m s supply) {text : Text} {start : Nat}
    (hstart : start ≤ text.chars.length) (template : String) :
    ∃ p, CompilesTo m setup.config setup.pattern setup.options p ∧
      ReplacesFirst m setup p s supply text start template := by
  obtain ⟨p, hsound⟩ := hs.sound
  exact ⟨p, hsound.compiles, replacesFirst hm hg hs hsound.compiles hstart template⟩

/-- A session without `g`, after a replacement in another text and one that was refused. -/
def refusedBefore : List (Family.Event Limits) :=
  [.opened ⟨{}, "b*", ""⟩, .asked 0 (.replace ⟨1, "bab"⟩ "x"), .asked 0 (.replace ⟨1, "bab"⟩ "$7")]

/-- In `aébbc` the run `bb` is found, and replaced by its result. -/
theorem first_replacement_agrees_after_refusal :
    ∃ s, (Family.after (bundled starred) () refusedBefore).members[0]? =
          some (⟨{}, "b*", ""⟩, s) ∧
      ∃ found,
        (s.findAt (Family.after (bundled starred) () refusedBefore).supply ⟨2, "aébbc"⟩ 2).answer =
          .ok (some found) ∧
        (s.replaceFrom (Family.after (bundled starred) () refusedBefore).supply ⟨2, "aébbc"⟩
            "<$&>" 2).answer =
          (found.result s (Family.after (bundled starred) () refusedBefore).supply
            "<$&>").answer.map (Text.patched ⟨2, "aébbc"⟩ found) ∧
        (s.replaceFrom (Family.after (bundled starred) () refusedBefore).supply ⟨2, "aébbc"⟩
            "<$&>" 2).answer = .ok "aé<bb>c" := by
  have hmember : (Family.after (bundled starred) () refusedBefore).members[0]? =
      some (⟨{}, "b*", ""⟩, _) := rfl
  have hs : Setup.Reaches starred ⟨{}, "b*", ""⟩ _ _ := ⟨refusedBefore, 0, hmember, rfl, rfl⟩
  have hstart : 2 ≤ (Text.mk 2 "aébbc").chars.length := by decide
  obtain ⟨p, -, hagrees⟩ :=
    first_replacement_agrees starred starred_lawful (by decide) hs hstart "<$&>"
  exact ⟨_, hmember, _, rfl, hagrees.agrees _ rfl _ _ _ _ hs hs, rfl⟩

end PatternSession
