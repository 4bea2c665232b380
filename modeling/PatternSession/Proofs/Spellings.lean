import Mathlib.Data.List.Forall2
import PatternSession.Proofs.RangeChecks

/-!
# Spellings of an option code

A session keeps its option code as it was written, and compares codes as they were written when it
decides whether to pass them again. So two spellings of the same options lead to different calls.

**Theorem (`spelling_goes_unnoticed`).** A code is read by its letters alone: it is refused for the
first letter that is none, and else sets the options of those that occur. Nobody but the session
itself can tell two spellings apart. Whether a session opens under one or the other, the error is
the same if it does not, and every reply from then on is the same if it does.

**Proof.** What a setup means (`Setup.meaning`) is its code as it is read, apart from `u`. The
pattern that it compiles to depends on the meaning only, and so does every reply of a sound session,
since that depends on the pattern and on whether `g` is in the code. Two families whose members mean
the same keep to this step by step (`Family.profile_step`), and reply alike.
-/

namespace PatternSession

namespace Options

/-! ## Letters -/

/-- The letters that turn an option on. -/
def optionLetters : List Char := ['u', 'i', 'm', 's', 'x', 'g']

/-- Is the option of this letter on? -/
def flag (o : Options) : Char → Bool
  | 'u' => o.unicode
  | 'i' => o.ignoreCase
  | 'm' => o.multiline
  | 's' => o.singleline
  | 'x' => o.extended
  | 'g' => o.global
  | _ => false

variable {o o' : Options} {c : Char} {cs : List Char} {code : String}

/-- Options are told by their letters. -/
theorem eq_of_flag_eq (h : ∀ c ∈ optionLetters, o.flag c = o'.flag c) : o = o' := by
  obtain ⟨u, i, m, s, x, g⟩ := o
  obtain ⟨u', i', m', s', x', g'⟩ := o'
  simpa [optionLetters, flag] using h

theorem enable?_eq_none_iff : o.enable? c = none ↔ c ∉ optionLetters := by
  unfold enable? optionLetters
  split <;> simp_all

theorem mem_of_enable? (h : o.enable? c = some o') : c ∈ optionLetters := by
  by_contra hc
  rw [enable?_eq_none_iff.2 hc] at h
  cases h

/-- A letter turns its own option on. -/
theorem flag_of_enable? (h : o.enable? c = some o') :
    ∀ d ∈ optionLetters, o'.flag d = (o.flag d || decide (d = c)) := by
  unfold enable? at h
  split at h <;> cases h <;> simp [optionLetters, flag]

/-- The first letter that is no option is reported. -/
theorem enableAll_eq_error_iff :
    o.enableAll cs = .error c ↔ ∃ before after, cs = before ++ c :: after ∧
      (∀ d ∈ before, d ∈ optionLetters) ∧ c ∉ optionLetters := by
  induction cs generalizing o with
  | nil =>
    constructor
    · rintro ⟨⟩
    · rintro ⟨before, after, hcs, -⟩
      cases before <;> cases hcs
  | cons d cs ih =>
    rw [enableAll]
    split
    next o₁ hd =>
      have hletter := mem_of_enable? hd
      rw [ih]
      constructor
      · rintro ⟨before, after, rfl, hbefore, hc⟩
        exact ⟨d :: before, after, rfl, List.forall_mem_cons.2 ⟨hletter, hbefore⟩, hc⟩
      · rintro ⟨before, after, hcs, hbefore, hc⟩
        cases before with
        | nil =>
          obtain ⟨rfl, -⟩ := List.cons.inj hcs
          exact absurd hletter hc
        | cons d' before =>
          obtain ⟨-, rfl⟩ := List.cons.inj hcs
          exact ⟨before, after, rfl, (List.forall_mem_cons.1 hbefore).2, hc⟩
    next hd =>
      have hletter := enable?_eq_none_iff.1 hd
      constructor
      · rintro ⟨⟩
        exact ⟨[], cs, rfl, by simp, hletter⟩
      · rintro ⟨before, after, hcs, hbefore, -⟩
        cases before with
        | nil =>
          obtain ⟨rfl, -⟩ := List.cons.inj hcs
          rfl
        | cons d' before =>
          obtain ⟨rfl, -⟩ := List.cons.inj hcs
          exact absurd (hbefore d List.mem_cons_self) hletter

theorem mem_of_enableAll (h : o.enableAll cs = .ok o') : ∀ c ∈ cs, c ∈ optionLetters := by
  induction cs generalizing o with
  | nil => simp
  | cons d cs ih =>
    rw [enableAll] at h
    split at h
    next hd => exact List.forall_mem_cons.2 ⟨mem_of_enable? hd, ih h⟩
    next => cases h

/-- Letters that are options are all read, and turn on the options that they name. -/
theorem exists_enableAll (o : Options) (h : ∀ c ∈ cs, c ∈ optionLetters) :
    ∃ o', o.enableAll cs = .ok o' ∧
      ∀ c ∈ optionLetters, o'.flag c = (o.flag c || decide (c ∈ cs)) := by
  induction cs generalizing o with
  | nil => exact ⟨o, rfl, by simp⟩
  | cons d cs ih =>
    obtain ⟨hd, hcs⟩ := List.forall_mem_cons.1 h
    rw [enableAll]
    cases hread : o.enable? d with
    | none => exact absurd hd (enable?_eq_none_iff.1 hread)
    | some o₁ =>
      obtain ⟨o', ho', hflags⟩ := ih o₁ hcs
      refine ⟨o', ho', ?_⟩
      intro c hc
      rw [hflags c hc, flag_of_enable? hread c hc, Bool.or_assoc, ← Bool.decide_or]
      simp only [List.mem_cons]

theorem parse_eq_error_iff :
    parse code = .error c ↔ ∃ before after, code.toList = before ++ c :: after ∧
      (∀ d ∈ before, d ∈ optionLetters) ∧ c ∉ optionLetters :=
  enableAll_eq_error_iff

/-- **A code is read by the letters that occur in it.** -/
theorem parse_eq_ok_iff :
    parse code = .ok o ↔ (∀ c ∈ code.toList, c ∈ optionLetters) ∧
      ∀ c ∈ optionLetters, o.flag c = decide (c ∈ code.toList) := by
  have hnone : ∀ c, ({} : Options).flag c = false := by
    intro c
    unfold flag
    split <;> rfl
  constructor
  · intro h
    have hletters := mem_of_enableAll h
    obtain ⟨o', ho', hflags⟩ := exists_enableAll {} hletters
    obtain rfl := Except.ok.inj (h.symm.trans ho')
    exact ⟨hletters, fun c hc => by rw [hflags c hc, hnone, Bool.false_or]⟩
  · rintro ⟨hletters, hflags⟩
    obtain ⟨o', ho', hflags'⟩ := exists_enableAll {} hletters
    refine ho'.trans (congrArg Except.ok (eq_of_flag_eq fun c hc => ?_))
    rw [hflags' c hc, hflags c hc, hnone, Bool.false_or]

/-- The letters of the options that are on are written. -/
theorem letters_toList (o : Options) : o.letters.toList = optionLetters.filter o.flag := by
  have hrows : o.letters = String.ofList ((optionLetters.map fun c => (o.flag c, c)).filterMap
      fun row => if row.1 then some row.2 else none) := rfl
  rw [hrows, String.toList_ofList, List.filterMap_map, ← List.filterMap_eq_filter]
  rfl

/-- **What is written is read back.** -/
theorem parse_letters (o : Options) : parse o.letters = .ok o := by
  rw [parse_eq_ok_iff, letters_toList]
  refine ⟨fun c hc => List.mem_of_mem_filter hc, ?_⟩
  intro c hc
  rw [Bool.eq_iff_iff, decide_eq_true_eq, List.mem_filter]
  exact ⟨fun hon => ⟨hc, hon⟩, And.right⟩

/-- **Without its `g`s a code says the same,** but for the mode, or fails alike. -/
theorem parse_withoutGlobal_eq (code : String) :
    parse (withoutGlobal code) = (parse code).map (·.setGlobal false) := by
  cases h : parse code with
  | ok o => exact parse_withoutGlobal h
  | error c =>
    obtain ⟨before, after, hcode, hbefore, hc⟩ := parse_eq_error_iff.1 h
    have hg : c ≠ 'g' := by
      rintro rfl
      exact hc (by decide)
    refine parse_eq_error_iff.2 ⟨before.filter (· ≠ 'g'), after.filter (· ≠ 'g'), ?_, ?_, hc⟩
    · rw [withoutGlobal, String.toList_ofList, hcode, List.filter_append,
        List.filter_cons_of_pos (by simpa using hg)]
    · exact fun d hd => hbefore d (List.mem_of_mem_filter hd)

/-! ## Spellings -/

/-- The options with `u` turned off, which nothing looks at. -/
def withoutUnicode (o : Options) : Options := { o with unicode := false }

theorem global_withoutUnicode (o : Options) : o.withoutUnicode.global = o.global := rfl

/-- Both codes are read, and have the same letters up to order, repetition and `u`. -/
structure Respells (code code' : String) : Prop where
  read : ∃ o, parse code = .ok o
  read' : ∃ o, parse code' = .ok o
  letters : ∀ c, c ≠ 'u' → (c ∈ code.toList ↔ c ∈ code'.toList)

theorem Respells.withoutUnicode_eq {code' : String} (h : Respells code code')
    (ho : parse code = .ok o) (ho' : parse code' = .ok o') :
    o.withoutUnicode = o'.withoutUnicode := by
  obtain ⟨-, hflags⟩ := parse_eq_ok_iff.1 ho
  obtain ⟨-, hflags'⟩ := parse_eq_ok_iff.1 ho'
  have hsame : ∀ c ∈ optionLetters, c ≠ 'u' → o.flag c = o'.flag c := by
    intro c hc hu
    rw [hflags c hc, hflags' c hc, decide_eq_decide]
    exact h.letters c hu
  refine eq_of_flag_eq fun c hc => ?_
  by_cases hu : c = 'u'
  · rw [hu]
    rfl
  · have hother : ∀ o : Options, o.withoutUnicode.flag c = o.flag c := by
      intro o
      unfold flag
      split <;> first | rfl | exact absurd rfl hu
    rw [hother, hother, hsame c hc hu]

end Options

/-! ## What a setup means -/

open Bundled

/-- A configuration, a pattern, and an option code as it is read. -/
structure Meaning where
  config : Limits
  pattern : String
  options : Except Char Options

/-- The pattern that is compiled, or the error. -/
def Meaning.compiled (m : Matcher) (meaning : Meaning) : Except String m.Pattern :=
  match meaning.options with
  | .error c => .error ("unknown option '" ++ c.toString ++ "'")
  | .ok o => m.compile meaning.config (sourceOf meaning.pattern o)

variable {m : Matcher} {a b : Setup Limits}

namespace Setup

/-- What a setup means: nothing hangs on its `u`s. -/
def meaning (setup : Setup Limits) : Meaning where
  config := setup.config
  pattern := setup.pattern
  options := (Options.parse setup.options).map (·.withoutUnicode)

/-- A setup with options that are not given as a code. -/
def typed (config : Limits) (pattern : String) (o : Options) : Setup Limits :=
  ⟨config, pattern, o.letters⟩

theorem meaning_typed {config : Limits} {pattern code : String} {o : Options}
    (h : Options.parse code = .ok o) :
    (typed config pattern o).meaning = meaning ⟨config, pattern, code⟩ := by
  simp only [meaning, typed, Options.parse_letters, h]

theorem meaning_of_respells {code code' : String} (h : Options.Respells code code')
    (config : Limits) (pattern : String) :
    meaning ⟨config, pattern, code⟩ = meaning ⟨config, pattern, code'⟩ := by
  obtain ⟨o, ho⟩ := h.read
  obtain ⟨o', ho'⟩ := h.read'
  simp only [meaning, ho, ho', Except.map, h.withoutUnicode_eq ho ho']

/-- **What a setup compiles to is a matter of its meaning.** -/
theorem compile_eq (m : Matcher) (setup : Setup Limits) :
    (Bundled.compile m setup.config setup.pattern setup.options).map (·.pattern) =
      setup.meaning.compiled m := by
  rw [Bundled.compile, Meaning.compiled, meaning]
  cases Options.parse setup.options with
  | error c => rfl
  | ok o =>
    have hsource : sourceOf setup.pattern o.withoutUnicode = sourceOf setup.pattern o := rfl
    simp only [Except.map, hsource]
    cases m.compile setup.config (sourceOf setup.pattern o) <;> rfl

theorem compilesTo_iff {setup : Setup Limits} {p : m.Pattern} :
    CompilesTo m setup.config setup.pattern setup.options p ↔
      setup.meaning.compiled m = .ok p := by
  rw [← compile_eq, CompilesTo]
  cases hc : Bundled.compile m setup.config setup.pattern setup.options with
  | error e => simp [Except.map]
  | ok h =>
    -- what is compiled is nothing but the pattern and its options
    obtain ⟨p', o, -, -, rfl⟩ := compile_eq_ok_iff.1 hc
    simp [Except.map]

/-- Setups of one meaning, one of which compiles, have `g` in both codes or in neither. -/
theorem mem_g_iff {p : m.Pattern} (h : a.meaning = b.meaning)
    (hp : CompilesTo m a.config a.pattern a.options p) :
    'g' ∈ a.options.toList ↔ 'g' ∈ b.options.toList := by
  obtain ⟨_, hc⟩ := hp
  obtain ⟨_, o, ho, -, -⟩ := compile_eq_ok_iff.1 hc
  have hmeaning := congrArg Meaning.options h
  simp only [meaning, ho, Except.map] at hmeaning
  split at hmeaning
  next => cases hmeaning
  next o' ho' =>
    have hglobal : o.withoutUnicode.global = o'.withoutUnicode.global := by
      rw [Except.ok.inj hmeaning]
    rw [Options.global_withoutUnicode, Options.global_withoutUnicode, Options.global_of_parse ho,
      Options.global_of_parse ho'] at hglobal
    exact decide_eq_decide.1 hglobal

/-- A session opens when its pattern compiles, or fails with the error. -/
theorem open_answer (setup : Setup Limits) (supply : Supply) :
    (setup.open (bundled m) () supply).answer =
      match setup.meaning.compiled m with
      | .ok _ => .ok ()
      | .error e => .error (.compile (cutMessage e)) := by
  rw [← compile_eq]
  cases hc : Bundled.compile m setup.config setup.pattern setup.options <;>
    · simp only [Setup.open, Session.create, bundled, compileAndMatch, resolve, Option.getD_some,
        hc]
      rfl

end Setup

/-! ## Replies -/

/-- Of its code, a substitution needs to know only whether `g` is in it. -/
theorem Request.answerOn_congr {code code' : String} (h : 'g' ∈ code.toList ↔ 'g' ∈ code'.toList)
    (p : m.Pattern) (text : Text) (start : Nat) (len : Option Nat) (template : String) :
    answerOn m p ⟨text, start, len, some (code, template)⟩ =
      answerOn m p ⟨text, start, len, some (code', template)⟩ := by
  simp only [answerOn, outcome, decide_eq_decide.2 h]

namespace Operation

variable {code code' : String}

theorem answerOn_congr (h : 'g' ∈ code.toList ↔ 'g' ∈ code'.toList) (p : m.Pattern)
    (op : Operation) : op.answerOn m code p = op.answerOn m code' p := by
  cases op with
  | replace text template | replaceFrom text template start =>
    simp only [answerOn, request, Request.answerOn_congr h]
  | result found template =>
    have hsingle : 'g' ∈ (withoutGlobal code).toList ↔ 'g' ∈ (withoutGlobal code').toList :=
      iff_of_false (withoutGlobal_not_mem code) (withoutGlobal_not_mem code')
    simp only [answerOn, request, Request.answerOn_congr hsingle]
  | _ => rfl

/-- A disposed session replies in disregard of its code. -/
theorem reply_of_disposed_congr {s s' : Session Unit (Handle m)} (hd : s.disposed = true)
    (hd' : s'.disposed = true) (op : Operation) (supply supply' : Supply) :
    (op.run s supply).answer = (op.run s' supply').answer := by
  rw [op.reply_of_disposed hd, op.reply_of_disposed hd']
  cases op <;> rfl

end Operation

/-! ## Families that mean the same -/

/-- What a session shows of itself, apart from its code. -/
structure Session.Shown where
  pattern : String
  display : String
  disposed : Bool

def Session.shown (s : Session Unit (Handle m)) : Session.Shown :=
  ⟨s.pattern, s.display, s.disposed⟩

namespace Family

/-- What the members mean, and which of them are disposed. -/
def profile (F : Family Limits Unit (Handle m)) : List (Meaning × Bool) :=
  F.outline.map fun entry => (entry.1.meaning, entry.2)

variable {F G : Family Limits Unit (Handle m)}

theorem exists_member_of_profile (h : F.profile = G.profile) {place : Nat} {setup : Setup Limits}
    {s : Session Unit (Handle m)} (hplace : F.members[place]? = some (setup, s)) :
    ∃ setup' s', G.members[place]? = some (setup', s') ∧ setup'.meaning = setup.meaning ∧
      s'.disposed = s.disposed := by
  have hentry : G.profile[place]? = some (setup.meaning, s.disposed) := by
    rw [← h, profile, outline, List.getElem?_map, List.getElem?_map, hplace]
    rfl
  rw [profile, outline, List.getElem?_map, List.getElem?_map, Option.map_map] at hentry
  obtain ⟨⟨setup', s'⟩, hplace', heq⟩ := Option.map_eq_some_iff.1 hentry
  obtain ⟨hmeaning, hd⟩ := Prod.mk.inj heq
  exact ⟨setup', s', hplace', hmeaning, hd⟩

theorem member_eq_none_of_profile (h : F.profile = G.profile) {place : Nat}
    (hplace : F.members[place]? = none) : G.members[place]? = none := by
  cases hplace' : G.members[place]? with
  | none => rfl
  | some member =>
    obtain ⟨_, _, hs, -⟩ := exists_member_of_profile h.symm hplace'
    rw [hplace] at hs
    cases hs

/-- The same thing happens to two families, but for how a code is spelt. -/
inductive Event.Alike : Event Limits → Event Limits → Prop
  | opened {a b : Setup Limits} : a.meaning = b.meaning → Alike (.opened a) (.opened b)
  | asked (place : Nat) (op : Operation) : Alike (.asked place op) (.asked place op)

theorem profile_step_opened (setup : Setup Limits) (F : Family Limits Unit (Handle m)) :
    (F.step (bundled m) () (.opened setup)).profile =
      match setup.meaning.compiled m with
      | .ok _ => F.profile ++ [(setup.meaning, false)]
      | .error _ => F.profile := by
  rcases outline_step_opened setup F with ⟨⟨p, hp⟩, hF⟩ | ⟨hp, hF⟩
  · rw [profile, hF, List.map_append, Setup.compilesTo_iff.1 hp]
    rfl
  · rw [profile, hF]
    cases hc : setup.meaning.compiled m with
    | ok p => exact absurd ⟨p, Setup.compilesTo_iff.2 hc⟩ hp
    | error e => rfl

/-- **Families that mean the same go on alike.** -/
theorem profile_step (h : F.profile = G.profile) {e e' : Event Limits} (he : e.Alike e') :
    (F.step (bundled m) () e).profile = (G.step (bundled m) () e').profile := by
  cases he with
  | opened hmeaning => rw [profile_step_opened, profile_step_opened, hmeaning, h]
  | asked place op =>
    by_cases hop : op = .dispose
    · subst hop
      cases hplace : F.members[place]? with
      | some member =>
        obtain ⟨setup, s⟩ := member
        obtain ⟨setup', s', hplace', hmeaning, -⟩ := exists_member_of_profile h hplace
        have hdisposed : ∀ s : Session Unit (Handle m), ∀ supply,
            (Operation.dispose.run s supply).session.disposed = true :=
          fun s _ => s.dispose_disposed
        rw [profile, profile, outline_step_asked hplace, outline_step_asked hplace', List.map_set,
          List.map_set, hdisposed, hdisposed, hmeaning]
        exact congrArg (List.set · place _) h
      | none =>
        have hplace' := member_eq_none_of_profile h hplace
        simp only [step, hplace, hplace', h]
    · rw [profile, profile, outline_step_of_not_dispose hop, outline_step_of_not_dispose hop]
      exact h

theorem profile_run (h : F.profile = G.profile) {events events' : List (Event Limits)}
    (he : List.Forall₂ Event.Alike events events') :
    (F.run (bundled m) () events).profile = (G.run (bundled m) () events').profile := by
  induction he generalizing F G with
  | nil => exact h
  | cons he _ ih => exact ih (profile_step h he)

/-- **Sound families that mean the same reply alike.** -/
theorem reply?_eq_of_profile (h : F.profile = G.profile)
    (hF : F.Holds fun setup s supply => ∃ p, s.Sound m setup p supply)
    (hG : G.Holds fun setup s supply => ∃ p, s.Sound m setup p supply) (place : Nat)
    (op : Operation) : F.reply? place op = G.reply? place op := by
  unfold reply?
  cases hplace : F.members[place]? with
  | none =>
    rw [member_eq_none_of_profile h hplace]
    rfl
  | some member =>
    obtain ⟨setup, s⟩ := member
    obtain ⟨setup', s', hplace', hmeaning, hd'⟩ := exists_member_of_profile h hplace
    rw [hplace', Option.map_some, Option.map_some]
    refine congrArg some ?_
    obtain ⟨p, hs⟩ := hF _ (List.mem_of_getElem? hplace)
    obtain ⟨p', hs'⟩ := hG _ (List.mem_of_getElem? hplace')
    have hp := Setup.compilesTo_iff.1 hs.compiles
    have hp' := Setup.compilesTo_iff.1 hs'.compiles
    rw [hmeaning, hp] at hp'
    obtain rfl := Except.ok.inj hp'
    cases hd : s.disposed with
    | false =>
      rw [Operation.run_answer hs hd, Operation.run_answer hs' (hd'.trans hd)]
      exact op.answerOn_congr (Setup.mem_g_iff hmeaning.symm hs.compiles) p
    | true => exact op.reply_of_disposed_congr hd (hd'.trans hd) _ _

/-- What sound members show of themselves is in the profile. -/
theorem shown_eq (hF : F.Holds fun setup s supply => ∃ p, s.Sound m setup p supply) :
    F.members.map (·.2.shown) =
      F.profile.map fun entry => ⟨entry.1.pattern, entry.1.pattern, entry.2⟩ := by
  rw [profile, outline, List.map_map, List.map_map]
  refine List.map_congr_left ?_
  intro member hmem
  obtain ⟨p, hs⟩ := hF member hmem
  simp only [Session.shown, Session.display, Function.comp_apply, Setup.meaning, hs.pattern_eq]

end Family

/-! ## The theorem -/

/-- The same thing happens, or one of two setups is opened in place of the other. -/
inductive Family.Event.Exchanged (a b : Setup Limits) : Event Limits → Event Limits → Prop
  | same (e : Event Limits) : Exchanged a b e e
  | there : Exchanged a b (.opened a) (.opened b)
  | back : Exchanged a b (.opened b) (.opened a)

theorem Family.Event.Exchanged.alike (h : a.meaning = b.meaning) {e e' : Event Limits}
    (he : Exchanged a b e e') : e.Alike e' := by
  cases he with
  | same => cases e with
    | opened setup => exact .opened rfl
    | asked place op => exact .asked place op
  | there => exact .opened h
  | back => exact .opened h.symm

/-- It makes no difference which of two setups a session is opened with. -/
structure Setup.Interchangeable (m : Matcher) (a b : Setup Limits) : Prop where
  /-- A session opens with both, or fails with one error. -/
  opens : ∀ supply supply', (a.open (bundled m) () supply).answer =
    (b.open (bundled m) () supply').answer
  /-- In two histories that differ in this alone, every operation on any session is answered
  alike. -/
  replies : ∀ events events', List.Forall₂ (Family.Event.Exchanged a b) events events' →
    ∀ place op, (Family.after (bundled m) () events).reply? place op =
      (Family.after (bundled m) () events').reply? place op
  /-- And the sessions show the same of themselves. -/
  shows : ∀ events events', List.Forall₂ (Family.Event.Exchanged a b) events events' →
    (Family.after (bundled m) () events).members.map (·.2.shown) =
      (Family.after (bundled m) () events').members.map (·.2.shown)

theorem Setup.interchangeable_of_meaning (m : Matcher) (h : a.meaning = b.meaning) :
    a.Interchangeable m b := by
  have halike : ∀ {events events'}, List.Forall₂ (Family.Event.Exchanged a b) events events' →
      (Family.after (bundled m) () events).profile =
        (Family.after (bundled m) () events').profile :=
    fun he => Family.profile_run rfl (he.imp fun _ _ => Family.Event.Exchanged.alike h)
  refine ⟨?_, ?_, ?_⟩
  · intro supply supply'
    rw [open_answer, open_answer, h]
  · intro events events' he
    exact Family.reply?_eq_of_profile (halike he) (Family.sound_after _) (Family.sound_after _)
  · intro events events' he
    rw [Family.shown_eq (Family.sound_after _), Family.shown_eq (Family.sound_after _), halike he]

/-- **A spelling goes unnoticed.** -/
theorem spelling_goes_unnoticed (m : Matcher) :
    (∀ code c, Options.parse code = .error c ↔ ∃ before after,
      code.toList = before ++ c :: after ∧ (∀ d ∈ before, d ∈ Options.optionLetters) ∧
        c ∉ Options.optionLetters) ∧
    (∀ code o, Options.parse code = .ok o ↔ (∀ c ∈ code.toList, c ∈ Options.optionLetters) ∧
      ∀ c ∈ Options.optionLetters, o.flag c = decide (c ∈ code.toList)) ∧
    (∀ o : Options, Options.parse o.letters = .ok o) ∧
    (∀ code, Options.parse (withoutGlobal code) = (Options.parse code).map (·.setGlobal false)) ∧
    (∀ config pattern code code', Options.Respells code code' →
      Setup.Interchangeable m ⟨config, pattern, code⟩ ⟨config, pattern, code'⟩) ∧
    ∀ config pattern code o, Options.parse code = .ok o →
      (Setup.typed config pattern o).Interchangeable m ⟨config, pattern, code⟩ :=
  ⟨fun _ _ => Options.parse_eq_error_iff, fun _ _ => Options.parse_eq_ok_iff,
    Options.parse_letters, Options.parse_withoutGlobal_eq,
    fun config pattern _ _ h =>
      Setup.interchangeable_of_meaning m (Setup.meaning_of_respells h config pattern),
    fun _ _ _ _ h => Setup.interchangeable_of_meaning m (Setup.meaning_typed h)⟩

/-- A session for runs of `b` is opened under a code, and replaces them in a text. -/
def replacedUnder (code : String) : List (Family.Event Limits) :=
  [.opened ⟨{}, "b*", code⟩, .asked 0 (.replace ⟨1, "abb"⟩ "-")]

/-- `gug` is another spelling of `g`. The sessions opened under the two replace every run alike, and
so does one that is opened with the options themselves. -/
theorem spelling_goes_unnoticed_when_replacing :
    Options.Respells "g" "gug" ∧ Options.parse "gug" = .ok { unicode := true, global := true } ∧
      (Setup.typed {} "b*" { unicode := true, global := true }).Interchangeable starred
        ⟨{}, "b*", "gug"⟩ ∧
      (Family.after (bundled starred) () (replacedUnder "g")).reply? 0
        (.replace ⟨2, "abb"⟩ "<$&>") = some (.written (.ok "<>a<bb>")) ∧
      (Family.after (bundled starred) () (replacedUnder "gug")).reply? 0
        (.replace ⟨2, "abb"⟩ "<$&>") = some (.written (.ok "<>a<bb>")) := by
  obtain ⟨-, -, -, -, hrespelled, htyped⟩ := spelling_goes_unnoticed starred
  have hparse : Options.parse "gug" = .ok { unicode := true, global := true } := rfl
  have hletters : ∀ c, c ≠ 'u' → (c ∈ "g".toList ↔ c ∈ "gug".toList) := by
    intro c hc
    show c ∈ ['g'] ↔ c ∈ ['g', 'u', 'g']
    simp [hc]
  have h : Options.Respells "g" "gug" := ⟨⟨_, rfl⟩, ⟨_, hparse⟩, hletters⟩
  have hevents : List.Forall₂ (Family.Event.Exchanged ⟨{}, "b*", "g"⟩ ⟨{}, "b*", "gug"⟩)
      (replacedUnder "g") (replacedUnder "gug") := .cons .there (.cons (.same _) .nil)
  have hreply : (Family.after (bundled starred) () (replacedUnder "g")).reply? 0
      (.replace ⟨2, "abb"⟩ "<$&>") = some (.written (.ok "<>a<bb>")) := rfl
  exact ⟨h, hparse, htyped _ _ _ _ hparse, hreply,
    ((hrespelled _ _ _ _ h).replies _ _ hevents 0 _).symm.trans hreply⟩

end PatternSession
