import PatternSession.Proofs.Bench
import PatternSession.Proofs.Iteration
import PatternSession.Proofs.Starred

/-!
# Global substitution agrees with iteration

A session with `g` replaces every occurrence in one engine call, and an iteration finds them one by
one, each with a call of its own. The two loops have nothing in common: one counts bytes, rebuilds
the text and passes over some empty occurrences; the other counts characters and passes over none.

**Theorem (`global_substitution_agrees`).** The replaced text is the text with the separated matches
of the iteration replaced, the status is their number, the groups exposed are those of the first,
and one fails exactly as the other does. The same holds of the engine itself, for every copy, handle
and range, with the chain of its matching calls in place of the iteration.

**Proof.** Both walk one chain: the iteration by `Matches.collect_drain`, the matching calls by
`matchChain_eq`, and the substitution by `substitute_global`.
-/

namespace PatternSession

open Bundled

variable {m : Matcher} {p : m.Pattern}

/-! ## What a global substitution says -/

/-- What is said of a text in which these occurrences are replaced from `pos` on. -/
def splicedOutcome (cs : List Char) (stop pos : Nat) (t : Template) (occs : List Occurrence) :
    Outcome where
  status := (min occs.length maxStatus : Nat)
  region :=
    match occs with
    | [] => {}
    | o :: rest =>
      { groups := o.groups
        output := unitsOf (splice (cs.take stop) Occurrence.whole
          (fun o => expansionIn cs t o.groups) pos (o :: rest)) }

section Outcomes

variable {cs : List Char} {pos stop : Nat} {occs : List Occurrence}

theorem substituteOutcome_of_failed (hm : m.Lawful) (hstop : stop ≤ cs.length) (hpos : pos ≤ stop)
    {e : String} (hchain : Chain (look m p cs stop) stop pos occs (some e)) (t : Template) :
    substituteOutcome m p cs ⟨pos, stop⟩ t true = .failed e := by
  rw [substituteOutcome, substituteWithin, substitute_global hm hstop hpos hchain]
  rfl

theorem substituteOutcome_of_ended (hm : m.Lawful) (hstop : stop ≤ cs.length) (hpos : pos ≤ stop)
    (hchain : Chain (look m p cs stop) stop pos occs none) (t : Template) :
    substituteOutcome m p cs ⟨pos, stop⟩ t true =
      splicedOutcome cs stop pos t (separated Occurrence.whole none occs) := by
  rw [substituteOutcome, substituteWithin, substitute_global hm hstop hpos hchain, orFailure]
  have hfit : ∀ o ∈ separated Occurrence.whole none occs, GroupsFit o.pos stop o.groups :=
    fun o ho => hchain.groupsFit (look_fits hm hstop) o (mem_of_mem_separated ho)
  cases hks : separated Occurrence.whole none occs with
  | nil => rfl
  | cons o rest =>
    rw [hks] at hfit
    simp only [groupsIn_spansOf (hfit o (List.mem_cons_self ..)) hstop]
    rfl

end Outcomes

/-- Reading the outcome back into the whole text. -/
theorem readReplaced_splicedOutcome {text : Text} {pos : Nat} {occs : List Occurrence}
    (h : Ordered text.chars.length pos occs) (t : Template) :
    (splicedOutcome text.chars text.chars.length pos t occs).report.readReplaced text
        ⟨pos, text.chars.length⟩ =
      .ok (String.ofList (splice text.chars Occurrence.whole
        (fun o => expansionIn text.chars t o.groups) 0 occs)) := by
  cases occs with
  | nil =>
    have htext : String.ofList (text.chars.drop 0) = text.content := String.ofList_toList
    rw [splice, htext]
    rfl
  | cons o rest =>
    have hpositive : ¬ ((min (o :: rest).length maxStatus : Nat) : Int) < 0 ∧
        ¬ ((min (o :: rest).length maxStatus : Nat) : Int) = 0 := by
      have : 0 < maxStatus := by decide
      rw [List.length_cons]
      omega
    have hafter : (dropBytes? text.chars (byteOffset text.chars text.chars.length)).getD [] =
        [] := by
      rw [byteOffset_eq, dropBytes?_bytePosition, Option.getD_some, List.drop_length]
    have hbefore : sliceChars text.chars 0 pos = (text.chars.drop 0).take (pos - 0) :=
      sliceChars_eq text.chars 0 pos
    rw [splice_eq_append h (Nat.zero_le pos), ← hbefore]
    simp only [Report.readReplaced, Outcome.report, splicedOutcome, if_neg hpositive.1,
      if_neg hpositive.2, Session.decodeOutput, decodeUnits?_unitsOf, Except.map, hafter,
      List.take_length, List.append_nil]

/-! ## Matches as occurrences -/

/-- Where the whole match lies. -/
def Match.whole (k : Match) : GroupBounds := ⟨k.index, k.stop⟩

/-- The expansion of a template against the match. -/
def Match.expansion (t : Template) (k : Match) : List Char :=
  t.expand fun i => (k.group? i).map String.toList

section Matches

variable {text : Text} {stop : Nat} {occs : List Occurrence}

theorem whole_matchOf {o : Occurrence} (h : GroupsFit o.pos stop o.groups) :
    (matchOf text stop o).whole = o.whole := by
  rw [Match.whole, index_matchOf h, stop_matchOf h]

theorem separated_matchOf (h : ∀ o ∈ occs, GroupsFit o.pos stop o.groups) :
    separated Match.whole none (occs.map (matchOf text stop)) =
      (separated Occurrence.whole none occs).map (matchOf text stop) :=
  separated_map _ none fun o ho => whole_matchOf (h o ho)

theorem splice_matchOf (h : ∀ o ∈ occs, GroupsFit o.pos stop o.groups) (t : Template) :
    splice text.chars Match.whole (Match.expansion t) 0 (occs.map (matchOf text stop)) =
      splice text.chars Occurrence.whole (fun o => expansionIn text.chars t o.groups) 0 occs :=
  splice_map _ 0 (fun o ho => whole_matchOf (h o ho)) fun _ _ => expand_matchOf t

end Matches

/-! ## In a session -/

/-- A replacement from `start` on agrees with the iteration from there. -/
structure AgreesInSession (s : Session Unit (Handle m)) (supply : Supply) (text : Text)
    (start : Nat) (template : String) (t : Template) : Prop where
  /-- The separated matches are replaced, or the error is that of the iteration. -/
  answer : (s.replaceFrom supply text template start).answer =
    (OneShot.collect ((Matches.startingAt text start).drain s supply).answer).map fun ms =>
      String.ofList (splice text.chars Match.whole (Match.expansion t) 0
        (separated Match.whole none ms))
  /-- Without matches the text is unchanged. -/
  unchanged : OneShot.collect ((Matches.startingAt text start).drain s supply).answer = .ok [] →
    (s.replaceFrom supply text template start).answer = .ok text.content
  /-- The engine call underneath says how many there are, and exposes the first. -/
  call : ∀ ms,
    OneShot.collect ((Matches.startingAt text start).drain s supply).answer = .ok ms →
    let called := (s.bind supply text start none).session.substituteCall s.options template
      ⟨start, text.chars.length⟩
    called.2.status = (min (separated Match.whole none ms).length maxStatus : Nat) ∧
      ∀ k rest, separated Match.whole none ms = k :: rest →
        called.1.captures? = some k.captures

section Session

variable {setup : Setup Limits} {s : Session Unit (Handle m)} {supply : Supply} {text : Text}
  {start : Nat} {template : String} {t : Template}

/-- The engine call of a replacement with `g` says what a global substitution says. -/
theorem substituteCall_outcome (hs : s.Sound m setup p supply) (hd : s.disposed = false)
    (hg : 'g' ∈ setup.options.toList)
    (ht : Template.compile (m.groupNames p) template = .ok t) (text : Text) (start : Nat)
    (bounds : Bounds) :
    let called := (s.bind supply text start none).session.substituteCall s.options template bounds
    let outcome := substituteOutcome m p text.chars bounds t true
    called.2.status = outcome.status ∧ called.1.captures? = outcome.region.captures? := by
  intro called outcome
  obtain ⟨h, hl⟩ := hs.live hd
  have hbound := hl.bind text start none
  have hcode : CompilesTo m setup.config (s.bind supply text start none).session.pattern s.options
      p := by
    show CompilesTo m setup.config s.pattern s.options p
    rw [hs.pattern_eq, hs.options_eq]
    exact hs.compiles
  have hchars : (s.bind supply text start none).session.buffer.chars = text.chars :=
    s.buffer.chars_ensure supply text
  have hmode : decide ('g' ∈ s.options.toList) = true := by
    rw [hs.options_eq]
    exact decide_eq_true hg
  have hreport := (hbound.substituteCall hs.engine_eq hcode template bounds).1
  simp only [substitutionOutcome, ht, hchars, hmode] at hreport
  refine ⟨congrArg Report.status hreport, ?_⟩
  have hregion : called.1.region? = some outcome.region :=
    (Session.region?_eq rfl).trans (congrArg Report.region hreport)
  rw [Session.captures?_eq, hregion]
  rfl

theorem replaceFrom_answer (hs : s.Sound m setup p supply) (hd : s.disposed = false)
    (hg : 'g' ∈ setup.options.toList)
    (ht : Template.compile (m.groupNames p) template = .ok t) (hstart : start ≤ text.chars.length) :
    (s.replaceFrom supply text template start).answer =
      (substituteOutcome m p text.chars ⟨start, text.chars.length⟩ t true).report.readReplaced text
        ⟨start, text.chars.length⟩ := by
  have hmode : decide ('g' ∈ setup.options.toList) = true := decide_eq_true hg
  rw [hs.replaceFrom_answer hd hstart, substitutionOutcome]
  simp only [ht, hmode]

/-- Where the chain fails, both fail as it does. -/
theorem agreesInSession_of_failed (hm : m.Lawful) (hs : s.Sound m setup p supply)
    (hd : s.disposed = false) (hg : 'g' ∈ setup.options.toList)
    (ht : Template.compile (m.groupNames p) template = .ok t) (hstart : start ≤ text.chars.length)
    {occs : List Occurrence} {e : String}
    (hchain : Chain (look m p text.chars text.chars.length) text.chars.length start occs (some e)) :
    AgreesInSession s supply text start template t := by
  have herror : OneShot.collect ((Matches.startingAt text start).drain s supply).answer =
      .error (.compile (cutMessage e)) := Matches.collect_drain hm hs hd hstart hchain
  constructor
  · rw [replaceFrom_answer hs hd hg ht hstart,
      substituteOutcome_of_failed hm (Nat.le_refl _) hstart hchain t, herror]
    rfl
  · intro h
    rw [herror] at h
    cases h
  · intro ms h
    rw [herror] at h
    cases h

/-- Where it ends, the substitution has replaced the separated ones of its occurrences. -/
theorem agreesInSession_of_ended (hm : m.Lawful) (hs : s.Sound m setup p supply)
    (hd : s.disposed = false) (hg : 'g' ∈ setup.options.toList)
    (ht : Template.compile (m.groupNames p) template = .ok t) (hstart : start ≤ text.chars.length)
    {occs : List Occurrence}
    (hchain : Chain (look m p text.chars text.chars.length) text.chars.length start occs none) :
    AgreesInSession s supply text start template t := by
  have hfits := look_fits (p := p) hm (Nat.le_refl text.chars.length)
  have hreplace := replaceFrom_answer hs hd hg ht hstart
  have hout := substituteOutcome_of_ended hm (Nat.le_refl _) hstart hchain t
  have hfit := hchain.groupsFit hfits
  have hfit' : ∀ o ∈ separated Occurrence.whole none occs,
      GroupsFit o.pos text.chars.length o.groups := fun o ho => hfit o (mem_of_mem_separated ho)
  have hordered := (hchain.ordered hfits (Nat.le_refl start) hstart).separated none
  have hmatches : OneShot.collect ((Matches.startingAt text start).drain s supply).answer =
      .ok (occs.map (matchOf text text.chars.length)) :=
    Matches.collect_drain hm hs hd hstart hchain
  constructor
  · rw [hreplace, hout, readReplaced_splicedOutcome hordered, hmatches, Except.map,
      separated_matchOf hfit, splice_matchOf hfit']
  · intro h
    rw [hmatches, Except.ok.injEq, List.map_eq_nil_iff] at h
    rw [hreplace, hout, h]
    rfl
  · intro ms h
    obtain rfl := Except.ok.inj (hmatches.symm.trans h)
    obtain ⟨hstatus, hcaptures⟩ := substituteCall_outcome hs hd hg ht text start
      ⟨start, text.chars.length⟩
    rw [hout] at hstatus hcaptures
    rw [separated_matchOf hfit]
    constructor
    · rw [List.length_map]
      exact hstatus
    · intro k rest hks
      cases hocc : separated Occurrence.whole none occs with
      | nil =>
        rw [hocc] at hks
        cases hks
      | cons o others =>
        rw [hocc] at hks hcaptures hfit'
        obtain ⟨rfl, -⟩ := List.cons.inj hks
        have hfirst := hfit' o (List.mem_cons_self ..)
        exact hcaptures.trans (captures?_of_groupsFit hfirst _)

theorem agreesInSession (hm : m.Lawful) (hs : s.Sound m setup p supply) (hd : s.disposed = false)
    (hg : 'g' ∈ setup.options.toList)
    (ht : Template.compile (m.groupNames p) template = .ok t) (hstart : start ≤ text.chars.length) :
    AgreesInSession s supply text start template t := by
  have hfits := look_fits (p := p) hm (Nat.le_refl text.chars.length)
  obtain ⟨occs, failure, hchain⟩ := hfits.exists_chain start
  cases failure with
  | some e => exact agreesInSession_of_failed hm hs hd hg ht hstart hchain
  | none => exact agreesInSession_of_ended hm hs hd hg ht hstart hchain

end Session

/-! ## On the engine -/

/-- A substituting call on a handle agrees with the chain of matching calls on it. -/
structure AgreesOnEngine (limits : Limits) (b : TextBuffer) (bounds : Bounds) (h : Handle m)
    (t : Template) (a : Answer (Handle m)) : Prop where
  /-- It fails as the chain does. -/
  failed : ∀ message,
    (matchChain limits b bounds.stop (bounds.stop - bounds.start + 1) bounds.start (some h)).2 =
      some message → a.status = -1 ∧ a.message = some message
  /-- Else its status is the number of separated matches. -/
  status : ∀ found,
    matchChain limits b bounds.stop (bounds.stop - bounds.start + 1) bounds.start (some h) =
      (found, none) → a.status = (min (separated wholeOf none found).length maxStatus : Nat)
  /-- The handle exposes the groups of the first, and the range with all of them replaced. -/
  exposed : ∀ found,
    matchChain limits b bounds.stop (bounds.stop - bounds.start + 1) bounds.start (some h) =
      (found, none) →
    ∀ k rest, separated wholeOf none found = k :: rest →
      ∃ left, a.handle = some left ∧ left.region.groups = k ∧
        left.region.output = unitsOf (splice (b.chars.take bounds.stop) wholeOf
          (expansionIn b.chars t) bounds.start (k :: rest))

section Engine

variable {limits : Limits} {b : TextBuffer} {bounds : Bounds} {h : Handle m} {t : Template}
  {a : Answer (Handle m)} {occs : List Occurrence}

/-- Where the chain of calls fails, the substitution fails as it does. -/
theorem agreesOnEngine_of_failed {e : String} {left : Handle m}
    (hcalls :
      matchChain limits b bounds.stop (bounds.stop - bounds.start + 1) bounds.start (some h) =
        (occs.map (·.groups), some (cutMessage e)))
    (hanswer : a = (Outcome.failed e).answer left) : AgreesOnEngine limits b bounds h t a := by
  constructor
  · intro message hmessage
    rw [hcalls] at hmessage
    obtain rfl := Option.some.inj hmessage
    rw [hanswer]
    exact ⟨rfl, rfl⟩
  · intro found hfound
    rw [hcalls] at hfound
    cases (Prod.mk.inj hfound).2
  · intro found hfound
    rw [hcalls] at hfound
    cases (Prod.mk.inj hfound).2

/-- Where it ends, its separated matches have been replaced. -/
theorem agreesOnEngine_of_ended {left : Handle m}
    (hcalls :
      matchChain limits b bounds.stop (bounds.stop - bounds.start + 1) bounds.start (some h) =
        (occs.map (·.groups), none))
    (hanswer : a = (splicedOutcome b.chars bounds.stop bounds.start t
      (separated Occurrence.whole none occs)).answer left) :
    AgreesOnEngine limits b bounds h t a := by
  have hseparated : separated wholeOf none (occs.map (·.groups)) =
      (separated Occurrence.whole none occs).map (·.groups) :=
    separated_map _ none fun _ _ => rfl
  constructor
  · intro message hmessage
    rw [hcalls] at hmessage
    cases hmessage
  · intro found hfound
    rw [hcalls] at hfound
    obtain ⟨rfl, -⟩ := Prod.mk.inj hfound
    rw [hseparated, List.length_map, hanswer]
    rfl
  · intro found hfound k rest hk
    rw [hcalls] at hfound
    obtain ⟨rfl, -⟩ := Prod.mk.inj hfound
    rw [hseparated] at hk
    rw [hanswer, ← hk, splice_map (fun o : Occurrence => o.groups) bounds.start
      (fun _ _ => rfl) fun _ _ => rfl]
    cases hocc : separated Occurrence.whole none occs with
    | nil =>
      rw [hocc] at hk
      cases hk
    | cons o others =>
      rw [hocc] at hk
      obtain ⟨rfl, -⟩ := List.cons.inj hk
      exact ⟨_, rfl, rfl, rfl⟩

end Engine

theorem agreesOnEngine (hm : m.Lawful) {B : Bench m} (hB : B.Sound) {slot buffer : Nat}
    {limits : Limits} {pattern code template : Option String} {h h' : Handle m} {t : Template}
    (hresolve : resolve limits pattern code (B.slots slot) = .ok h)
    (hg : h.options.global = true) (htemplate : withTemplate template h = .ok (t, h'))
    {bounds : Bounds} (hle : bounds.start ≤ bounds.stop)
    (hstop : bounds.stop ≤ (B.buffers buffer).length) :
    AgreesOnEngine limits (B.buffers buffer) bounds h t
      (compileAndSubstitute limits
        ⟨pattern, template, code, (B.buffers buffer).range bounds⟩ (B.slots slot)) := by
  obtain ⟨ledger, hbuffers, hslots⟩ := hB
  have hb := hbuffers buffer
  have hh := (resolve_keeps hresolve).booked (hslots slot)
  rw [hb.length_eq] at hstop
  have hfits := look_fits (p := h.pattern) hm hstop
  obtain ⟨occs, failure, hchain⟩ := hfits.exists_chain bounds.start
  have hcalls := matchChain_eq hm hb hstop hchain limits hh rfl
    (Nat.le_of_eq (Nat.sub_add_comm hle))
  have hanswer : compileAndSubstitute limits
      ⟨pattern, template, code, (B.buffers buffer).range bounds⟩ (B.slots slot) = _ :=
    compileAndSubstitute_eq hresolve htemplate (hb.fits hh bounds)
  rw [hg] at hanswer
  cases failure with
  | some e =>
    have hout := substituteOutcome_of_failed hm hstop hle hchain t
    exact agreesOnEngine_of_failed hcalls (hanswer.trans (congrArg (Outcome.answer · _) hout))
  | none =>
    have hout := substituteOutcome_of_ended hm hstop hle hchain t
    exact agreesOnEngine_of_ended hcalls (hanswer.trans (congrArg (Outcome.answer · _) hout))

/-! ## The theorem -/

/-- **Global substitution agrees with iteration,** in every live session with `g`, and on the engine
itself. -/
theorem global_substitution_agrees (m : Matcher) (hm : m.Lawful) :
    (∀ (events : List (Family.Event Limits)) (place : Nat) (setup : Setup Limits)
        (s : Session Unit (Handle m)),
      (Family.after (bundled m) () events).members[place]? = some (setup, s) →
      s.disposed = false → 'g' ∈ setup.options.toList →
      ∃ p, CompilesTo m setup.config setup.pattern setup.options p ∧
        ∀ (text : Text) (start : Nat) (template : String) (t : Template),
          start ≤ text.chars.length → Template.compile (m.groupNames p) template = .ok t →
          AgreesInSession s (Family.after (bundled m) () events).supply text start template t) ∧
    ∀ (events : List Bench.Event) (slot buffer : Nat) (limits : Limits)
        (pattern code template : Option String) (h h' : Handle m) (t : Template) (bounds : Bounds),
      resolve limits pattern code ((Bench.after m events).slots slot) = .ok h →
      h.options.global = true → withTemplate template h = .ok (t, h') →
      bounds.start ≤ bounds.stop → bounds.stop ≤ ((Bench.after m events).buffers buffer).length →
      AgreesOnEngine limits ((Bench.after m events).buffers buffer) bounds h t
        (compileAndSubstitute limits
          ⟨pattern, template, code, ((Bench.after m events).buffers buffer).range bounds⟩
          ((Bench.after m events).slots slot)) := by
  constructor
  · intro events place setup s hmember hlive hg
    obtain ⟨p, hs⟩ := Family.sound_after events _ (List.mem_of_getElem? hmember)
    refine ⟨p, hs.compiles, ?_⟩
    intro text start template t hstart ht
    exact agreesInSession hm hs hlive hg ht hstart
  · intro events slot buffer limits pattern code template h h' t bounds hresolve hg htemplate hle
      hstop
    exact agreesOnEngine hm (Bench.sound_after events) hresolve hg htemplate hle hstop

/-- A session that has searched another text. -/
def searchedElsewhere : List (Family.Event Limits) :=
  [.opened ⟨{}, "b*", "g"⟩, .asked 0 (.find ⟨1, "abb"⟩)]

/-- A handle with `g`, and a copy that it has not seen. -/
def compiledOnly : List Bench.Event :=
  [.matched 0 0 {} (some "b*") (some "g") ⟨0, 0⟩ true, .filled 0 ⟨1, "abab"⟩]

/-- The template `<$&>`, compiled. -/
def bracketed : Template := ⟨[.literal ['<'], .group 0, .literal ['>']]⟩

/-- From the second character on, `aébb` has an empty match, the run `bb`, and an empty match right
after it, which is not replaced. -/
theorem global_substitution_agrees_on_touching_matches :
    (∃ s, (Family.after (bundled starred) () searchedElsewhere).members[0]? =
          some (⟨{}, "b*", "g"⟩, s) ∧
      s.disposed = false ∧
      AgreesInSession s (Family.after (bundled starred) () searchedElsewhere).supply ⟨2, "aébb"⟩ 1
        "<$&>" bracketed ∧
      (s.replaceFrom (Family.after (bundled starred) () searchedElsewhere).supply ⟨2, "aébb"⟩
        "<$&>" 1).answer = .ok "a<>é<bb>") ∧
    ∃ h h', resolve {} none none ((Bench.after starred compiledOnly).slots 0) = .ok h ∧
      h.options.global = true ∧
      withTemplate (some "<$&>") h = .ok (bracketed, h') ∧
      AgreesOnEngine {} ((Bench.after starred compiledOnly).buffers 0) ⟨1, 3⟩ h bracketed
        (compileAndSubstitute {}
          ⟨none, some "<$&>", none, ((Bench.after starred compiledOnly).buffers 0).range ⟨1, 3⟩⟩
          ((Bench.after starred compiledOnly).slots 0)) := by
  obtain ⟨hsession, hengine⟩ := global_substitution_agrees starred starred_lawful
  constructor
  · have hmember : (Family.after (bundled starred) () searchedElsewhere).members[0]? =
        some (⟨{}, "b*", "g"⟩, _) := rfl
    obtain ⟨p, hp, hagrees⟩ := hsession searchedElsewhere 0 _ _ hmember rfl (by decide)
    have hb : CompilesTo starred {} "b*" "g" 'b' := ⟨_, rfl⟩
    obtain rfl := hb.unique hp
    have hall := hagrees ⟨2, "aébb"⟩ 1 "<$&>" bracketed (by decide) rfl
    refine ⟨_, hmember, rfl, hall, ?_⟩
    rw [hall.answer]
    rfl
  · have hagrees := hengine compiledOnly 0 0 {} none none (some "<$&>") _ _ bracketed ⟨1, 3⟩ rfl rfl
      rfl (by decide) (by decide)
    exact ⟨_, _, rfl, rfl, rfl, hagrees⟩

end PatternSession
