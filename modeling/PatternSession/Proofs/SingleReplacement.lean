import PatternSession.Proofs.Found
import PatternSession.Proofs.Starred

/-!
# The result of a match is its expansion

`Match.result` does not expand the match it is asked of. It binds the text again, compiles again
where it has to, substitutes within the bounds of the match, compares the span that the engine
reports, and cuts the patch out of the rebuilt range by the lengths of things.

**Theorem (`result_expands_match`).** For every match that a session reported at some time, it comes
out as the expansion of the template against the match itself, or as the error of the template. So
no occurrence is lost, no other one is found, and the bounds are never refused.

**Proof.** The match was found from the start of its bounds (`Operation.foundBy_answerOn`), so the
substitution finds it again and splices it alone (`substitute_first`). The rebuilt range is what
precedes the match, the expansion, and what follows; all lengths but that of the expansion cancel
(`cutPatch_eq`).
-/

namespace PatternSession

open Bundled

variable {m : Matcher} {p : m.Pattern}

/-! ## Cutting the patch -/

theorem decodeOutput_unitsOf (cs : List Char) : Session.decodeOutput (unitsOf cs) = .ok cs := by
  rw [Session.decodeOutput, decodeUnits?_unitsOf]

/-- What stands between two others is found by its place and its length. -/
theorem take_drop_unitsOf (before middle after : List Char) :
    ((unitsOf (before ++ (middle ++ after))).drop before.length).take middle.length =
      unitsOf middle := by
  rw [unitsOf_drop, List.drop_left, unitsOf_take, List.take_left]

/-- **The patch is the expansion.** -/
theorem cutPatch_eq {text : Text} {stop : Nat} {o : Occurrence}
    (hfit : GroupsFit o.pos stop o.groups) (hstop : stop ≤ text.chars.length)
    (expansion : Occurrence → List Char) :
    (matchOf text stop o).cutPatch
        (unitsOf (splice (text.chars.take stop) Occurrence.whole expansion o.pos [o])) =
      .ok (String.ofList (expansion o)) := by
  obtain ⟨hstart, horder, hend⟩ := hfit.bounds
  change o.whole.start ≤ o.whole.stop at horder
  change o.pos ≤ o.whole.start at hstart
  change o.whole.stop ≤ stop at hend
  let before := ((text.chars.take stop).drop o.pos).take (o.whole.start - o.pos)
  let after := (text.chars.take stop).drop o.whole.stop
  have hsplice : splice (text.chars.take stop) Occurrence.whole expansion o.pos [o] =
      before ++ (expansion o ++ after) := rfl
  have hbefore : before.length = o.whole.start - o.pos := by
    simp only [before, List.length_take, List.length_drop]
    omega
  have hafter : after.length = stop - o.whole.stop := by
    simp only [after, List.length_drop, List.length_take]
    omega
  have hlength : (unitsOf (before ++ (expansion o ++ after))).length =
      (o.whole.start - o.pos) + ((expansion o).length + (stop - o.whole.stop)) := by
    rw [length_unitsOf, List.length_append, List.length_append, hbefore, hafter]
  rw [hsplice, Match.cutPatch]
  by_cases hempty : unitsOf (before ++ (expansion o ++ after)) = []
  · rw [unitsOf_eq_nil_iff, List.append_eq_nil_iff, List.append_eq_nil_iff] at hempty
    rw [hempty.1, hempty.2.1, hempty.2.2]
    rfl
  · have hwidth : (matchOf text stop o).bounds = ⟨o.pos, stop⟩ := rfl
    have hpatch : (o.whole.stop - o.whole.start) +
        ((o.whole.start - o.pos) + ((expansion o).length + (stop - o.whole.stop))) -
          (stop - o.pos) = (expansion o).length := by omega
    rw [if_neg hempty]
    simp only [hwidth, hlength, index_matchOf hfit, length_matchOf hfit, hpatch]
    rw [if_neg (by omega), ← hbefore, take_drop_unitsOf, decodeOutput_unitsOf]
    rfl

/-! ## The substitution of one match -/

/-- What the engine says when the match of an occurrence is substituted. -/
theorem substituteOutcome_first (hm : m.Lawful) {cs : List Char} {stop : Nat} {o : Occurrence}
    (hpos : o.pos ≤ stop) (hstop : stop ≤ cs.length)
    (hlook : look m p cs stop o.pos = .ok (some o.groups)) (t : Template) :
    substituteOutcome m p cs ⟨o.pos, stop⟩ t false =
      { status := 1
        region :=
          { groups := o.groups
            output := unitsOf (splice (cs.take stop) Occurrence.whole
              (fun o => expansionIn cs t o.groups) o.pos [o]) } } := by
  have hfit : GroupsFit o.pos stop o.groups := look_fits hm hstop _ _ hpos hlook
  rw [substituteOutcome, substituteWithin, substitute_first hm hstop hpos hlook]
  simp only [groupsIn_spansOf hfit hstop]
  rfl

/-- The substitution finds the match again, and its patch is the expansion. -/
theorem readPatch_first {text : Text} {stop : Nat} {o : Occurrence}
    (hfit : GroupsFit o.pos stop o.groups) (hstop : stop ≤ text.chars.length)
    (expansion : Occurrence → List Char) :
    (Outcome.report
      { status := 1
        region :=
          { groups := o.groups
            output := unitsOf (splice (text.chars.take stop) Occurrence.whole expansion o.pos
              [o]) } }).readPatch (matchOf text stop o) =
      .ok (String.ofList (expansion o)) := by
  obtain ⟨w, rest, hgroups, -⟩ := hfit.whole
  obtain ⟨others, hcaptures⟩ := capturesOf_cons (some w) rest
  have hspan : (matchOf text stop o).span = ⟨w.start, w.stop - w.start⟩ := by
    rw [span_matchOf hfit, Occurrence.whole, hgroups]
    rfl
  have hseen := captures?_of_groupsFit hfit
    (unitsOf (splice (text.chars.take stop) Occurrence.whole expansion o.pos [o]))
  rw [hgroups, hcaptures] at hseen
  rw [← cutPatch_eq hfit hstop expansion]
  simp only [Report.readPatch, Outcome.report, Option.bind_some, hgroups, hseen, Option.map_some,
    hspan]
  rw [if_neg (by decide), if_neg (by decide), if_neg fun h => h rfl]

/-- A match that was found is answered with its expansion. -/
theorem answerOn_result (hm : m.Lawful) {found : Match} (hfound : found.FoundBy m p)
    (options template : String) :
    (Operation.result found template).answerOn m options p =
      .written
        (match Template.compile (m.groupNames p) template with
          | .error e => .error (.compile (cutMessage e.message))
          | .ok t =>
            .ok (String.ofList (t.expand fun i => (found.group? i).map String.toList))) := by
  obtain ⟨text, stop, o, rfl, hpos, hstop, hlook⟩ := hfound
  have hfit : GroupsFit o.pos stop o.groups := look_fits hm hstop _ _ hpos hlook
  have hbounds : Session.resolveBounds text.chars.length o.pos (some (stop - o.pos)) =
      .ok ⟨o.pos, stop⟩ := resolveBounds_some hpos hstop
  have hmode : decide ('g' ∈ (withoutGlobal options).toList) = false :=
    decide_eq_false (withoutGlobal_not_mem options)
  show Reply.written ((Request.answerOn m p ⟨text, o.pos, some (stop - o.pos),
    some (withoutGlobal options, template)⟩).bind fun r => r.2.readPatch (matchOf text stop o)) = _
  rw [Request.answerOn]
  simp only [hbounds, Except.map, Except.bind, Request.outcome]
  cases ht : Template.compile (m.groupNames p) template with
  | error e => rfl
  | ok t =>
    simp only [hmode, substituteOutcome_first hm hpos hstop hlook]
    rw [readPatch_first hfit hstop, expand_matchOf]

/-- A session that is sound and alive gives the expansion of a match that was found. -/
theorem Session.Sound.result_answer (hm : m.Lawful) {setup : Setup Limits}
    {s : Session Unit (Handle m)} {supply : Supply} (hs : s.Sound m setup p supply)
    (hd : s.disposed = false) {found : Match} (hfound : found.FoundBy m p) (template : String) :
    (found.result s supply template).answer =
      match Template.compile (m.groupNames p) template with
      | .error e => .error (.compile (cutMessage e.message))
      | .ok t => .ok (String.ofList (t.expand fun i => (found.group? i).map String.toList)) := by
  have hanswer := Operation.run_answer hs hd (.result found template)
  rw [answerOn_result hm hfound] at hanswer
  exact Reply.written.inj hanswer

/-! ## Matches obtained from a session -/

/-- What a session reported at some time was found with the pattern that it has now. -/
theorem Family.foundBy_of_obtained (hm : m.Lawful) {events : List (Family.Event Limits)}
    {place : Nat} {setup : Setup Limits} {s : Session Unit (Handle m)} {found : Match}
    (hobtained : Family.Obtained (bundled m) () events place found)
    (hmember : (Family.after (bundled m) () events).members[place]? = some (setup, s))
    (hp : CompilesTo m setup.config setup.pattern setup.options p) : found.FoundBy m p := by
  obtain ⟨before, op, later, setup₁, s₁, rfl, hbefore, hreply⟩ := hobtained
  obtain ⟨p₁, hs₁⟩ := Family.sound_after before _ (List.mem_of_getElem? hbefore)
  obtain ⟨s₂, hlater⟩ := Family.exists_member_run hbefore (.asked place op :: later)
  have hsame : setup₁ = setup := by
    rw [Family.after, Family.run_append] at hmember
    exact (Prod.mk.inj (Option.some.inj (hlater.symm.trans hmember))).1
  subst hsame
  obtain rfl := hp.unique hs₁.compiles
  cases hd : s₁.disposed with
  | true =>
    rw [Operation.match?_of_disposed hd] at hreply
    cases hreply
  | false =>
    rw [Operation.run_answer hs₁ hd] at hreply
    exact Operation.foundBy_answerOn hm hreply

/-! ## The theorem -/

/-- **The result of a match is the expansion of the template against it.** -/
theorem result_expands_match (m : Matcher) (hm : m.Lawful) (events : List (Family.Event Limits))
    {place : Nat} {setup : Setup Limits} {s : Session Unit (Handle m)}
    (hmember : (Family.after (bundled m) () events).members[place]? = some (setup, s))
    (hlive : s.disposed = false) {found : Match}
    (hobtained : Family.Obtained (bundled m) () events place found) (template : String) :
    ∃ p, CompilesTo m setup.config setup.pattern setup.options p ∧
      (found.result s (Family.after (bundled m) () events).supply template).answer =
        (match Template.compile (m.groupNames p) template with
          | .error e => .error (.compile (cutMessage e.message))
          | .ok t =>
            .ok (String.ofList (t.expand fun i => (found.group? i).map String.toList))) ∧
      found.bounds.start ≤ found.index ∧ found.bounds.start ≤ found.bounds.stop := by
  obtain ⟨p, hs⟩ := Family.sound_after events _ (List.mem_of_getElem? hmember)
  have hfound := Family.foundBy_of_obtained hm hobtained hmember hs.compiles
  refine ⟨p, hs.compiles, hs.result_answer hm hlive hfound template, ?_⟩
  obtain ⟨text, stop, o, rfl, hpos, hstop, hlook⟩ := hfound
  have hfit : GroupsFit o.pos stop o.groups := look_fits hm hstop _ _ hpos hlook
  rw [index_matchOf hfit]
  exact ⟨hfit.bounds.1, hpos⟩

/-- A step of an iteration, and then a replacement in another text. -/
def replacedSince : List (Family.Event Limits) :=
  [.opened ⟨{}, "b*", "g"⟩, .asked 0 (.nextItem ⟨⟨1, "abb"⟩, .within 1 3⟩),
    .asked 0 (.replace ⟨2, "bab"⟩ "x")]

/-- The match found first is still expanded as it was found. -/
theorem result_expands_match_found_before :
    ∃ s, (Family.after (bundled starred) () replacedSince).members[0]? =
          some (⟨{}, "b*", "g"⟩, s) ∧
      s.disposed = false ∧
      Family.Obtained (bundled starred) () replacedSince 0
        ⟨[⟨0, some ⟨1, 2⟩⟩], ⟨1, "abb"⟩, ⟨1, 3⟩⟩ ∧
      (Match.result ⟨[⟨0, some ⟨1, 2⟩⟩], ⟨1, "abb"⟩, ⟨1, 3⟩⟩ s
        (Family.after (bundled starred) () replacedSince).supply "<$&>").answer = .ok "<bb>" := by
  have hmember : (Family.after (bundled starred) () replacedSince).members[0]? =
      some (⟨{}, "b*", "g"⟩, _) := rfl
  have hobtained : Family.Obtained (bundled starred) () replacedSince 0
      ⟨[⟨0, some ⟨1, 2⟩⟩], ⟨1, "abb"⟩, ⟨1, 3⟩⟩ :=
    ⟨[.opened ⟨{}, "b*", "g"⟩], _, _, _, _, rfl, rfl, rfl⟩
  refine ⟨_, hmember, rfl, hobtained, ?_⟩
  obtain ⟨p, hp, hanswer, -⟩ :=
    result_expands_match starred starred_lawful replacedSince hmember rfl hobtained "<$&>"
  have hb : CompilesTo starred {} "b*" "g" 'b' := ⟨_, rfl⟩
  obtain rfl := hb.unique hp
  rw [hanswer]
  rfl

end PatternSession
