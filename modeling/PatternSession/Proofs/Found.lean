import PatternSession.Proofs.Soundness
import PatternSession.Proofs.Sweep

/-!
# Matches and the searches that found them

A match that a sound session reports is `matchOf` an occurrence: the occurrence that a search found,
the text and the end of the bounds. So its spans, its groups and the place where the search goes on
can be read from the occurrence.

**Theorem (`Operation.foundBy_answerOn`).** Every match in an answer was found by a search from the
start of its bounds, and the bounds lie inside the text.

**Theorem (`Request.answerOn_search`).** The other way round, a search is answered with what `look`
finds (`searchAnswer`).
-/

namespace PatternSession

variable {m : Matcher} {p : m.Pattern}

/-! ## Matches of occurrences -/

theorem capturesOf_cons (g : Option GroupBounds) (rest : List (Option GroupBounds)) :
    ∃ others, capturesOf (g :: rest) =
      ⟨0, g.map fun b => ⟨b.start, b.stop - b.start⟩⟩ :: others := by
  rw [capturesOf, List.mapIdx_cons]
  exact ⟨_, rfl⟩

/-- The match of an occurrence in a text that was searched up to `stop`. -/
def matchOf (text : Text) (stop : Nat) (o : Occurrence) : Match :=
  ⟨capturesOf o.groups, text, ⟨o.pos, stop⟩⟩

section MatchOf

variable {text : Text} {stop : Nat} {o : Occurrence}

theorem span_matchOf (h : GroupsFit o.pos stop o.groups) :
    (matchOf text stop o).span = ⟨o.whole.start, o.whole.stop - o.whole.start⟩ := by
  obtain ⟨w, rest, hgroups, -⟩ := h.whole
  obtain ⟨others, hcaptures⟩ := capturesOf_cons (some w) rest
  rw [Match.span, matchOf, Occurrence.whole, hgroups, hcaptures]
  rfl

theorem index_matchOf (h : GroupsFit o.pos stop o.groups) :
    (matchOf text stop o).index = o.whole.start := by
  rw [Match.index, span_matchOf h]

theorem length_matchOf (h : GroupsFit o.pos stop o.groups) :
    (matchOf text stop o).length = o.whole.stop - o.whole.start := by
  rw [Match.length, span_matchOf h]

theorem stop_matchOf (h : GroupsFit o.pos stop o.groups) :
    (matchOf text stop o).stop = o.whole.stop := by
  obtain ⟨-, horder, -⟩ := h.bounds
  rw [Match.stop, span_matchOf h]
  exact Nat.add_sub_cancel' horder

theorem resumeAt_matchOf (h : GroupsFit o.pos stop o.groups) :
    (matchOf text stop o).resumeAt = o.whole.resume := by
  rw [Match.resumeAt, index_matchOf h, length_matchOf h]
  rfl

/-- The groups of the match are those of the occurrence. -/
theorem group?_matchOf (i : Nat) :
    ((matchOf text stop o).group? i).map String.toList = groupIn text.chars o.groups i := by
  rw [Match.group?, matchOf, capturesOf, groupIn, List.getElem?_mapIdx]
  rcases o.groups[i]? with _ | (_ | b)
  · rfl
  · rfl
  · simp [Match.slice, sliceChars_eq]

/-- Expanding a template against the match. -/
theorem expand_matchOf (t : Template) :
    t.expand (fun i => ((matchOf text stop o).group? i).map String.toList) =
      expansionIn text.chars t o.groups :=
  congrArg t.expand (funext group?_matchOf)

end MatchOf

/-- The groups of a match are reported as a match when the whole one is among them. -/
theorem captures?_of_groupsFit {pos stop : Nat} {groups : List (Option GroupBounds)}
    (h : GroupsFit pos stop groups) (output : List CodeUnit) :
    (Region.mk groups output).captures? = some (capturesOf groups) := by
  obtain ⟨w, rest, rfl, -⟩ := h.whole
  rfl

/-! ## Searches -/

/-- Resolved bounds begin at the start asked for and lie inside the text. -/
theorem resolveBounds_eq_ok {limit start : Nat} {len : Option Nat} {bounds : Bounds}
    (h : Session.resolveBounds limit start len = .ok bounds) :
    bounds.start = start ∧ bounds.start ≤ bounds.stop ∧ bounds.stop ≤ limit := by
  unfold Session.resolveBounds at h
  split at h
  · cases h
  · dsimp only at h
    split at h
    next hle =>
      obtain rfl := Except.ok.inj h
      exact ⟨rfl, Nat.le_add_right _ _, hle⟩
    · cases h

/-- Bounds inside the text are resolved to themselves. -/
theorem resolveBounds_some {limit start stop : Nat} (hle : start ≤ stop) (hstop : stop ≤ limit) :
    Session.resolveBounds limit start (some (stop - start)) = .ok ⟨start, stop⟩ := by
  unfold Session.resolveBounds
  rw [if_neg (Nat.not_lt.2 (Nat.le_trans hle hstop))]
  simp only [Option.getD_some, Nat.add_sub_cancel' hle, if_pos hstop]

theorem resolveBounds_none {limit start : Nat} (h : start ≤ limit) :
    Session.resolveBounds limit start none = .ok ⟨start, limit⟩ := by
  unfold Session.resolveBounds
  rw [if_neg (Nat.not_lt.2 h)]
  simp only [Option.getD_none, Nat.add_sub_cancel' h, Nat.le_refl, if_true]

/-- What a search within bounds is answered. -/
def searchAnswer (m : Matcher) (p : m.Pattern) (text : Text) (bounds : Bounds) :
    Except Error (Option Match) :=
  match look m p text.chars bounds.stop bounds.start with
  | .error e => .error (.compile (cutMessage e))
  | .ok found => .ok (found.map fun groups => matchOf text bounds.stop ⟨bounds.start, groups⟩)

section SearchAnswer

variable {text : Text} {bounds : Bounds}

theorem searchAnswer_eq_some {found : Match}
    (h : searchAnswer m p text bounds = .ok (some found)) :
    ∃ groups, look m p text.chars bounds.stop bounds.start = .ok (some groups) ∧
      found = matchOf text bounds.stop ⟨bounds.start, groups⟩ := by
  unfold searchAnswer at h
  rcases hlook : look m p text.chars bounds.stop bounds.start with e | (_ | groups)
  · rw [hlook] at h
    cases h
  · rw [hlook] at h
    cases h
  · rw [hlook] at h
    exact ⟨groups, rfl, (Option.some.inj (Except.ok.inj h)).symm⟩

theorem searchAnswer_eq_none (h : searchAnswer m p text bounds = .ok none) :
    look m p text.chars bounds.stop bounds.start = .ok none := by
  unfold searchAnswer at h
  rcases hlook : look m p text.chars bounds.stop bounds.start with e | (_ | groups)
  · rw [hlook] at h
    cases h
  · rfl
  · rw [hlook] at h
    cases h

theorem searchAnswer_eq_error {e : Error} (h : searchAnswer m p text bounds = .error e) :
    ∃ message, look m p text.chars bounds.stop bounds.start = .error message ∧
      e = .compile (cutMessage message) := by
  unfold searchAnswer at h
  rcases hlook : look m p text.chars bounds.stop bounds.start with message | (_ | groups)
  · rw [hlook] at h
    exact ⟨message, rfl, (Except.error.inj h).symm⟩
  · rw [hlook] at h
    cases h
  · rw [hlook] at h
    cases h

end SearchAnswer

/-- What is found is read back as a match, when it fits the bounds. -/
theorem readMatch_searchOutcome_of_fits {text : Text} {bounds : Bounds}
    (hfit : ∀ groups, look m p text.chars bounds.stop bounds.start = .ok (some groups) →
      GroupsFit bounds.start bounds.stop groups) :
    (searchOutcome m p text.chars bounds).report.readMatch text bounds =
      searchAnswer m p text bounds := by
  unfold searchOutcome searchAnswer
  rcases hlook : look m p text.chars bounds.stop bounds.start with e | (_ | groups)
  · rfl
  · rfl
  · simp only [Outcome.report, Report.readMatch, Option.bind_some,
      captures?_of_groupsFit (hfit groups hlook)]
    rfl

theorem readMatch_searchOutcome (hm : m.Lawful) {text : Text} {bounds : Bounds}
    (hle : bounds.start ≤ bounds.stop) (hstop : bounds.stop ≤ text.chars.length) :
    (searchOutcome m p text.chars bounds).report.readMatch text bounds =
      searchAnswer m p text bounds :=
  readMatch_searchOutcome_of_fits fun groups => look_fits hm hstop bounds.start groups hle

/-- **A search is answered with what is found within its bounds.** -/
theorem Request.answerOn_search (hm : m.Lawful) {r : Request} (hr : r.substitution = none) :
    ((r.answerOn m p).bind fun found => found.2.readMatch r.text found.1) =
      (Session.resolveBounds r.text.chars.length r.start r.len).bind
        (searchAnswer m p r.text) := by
  unfold answerOn
  cases hbounds : Session.resolveBounds r.text.chars.length r.start r.len with
  | error e => rfl
  | ok bounds =>
    obtain ⟨-, hle, hstop⟩ := resolveBounds_eq_ok hbounds
    simp only [Except.map, Except.bind, outcome, hr]
    exact readMatch_searchOutcome hm hle hstop

/-! ## The operations of a sound session -/

section Sound

variable {setup : Setup Limits} {s : Session Unit (Bundled.Handle m)} {supply : Supply}

/-- A search is answered with what is found within its bounds, once they are resolved. -/
theorem Session.Sound.search_answer (hm : m.Lawful) (hs : s.Sound m setup p supply)
    (hd : s.disposed = false) (text : Text) (start : Nat) (len : Option Nat) :
    (s.search supply text start len).answer =
      (Session.resolveBounds text.chars.length start len).bind (searchAnswer m p text) := by
  have hr : (Request.mk text start len none).Usual setup.options := by
    intro code template h
    cases h
  have hattempt := (Request.attempt_sound hs hr hd).1
  rw [Session.search_eq, Turn.map, hattempt]
  exact Request.answerOn_search hm rfl

/-- A search from a character of the text on is not rejected. -/
theorem Session.Sound.findAt_answer (hm : m.Lawful) (hs : s.Sound m setup p supply)
    (hd : s.disposed = false) {text : Text} {start : Nat} (hstart : start ≤ text.chars.length) :
    (s.findAt supply text start).answer =
      searchAnswer m p text ⟨start, text.chars.length⟩ := by
  rw [Session.findAt, hs.search_answer hm hd, resolveBounds_none hstart]
  rfl

/-- Going on after a match is searching the rest of its bounds, if there is a rest. -/
theorem Session.Sound.next_answer (hm : m.Lawful) (hs : s.Sound m setup p supply)
    (hd : s.disposed = false) {found : Match}
    (hstop : found.bounds.stop ≤ found.text.chars.length) :
    (found.next s supply).answer =
      if found.bounds.stop < found.resumeAt then .ok none
      else searchAnswer m p found.text ⟨found.resumeAt, found.bounds.stop⟩ := by
  rw [Match.next]
  by_cases hpast : found.bounds.stop < found.resumeAt
  · rw [if_pos hpast, if_pos hpast]
  · rw [if_neg hpast, if_neg hpast, hs.search_answer hm hd,
      resolveBounds_some (Nat.not_lt.1 hpast) hstop]
    rfl

/-- A replacement is answered with what the substitution says, read back into the text. -/
theorem Session.Sound.replaceFrom_answer (hs : s.Sound m setup p supply)
    (hd : s.disposed = false) {text : Text} {start : Nat} (hstart : start ≤ text.chars.length)
    (template : String) :
    (s.replaceFrom supply text template start).answer =
      (substitutionOutcome m p text.chars ⟨start, text.chars.length⟩ setup.options
        template).report.readReplaced text ⟨start, text.chars.length⟩ := by
  have hrun := Operation.run_answer hs hd (.replaceFrom text template start)
  refine (Reply.written.inj hrun).trans ?_
  simp only [Request.answerOn, resolveBounds_none hstart, Except.map, Except.bind, Request.outcome]
  rfl

end Sound

/-! ## Matches in answers -/

/-- The match was found by a search from the start of its bounds, which lie inside the text. -/
def Match.FoundBy (m : Matcher) (p : m.Pattern) (found : Match) : Prop :=
  ∃ text stop o, found = matchOf text stop o ∧ o.pos ≤ stop ∧ stop ≤ text.chars.length ∧
    look m p text.chars stop o.pos = .ok (some o.groups)

theorem foundBy_of_searchAnswer {text : Text} {bounds : Bounds} {found : Match}
    (hle : bounds.start ≤ bounds.stop) (hstop : bounds.stop ≤ text.chars.length)
    (h : searchAnswer m p text bounds = .ok (some found)) : found.FoundBy m p := by
  obtain ⟨groups, hlook, rfl⟩ := searchAnswer_eq_some h
  exact ⟨text, bounds.stop, ⟨bounds.start, groups⟩, rfl, hle, hstop, hlook⟩

theorem Reply.match?_found_eq_some {answer : Except Error (Option Match)} {found : Match}
    (h : (Reply.found answer).match? = some found) : answer = .ok (some found) := by
  cases answer with
  | error e => cases h
  | ok answer => exact congrArg Except.ok h

namespace Operation

/-- A step of an iteration searches the text it iterates over. -/
theorem request_nextItem {it : Matches} {options : String} {r : Request}
    (h : (nextItem it).request options = some r) : r.substitution = none ∧ r.text = it.text := by
  obtain ⟨text, cursor⟩ := it
  cases cursor with
  | start start =>
    obtain rfl := Option.some.inj h
    exact ⟨rfl, rfl⟩
  | within pos stop =>
    obtain rfl := Option.some.inj h
    exact ⟨rfl, rfl⟩
  | done => cases h

/-- A reply with a match is that of a search whose outcome was read so. -/
theorem read_of_match? {op : Operation} {options : String} {r : Request} {found : Match}
    {outcome : Except Error (Bounds × Report)} (hr : op.request options = some r)
    (h : (op.read outcome).match? = some found) :
    r.substitution = none ∧
      (outcome.bind fun o => o.2.readMatch r.text o.1) = .ok (some found) := by
  cases op with
  | find text =>
    obtain rfl := Option.some.inj hr
    exact ⟨rfl, Reply.match?_found_eq_some h⟩
  | findAt text start =>
    obtain rfl := Option.some.inj hr
    exact ⟨rfl, Reply.match?_found_eq_some h⟩
  | findIn text start len =>
    obtain rfl := Option.some.inj hr
    exact ⟨rfl, Reply.match?_found_eq_some h⟩
  | nextMatch before =>
    simp only [request] at hr
    split at hr
    · cases hr
    · obtain rfl := Option.some.inj hr
      exact ⟨rfl, Reply.match?_found_eq_some h⟩
  | nextItem it =>
    obtain ⟨hsearch, htext⟩ := request_nextItem hr
    rw [htext]
    simp only [read] at h
    refine ⟨hsearch, ?_⟩
    -- an item that is an error is not a match
    rcases hout : outcome.bind fun o => o.2.readMatch it.text o.1 with e | (_ | answer)
    · rw [hout] at h
      cases h
    · rw [hout] at h
      cases h
    · rw [hout] at h
      exact congrArg (Except.ok ∘ some) (Option.some.inj h)
  | _ => cases h

theorem match?_idle (op : Operation) : op.idle.match? = none := by
  cases op <;> rfl

/-- **Every match in an answer was found within its bounds.** -/
theorem foundBy_answerOn (hm : m.Lawful) {op : Operation} {options : String} {found : Match}
    (h : (op.answerOn m options p).match? = some found) : found.FoundBy m p := by
  unfold answerOn at h
  cases hr : op.request options with
  | none =>
    rw [hr] at h
    exact absurd (op.match?_idle.symm.trans h) (by simp)
  | some r =>
    rw [hr] at h
    obtain ⟨hsearch, hread⟩ := read_of_match? hr h
    rw [Request.answerOn_search hm hsearch] at hread
    cases hbounds : Session.resolveBounds r.text.chars.length r.start r.len with
    | error e =>
      rw [hbounds] at hread
      cases hread
    | ok bounds =>
      obtain ⟨-, hle, hstop⟩ := resolveBounds_eq_ok hbounds
      rw [hbounds] at hread
      exact foundBy_of_searchAnswer hle hstop hread

/-- A disposed session reports no match. -/
theorem match?_of_disposed {S H : Type} {s : Session S H} (hd : s.disposed = true) (op : Operation)
    (supply : Supply) : (op.run s supply).answer.match? = none := by
  rcases op.run_cases s supply with rfl | ⟨r, hr, hrun⟩ | ⟨-, -, hrun⟩
  · rfl
  · rw [hrun, Turn.map, Request.attempt_of_disposed hd]
    cases hfound : (op.read (.error .disposed)).match? with
    | none => rfl
    | some found =>
      obtain ⟨-, hread⟩ := read_of_match? hr hfound
      cases hread
  · rw [hrun]
    exact op.match?_idle

end Operation

end PatternSession
