import PatternSession.Proofs.Found
import PatternSession.Proofs.Showing
import PatternSession.Proofs.Starred

/-!
# Ranges outside the text

Bounds are checked after the text is bound and before the engine is called. So an operation that is
rejected for its range has changed the session already, if only its copy.

**Theorem (`range_checks_are_exact`).** On every engine, in a live session: a bounded search comes
to the engine exactly when its range lies in the text, an open one exactly when its start does. All
others are rejected, the start being blamed before the length, and leave everything but the copy
(`Session.Rejects`). What was handed out by a session earlier, in whatever session it is used, is
never rejected: the next match, the result of a match, the next step of a sequence.

On the bundled engine a rejected operation goes unnoticed. From then on every operation on any
session, after whatever else is done, has the reply that it would have without it.

**Proof.** The first part is one attempt of a request, over the three ways in which bounds are
resolved. The second: the bounds kept in a match were resolved in its text (`Match.Placed`), and so
were those of a sequence that has begun (`Matches.Begun`). For the last part, the replies of sound
sessions are determined by what these were opened with and which of them are disposed
(`Family.outline`), and a rejected operation changes neither.
-/

namespace PatternSession

variable {S H : Type}

/-! ## Errors for a range -/

/-- The error that a reply gives, if it gives one. -/
def Reply.error? : Reply → Option Error
  | found (.error e) | verdict (.error e) | written (.error e) | item (some (.error e)) _ => some e
  | _ => none

/-- Does the error blame an offset that was given? -/
def Error.BlamesRange (e : Error) : Prop := ∃ param value limit, e = .range param value limit

/-- The reply is an error that blames an offset. -/
def Reply.OutOfRange (reply : Reply) : Prop := ∃ e, reply.error? = some e ∧ e.BlamesRange

/-- The answer is not an error that blames an offset. -/
def SparesRange {α : Type} (answer : Except Error α) : Prop :=
  ∀ e, answer = .error e → ¬e.BlamesRange

namespace SparesRange

variable {α β : Type}

theorem ok (a : α) : SparesRange (.ok a : Except Error α) := by
  rintro e ⟨⟩

theorem compile (text : String) : SparesRange (.error (.compile text) : Except Error α) := by
  rintro e ⟨⟩ ⟨param, value, limit, h⟩
  cases h

theorem internal {e : Error} (h : e.isInternal = true) :
    SparesRange (.error e : Except Error α) := by
  rintro e ⟨⟩ ⟨param, value, limit, rfl⟩
  cases h

theorem map {answer : Except Error α} (h : SparesRange answer) (f : α → β) :
    SparesRange (answer.map f) := by
  cases answer with
  | error e =>
    rintro e' ⟨⟩
    exact h e rfl
  | ok a => exact ok (f a)

theorem decodeOutput (units : List CodeUnit) : SparesRange (Session.decodeOutput units) := by
  unfold Session.decodeOutput
  split
  · exact ok _
  · exact compile _

section Replies

theorem found {answer : Except Error (Option Match)} (h : SparesRange answer) :
    ¬(Reply.found answer).OutOfRange := by
  rintro ⟨e, he, hrange⟩
  cases answer with
  | error e' => exact h e' rfl (Option.some.inj he ▸ hrange)
  | ok a => cases he

theorem verdict {answer : Except Error Bool} (h : SparesRange answer) :
    ¬(Reply.verdict answer).OutOfRange := by
  rintro ⟨e, he, hrange⟩
  cases answer with
  | error e' => exact h e' rfl (Option.some.inj he ▸ hrange)
  | ok a => cases he

theorem written {answer : Except Error String} (h : SparesRange answer) :
    ¬(Reply.written answer).OutOfRange := by
  rintro ⟨e, he, hrange⟩
  cases answer with
  | error e' => exact h e' rfl (Option.some.inj he ▸ hrange)
  | ok a => cases he

end Replies

end SparesRange

/-! Whatever the engine reports, it is not read as an error for a range. -/

section Readings

variable (r : Report) (m : Match)

theorem sparesRange_readMatch (text : Text) (bounds : Bounds) :
    SparesRange (r.readMatch text bounds) := by
  unfold Report.readMatch
  split
  · exact .compile _
  · split
    · exact .ok _
    · split
      · exact .ok _
      · exact .compile _

theorem sparesRange_readReplaced (text : Text) (bounds : Bounds) :
    SparesRange (r.readReplaced text bounds) := by
  unfold Report.readReplaced
  split
  · exact .compile _
  · split
    · exact .ok _
    · split
      · exact .compile _
      · exact (SparesRange.decodeOutput _).map _

theorem sparesRange_cutPatch (output : List CodeUnit) : SparesRange (m.cutPatch output) := by
  unfold Match.cutPatch
  split
  · exact .ok _
  · dsimp only
    split
    · exact .internal rfl
    · exact (SparesRange.decodeOutput _).map _

theorem sparesRange_readPatch : SparesRange (r.readPatch m) := by
  unfold Report.readPatch
  split
  · exact .compile _
  · split
    · exact .internal rfl
    · split
      · split
        · exact .internal rfl
        · split
          · exact sparesRange_cutPatch m _
          · exact .internal rfl
      · exact .internal rfl

end Readings

namespace Operation

/-- An operation that failed before the call replies with the error. -/
theorem error?_read_error {op : Operation} {options : String} {r : Request}
    (hr : op.request options = some r) (e : Error) : (op.read (.error e)).error? = some e := by
  cases op with
  | dispose => cases hr
  | _ => rfl

/-- An operation that came to the engine was not rejected for its range. -/
theorem not_outOfRange_read (op : Operation) (bounds : Bounds) (report : Report) :
    ¬(op.read (.ok (bounds, report))).OutOfRange := by
  cases op with
  | find text | findAt text start | findIn text start len =>
    exact (sparesRange_readMatch report text bounds).found
  | isMatchAt text start => exact ((sparesRange_readMatch report text bounds).map _).verdict
  | replace text template | replaceFrom text template start =>
    exact (sparesRange_readReplaced report text bounds).written
  | nextItem it =>
    have hread := sparesRange_readMatch report it.text bounds
    simp only [read, Except.bind]
    split
    · rintro ⟨e, he, -⟩
      cases he
    · rintro ⟨e, he, -⟩
      cases he
    next e he =>
      rintro ⟨e', ⟨⟩, hrange⟩
      exact hread e he hrange
  | nextMatch m => exact (sparesRange_readMatch report m.text bounds).found
  | result m template => exact (sparesRange_readPatch report m).written
  | dispose =>
    rintro ⟨e, he, -⟩
    cases he

end Operation

/-! ## Rejected and admitted -/

namespace Session

/-- The operation is rejected with the error. It makes no call and leaves the session as it was, but
for the copy, which is now one of the text. -/
structure Rejects (s : Session S H) (supply : Supply) (op : Operation) (text : Text) (e : Error) :
    Prop where
  error_eq : (op.run s supply).answer.error? = some e
  calls_eq : op.calls s supply = []
  session_eq : (op.run s supply).session = { s with buffer := (s.buffer.ensure supply text).1 }
  held_eq : (op.run s supply).session.buffer.held.map (·.source) = some text

/-- The operation comes to the engine. It makes one call, which is shown the text with these bounds,
and is not rejected for its range after that. -/
structure Admits (s : Session S H) (supply : Supply) (op : Operation) (text : Text)
    (bounds : Bounds) : Prop where
  calls_eq : ∃ call range, op.calls s supply = [call] ∧ call.range? = some range ∧
    range.bounds = bounds ∧ range.units = unitsOf text.chars
  inRange : ¬(op.run s supply).answer.OutOfRange

section Checks

variable {s : Session S H} {op : Operation} {r : Request}

theorem rejects (hshows : s.buffer.Shows) (hd : s.disposed = false)
    (hr : op.request s.options = some r) {e : Error}
    (he : resolveBounds r.text.chars.length r.start r.len = .error e) (supply : Supply) :
    s.Rejects supply op r.text e := by
  have hbind := (hshows.bind_answer supply r.text r.start r.len).trans he
  have hattempt := Request.attempt_of_rejected hd hbind
  have hrun := Operation.run_of_request supply hr
  have hsession : (op.run s supply).session =
      { s with buffer := (s.buffer.ensure supply r.text).1 } := by
    rw [hrun, hattempt]
    rfl
  refine ⟨?_, ?_, hsession, ?_⟩
  · rw [hrun, hattempt]
    exact Operation.error?_read_error hr e
  · rw [Operation.calls_of_request supply hr, Request.calls_of_rejected hd hbind]
  · -- the text was bound before its range was looked at
    rw [hsession]
    exact s.buffer.source_ensure supply r.text

theorem admits (hshows : s.buffer.Shows) (hd : s.disposed = false)
    (hr : op.request s.options = some r) {bounds : Bounds}
    (hbounds : resolveBounds r.text.chars.length r.start r.len = .ok bounds) (supply : Supply) :
    s.Admits supply op r.text bounds := by
  have hbind := (hshows.bind_answer supply r.text r.start r.len).trans hbounds
  constructor
  · rw [Operation.calls_of_request supply hr, Request.calls_of_bounds hd hbind]
    exact ⟨_, _, rfl, r.range?_engineCall _ bounds, rfl, hshows.units_ensure supply r.text⟩
  · rw [Operation.run_of_request supply hr, Request.attempt_of_bounds hd hbind]
    exact op.not_outOfRange_read bounds _

end Checks

/-! Bounds are resolved in one of three ways. -/

section Resolve

variable {limit start : Nat}

theorem resolveBounds_of_lt (h : limit < start) (len : Option Nat) :
    resolveBounds limit start len = .error (.range .start start limit) := by
  rw [resolveBounds, if_pos h]

theorem resolveBounds_of_add_le {len : Nat} (h : start + len ≤ limit) :
    resolveBounds limit start (some len) = .ok ⟨start, start + len⟩ := by
  rw [resolveBounds, if_neg (by omega)]
  exact if_pos h

theorem resolveBounds_of_lt_add {len : Nat} (hstart : start ≤ limit) (h : limit < start + len) :
    resolveBounds limit start (some len) = .error (.range .length len limit) := by
  rw [resolveBounds, if_neg (Nat.not_lt.2 hstart)]
  exact if_neg (Nat.not_le.2 h)

end Resolve

end Session

/-- The operations that search from a character on, to the end of the text. -/
inductive Operation.SearchesFrom (text : Text) (start : Nat) : Operation → Prop
  | findAt : SearchesFrom text start (.findAt text start)
  | isMatchAt : SearchesFrom text start (.isMatchAt text start)
  | replaceFrom (template : String) : SearchesFrom text start (.replaceFrom text template start)
  | nextItem : SearchesFrom text start (.nextItem (Matches.startingAt text start))

theorem Operation.SearchesFrom.request {text : Text} {start : Nat} {op : Operation}
    (h : op.SearchesFrom text start) (options : String) :
    ∃ sub, op.request options = some ⟨text, start, none, sub⟩ := by
  cases h <;> exact ⟨_, rfl⟩

/-- What a live session does with ranges of a text. -/
structure Session.ChecksRanges (s : Session S H) (supply : Supply) (text : Text) (start : Nat) :
    Prop where
  /-- A bounded search is admitted when its range lies in the text. -/
  bounded : ∀ len, start + len ≤ text.chars.length →
    s.Admits supply (.findIn text start len) text ⟨start, start + len⟩
  /-- When only the length is too large, it is blamed. -/
  length_blamed : ∀ len, start ≤ text.chars.length → text.chars.length < start + len →
    s.Rejects supply (.findIn text start len) text (.range .length len text.chars.length)
  /-- When the start is, it is blamed, whatever the length. -/
  start_blamed : ∀ len, text.chars.length < start →
    s.Rejects supply (.findIn text start len) text (.range .start start text.chars.length)
  /-- An open search is admitted when its start lies in the text. -/
  unbounded : ∀ op, op.SearchesFrom text start → start ≤ text.chars.length →
    s.Admits supply op text ⟨start, text.chars.length⟩
  /-- And otherwise the start is blamed. -/
  unbounded_blamed : ∀ op, op.SearchesFrom text start → text.chars.length < start →
    s.Rejects supply op text (.range .start start text.chars.length)

theorem Session.checksRanges {s : Session S H} (hshows : s.buffer.Shows) (hd : s.disposed = false)
    (supply : Supply) (text : Text) (start : Nat) : s.ChecksRanges supply text start where
  bounded len hle := by
    have hr : (Operation.findIn text start len).request s.options =
        some ⟨text, start, some len, none⟩ := rfl
    exact admits hshows hd hr (resolveBounds_of_add_le hle) supply
  length_blamed len hstart hlt := by
    have hr : (Operation.findIn text start len).request s.options =
        some ⟨text, start, some len, none⟩ := rfl
    exact rejects hshows hd hr (resolveBounds_of_lt_add hstart hlt) supply
  start_blamed len hlt := by
    have hr : (Operation.findIn text start len).request s.options =
        some ⟨text, start, some len, none⟩ := rfl
    exact rejects hshows hd hr (resolveBounds_of_lt hlt _) supply
  unbounded op hop hstart := by
    obtain ⟨sub, hr⟩ := hop.request s.options
    exact admits hshows hd hr (resolveBounds_none hstart) supply
  unbounded_blamed op hop hlt := by
    obtain ⟨sub, hr⟩ := hop.request s.options
    exact rejects hshows hd hr (resolveBounds_of_lt hlt _) supply

/-! ## Matches and sequences that were handed out -/

/-- An operation whose bounds are resolved is not rejected for its range, whatever else happens. -/
theorem Operation.not_outOfRange_run {s : Session S H} (hshows : s.buffer.Shows) {op : Operation}
    (hbounds : ∀ r, op.request s.options = some r →
      ∃ bounds, Session.resolveBounds r.text.chars.length r.start r.len = .ok bounds)
    (supply : Supply) : ¬(op.run s supply).answer.OutOfRange := by
  rcases op.run_cases s supply with rfl | ⟨r, hr, hrun⟩ | ⟨-, -, hrun⟩
  · rintro ⟨e, he, -⟩
    cases he
  · cases hd : s.disposed with
    | true =>
      rw [hrun, Request.attempt_of_disposed hd]
      rintro ⟨e, he, param, value, limit, rfl⟩
      have hdisposed := error?_read_error hr .disposed
      rw [Turn.map, hdisposed] at he
      cases he
    | false =>
      obtain ⟨bounds, hok⟩ := hbounds r hr
      exact (Session.admits hshows hd hr hok supply).inRange
  · rw [hrun]
    rintro ⟨e, he, -⟩
    cases op <;> cases he

/-- The bounds of the match lie in its text. -/
structure Match.Placed (found : Match) : Prop where
  start_le : found.bounds.start ≤ found.bounds.stop
  stop_le : found.bounds.stop ≤ found.text.chars.length

/-- The sequence has begun: it is done, or goes on in bounds that lie in its text. -/
inductive Matches.Begun : Matches → Prop
  | done (text : Text) : Begun ⟨text, .done⟩
  | within {text : Text} {pos stop : Nat} (pos_le : pos ≤ stop)
      (stop_le : stop ≤ text.chars.length) : Begun ⟨text, .within pos stop⟩

theorem Match.Placed.not_outOfRange {found : Match} (h : found.Placed) {s : Session S H}
    (hshows : s.buffer.Shows) (supply : Supply) :
    ¬((Operation.nextMatch found).run s supply).answer.OutOfRange ∧
      ∀ template, ¬((Operation.result found template).run s supply).answer.OutOfRange := by
  constructor
  · refine Operation.not_outOfRange_run hshows ?_ supply
    intro r hr
    simp only [Operation.request] at hr
    split at hr
    · cases hr
    next hroom =>
      obtain rfl := Option.some.inj hr
      exact ⟨_, resolveBounds_some (Nat.not_lt.1 hroom) h.stop_le⟩
  · intro template
    refine Operation.not_outOfRange_run hshows ?_ supply
    intro r hr
    obtain rfl := Option.some.inj hr
    exact ⟨_, resolveBounds_some h.start_le h.stop_le⟩

theorem Matches.Begun.not_outOfRange {it : Matches} (h : it.Begun) {s : Session S H}
    (hshows : s.buffer.Shows) (supply : Supply) :
    ¬((Operation.nextItem it).run s supply).answer.OutOfRange := by
  refine Operation.not_outOfRange_run hshows ?_ supply
  intro r hr
  cases h with
  | done text => cases hr
  | within pos_le stop_le =>
    obtain rfl := Option.some.inj hr
    exact ⟨_, resolveBounds_some pos_le stop_le⟩

/-! Whatever is handed out is in order. -/

/-- The sequence that a reply hands out, if it hands out one. -/
def Reply.rest? : Reply → Option Matches
  | item _ rest => some rest
  | _ => none

/-- A match that was read is in the text and has the bounds that were searched. -/
theorem Report.of_readMatch {r : Report} {text : Text} {bounds : Bounds} {found : Match}
    (h : r.readMatch text bounds = .ok (some found)) :
    found.text = text ∧ found.bounds = bounds := by
  unfold readMatch at h
  split at h
  · cases h
  · split at h
    · cases h
    · split at h
      · obtain rfl := Option.some.inj (Except.ok.inj h)
        exact ⟨rfl, rfl⟩
      · cases h

/-- Bounds with which an engine was called were resolved in the text. -/
theorem Request.resolved_of_attempt {s : Session S H} (hshows : s.buffer.Shows) {r : Request}
    {supply : Supply} {bounds : Bounds} {report : Report}
    (h : (r.attempt s supply).answer = .ok (bounds, report)) :
    Session.resolveBounds r.text.chars.length r.start r.len = .ok bounds := by
  cases hd : s.disposed with
  | true =>
    rw [attempt_of_disposed hd] at h
    cases h
  | false =>
    rw [← hshows.bind_answer supply]
    cases hbind : (s.bind supply r.text r.start r.len).answer with
    | error e =>
      rw [attempt_of_rejected hd hbind] at h
      cases h
    | ok resolved =>
      rw [attempt_of_bounds hd hbind] at h
      obtain ⟨rfl, -⟩ := Prod.mk.inj (Except.ok.inj h)
      rfl

/-- What was found by a request has its text, and bounds that lie in it. -/
theorem Request.placed_of_attempt {s : Session S H} (hshows : s.buffer.Shows) {r : Request}
    {supply : Supply} {found : Match}
    (h : ((r.attempt s supply).answer.bind fun o => o.2.readMatch r.text o.1) =
      .ok (some found)) : found.text = r.text ∧ found.Placed := by
  cases hanswer : (r.attempt s supply).answer with
  | error e =>
    rw [hanswer] at h
    cases h
  | ok outcome =>
    obtain ⟨bounds, report⟩ := outcome
    rw [hanswer] at h
    obtain ⟨htext, rfl⟩ := Report.of_readMatch h
    obtain ⟨-, hstart, hstop⟩ := resolveBounds_eq_ok (resolved_of_attempt hshows hanswer)
    exact ⟨htext, hstart, htext ▸ hstop⟩

namespace Operation

variable {s : Session S H} {supply : Supply}

/-- **A match that is handed out has bounds in its text.** -/
theorem placed_of_match? (hshows : s.buffer.Shows) {op : Operation} {found : Match}
    (h : (op.run s supply).answer.match? = some found) : found.Placed := by
  rcases op.run_cases s supply with rfl | ⟨r, hr, hrun⟩ | ⟨-, -, hrun⟩
  · cases h
  · rw [hrun] at h
    exact (Request.placed_of_attempt hshows (read_of_match? hr h).2).2
  · rw [hrun, op.match?_idle] at h
    cases h

/-- **A sequence that is handed out has begun.** -/
theorem begun_of_rest? (hshows : s.buffer.Shows) {op : Operation} {rest : Matches}
    (h : (op.run s supply).answer.rest? = some rest) : rest.Begun := by
  cases op with
  | nextItem it =>
    cases hr : (nextItem it).request s.options with
    | some r =>
      obtain ⟨-, htext⟩ := request_nextItem hr
      rw [run_of_request supply hr] at h
      simp only [Turn.map, read] at h
      split at h
      next m hread =>
        obtain rfl := Option.some.inj h
        rw [← htext] at hread ⊢
        obtain ⟨hm, hplaced⟩ := Request.placed_of_attempt hshows hread
        unfold Matches.Cursor.after
        split
        · exact .done r.text
        next hroom => exact .within (Nat.not_lt.1 hroom) (hm ▸ hplaced.stop_le)
      · obtain rfl := Option.some.inj h
        exact .done it.text
      · obtain rfl := Option.some.inj h
        exact .done it.text
    | none =>
      rw [run_of_no_request supply hr (by simp)] at h
      obtain rfl := Option.some.inj h
      obtain ⟨text, cursor⟩ := it
      cases cursor with
      | done => exact .done text
      | _ => cases hr
  | _ => cases h

end Operation

/-! ## Rejections go unnoticed -/

open Bundled

/-- The reply of a disposed session depends on its options only. -/
theorem Operation.reply_of_disposed {s : Session S H} (hd : s.disposed = true) (op : Operation)
    (supply : Supply) :
    (op.run s supply).answer =
      match op.request s.options with
      | some _ => op.read (.error .disposed)
      | none => op.idle := by
  rcases op.run_cases s supply with rfl | ⟨r, hr, hrun⟩ | ⟨hr, -, hrun⟩
  · rfl
  · rw [hr, hrun, Request.attempt_of_disposed hd]
    rfl
  · rw [hr, hrun]

namespace Family

variable {C : Type}

/-- What the members were opened with, and which of them are disposed. -/
def outline (F : Family C S H) : List (Setup C × Bool) :=
  F.members.map fun member => (member.1, member.2.disposed)

/-- What an operation on the member in this place replies, if there is one. -/
def reply? (F : Family C S H) (place : Nat) (op : Operation) : Option Reply :=
  F.members[place]?.map fun member => (op.run member.2 F.supply).answer

variable {engine : C → Engine S H} {state : S} {F G : Family C S H}

theorem exists_member_of_outline (h : F.outline = G.outline) {place : Nat} {setup : Setup C}
    {s : Session S H} (hplace : F.members[place]? = some (setup, s)) :
    ∃ s', G.members[place]? = some (setup, s') ∧ s'.disposed = s.disposed := by
  have hsame : (G.members[place]?).map (fun member => (member.1, member.2.disposed)) =
      some (setup, s.disposed) := by
    rw [← List.getElem?_map]
    show G.outline[place]? = _
    rw [← h, outline, List.getElem?_map, hplace]
    rfl
  obtain ⟨⟨setup', s'⟩, hplace', heq⟩ := Option.map_eq_some_iff.1 hsame
  obtain ⟨rfl, hd⟩ := Prod.mk.inj heq
  exact ⟨s', hplace', hd⟩

theorem member_eq_none_of_outline (h : F.outline = G.outline) {place : Nat}
    (hplace : F.members[place]? = none) : G.members[place]? = none := by
  cases hplace' : G.members[place]? with
  | none => rfl
  | some member =>
    obtain ⟨s, hs, -⟩ := exists_member_of_outline h.symm hplace'
    rw [hplace] at hs
    cases hs

theorem outline_step_asked {place : Nat} {setup : Setup C} {s : Session S H}
    (h : F.members[place]? = some (setup, s)) (op : Operation) :
    (F.step engine state (.asked place op)).outline =
      F.outline.set place (setup, (op.run s F.supply).session.disposed) := by
  simp only [outline, step, h, List.map_set]

/-- Only a disposal shows in the outline. -/
theorem outline_step_of_not_dispose {op : Operation} (hop : op ≠ .dispose) (place : Nat) :
    (F.step engine state (.asked place op)).outline = F.outline := by
  cases hplace : F.members[place]? with
  | none => simp only [step, hplace]
  | some member =>
    have houtline : F.outline[place]? = some (member.1, member.2.disposed) := by
      rw [outline, List.getElem?_map, hplace, Option.map_some]
    obtain ⟨hlt, heq⟩ := List.getElem?_eq_some_iff.1 houtline
    rw [outline_step_asked hplace, Operation.run_disposed hop, ← heq]
    exact List.set_getElem_self hlt

section Bundled

variable {m : Matcher} {F G : Family Limits Unit (Handle m)}

theorem outline_step_opened (setup : Setup Limits) (F : Family Limits Unit (Handle m)) :
    ((∃ p, CompilesTo m setup.config setup.pattern setup.options p) ∧
        (F.step (bundled m) () (.opened setup)).outline = F.outline ++ [(setup, false)]) ∨
      ((¬∃ p, CompilesTo m setup.config setup.pattern setup.options p) ∧
        (F.step (bundled m) () (.opened setup)).outline = F.outline) := by
  by_cases hp : ∃ p, CompilesTo m setup.config setup.pattern setup.options p
  · obtain ⟨p, hcompiles⟩ := hp
    obtain ⟨hopen, hlive, -⟩ := Setup.open_sound hcompiles F.supply
    refine .inl ⟨⟨p, hcompiles⟩, ?_⟩
    simp only [outline, step, hopen, List.map_append, List.map_cons, List.map_nil, hlive]
  · refine .inr ⟨hp, ?_⟩
    cases hopen : (setup.open (bundled m) () F.supply).answer with
    | ok u => exact absurd (Setup.compilesTo_of_open hopen) hp
    | error e => simp only [outline, step, hopen]

/-- Families of one outline go on alike. -/
theorem outline_step (h : F.outline = G.outline) (e : Event Limits) :
    (F.step (bundled m) () e).outline = (G.step (bundled m) () e).outline := by
  cases e with
  | opened setup =>
    rcases outline_step_opened setup F with ⟨hp, hF⟩ | ⟨hp, hF⟩ <;>
      rcases outline_step_opened setup G with ⟨hp', hG⟩ | ⟨hp', hG⟩
    · rw [hF, hG, h]
    · exact absurd hp hp'
    · exact absurd hp' hp
    · rw [hF, hG, h]
  | asked place op =>
    by_cases hop : op = .dispose
    · subst hop
      cases hplace : F.members[place]? with
      | some member =>
        obtain ⟨s', hplace', -⟩ := exists_member_of_outline h hplace
        rw [outline_step_asked hplace, outline_step_asked hplace', h]
        simp only [Operation.run, Session.dispose_disposed]
      | none =>
        have hplace' := member_eq_none_of_outline h hplace
        simp only [step, hplace, hplace', h]
    · rw [outline_step_of_not_dispose hop, outline_step_of_not_dispose hop, h]

theorem outline_run (h : F.outline = G.outline) (events : List (Event Limits)) :
    (F.run (bundled m) () events).outline = (G.run (bundled m) () events).outline := by
  induction events generalizing F G with
  | nil => exact h
  | cons e events ih => exact ih (outline_step h e)

/-- **Sound families of one outline reply alike.** -/
theorem reply?_eq_of_outline (h : F.outline = G.outline)
    (hF : F.Holds fun setup s supply => ∃ p, s.Sound m setup p supply)
    (hG : G.Holds fun setup s supply => ∃ p, s.Sound m setup p supply) (place : Nat)
    (op : Operation) : F.reply? place op = G.reply? place op := by
  unfold reply?
  cases hplace : F.members[place]? with
  | none =>
    rw [member_eq_none_of_outline h hplace]
    rfl
  | some member =>
    obtain ⟨setup, s⟩ := member
    obtain ⟨s', hplace', hd'⟩ := exists_member_of_outline h hplace
    rw [hplace', Option.map_some, Option.map_some]
    refine congrArg some ?_
    obtain ⟨p, hs⟩ := hF _ (List.mem_of_getElem? hplace)
    obtain ⟨p', hs'⟩ := hG _ (List.mem_of_getElem? hplace')
    obtain rfl := hs.compiles.unique hs'.compiles
    -- neither reply depends on what the sessions have been used for
    cases hd : s.disposed with
    | false =>
      rw [Operation.run_answer hs hd, Operation.run_answer hs' (hd'.trans hd)]
    | true =>
      have hoptions : s'.options = s.options := hs'.options_eq.trans hs.options_eq.symm
      rw [op.reply_of_disposed hd, op.reply_of_disposed (hd'.trans hd), hoptions]

/-- **A rejected operation goes unnoticed.** -/
theorem reply?_after_rejection (m : Matcher) (before later : List (Event Limits)) {place : Nat}
    {op : Operation} {reply : Reply}
    (hreply : (after (bundled m) () before).reply? place op = some reply)
    (hrange : reply.OutOfRange) (place' : Nat) (op' : Operation) :
    (after (bundled m) () (before ++ .asked place op :: later)).reply? place' op' =
      (after (bundled m) () (before ++ later)).reply? place' op' := by
  -- a disposal is not rejected, and nothing else shows in the outline
  have hop : op ≠ .dispose := by
    rintro rfl
    obtain ⟨member, -, rfl⟩ := Option.map_eq_some_iff.1 hreply
    obtain ⟨e, he, -⟩ := hrange
    cases he
  refine reply?_eq_of_outline ?_ (sound_after _) (sound_after _) place' op'
  rw [after, after, run_append, run_append]
  exact outline_run (outline_step_of_not_dispose hop place) later

end Bundled

end Family

/-! ## The theorem -/

/-- The session was opened on some engine, and then used. -/
def Session.Occurs (s : Session S H) : Prop :=
  ∃ (engine : Engine S H) (state : S) (supply : Supply) (pattern options : String)
    (acts : List Act), s = (create engine state supply pattern options).session.after acts

theorem Session.Occurs.shows {s : Session S H} (h : s.Occurs) : s.buffer.Shows := by
  obtain ⟨engine, state, supply, pattern, options, acts, rfl⟩ := h
  exact shows_after (shows_create engine state supply pattern options) acts

/-- **Range checks are exact, and leave everything else alone.** On any engine, a live session
checks ranges as it should, and what any session has handed out is not rejected for its range. On
the bundled engine, an operation that is rejected for its range changes no reply from then on. -/
theorem range_checks_are_exact {s : Session S H} (hs : s.Occurs) (supply : Supply) :
    (s.disposed = false → ∀ text start, s.ChecksRanges supply text start) ∧
    (∀ (t : Session S H) (now : Supply) (op : Operation), t.Occurs →
      (∀ found, (op.run t now).answer.match? = some found →
        ¬((Operation.nextMatch found).run s supply).answer.OutOfRange ∧
        ∀ template, ¬((Operation.result found template).run s supply).answer.OutOfRange) ∧
      ∀ rest, (op.run t now).answer.rest? = some rest →
        ¬((Operation.nextItem rest).run s supply).answer.OutOfRange) ∧
    ∀ (m : Matcher) (before later : List (Family.Event Limits)) (place : Nat) (op : Operation)
      (reply : Reply), (Family.after (bundled m) () before).reply? place op = some reply →
      reply.OutOfRange → ∀ (place' : Nat) (op' : Operation),
      (Family.after (bundled m) () (before ++ .asked place op :: later)).reply? place' op' =
        (Family.after (bundled m) () (before ++ later)).reply? place' op' := by
  have hshows := hs.shows
  refine ⟨fun hd text start => Session.checksRanges hshows hd supply text start, ?_, ?_⟩
  · intro t now op ht
    constructor
    · intro found hfound
      exact (Operation.placed_of_match? ht.shows hfound).not_outOfRange hshows supply
    · intro rest hrest
      exact (Operation.begun_of_rest? ht.shows hrest).not_outOfRange hshows supply
  · intro m before later place op reply hreply hrange
    exact Family.reply?_after_rejection m before later hreply hrange

/-- A session for runs of a letter has been opened, and has searched a text. -/
def searchedForRuns : List (Family.Event Limits) :=
  [.opened ⟨{}, "b*", ""⟩, .asked 0 (.find ⟨1, "éb"⟩)]

/-- In a text of two characters a search of no characters at the end is admitted. One of two more
than there are is rejected for its length, and a sequence past the end for its start. When the first
of these is rejected, the search of the other text is answered as before. -/
theorem range_checks_are_exact_at_the_end :
    let text : Text := ⟨2, "éb"⟩
    let F := Family.after (bundled starred) () searchedForRuns
    ∃ s, F.members[0]? = some (⟨{}, "b*", ""⟩, s) ∧
      s.Admits F.supply (.findIn text 2 0) text ⟨2, 2⟩ ∧
      s.Rejects F.supply (.findIn text 2 2) text (.range .length 2 2) ∧
      s.Rejects F.supply (.nextItem (Matches.startingAt text 3)) text (.range .start 3 2) ∧
      (Family.after (bundled starred) ()
          (searchedForRuns ++ [.asked 0 (.findIn text 2 2)])).reply? 0 (.find ⟨1, "éb"⟩) =
        F.reply? 0 (.find ⟨1, "éb"⟩) := by
  intro text F
  have hsession : ∃ s, F.members[0]? = some (⟨{}, "b*", ""⟩, s) ∧ s.Occurs ∧ s.disposed = false :=
    ⟨_, rfl, ⟨bundled starred {}, (), {}, "b*", "", [.operate (.find ⟨1, "éb"⟩) ⟨2⟩], rfl⟩, rfl⟩
  obtain ⟨s, hmember, hs, hlive⟩ := hsession
  obtain ⟨hchecks, -, hunnoticed⟩ := range_checks_are_exact hs F.supply
  have hchecks := hchecks hlive text
  have hlength : text.chars.length = 2 := by decide
  have hblamed := (hchecks 2).length_blamed 2 (by decide) (by decide)
  have hpast := (hchecks 3).unbounded_blamed _ .nextItem (by decide)
  rw [hlength] at hblamed hpast
  have hreply : F.reply? 0 (.findIn text 2 2) =
      some ((Operation.findIn text 2 2).run s F.supply).answer := by
    rw [Family.reply?, hmember, Option.map_some]
  refine ⟨s, hmember, (hchecks 2).bounded 0 (by decide), hblamed, hpast, ?_⟩
  exact hunnoticed starred searchedForRuns [] 0 _ _ hreply
    ⟨_, hblamed.error_eq, _, _, _, rfl⟩ 0 _

end PatternSession
