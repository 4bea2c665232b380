import PatternSession.OneShot
import PatternSession.Proofs.Found

/-!
# Iterations walk chains

A lazy sequence that has the rest of its bounds to search has the items of the chain from there to
come: its matches, and then the error of the chain if it has one (`Matches.Ready`).

**Theorem (`Matches.next_ready`).** In a live session, a step yields the first item to come, and
leaves the sequence with the others. It is one search (`Matches.next_answer`), and the cases are
those of the chain; the session stays sound and alive.

So draining the matches of a text and collecting them gives the matches of the chain, or its error
(`Matches.collect_drain`).
-/

namespace PatternSession

open Bundled

variable {m : Matcher} {p : m.Pattern} {setup : Setup Limits} {s : Session Unit (Handle m)}
  {supply : Supply}

namespace Matches

/-- The sequence has the characters from `pos` up to `stop` to search. -/
def Awaits (it : Matches) (pos stop : Nat) : Prop :=
  it.cursor = .within pos stop ∨ it.cursor = .start pos ∧ stop = it.text.chars.length

/-- What it awaits is what it asks for. -/
theorem Awaits.request {it : Matches} {pos stop : Nat} (h : it.Awaits pos stop) (hpos : pos ≤ stop)
    (hstop : stop ≤ it.text.chars.length) (options : String) :
    ∃ r : Request, (Operation.nextItem it).request options = some r ∧ r.text = it.text ∧
      r.substitution = none ∧
      Session.resolveBounds r.text.chars.length r.start r.len = .ok ⟨pos, stop⟩ := by
  obtain ⟨text, cursor⟩ := it
  rcases h with hcursor | ⟨hcursor, hlen⟩
  · obtain rfl := hcursor
    exact ⟨_, rfl, rfl, rfl, resolveBounds_some hpos hstop⟩
  · obtain rfl := hcursor
    subst hlen
    exact ⟨_, rfl, rfl, rfl, resolveBounds_none hpos⟩

/-- One step of a sequence in a live session is one search. -/
theorem next_answer (hm : m.Lawful) (hs : s.Sound m setup p supply) (hd : s.disposed = false)
    {it : Matches} {pos stop : Nat} (hawaits : it.Awaits pos stop) (hpos : pos ≤ stop)
    (hstop : stop ≤ it.text.chars.length) :
    (it.next s supply).answer =
      match searchAnswer m p it.text ⟨pos, stop⟩ with
      | .ok (some found) => (some (.ok found), ⟨it.text, Cursor.after found⟩)
      | .ok none => (none, ⟨it.text, .done⟩)
      | .error e => (some (.error e), ⟨it.text, .done⟩) := by
  obtain ⟨r, hr, htext, hsearch, hbounds⟩ := hawaits.request hpos hstop setup.options
  have hanswer := Request.answerOn_search (p := p) hm hsearch
  rw [hbounds, htext] at hanswer
  have hrun := Operation.run_answer hs hd (.nextItem it)
  rw [Operation.answerOn, hr] at hrun
  simp only [Operation.read] at hrun
  rw [hanswer] at hrun
  simp only [Except.bind] at hrun
  -- the reply of the operation is the pair that the step answers
  rcases hfound : searchAnswer m p it.text ⟨pos, stop⟩ with e | (_ | found) <;>
    · rw [hfound] at hrun
      obtain ⟨hitem, hrest⟩ := Reply.item.inj hrun
      exact Prod.ext hitem hrest

/-- A step leaves the session sound and alive. -/
theorem next_sound (hs : s.Sound m setup p supply) (hd : s.disposed = false) (it : Matches) :
    (it.next s supply).session.Sound m setup p (it.next s supply).supply ∧
      (it.next s supply).session.disposed = false := by
  have hsound := Operation.run_sound hs (.nextItem it)
  have hdisposed : ((Operation.nextItem it).run s supply).session.disposed = s.disposed := by
    apply Operation.run_disposed
    intro h
    cases h
  exact ⟨hsound, hdisposed.trans hd⟩

/-- Where a sequence stands after the match of an occurrence. -/
theorem after_matchOf {text : Text} {stop : Nat} {o : Occurrence}
    (h : GroupsFit o.pos stop o.groups) :
    Cursor.after (matchOf text stop o) =
      if o.whole.resume ≤ stop then .within o.whole.resume stop else .done := by
  have hstop : (matchOf text stop o).bounds.stop = stop := rfl
  rw [Cursor.after, resumeAt_matchOf h, hstop]
  by_cases hroom : o.whole.resume ≤ stop
  · rw [if_pos hroom, if_neg (Nat.not_lt.2 hroom)]
  · rw [if_neg hroom, if_pos (Nat.lt_of_not_le hroom)]

/-- The items of a chain: its matches, and the error that ends it. -/
def itemsOf (text : Text) (stop : Nat) (occs : List Occurrence) (failure : Option String) :
    List (Except Error Match) :=
  occs.map (fun o => .ok (matchOf text stop o)) ++
    failure.toList.map fun e => .error (.compile (cutMessage e))

/-- The sequence has these items to come. -/
inductive Ready (m : Matcher) (p : m.Pattern) : Matches → List (Except Error Match) → Prop
  | done {text : Text} : Ready m p ⟨text, .done⟩ []
  | awaits {it : Matches} {pos stop : Nat} {occs : List Occurrence} {failure : Option String} :
    it.Awaits pos stop → pos ≤ stop → stop ≤ it.text.chars.length →
    Chain (look m p it.text.chars stop) stop pos occs failure →
    Ready m p it (itemsOf it.text stop occs failure)

/-- The matches from `start` on have the chain of the whole text to come. -/
theorem ready_startingAt {text : Text} {start : Nat} (hstart : start ≤ text.chars.length)
    {occs : List Occurrence} {failure : Option String}
    (hchain : Chain (look m p text.chars text.chars.length) text.chars.length start occs failure) :
    (startingAt text start).Ready m p (itemsOf text text.chars.length occs failure) :=
  .awaits (.inr ⟨rfl, rfl⟩) hstart (Nat.le_refl _) hchain

/-- What is to come after a match is the rest of the chain, if there is room for one. -/
theorem ready_after {text : Text} {stop : Nat} {o : Occurrence} {occs : List Occurrence}
    {failure : Option String} (hfit : GroupsFit o.pos stop o.groups)
    (hstop : stop ≤ text.chars.length)
    (hrest : Chain (look m p text.chars stop) stop o.whole.resume occs failure) :
    Ready m p ⟨text, Cursor.after (matchOf text stop o)⟩ (itemsOf text stop occs failure) := by
  rw [after_matchOf hfit]
  by_cases hroom : o.whole.resume ≤ stop
  · rw [if_pos hroom]
    exact .awaits (.inl rfl) hroom hstop hrest
  · obtain ⟨rfl, rfl⟩ := hrest.eq_nil_of_past (Nat.lt_of_not_le hroom)
    rw [if_neg hroom]
    exact .done

/-- **A step yields the first item to come,** and leaves the others. -/
theorem next_ready (hm : m.Lawful) (hs : s.Sound m setup p supply) (hd : s.disposed = false)
    {it : Matches} {items : List (Except Error Match)} (h : it.Ready m p items) :
    (it.next s supply).answer.1 = items.head? ∧
      (it.next s supply).answer.2.Ready m p items.tail := by
  cases h with
  | done => exact ⟨rfl, .done⟩
  | awaits hawaits hpos hstop hchain =>
    have hnext := next_answer hm hs hd hawaits hpos hstop
    cases hchain with
    | past hpast => exact absurd hpos (Nat.not_le.2 hpast)
    | failed _ hlook =>
      simp only [searchAnswer, hlook] at hnext
      rw [hnext]
      exact ⟨rfl, .done⟩
    | ended _ hlook =>
      simp only [searchAnswer, hlook, Option.map_none] at hnext
      rw [hnext]
      exact ⟨rfl, .done⟩
    | found _ hlook hrest =>
      simp only [searchAnswer, hlook, Option.map_some] at hnext
      rw [hnext]
      exact ⟨rfl, ready_after (look_fits hm hstop _ _ hpos hlook) hstop hrest⟩

/-- Enough steps yield all that is to come. -/
theorem take_ready (hm : m.Lawful) (hs : s.Sound m setup p supply) (hd : s.disposed = false)
    {it : Matches} {items : List (Except Error Match)} (h : it.Ready m p items) {count : Nat}
    (hcount : items.length ≤ count) : (take s supply count it).answer.1 = items := by
  -- a step changes the session, so the induction is over all sound ones
  induction count generalizing s supply it items with
  | zero => exact (List.length_eq_zero_iff.1 (Nat.le_zero.1 hcount)).symm
  | succ count ih =>
    obtain ⟨hitem, hrest⟩ := next_ready hm hs hd h
    obtain ⟨hs', hd'⟩ := next_sound hs hd it
    rcases hnext : (it.next s supply).answer with ⟨item, it'⟩
    rw [hnext] at hitem hrest
    simp only [take, hnext]
    cases items with
    | nil =>
      obtain rfl : item = none := hitem
      rfl
    | cons first items =>
      obtain rfl : item = some first := hitem
      exact congrArg (first :: ·) (ih hs' hd' hrest (Nat.le_of_succ_le_succ hcount))

theorem collect_itemsOf (text : Text) (stop : Nat) (occs : List Occurrence)
    (failure : Option String) :
    OneShot.collect (itemsOf text stop occs failure) =
      orFailure (failure.map fun e => .compile (cutMessage e)) (occs.map (matchOf text stop)) := by
  induction occs with
  | nil => cases failure <;> rfl
  | cons o occs ih =>
    have hcons : itemsOf text stop (o :: occs) failure =
        .ok (matchOf text stop o) :: itemsOf text stop occs failure := rfl
    rw [hcons, OneShot.collect, ih]
    cases failure <;> rfl

/-- Draining yields the items of the chain of the whole text. -/
theorem drain_ready (hm : m.Lawful) (hs : s.Sound m setup p supply) (hd : s.disposed = false)
    {text : Text} {start : Nat} (hstart : start ≤ text.chars.length) {occs : List Occurrence}
    {failure : Option String}
    (hchain : Chain (look m p text.chars text.chars.length) text.chars.length start occs failure) :
    ((startingAt text start).drain s supply).answer =
      itemsOf text text.chars.length occs failure := by
  have hcount : (itemsOf text text.chars.length occs failure).length ≤ text.chars.length + 2 := by
    have hoccs := hchain.length_le (look_fits hm (Nat.le_refl _))
    have hfailure : failure.toList.length ≤ 1 := by cases failure <;> simp
    rw [itemsOf, List.length_append, List.length_map, List.length_map]
    omega
  exact take_ready hm hs hd (ready_startingAt hstart hchain) hcount

/-- **Draining the matches from `start` on gives the chain of the whole text.** -/
theorem collect_drain (hm : m.Lawful) (hs : s.Sound m setup p supply) (hd : s.disposed = false)
    {text : Text} {start : Nat} (hstart : start ≤ text.chars.length) {occs : List Occurrence}
    {failure : Option String}
    (hchain : Chain (look m p text.chars text.chars.length) text.chars.length start occs failure) :
    OneShot.collect ((startingAt text start).drain s supply).answer =
      orFailure (failure.map fun e => .compile (cutMessage e))
        (occs.map (matchOf text text.chars.length)) := by
  rw [drain_ready hm hs hd hstart hchain]
  exact collect_itemsOf text _ occs failure

end Matches

end PatternSession
