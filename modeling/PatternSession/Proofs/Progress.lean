import PatternSession.Proofs.Iteration
import PatternSession.Proofs.Starred

/-!
# Iterations make progress and end

A lazy sequence keeps a cursor and goes on with it; a match keeps its bounds and goes on after
itself. The two steps are separate: each decides on its own when there is no room left, and within
which bounds to search.

**Theorem (`iteration_is_chain`).** In a live session, the sequence from a character of the text on
yields matches, then at most one error, and then nothing, however often it is asked. There are at
most as many matches as there are places to begin at. The first item is what the search gives, every
other one is what the match before it gives as the next; the matches follow each other without
overlap. From beyond the end of the text, the only item is the error of the range.

**Proof.** The calls walk the chain of the text (`Matches.steps_ready`), and so does `Match.next`
(`next_of_chain`), each by one search from where the occurrence before ended. The rest is read off
the chain.
-/

namespace PatternSession

open Bundled

variable {m : Matcher} {p : m.Pattern}

/-! ## Calls beyond the end -/

/-- What `count` calls yield, one after the other, whether or not the sequence has ended. -/
def Matches.steps {S H : Type} (s : Session S H) (supply : Supply) :
    (count : Nat) → Matches → Turn S H (List (Option (Except Error Match)))
  | 0, _ => ⟨[], s, supply⟩
  | count + 1, it =>
    let t := it.next s supply
    let rest := steps t.session t.supply count t.answer.2
    ⟨t.answer.1 :: rest.answer, rest.session, rest.supply⟩

/-- What `count` calls yield when the items are these: each of them once, and then nothing. -/
def yields (items : List (Except Error Match)) (count : Nat) : List (Option (Except Error Match)) :=
  (List.range count).map (items[·]?)

/-- The first call yields the first item, and the others yield the other items. -/
theorem yields_succ (items : List (Except Error Match)) (count : Nat) :
    yields items (count + 1) = items.head? :: yields items.tail count := by
  rw [yields, List.range_succ_eq_map, List.map_cons, List.map_map]
  cases items <;> rfl

/-- **The calls yield the items to come,** and then nothing. -/
theorem Matches.steps_ready (hm : m.Lawful) {setup : Setup Limits} {s : Session Unit (Handle m)}
    {supply : Supply} (hs : s.Sound m setup p supply) (hd : s.disposed = false) {it : Matches}
    {items : List (Except Error Match)} (h : it.Ready m p items) (count : Nat) :
    (steps s supply count it).answer = yields items count := by
  induction count generalizing s supply it items with
  | zero => rfl
  | succ count ih =>
    obtain ⟨hitem, hrest⟩ := next_ready hm hs hd h
    obtain ⟨hs', hd'⟩ := next_sound hs hd it
    rw [steps, yields_succ, ← hitem, ← ih hs' hd' hrest]

/-! ## From a match to the next item -/

/-- An item of a sequence as the answer of a search: no item is no match. -/
def answerOfItem : Option (Except Error Match) → Except Error (Option Match)
  | none => .ok none
  | some (.ok found) => .ok (some found)
  | some (.error e) => .error e

/-- The first item of a chain is what is found at its start. -/
theorem Chain.answer_head {text : Text} {pos stop : Nat} {occs : List Occurrence}
    {failure : Option String} (h : Chain (look m p text.chars stop) stop pos occs failure) :
    answerOfItem (Matches.itemsOf text stop occs failure)[0]? =
      if stop < pos then .ok none else searchAnswer m p text ⟨pos, stop⟩ := by
  cases h with
  | past hpast =>
    rw [if_pos hpast]
    rfl
  | failed hpos hlook | ended hpos hlook | found hpos hlook =>
    rw [if_neg (Nat.not_lt.2 hpos), searchAnswer]
    simp only [hlook]
    rfl

/-- The items after an occurrence are those of the rest of the chain. -/
theorem itemsOf_getElem?_succ {text : Text} {stop i : Nat} {occs : List Occurrence}
    {failure : Option String} (hi : i < occs.length) :
    (Matches.itemsOf text stop occs failure)[i + 1]? =
      (Matches.itemsOf text stop (occs.drop (i + 1)) failure)[0]? := by
  have hle : i + 1 ≤ (occs.map fun o => Except.ok (matchOf text stop o) (ε := Error)).length := by
    rw [List.length_map]
    exact hi
  rw [Matches.itemsOf, Matches.itemsOf, List.map_drop, ← List.drop_append_of_le_length hle,
    List.getElem?_drop]

section Next

variable {setup : Setup Limits} {s : Session Unit (Handle m)} {supply : Supply} {text : Text}
  {pos stop : Nat} {occs : List Occurrence} {failure : Option String}

/-- **Going on after a match of a chain gives the next item.** -/
theorem next_of_chain (hm : m.Lawful) (hs : s.Sound m setup p supply) (hd : s.disposed = false)
    (hstop : stop ≤ text.chars.length)
    (hchain : Chain (look m p text.chars stop) stop pos occs failure) {i : Nat} {o : Occurrence}
    (ho : occs[i]? = some o) :
    ((matchOf text stop o).next s supply).answer =
      answerOfItem (Matches.itemsOf text stop occs failure)[i + 1]? := by
  obtain ⟨hpos, hlook, hrest⟩ := hchain.rest ho
  have hfit : GroupsFit o.pos stop o.groups := look_fits hm hstop _ _ hpos hlook
  have hi : i < occs.length := (List.getElem?_eq_some_iff.1 ho).1
  rw [itemsOf_getElem?_succ hi, hrest.answer_head, hs.next_answer hm hd hstop,
    resumeAt_matchOf hfit]
  rfl

end Next

/-! ## The theorem -/

/-- Iterating from `start` on yields these matches, and then this error if there is one. -/
structure Iterates (m : Matcher) (setup : Setup Limits) (s : Session Unit (Handle m))
    (supply : Supply) (text : Text) (start : Nat) (ms : List Match) (failure : Option Error) :
    Prop where
  /-- There are no more matches than places to begin at. -/
  length_le : ms.length ≤ text.chars.length - start + 1
  /-- The matches come first, then the error, then nothing. -/
  steps : ∀ count, (Matches.steps s supply count (Matches.startingAt text start)).answer =
    yields (ms.map .ok ++ failure.toList.map .error) count
  /-- Draining gives all of it. -/
  drained : ((Matches.startingAt text start).drain s supply).answer =
    ms.map .ok ++ failure.toList.map .error
  /-- The first item is what the search gives. -/
  first : (s.findAt supply text start).answer =
    answerOfItem (ms.map .ok ++ failure.toList.map .error)[0]?
  /-- Every other item is what the match before gives as the next, at any time. -/
  next : ∀ (i : Nat) (a : Match), ms[i]? = some a →
    ∀ s' supply', setup.Reaches m s' supply' →
      (a.next s' supply').answer =
        answerOfItem (ms.map .ok ++ failure.toList.map .error)[i + 1]?
  /-- The first match is found within the bounds asked for. -/
  bounds_head : ∀ a, ms[0]? = some a →
    a.bounds = ⟨start, text.chars.length⟩ ∧ start ≤ a.index
  /-- Every other one within what the match before left. -/
  bounds_succ : ∀ (i : Nat) (a b : Match), ms[i]? = some a → ms[i + 1]? = some b →
    b.bounds = ⟨a.resumeAt, text.chars.length⟩ ∧ a.resumeAt ≤ b.index
  /-- The matches begin further and further on, and do not overlap. -/
  increasing : ms.Pairwise fun a b => a.index < b.index ∧ a.stop ≤ b.index

section Chains

variable {setup : Setup Limits} {s : Session Unit (Handle m)} {supply : Supply} {text : Text}
  {start : Nat} {occs : List Occurrence} {failure : Option String}

theorem getElem?_map_matchOf {stop i : Nat} {a : Match}
    (h : (occs.map (matchOf text stop))[i]? = some a) :
    ∃ o, occs[i]? = some o ∧ a = matchOf text stop o := by
  rw [List.getElem?_map] at h
  obtain ⟨o, ho, rfl⟩ := Option.map_eq_some_iff.1 h
  exact ⟨o, ho, rfl⟩

/-- The chain of a text is what an iteration of it yields. -/
theorem iterates_of_chain (hm : m.Lawful) (hs : setup.Reaches m s supply)
    (hp : CompilesTo m setup.config setup.pattern setup.options p)
    (hstart : start ≤ text.chars.length)
    (hchain : Chain (look m p text.chars text.chars.length) text.chars.length start occs
      failure) :
    Iterates m setup s supply text start (occs.map (matchOf text text.chars.length))
      (failure.map fun e => .compile (cutMessage e)) := by
  have hsound := hs.sound_of_compiles hp
  have hfits := look_fits (p := p) hm (Nat.le_refl text.chars.length)
  have hfit := hchain.groupsFit hfits
  have hitems : Matches.itemsOf text text.chars.length occs failure =
      (occs.map (matchOf text text.chars.length)).map .ok ++
        (failure.map fun e => Error.compile (cutMessage e)).toList.map .error := by
    rw [Matches.itemsOf, List.map_map]
    cases failure <;> rfl
  constructor
  · have := hchain.length_le hfits
    rw [List.length_map]
    omega
  · intro count
    rw [← hitems]
    exact Matches.steps_ready hm hsound hs.live (Matches.ready_startingAt hstart hchain) count
  · rw [← hitems]
    exact Matches.drain_ready hm hsound hs.live hstart hchain
  · rw [hsound.findAt_answer hm hs.live hstart, ← hitems, hchain.answer_head,
      if_neg (Nat.not_lt.2 hstart)]
  · intro i a ha s' supply' hs'
    obtain ⟨o, ho, rfl⟩ := getElem?_map_matchOf ha
    rw [← hitems]
    exact next_of_chain hm (hs'.sound_of_compiles hp) hs'.live (Nat.le_refl _) hchain ho
  · intro a ha
    obtain ⟨o, ho, rfl⟩ := getElem?_map_matchOf ha
    have hmem := List.mem_of_getElem? ho
    obtain rfl := hchain.pos_of_head ho
    rw [index_matchOf (hfit o hmem)]
    exact ⟨rfl, hchain.le_start hfits o hmem⟩
  · intro i a b ha hb
    obtain ⟨o, ho, rfl⟩ := getElem?_map_matchOf ha
    obtain ⟨o', ho', rfl⟩ := getElem?_map_matchOf hb
    obtain ⟨-, -, hrest⟩ := hchain.rest ho
    have hhead : (occs.drop (i + 1))[0]? = some o' := by
      rw [List.getElem?_drop]
      exact ho'
    rw [resumeAt_matchOf (hfit o (List.mem_of_getElem? ho)),
      index_matchOf (hfit o' (List.mem_of_getElem? ho')), ← hrest.pos_of_head hhead]
    exact ⟨rfl, (hfit o' (List.mem_of_getElem? ho')).bounds.1⟩
  · rw [List.pairwise_map]
    refine (hchain.increasing hfits).imp_of_mem ?_
    intro a b ha hb hab
    rw [index_matchOf (hfit a ha), index_matchOf (hfit b hb), stop_matchOf (hfit a ha)]
    exact hab

/-- From beyond the end, the error of the range is the only item. -/
theorem steps_of_lt (hm : m.Lawful) (hs : s.Sound m setup p supply) (hd : s.disposed = false)
    (hstart : text.chars.length < start) (count : Nat) :
    (Matches.steps s supply count (Matches.startingAt text start)).answer =
      yields [.error (.range .start start text.chars.length)] count := by
  cases count with
  | zero => rfl
  | succ count =>
    have hsearch : (s.search supply text start none).answer =
        .error (.range .start start text.chars.length) := by
      rw [hs.search_answer hm hd, Session.resolveBounds, if_pos hstart]
      rfl
    have hnext : ((Matches.startingAt text start).next s supply).answer =
        (some (.error (.range .start start text.chars.length)), ⟨text, .done⟩) := by
      simp only [Matches.next, Matches.step?, Matches.startingAt, hsearch]
    obtain ⟨hs', hd'⟩ := Matches.next_sound hs hd (Matches.startingAt text start)
    rw [Matches.steps, yields_succ]
    simp only [hnext, Matches.steps_ready hm hs' hd' .done]
    rfl

end Chains

/-- **An iteration is the chain of next matches; it makes progress and ends,** in every live session
and over every text. -/
theorem iteration_is_chain (m : Matcher) (hm : m.Lawful) {setup : Setup Limits}
    {s : Session Unit (Handle m)} {supply : Supply} (hs : setup.Reaches m s supply) (text : Text)
    (start : Nat) :
    (start ≤ text.chars.length →
      ∃ ms failure, Iterates m setup s supply text start ms failure) ∧
    (text.chars.length < start → ∀ count,
      (Matches.steps s supply count (Matches.startingAt text start)).answer =
        yields [.error (.range .start start text.chars.length)] count) := by
  obtain ⟨p, hsound⟩ := hs.sound
  constructor
  · intro hstart
    obtain ⟨occs, failure, hchain⟩ := (look_fits hm (Nat.le_refl _)).exists_chain start
    exact ⟨_, _, iterates_of_chain hm hs hsound.compiles hstart hchain⟩
  · intro hstart count
    exact steps_of_lt hm hsound hs.live hstart count

/-- A session that has begun another iteration. -/
def iteratedElsewhere : List (Family.Event Limits) :=
  [.opened ⟨{}, "b*", "g"⟩, .asked 0 (.nextItem (Matches.startingAt ⟨1, "bab"⟩ 0))]

/-- In `abb` there are an empty match, the run `bb` and an empty match at the end; from beyond the
end there is only the error. -/
theorem iteration_is_chain_over_empty_matches :
    ∃ s, (Family.after (bundled starred) () iteratedElsewhere).members[0]? =
          some (⟨{}, "b*", "g"⟩, s) ∧
      (∃ ms failure,
        Iterates starred ⟨{}, "b*", "g"⟩ s
          (Family.after (bundled starred) () iteratedElsewhere).supply ⟨2, "abb"⟩ 0 ms failure ∧
        yields (ms.map .ok ++ failure.toList.map .error) 4 =
          [some (.ok ⟨[⟨0, some ⟨0, 0⟩⟩], ⟨2, "abb"⟩, ⟨0, 3⟩⟩),
            some (.ok ⟨[⟨0, some ⟨1, 2⟩⟩], ⟨2, "abb"⟩, ⟨1, 3⟩⟩),
            some (.ok ⟨[⟨0, some ⟨3, 0⟩⟩], ⟨2, "abb"⟩, ⟨3, 3⟩⟩), none]) ∧
      (Matches.steps s (Family.after (bundled starred) () iteratedElsewhere).supply 2
          (Matches.startingAt ⟨2, "abb"⟩ 4)).answer =
        [some (.error (.range .start 4 3)), none] := by
  have hmember : (Family.after (bundled starred) () iteratedElsewhere).members[0]? =
      some (⟨{}, "b*", "g"⟩, _) := rfl
  have hs : Setup.Reaches starred ⟨{}, "b*", "g"⟩ _ _ := ⟨iteratedElsewhere, 0, hmember, rfl, rfl⟩
  have hwithin := (iteration_is_chain starred starred_lawful hs ⟨2, "abb"⟩ 0).1
  have hbeyond := (iteration_is_chain starred starred_lawful hs ⟨2, "abb"⟩ 4).2
  obtain ⟨ms, failure, hiterates⟩ := hwithin (by decide)
  refine ⟨_, hmember, ⟨ms, failure, hiterates, ?_⟩, ?_⟩
  · rw [← hiterates.steps 4]
    rfl
  · rw [hbeyond (by decide) 2]
    rfl

end PatternSession
