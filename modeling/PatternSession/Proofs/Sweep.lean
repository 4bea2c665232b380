import PatternSession.Proofs.Occurrences
import PatternSession.Substitution

/-!
# The sweep of a substitution, in characters

`sweep` counts bytes, remembers where the last occurrence taken ended, and passes over empty
occurrences right there. Here it is led back to the chain of occurrences.

**Theorem (`sweepFrom_eq`).** The sweep takes the separated occurrences of the chain, and fails as
the chain does. The proof is an induction on the chain with one lemma for a step
(`sweepFrom_found`). It rests on an observation: an empty occurrence is passed over at the end of
the one before, so what the sweep remembers is always where the one directly before ended.

**Theorem (`substitute_global`, `substitute_first`).** So a substitution splices the separated
occurrences, or the first one alone.
-/

namespace PatternSession

/-! ## Groups as bytes -/

/-- The bytes of the groups. -/
def spansOf (cs : List Char) (groups : List (Option GroupBounds)) : ByteSpans :=
  groups.map (·.map (byteSpan cs))

/-- The text of a group. -/
def groupIn (cs : List Char) (groups : List (Option GroupBounds)) (i : Nat) : Option (List Char) :=
  groups[i]?.join.map fun b => (cs.drop b.start).take (b.stop - b.start)

section Groups

variable {cs : List Char} {pos stop : Nat} {groups : List (Option GroupBounds)}

theorem groupsIn_spansOf (h : GroupsFit pos stop groups) (hstop : stop ≤ cs.length) :
    groupsIn cs (spansOf cs groups) = groups := by
  rw [groupsIn, Haystack.groups, spansOf, List.map_map]
  refine (List.map_congr_left ?_).trans (List.map_id groups)
  intro g hg
  cases g with
  | none => rfl
  | some b =>
    obtain ⟨hb, hbstop⟩ := h.inside _ hg b rfl
    have := index_byteSpan hb (Nat.le_trans hbstop hstop)
    simp only [Function.comp_apply, Option.map_some, this, id_eq]

theorem wholeMatch?_spansOf (h : GroupsFit pos stop groups) :
    wholeMatch? (spansOf cs groups) = some (byteSpan cs (wholeOf groups)) := by
  obtain ⟨w, rest, rfl, -⟩ := h.whole
  rfl

/-- The text of a group lies inside what the search saw. -/
theorem groupText?_spansOf (h : GroupsFit pos stop groups) (i : Nat) :
    groupText? (cs.take stop) (spansOf cs groups) i = groupIn cs groups i := by
  rw [groupText?, groupIn, spansOf, List.getElem?_map]
  cases hg : groups[i]? with
  | none => rfl
  | some g =>
    cases g with
    | none => rfl
    | some b =>
      obtain ⟨hb, hbstop⟩ := h.inside _ (List.mem_of_getElem? hg) b rfl
      have hslice := sliceBytes?_bytePosition (cs.take stop) hb
      rw [bytePosition_take (Nat.le_trans hb hbstop), bytePosition_take hbstop] at hslice
      show some ((sliceBytes? (cs.take stop) (bytePosition cs b.start)
        (bytePosition cs b.stop)).getD []) = _
      rw [hslice, Option.getD_some, List.drop_take, List.take_take,
        Nat.min_eq_left (Nat.sub_le_sub_right hbstop b.start)]
      rfl

end Groups

/-! ## Searches as chains -/

section Searches

variable {m : Matcher} {p : m.Pattern} {cs : List Char} {stop pos : Nat}

theorem look_fits (hm : m.Lawful) (hstop : stop ≤ cs.length) :
    Look.Fits (look m p cs stop) stop := by
  intro pos groups hpos hlook
  unfold look at hlook
  rcases hs : m.search p (cs.take stop) (bytePosition cs pos) with e | (_ | spans)
  · rw [hs] at hlook
    cases hlook
  · rw [hs] at hlook
    cases hlook
  · rw [hs] at hlook
    obtain rfl := Option.some.inj (Except.ok.inj hlook)
    exact hm.groupsFit hstop hpos hs

/-- A search of the visible bytes is the search by characters. -/
theorem search_eq (hm : m.Lawful) (hstop : stop ≤ cs.length) (hpos : pos ≤ stop) :
    m.search p (cs.take stop) (bytePosition cs pos) =
      (look m p cs stop pos).map (·.map (spansOf cs)) := by
  unfold look
  rcases hs : m.search p (cs.take stop) (bytePosition cs pos) with e | (_ | spans)
  · rfl
  · rfl
  · have := hm.spans_eq hstop hpos hs
    simp only [Except.map, Option.map_some]
    rw [spansOf, ← this]

/-! ## One step of the sweep -/

theorem nextBoundary?_eq (hpos : pos ≤ stop) (hstop : stop ≤ cs.length) :
    nextBoundary? (cs.take stop) (bytePosition cs pos) =
      if pos < stop then some (bytePosition cs (pos + 1)) else none := by
  rw [nextBoundary?, ← bytePosition_take hpos, dropBytes?_bytePosition]
  by_cases hlt : pos < stop
  · have hlen : pos < (cs.take stop).length := by
      rw [List.length_take]
      omega
    rw [if_pos hlt, ← bytePosition_take (show pos + 1 ≤ stop from hlt), bytePosition_add,
      List.drop_eq_getElem_cons hlen]
    simp
  · have hnil : (cs.take stop).drop pos = [] := by
      rw [List.drop_eq_nil_iff, List.length_take]
      omega
    rw [if_neg hlt, hnil]

/-- Where the sweep goes on, in bytes and in characters. -/
theorem following_eq {w : GroupBounds} (hw : w.start ≤ w.stop) (hwstop : w.stop ≤ stop)
    (hstop : stop ≤ cs.length) :
    (if bytePosition cs w.start = bytePosition cs w.stop then
        nextBoundary? (cs.take stop) (bytePosition cs w.stop)
      else some (bytePosition cs w.stop)) =
      if w.resume ≤ stop then some (bytePosition cs w.resume) else none := by
  have hend := Nat.le_trans hwstop hstop
  have hbytes := bytePosition_inj (Nat.le_trans hw hend) hend
  unfold GroupBounds.resume
  by_cases hempty : w.start = w.stop
  · have hresume : w.start + max (w.stop - w.start) 1 = w.stop + 1 := by omega
    rw [if_pos (hbytes.2 hempty), nextBoundary?_eq hwstop hstop, hresume]
    rfl
  · have hresume : w.start + max (w.stop - w.start) 1 = w.stop := by omega
    rw [if_neg (mt hbytes.1 hempty), hresume, if_pos hwstop]

/-- The stop of a sweep at an occurrence. -/
def stopAt (cs : List Char) (o : Occurrence) (taken : Bool) : Stop :=
  ⟨bytePosition cs o.pos, spansOf cs o.groups, byteSpan cs o.whole, taken⟩

/-- What is left of a sweep after an occurrence, when there is room for one more search. -/
def sweepRest (m : Matcher) (p : m.Pattern) (cs : List Char) (stop : Nat) (global : Bool)
    (fuel resume : Nat) (last : Option Nat) : Sweep :=
  if resume ≤ stop then
    sweepFrom (m.search p (cs.take stop)) (cs.take stop) global fuel (bytePosition cs resume)
      (last.map (bytePosition cs))
  else {}

variable {groups : List (Option GroupBounds)} {prev : Option Nat} {global : Bool}

/-- A sweep that is not past the end looks from where it stands. -/
theorem not_past (hpos : pos ≤ stop) : ¬ byteLength (cs.take stop) < bytePosition cs pos :=
  Nat.not_lt.2 (bytePosition_mono cs hpos)

/-- A search that fails makes the sweep fail. -/
theorem sweepFrom_failed (hm : m.Lawful) (hstop : stop ≤ cs.length) (hpos : pos ≤ stop)
    {e : String} (hlook : look m p cs stop pos = .error e) (fuel : Nat) (last : Option Nat) :
    sweepFrom (m.search p (cs.take stop)) (cs.take stop) global (fuel + 1) (bytePosition cs pos)
      last = { failure := some e } := by
  rw [sweepFrom, if_neg (not_past hpos), search_eq hm hstop hpos, hlook]
  rfl

/-- A search that finds nothing ends it. -/
theorem sweepFrom_ended (hm : m.Lawful) (hstop : stop ≤ cs.length) (hpos : pos ≤ stop)
    (hlook : look m p cs stop pos = .ok none) (fuel : Nat) (last : Option Nat) :
    sweepFrom (m.search p (cs.take stop)) (cs.take stop) global (fuel + 1) (bytePosition cs pos)
      last = {} := by
  rw [sweepFrom, if_neg (not_past hpos), search_eq hm hstop hpos, hlook]
  rfl

/-- The end remembered is that of an empty occurrence exactly when it is so in characters. -/
theorem touches_iff {w : GroupBounds} (hw : w.start ≤ w.stop) (hwstop : w.stop ≤ cs.length)
    (hprev : ∀ q, prev = some q → q ≤ cs.length) :
    (bytePosition cs w.start = bytePosition cs w.stop ∧
      prev.map (bytePosition cs) = some (bytePosition cs w.stop)) ↔
      (w.start = w.stop ∧ prev = some w.start) := by
  rw [bytePosition_inj (Nat.le_trans hw hwstop) hwstop]
  refine and_congr_right ?_
  intro hempty
  rw [hempty]
  cases hq : prev with
  | none => simp
  | some q =>
    rw [Option.map_some, Option.some.injEq, Option.some.injEq, bytePosition_inj (hprev q hq) hwstop]

/-- One step of the sweep that finds an occurrence. -/
theorem sweepFrom_found (hm : m.Lawful) (hstop : stop ≤ cs.length) (hpos : pos ≤ stop)
    (hlook : look m p cs stop pos = .ok (some groups))
    (hprev : ∀ q, prev = some q → q ≤ stop) (fuel : Nat) :
    let w := wholeOf groups
    sweepFrom (m.search p (cs.take stop)) (cs.take stop) global (fuel + 1) (bytePosition cs pos)
        (prev.map (bytePosition cs)) =
      if w.start = w.stop ∧ prev = some w.start then
        .cons (stopAt cs ⟨pos, groups⟩ false) (sweepRest m p cs stop global fuel w.resume prev)
      else
        .cons (stopAt cs ⟨pos, groups⟩ true)
          (if global then sweepRest m p cs stop global fuel w.resume (some w.stop) else {}) := by
  intro w
  have hfit : GroupsFit pos stop groups := look_fits hm hstop pos groups hpos hlook
  obtain ⟨-, horder, hend⟩ := hfit.bounds
  have hsearch : m.search p (cs.take stop) (bytePosition cs pos) =
      .ok (some (spansOf cs groups)) := by
    rw [search_eq hm hstop hpos, hlook]
    rfl
  have htouch := touches_iff horder (Nat.le_trans hend hstop) fun q hq =>
    Nat.le_trans (hprev q hq) hstop
  rw [sweepFrom, if_neg (not_past hpos), hsearch]
  simp only [wholeMatch?_spansOf hfit, byteSpan, following_eq horder hend hstop, sweepRest]
  by_cases ht : w.start = w.stop ∧ prev = some w.start
  · rw [if_pos (htouch.2 ht), if_pos ht]
    by_cases hresume : w.resume ≤ stop
    · simp only [w, if_pos hresume]
      rfl
    · simp only [w, if_neg hresume]
      rfl
  · rw [if_neg (mt htouch.1 ht), if_neg ht]
    by_cases hresume : w.resume ≤ stop
    · simp only [w, if_pos hresume]
      rfl
    · simp only [w, if_neg hresume, ite_self]
      rfl

/-! ## The whole sweep -/

/-- A sweep takes these occurrences, and fails so. -/
structure Sweep.Takes (cs : List Char) (walk : Sweep) (occs : List Occurrence)
    (failure : Option String) : Prop where
  failure : walk.failure = failure
  taken : walk.taken = occs.map (stopAt cs · true)

/-- **The sweep takes the separated occurrences of the chain.** -/
theorem sweepFrom_eq (hm : m.Lawful) (hstop : stop ≤ cs.length) {occs : List Occurrence}
    {failure : Option String} (hchain : Chain (look m p cs stop) stop pos occs failure)
    (hpos : pos ≤ stop) (hprev : ∀ q, prev = some q → q ≤ stop) {fuel : Nat}
    (hfuel : stop + 1 - pos ≤ fuel) :
    (sweepFrom (m.search p (cs.take stop)) (cs.take stop) true fuel (bytePosition cs pos)
      (prev.map (bytePosition cs))).Takes cs (separated Occurrence.whole prev occs) failure := by
  -- along the chain; the fuel left always covers the characters left
  induction hchain generalizing prev fuel with
  | past hpast => exact absurd hpos (Nat.not_le.2 hpast)
  | failed _ hlook =>
    obtain ⟨fuel, rfl⟩ : ∃ n, fuel = n + 1 := ⟨fuel - 1, by omega⟩
    rw [sweepFrom_failed hm hstop hpos hlook]
    exact ⟨rfl, rfl⟩
  | ended _ hlook =>
    obtain ⟨fuel, rfl⟩ : ∃ n, fuel = n + 1 := ⟨fuel - 1, by omega⟩
    rw [sweepFrom_ended hm hstop hpos hlook]
    exact ⟨rfl, rfl⟩
  | @found pos groups occs failure _ hlook hrest ih =>
    obtain ⟨fuel, rfl⟩ : ∃ n, fuel = n + 1 := ⟨fuel - 1, by omega⟩
    have hlt := Chain.lt_resume (look_fits hm hstop) hpos hlook
    obtain ⟨-, -, hend⟩ := (look_fits hm hstop pos groups hpos hlook).bounds
    have htail : ∀ last : Option Nat, (∀ q, last = some q → q ≤ stop) →
        (sweepRest m p cs stop true fuel (wholeOf groups).resume last).Takes cs
          (separated Occurrence.whole last occs) failure := by
      intro last hlast
      by_cases hresume : (wholeOf groups).resume ≤ stop
      · rw [sweepRest, if_pos hresume]
        exact ih hresume hlast (by omega)
      · rw [sweepRest, if_neg hresume]
        obtain ⟨rfl, rfl⟩ := hrest.eq_nil_of_past (Nat.lt_of_not_le hresume)
        exact ⟨rfl, rfl⟩
    simp only [sweepFrom_found hm hstop hpos hlook hprev fuel, if_true]
    by_cases ht : (wholeOf groups).start = (wholeOf groups).stop ∧
        prev = some (wholeOf groups).start
    · -- passed over: what is remembered already is where this one ends
      obtain ⟨hfailure, htaken⟩ := htail prev hprev
      have hskip : separated Occurrence.whole prev (⟨pos, groups⟩ :: occs) =
          separated Occurrence.whole (some (wholeOf groups).stop) occs := if_pos ht
      have hsame : prev = some (wholeOf groups).stop := ht.1 ▸ ht.2
      rw [if_pos ht, hskip, ← hsame]
      exact ⟨hfailure, htaken⟩
    · have hend' : ∀ q, some (wholeOf groups).stop = some q → q ≤ stop := by
        intro q hq
        obtain rfl := Option.some.inj hq
        exact hend
      obtain ⟨hfailure, htaken⟩ := htail _ hend'
      have hkeep : separated Occurrence.whole prev (⟨pos, groups⟩ :: occs) =
          ⟨pos, groups⟩ :: separated Occurrence.whole (some (wholeOf groups).stop) occs := if_neg ht
      rw [if_neg ht, hkeep]
      exact ⟨hfailure, congrArg (stopAt cs ⟨pos, groups⟩ true :: ·) htaken⟩

/-! ## Rebuilding -/

/-- The expansion of a template against the groups of an occurrence. -/
def expansionIn (cs : List Char) (t : Template) (groups : List (Option GroupBounds)) : List Char :=
  t.expand (groupIn cs groups)

/-- **Rebuilding splices the occurrences.** -/
theorem rebuild_eq (cs : List Char) (t : Template) {last : Nat} {occs : List Occurrence}
    (h : Ordered stop last occs) (hfit : ∀ o ∈ occs, GroupsFit o.pos stop o.groups) :
    rebuild (cs.take stop) (fun spans => t.expand (groupText? (cs.take stop) spans))
        (bytePosition cs last) (occs.map (stopAt cs · true)) =
      splice (cs.take stop) Occurrence.whole (fun o => expansionIn cs t o.groups) last occs := by
  induction occs generalizing last with
  | nil =>
    rw [List.map_nil, rebuild, ← bytePosition_take h.le, dropBytes?_bytePosition]
    rfl
  | cons o rest ih =>
    obtain ⟨hlast, horder, hrest⟩ := h
    have hend := Nat.le_trans horder hrest.le
    have hslice := sliceBytes?_bytePosition (cs.take stop) hlast
    rw [bytePosition_take (Nat.le_trans hlast hend), bytePosition_take hend] at hslice
    have hexpand : t.expand (groupText? (cs.take stop) (spansOf cs o.groups)) =
        expansionIn cs t o.groups :=
      congrArg t.expand (funext (groupText?_spansOf (hfit o (List.mem_cons_self ..))))
    rw [List.map_cons, rebuild, splice]
    show (sliceBytes? _ _ (bytePosition cs o.whole.start)).getD [] ++
      (t.expand (groupText? _ (spansOf cs o.groups)) ++
        rebuild _ _ (bytePosition cs o.whole.stop) _) = _
    rw [hslice, hexpand, ih hrest fun o' ho' => hfit o' (List.mem_cons_of_mem o ho')]
    rfl

/-! ## Substitutions -/

/-- **A global substitution splices the separated occurrences of the chain.** -/
theorem substitute_global (hm : m.Lawful) (hstop : stop ≤ cs.length) (hpos : pos ≤ stop)
    {occs : List Occurrence} {failure : Option String}
    (hchain : Chain (look m p cs stop) stop pos occs failure) (t : Template) :
    substitute (m.search p (cs.take stop)) t (cs.take stop) (bytePosition cs pos) true =
      orFailure failure
        (match separated Occurrence.whole none occs with
          | [] => none
          | o :: rest => some {
              rebuilt := splice (cs.take stop) Occurrence.whole
                (fun o => expansionIn cs t o.groups) pos (o :: rest)
              count := (o :: rest).length
              first := spansOf cs o.groups }) := by
  have hfuel : ((dropBytes? (cs.take stop) (bytePosition cs pos)).getD []).length + 1 =
      stop - pos + 1 := by
    rw [← bytePosition_take hpos, dropBytes?_bytePosition, Option.getD_some, List.length_drop,
      List.length_take, Nat.min_eq_left hstop]
  have hnone : ∀ q, none = some q → q ≤ stop := fun q hq => by cases hq
  obtain ⟨hfailure, htaken⟩ :=
    sweepFrom_eq hm hstop hchain hpos hnone (Nat.le_of_eq (Nat.sub_add_comm hpos))
  have hordered := (hchain.ordered (look_fits hm hstop) (Nat.le_refl pos) hpos).separated none
  have hfit : ∀ o ∈ separated Occurrence.whole none occs, GroupsFit o.pos stop o.groups :=
    fun o ho => hchain.groupsFit (look_fits hm hstop) o (mem_of_mem_separated ho)
  unfold substitute sweep
  rw [hfuel]
  dsimp only
  rw [Option.map_none] at hfailure htaken
  rw [hfailure, htaken]
  cases failure with
  | some e => rfl
  | none =>
    cases hks : separated Occurrence.whole none occs with
    | nil => rfl
    | cons o rest =>
      rw [hks] at hordered hfit
      have hrebuild := rebuild_eq cs t hordered hfit
      rw [List.map_cons] at hrebuild
      simp only [List.map_cons, hrebuild, List.length_cons, List.length_map]
      rfl

/-- Where the first search finds nothing, nothing is replaced, with and without `g`. -/
theorem substitute_ended (hm : m.Lawful) (hstop : stop ≤ cs.length) (hpos : pos ≤ stop)
    (hlook : look m p cs stop pos = .ok none) (t : Template) :
    substitute (m.search p (cs.take stop)) t (cs.take stop) (bytePosition cs pos) global =
      .ok none := by
  have hwalk : sweep (m.search p (cs.take stop)) (cs.take stop) (bytePosition cs pos) global = {} :=
    sweepFrom_ended hm hstop hpos hlook _ none
  rw [substitute, hwalk]
  rfl

/-- Where it fails, the substitution fails. -/
theorem substitute_failed (hm : m.Lawful) (hstop : stop ≤ cs.length) (hpos : pos ≤ stop)
    {e : String} (hlook : look m p cs stop pos = .error e) (t : Template) :
    substitute (m.search p (cs.take stop)) t (cs.take stop) (bytePosition cs pos) global =
      .error e := by
  have hwalk : sweep (m.search p (cs.take stop)) (cs.take stop) (bytePosition cs pos) global =
      { failure := some e } := sweepFrom_failed hm hstop hpos hlook _ none
  rw [substitute, hwalk]

/-- **A substitution without `g` splices the first occurrence.** -/
theorem substitute_first (hm : m.Lawful) (hstop : stop ≤ cs.length) (hpos : pos ≤ stop)
    {groups : List (Option GroupBounds)} (hlook : look m p cs stop pos = .ok (some groups))
    (t : Template) :
    substitute (m.search p (cs.take stop)) t (cs.take stop) (bytePosition cs pos) false =
      .ok (some {
        rebuilt := splice (cs.take stop) Occurrence.whole (fun o => expansionIn cs t o.groups) pos
          [⟨pos, groups⟩]
        count := 1
        first := spansOf cs groups }) := by
  have hfit : GroupsFit pos stop groups := look_fits hm hstop pos groups hpos hlook
  obtain ⟨hstart, horder, hend⟩ := hfit.bounds
  have hordered : Ordered stop pos [⟨pos, groups⟩] := ⟨hstart, horder, hend⟩
  have hrebuild := rebuild_eq cs t hordered fun o ho => by
    obtain rfl := List.mem_singleton.1 ho
    exact hfit
  have hnone : ∀ q, none = some q → q ≤ stop := fun q hq => by cases hq
  have hwalk : sweep (m.search p (cs.take stop)) (cs.take stop) (bytePosition cs pos) false =
      { stops := [stopAt cs ⟨pos, groups⟩ true] } := by
    refine (sweepFrom_found hm hstop hpos hlook hnone _).trans ?_
    simp [Sweep.cons]
  have htaken : ({ stops := [stopAt cs ⟨pos, groups⟩ true] } : Sweep).taken =
      [stopAt cs ⟨pos, groups⟩ true] := rfl
  rw [List.map_cons, List.map_nil] at hrebuild
  rw [substitute, hwalk]
  simp only [htaken, hrebuild]
  rfl

end Searches

end PatternSession
