import PatternSession.Proofs.SingleReplacement

/-!
# A bounded search is a search of the truncated text

A search within bounds is given the whole text and the end of the bounds. It may look at everything
before the bounds, and at nothing past their end.

**Theorem (`bounded_search_is_truncated`).** Searching a text within bounds and searching the text
cut at the end of the bounds give the same answers: the searches themselves, the next matches after
them however far they are followed, and the results of the matches for every template. So two texts
that agree up to the end of the bounds cannot be told apart within them.

**Proof.** What the matcher sees is the text up to the end of the bounds, and what it reports lies
in there, so its searches cannot depend on the rest (`look_congr`). The end of the bounds is carried
along from match to match, and the two sides keep finding the same occurrences (`Parallel`), from
which matches and results are built alike.
-/

namespace PatternSession

open Bundled

variable {m : Matcher} {p : m.Pattern}

/-! ## Searches see the text up to the end of the bounds -/

section Visible

variable {cs cs' : List Char} {pos stop : Nat}

theorem bytePosition_congr (hsame : cs.take stop = cs'.take stop) (hpos : pos ≤ stop) :
    bytePosition cs pos = bytePosition cs' pos := by
  rw [← bytePosition_take hpos, hsame, bytePosition_take hpos]

theorem spansOf_congr (hsame : cs.take stop = cs'.take stop)
    {groups : List (Option GroupBounds)} (hfit : GroupsFit pos stop groups) :
    spansOf cs groups = spansOf cs' groups := by
  refine List.map_congr_left ?_
  intro g hg
  cases g with
  | none => rfl
  | some b =>
    obtain ⟨hb, hbstop⟩ := hfit.inside _ hg b rfl
    rw [Option.map_some, Option.map_some, byteSpan, byteSpan,
      bytePosition_congr hsame (Nat.le_trans hb hbstop), bytePosition_congr hsame hbstop]

/-- The text of a group does not depend on what follows. -/
theorem groupIn_congr (hsame : cs.take stop = cs'.take stop)
    {groups : List (Option GroupBounds)} (hfit : GroupsFit pos stop groups) (i : Nat) :
    groupIn cs groups i = groupIn cs' groups i := by
  rw [← groupText?_spansOf hfit, ← groupText?_spansOf hfit, hsame, spansOf_congr hsame hfit]

/-- **What a search finds does not depend on what follows.** -/
theorem look_congr (hm : m.Lawful) (hsame : cs.take stop = cs'.take stop)
    (hstop : stop ≤ cs.length) (hstop' : stop ≤ cs'.length) (hpos : pos ≤ stop) :
    look m p cs stop pos = look m p cs' stop pos := by
  have hsearch := search_eq (p := p) hm hstop hpos
  rw [hsame, bytePosition_congr hsame hpos] at hsearch
  have hlook' : look m p cs' stop pos =
      (m.search p (cs'.take stop) (bytePosition cs' pos)).map (·.map (groupsIn cs')) := rfl
  rw [hlook', hsearch]
  rcases hlook : look m p cs stop pos with e | (_ | groups)
  · rfl
  · rfl
  · have hfit : GroupsFit pos stop groups := look_fits hm hstop pos groups hpos hlook
    simp only [Except.map, Option.map_some]
    rw [spansOf_congr hsame hfit, groupsIn_spansOf hfit hstop']

end Visible

/-! ## Two texts at once -/

/-- The texts agree up to `stop`. -/
structure AgreeUpTo (text text' : Text) (stop : Nat) : Prop where
  chars : text.chars.take stop = text'.chars.take stop
  left : stop ≤ text.chars.length
  right : stop ≤ text'.chars.length

/-- Answers of the same kind, with related matches. -/
inductive Related (R : Match → Match → Prop) :
    Except Error (Option Match) → Except Error (Option Match) → Prop
  | failed (e : Error) : Related R (.error e) (.error e)
  | nothing : Related R (.ok none) (.ok none)
  | found {a b : Match} : R a b → Related R (.ok (some a)) (.ok (some b))

theorem Related.imp {R R' : Match → Match → Prop} {x y : Except Error (Option Match)}
    (h : Related R x y) (himp : ∀ a b, R a b → R' a b) : Related R' x y := by
  cases h with
  | failed e => exact .failed e
  | nothing => exact .nothing
  | found hab => exact .found (himp _ _ hab)

/-- The same occurrence, found in both texts up to the same end. -/
inductive Parallel (m : Matcher) (p : m.Pattern) (text text' : Text) (stop : Nat) :
    Match → Match → Prop
  | of (o : Occurrence) : o.pos ≤ stop → look m p text.chars stop o.pos = .ok (some o.groups) →
    Parallel m p text text' stop (matchOf text stop o) (matchOf text' stop o)

section TwoTexts

variable {text text' : Text} {stop : Nat} {a b : Match}

/-- Searches within the same bounds find the same occurrence. -/
theorem searchAnswer_related (hm : m.Lawful) (hagree : AgreeUpTo text text' stop) {pos : Nat}
    (hpos : pos ≤ stop) :
    Related (Parallel m p text text' stop) (searchAnswer m p text ⟨pos, stop⟩)
      (searchAnswer m p text' ⟨pos, stop⟩) := by
  have hsame := look_congr (p := p) hm hagree.chars hagree.left hagree.right hpos
  simp only [searchAnswer, ← hsame]
  rcases hlook : look m p text.chars stop pos with e | (_ | groups)
  · exact .failed _
  · exact .nothing
  · exact .found (.of ⟨pos, groups⟩ hpos hlook)

variable {setup : Setup Limits} {s s' : Session Unit (Handle m)} {supply supply' : Supply}

/-- Going on after the same occurrence finds the same one next. -/
theorem Parallel.next (hm : m.Lawful) (hagree : AgreeUpTo text text' stop)
    (hs : s.Sound m setup p supply) (hd : s.disposed = false) (hs' : s'.Sound m setup p supply')
    (hd' : s'.disposed = false) (h : Parallel m p text text' stop a b) :
    Related (Parallel m p text text' stop) (a.next s supply).answer
      (b.next s' supply').answer := by
  cases h with
  | of o hpos hlook =>
    have hfit : GroupsFit o.pos stop o.groups := look_fits hm hagree.left _ _ hpos hlook
    have hstop : (matchOf text stop o).bounds.stop ≤ text.chars.length := hagree.left
    have hstop' : (matchOf text' stop o).bounds.stop ≤ text'.chars.length := hagree.right
    rw [hs.next_answer hm hd hstop, hs'.next_answer hm hd' hstop', resumeAt_matchOf hfit,
      resumeAt_matchOf hfit]
    show Related _ (if stop < o.whole.resume then _ else searchAnswer m p text ⟨_, stop⟩)
      (if stop < o.whole.resume then _ else searchAnswer m p text' ⟨_, stop⟩)
    by_cases hpast : stop < o.whole.resume
    · rw [if_pos hpast, if_pos hpast]
      exact .nothing
    · rw [if_neg hpast, if_neg hpast]
      exact searchAnswer_related hm hagree (Nat.not_lt.1 hpast)

/-- The groups of the same occurrence have the same texts. -/
theorem Parallel.group?_eq (hm : m.Lawful) (hagree : AgreeUpTo text text' stop)
    (h : Parallel m p text text' stop a b) (i : Nat) : a.group? i = b.group? i := by
  cases h with
  | of o hpos hlook =>
    have hfit : GroupsFit o.pos stop o.groups := look_fits hm hagree.left _ _ hpos hlook
    have hchars : ((matchOf text stop o).group? i).map String.toList =
        ((matchOf text' stop o).group? i).map String.toList := by
      rw [group?_matchOf, group?_matchOf, groupIn_congr hagree.chars hfit]
    exact Option.map_injective (fun _ _ => String.toList_injective) hchars

/-- The results of the same occurrence are the same. -/
theorem Parallel.result_eq (hm : m.Lawful) (hagree : AgreeUpTo text text' stop)
    (hs : s.Sound m setup p supply) (hd : s.disposed = false) (hs' : s'.Sound m setup p supply')
    (hd' : s'.disposed = false) (h : Parallel m p text text' stop a b) (template : String) :
    (a.result s supply template).answer = (b.result s' supply' template).answer := by
  have hgroups : a.group? = b.group? := funext (h.group?_eq hm hagree)
  cases h with
  | of o hpos hlook =>
    have hlook' : look m p text'.chars stop o.pos = .ok (some o.groups) := by
      rw [← look_congr hm hagree.chars hagree.left hagree.right hpos]
      exact hlook
    rw [hs.result_answer hm hd ⟨text, stop, o, rfl, hpos, hagree.left, hlook⟩,
      hs'.result_answer hm hd' ⟨text', stop, o, rfl, hpos, hagree.right, hlook'⟩, hgroups]

end TwoTexts

/-! ## Following the matches -/

/-- The answer `count` matches further on: the next match, the next after that, and so on for as
long as there is one. -/
def Turn.follow {S H : Type} :
    (count : Nat) → Turn S H (Except Error (Option Match)) → Turn S H (Except Error (Option Match))
  | 0, t => t
  | count + 1, t =>
    match t.answer with
    | .ok (some found) => follow count (found.next t.session t.supply)
    | _ => t

/-- The matches cannot be told apart: they have the same spans and bounds and the same texts of
groups, and the same results for every template, in every session of the setup that is alive. -/
structure Match.Alike (m : Matcher) (setup : Setup Limits) (a b : Match) : Prop where
  captures : a.captures = b.captures
  bounds : a.bounds = b.bounds
  groups : ∀ i, a.group? i = b.group? i
  results : ∀ s supply s' supply', setup.Reaches m s supply → setup.Reaches m s' supply' →
    ∀ template, (a.result s supply template).answer = (b.result s' supply' template).answer

section Follow

variable {setup : Setup Limits} {text text' : Text} {stop : Nat}

/-- Matches of the same occurrence cannot be told apart. -/
theorem Parallel.alike (hm : m.Lawful) (hagree : AgreeUpTo text text' stop)
    (hp : CompilesTo m setup.config setup.pattern setup.options p) {a b : Match}
    (h : Parallel m p text text' stop a b) : a.Alike m setup b := by
  constructor
  · cases h
    rfl
  · cases h
    rfl
  · exact h.group?_eq hm hagree
  · intro s supply s' supply' hs hs' template
    exact h.result_eq hm hagree (hs.sound_of_compiles hp) hs.live (hs'.sound_of_compiles hp)
      hs'.live template

/-- **The two sides keep finding the same occurrences.** -/
theorem follow_related (hm : m.Lawful) (hagree : AgreeUpTo text text' stop)
    (hp : CompilesTo m setup.config setup.pattern setup.options p) (count : Nat)
    {t t' : Turn Unit (Handle m) (Except Error (Option Match))}
    (ht : setup.Reaches m t.session t.supply) (ht' : setup.Reaches m t'.session t'.supply)
    (h : Related (Parallel m p text text' stop) t.answer t'.answer) :
    Related (Parallel m p text text' stop) (t.follow count).answer (t'.follow count).answer := by
  induction count generalizing t t' with
  | zero => exact h
  | succ count ih =>
    generalize hx : t.answer = x at h
    generalize hy : t'.answer = y at h
    cases h with
    | failed e =>
      simp only [Turn.follow, hx, hy]
      exact .failed e
    | nothing =>
      simp only [Turn.follow, hx, hy]
      exact .nothing
    | @found a b hab =>
      have hgo : Operation.nextMatch a ≠ .dispose := by simp
      have hgo' : Operation.nextMatch b ≠ .dispose := by simp
      simp only [Turn.follow, hx, hy]
      exact ih (ht.run hgo) (ht'.run hgo')
        (hab.next hm hagree (ht.sound_of_compiles hp) ht.live (ht'.sound_of_compiles hp) ht'.live)

/-- So no number of steps tells them apart. -/
theorem follow_alike (hm : m.Lawful) (hagree : AgreeUpTo text text' stop)
    (hp : CompilesTo m setup.config setup.pattern setup.options p)
    {t t' : Turn Unit (Handle m) (Except Error (Option Match))}
    (ht : setup.Reaches m t.session t.supply) (ht' : setup.Reaches m t'.session t'.supply)
    (h : Related (Parallel m p text text' stop) t.answer t'.answer) (count : Nat) :
    Related (Match.Alike m setup) (t.follow count).answer (t'.follow count).answer :=
  (follow_related hm hagree hp count ht ht' h).imp fun _ _ hab => hab.alike hm hagree hp

end Follow

/-! ## The theorem -/

section Searches

variable {setup : Setup Limits} {s : Session Unit (Handle m)} {supply : Supply} {text : Text}
  {start len : Nat}

/-- A search of a part of the text is not rejected. -/
theorem Session.Sound.findIn_answer (hm : m.Lawful) (hs : s.Sound m setup p supply)
    (hd : s.disposed = false) (hlen : start + len ≤ text.chars.length) :
    (s.findIn supply text start len).answer = searchAnswer m p text ⟨start, start + len⟩ := by
  have hbounds : Session.resolveBounds text.chars.length start (some len) =
      .ok ⟨start, start + len⟩ := by
    have h := resolveBounds_some (Nat.le_add_right start len) hlen
    rwa [Nat.add_sub_cancel_left] at h
  rw [Session.findIn, hs.search_answer hm hd, hbounds]
  rfl

end Searches

/-- **A bounded search is a search of the truncated text,** and two texts that agree up to the end
of the bounds cannot be told apart by searching within them, by following the matches, or by their
results. -/
theorem bounded_search_is_truncated (m : Matcher) (hm : m.Lawful) {setup : Setup Limits}
    {s s' : Session Unit (Handle m)} {supply supply' : Supply} (hs : setup.Reaches m s supply)
    (hs' : setup.Reaches m s' supply') (text text' : Text) {start len : Nat}
    (hlen : start + len ≤ text.chars.length) (count : Nat) :
    (text'.chars = text.chars.take (start + len) →
      Related (Match.Alike m setup) ((s.findIn supply text start len).follow count).answer
        ((s'.findAt supply' text' start).follow count).answer) ∧
    (start + len ≤ text'.chars.length →
      text'.chars.take (start + len) = text.chars.take (start + len) →
      Related (Match.Alike m setup) ((s.findIn supply text start len).follow count).answer
        ((s'.findIn supply' text' start len).follow count).answer) := by
  obtain ⟨p, hsound⟩ := hs.sound
  have hp := hsound.compiles
  have hsound' := hs'.sound_of_compiles hp
  have hsearching : Operation.findIn text start len ≠ .dispose := by simp
  have hstart : start ≤ start + len := Nat.le_add_right start len
  constructor
  · intro htext
    have hlength : text'.chars.length = start + len := by
      rw [htext, List.length_take, Nat.min_eq_left hlen]
    have hagree : AgreeUpTo text text' (start + len) :=
      ⟨by rw [htext, List.take_take, Nat.min_self], hlen, Nat.le_of_eq hlength.symm⟩
    have hother : Operation.findAt text' start ≠ .dispose := by simp
    have hfirst : Related (Parallel m p text text' (start + len))
        (s.findIn supply text start len).answer (s'.findAt supply' text' start).answer := by
      rw [hsound.findIn_answer hm hs.live hlen,
        hsound'.findAt_answer hm hs'.live (Nat.le_trans hstart hagree.right), hlength]
      exact searchAnswer_related hm hagree hstart
    exact follow_alike hm hagree hp (hs.run hsearching) (hs'.run hother) hfirst count
  · intro hlen' htext
    have hagree : AgreeUpTo text text' (start + len) := ⟨htext.symm, hlen, hlen'⟩
    have hother : Operation.findIn text' start len ≠ .dispose := by simp
    have hfirst : Related (Parallel m p text text' (start + len))
        (s.findIn supply text start len).answer (s'.findIn supply' text' start len).answer := by
      rw [hsound.findIn_answer hm hs.live hlen, hsound'.findIn_answer hm hs'.live hlen']
      exact searchAnswer_related hm hagree hstart
    exact follow_alike hm hagree hp (hs.run hsearching) (hs'.run hother) hfirst count

/-- A session that has searched a longer text to its end. -/
def searchedBeyond : List (Family.Event Limits) :=
  [.opened ⟨{}, "b*", "g"⟩, .asked 0 (.findAt ⟨1, "aébbbb"⟩ 2)]

/-- In `aébbc` the two characters from the second on end in the middle of the run. -/
theorem bounded_search_is_truncated_inside_run :
    ∃ s, (Family.after (bundled starred) () searchedBeyond).members[0]? =
          some (⟨{}, "b*", "g"⟩, s) ∧
      ∃ supply, supply = (Family.after (bundled starred) () searchedBeyond).supply ∧
        ((s.findIn supply ⟨2, "aébbc"⟩ 1 2).follow 1).answer =
          .ok (some ⟨[⟨0, some ⟨2, 1⟩⟩], ⟨2, "aébbc"⟩, ⟨2, 3⟩⟩) ∧
        Related (Match.Alike starred ⟨{}, "b*", "g"⟩)
          ((s.findIn supply ⟨2, "aébbc"⟩ 1 2).follow 1).answer
          ((s.findAt supply ⟨3, "aéb"⟩ 1).follow 1).answer ∧
        Related (Match.Alike starred ⟨{}, "b*", "g"⟩)
          ((s.findIn supply ⟨2, "aébbc"⟩ 1 2).follow 1).answer
          ((s.findIn supply ⟨3, "aébéé"⟩ 1 2).follow 1).answer := by
  have hmember : (Family.after (bundled starred) () searchedBeyond).members[0]? =
      some (⟨{}, "b*", "g"⟩, _) := rfl
  have hs : Setup.Reaches starred ⟨{}, "b*", "g"⟩ _ _ := ⟨searchedBeyond, 0, hmember, rfl, rfl⟩
  have hlen : 1 + 2 ≤ (Text.mk 2 "aébbc").chars.length := by decide
  have hcut := bounded_search_is_truncated starred starred_lawful hs hs ⟨2, "aébbc"⟩ ⟨3, "aéb"⟩
    hlen 1
  have hother := bounded_search_is_truncated starred starred_lawful hs hs ⟨2, "aébbc"⟩
    ⟨3, "aébéé"⟩ hlen 1
  exact ⟨_, hmember, _, rfl, rfl, hcut.1 (by decide), hother.2 (by decide) (by decide)⟩

end PatternSession
