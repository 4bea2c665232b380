import PatternSession.Proofs.Found
import PatternSession.Proofs.Starred

/-!
# From the bytes of a match to its characters

A matcher reports where the groups of a match begin and end in bytes. On their way to the caller
these positions are looked up in a table of byte positions, kept in the handle as positions of
units, read as starts and lengths, and turned back into bytes when the text of a group is cut out.

**Theorem (`match_tells_byte_spans`).** Whatever spans a matcher reports between boundaries of the
visible text, the match says of every group how many characters precede it, how many it has and
which these are, with one entry per group.

**Proof.** A span between boundaries is the span of characters `i` to `j` of the text
(`ByteSpan.Within.exists_byteSpan`), and the table gives `i` and `j` back (`index_byteSpan`). So the
text falls apart before, inside and after the group as its bytes do (`ByteSpan.Cuts`).

Nothing is assumed of the matcher but what it reports in this search.
-/

namespace PatternSession

/-! ## Texts cut at the bytes of a span -/

/-- The text is what precedes the bytes of the span, what they spell, and what follows. -/
structure ByteSpan.Cuts (b : ByteSpan) (cs before inside after : List Char) : Prop where
  text_eq : cs = before ++ inside ++ after
  start_eq : byteLength before = b.start
  stop_eq : byteLength (before ++ inside) = b.stop

/-- The bytes of characters cut the text at these characters. -/
theorem cuts_byteSpan (cs : List Char) {b : GroupBounds} (hb : b.start ≤ b.stop) :
    (byteSpan cs b).Cuts cs (cs.take b.start) ((cs.drop b.start).take (b.stop - b.start))
      (cs.drop b.stop) := by
  have hinside : cs.take b.start ++ (cs.drop b.start).take (b.stop - b.start) =
      cs.take b.stop := by
    rw [← List.take_add, Nat.add_sub_cancel' hb]
  refine ⟨?_, rfl, ?_⟩
  · rw [hinside, List.take_append_drop]
  · rw [hinside]
    rfl

/-! ## What a match tells -/

/-- What a match tells of a group, when the bytes of the group cut the text so. -/
structure Match.TellsGroup (found : Match) (i : Nat) (before inside : List Char) : Prop where
  /-- It begins after the characters that precede it, and is as long as its own are. -/
  capture_eq : found.captures[i]? = some ⟨i, some ⟨before.length, inside.length⟩⟩
  group_eq : found.group? i = some (String.ofList inside)
  /-- It ends inside the bounds. -/
  stop_le : before.length + inside.length ≤ found.bounds.stop

/-- What a match tells of itself, when the bytes of group 0 cut the text so. -/
structure Match.TellsWhole (found : Match) (before inside : List Char) : Prop where
  index_eq : found.index = before.length
  length_eq : found.length = inside.length
  stop_eq : found.stop = before.length + inside.length
  str_eq : found.str = String.ofList inside
  start_le : found.bounds.start ≤ found.index
  index_le : found.index ≤ found.stop
  stop_le : found.stop ≤ found.bounds.stop

/-- What a match tells of the spans that a matcher reports. -/
structure Match.TellsSpans (found : Match) (spans : ByteSpans) : Prop where
  /-- There is one entry per group. -/
  length_eq : found.captures.length = spans.length
  /-- A group that took no part is in its place without a span. -/
  absent : ∀ i : Nat, spans[i]? = some none →
    found.captures[i]? = some ⟨i, none⟩ ∧ found.group? i = none
  /-- A group that took part is told of as its bytes cut the text. -/
  present : ∀ (i : Nat) (b : ByteSpan), spans[i]? = some (some b) →
    ∃ before inside after, b.Cuts found.text.chars before inside after ∧
      found.TellsGroup i before inside
  /-- The match itself is group 0. -/
  whole : ∃ (b : ByteSpan) (before inside after : List Char), spans[0]? = some (some b) ∧
    b.Cuts found.text.chars before inside after ∧ found.TellsWhole before inside

section Groups

variable {text : Text} {pos stop : Nat} {spans : ByteSpans}

theorem wholeOf_eq {groups : List (Option GroupBounds)} {b : GroupBounds}
    (h : groups[0]? = some (some b)) : wholeOf groups = b := by
  cases groups with
  | nil => cases h
  | cons g rest =>
    obtain rfl := Option.some.inj h
    rfl

/-- As many characters precede a group and are in it as its bounds say. -/
theorem lengths_of_bounds {cs : List Char} {b : GroupBounds} (hstop : b.stop ≤ cs.length)
    (hb : b.start ≤ b.stop) :
    (cs.take b.start).length = b.start ∧
      ((cs.drop b.start).take (b.stop - b.start)).length = b.stop - b.start := by
  rw [List.length_take, List.length_take, List.length_drop]
  omega

/-- What a match of these groups tells of one of them. -/
theorem tellsGroup_matchOf {o : Occurrence} {i : Nat} {b : GroupBounds}
    (hgroup : o.groups[i]? = some (some b)) (hb : b.start ≤ b.stop) (hbstop : b.stop ≤ stop)
    (hstop : stop ≤ text.chars.length) :
    (matchOf text stop o).TellsGroup i (text.chars.take b.start)
      ((text.chars.drop b.start).take (b.stop - b.start)) := by
  obtain ⟨hbefore, hinside⟩ := lengths_of_bounds (Nat.le_trans hbstop hstop) hb
  have hcapture : (matchOf text stop o).captures[i]? =
      some ⟨i, some ⟨b.start, b.stop - b.start⟩⟩ := by
    rw [matchOf, capturesOf, List.getElem?_mapIdx, hgroup]
    rfl
  refine ⟨?_, ?_, ?_⟩
  · rw [hbefore, hinside, hcapture]
  · rw [Match.group?, hcapture]
    show some (String.ofList (sliceChars text.chars b.start (b.stop - b.start))) = _
    rw [sliceChars_eq]
  · rw [hbefore, hinside, Nat.add_sub_cancel' hb]
    exact hbstop

/-- What it tells of itself, when the first group is this one. -/
theorem tellsWhole_matchOf {o : Occurrence} (hfit : GroupsFit o.pos stop o.groups)
    {b : GroupBounds} (hgroup : o.groups[0]? = some (some b)) (hstop : stop ≤ text.chars.length) :
    (matchOf text stop o).TellsWhole (text.chars.take b.start)
      ((text.chars.drop b.start).take (b.stop - b.start)) := by
  obtain rfl : o.whole = b := wholeOf_eq hgroup
  obtain ⟨hpos, hb, hbstop⟩ : o.pos ≤ o.whole.start ∧ o.whole.start ≤ o.whole.stop ∧
      o.whole.stop ≤ stop := hfit.bounds
  obtain ⟨hbefore, hinside⟩ := lengths_of_bounds (Nat.le_trans hbstop hstop) hb
  have hindex : (matchOf text stop o).index = o.whole.start := index_matchOf hfit
  have hend : (matchOf text stop o).stop = o.whole.stop := stop_matchOf hfit
  refine ⟨hindex.trans hbefore.symm, (length_matchOf hfit).trans hinside.symm, ?_, ?_, ?_, ?_, ?_⟩
  · rw [hbefore, hinside, Nat.add_sub_cancel' hb, hend]
  · rw [Match.str, span_matchOf hfit, Match.slice, sliceChars_eq]
    rfl
  · rw [hindex]
    exact hpos
  · rw [hindex, hend]
    exact hb
  · rw [hend]
    exact hbstop

/-- **A match of the groups that the table gives tells the spans that were reported.** -/
theorem tellsSpans_matchOf (hstop : stop ≤ text.chars.length) (hpos : pos ≤ stop)
    (hwithin : ∀ b, some b ∈ spans → b.Within (text.chars.take stop))
    (hwhole : ∃ w rest, spans = some w :: rest ∧ bytePosition text.chars pos ≤ w.start) :
    (matchOf text stop ⟨pos, groupsIn text.chars spans⟩).TellsSpans spans := by
  have hfit := groupsFit_groupsIn hstop hpos hwithin hwhole
  -- a span that was reported, and what the table makes of it
  have hpart : ∀ (i : Nat) (s : ByteSpan), spans[i]? = some (some s) → ∃ b : GroupBounds,
      b.start ≤ b.stop ∧ b.stop ≤ stop ∧ s = byteSpan text.chars b ∧
        (groupsIn text.chars spans)[i]? = some (some b) := by
    intro i s hi
    obtain ⟨b, hb, hbstop, rfl⟩ :=
      (hwithin s (List.mem_of_getElem? hi)).exists_byteSpan hstop
    refine ⟨b, hb, hbstop, rfl, ?_⟩
    have hindex := index_byteSpan hb (Nat.le_trans hbstop hstop)
    simp only [groupsIn, Haystack.groups, List.getElem?_map, hi, Option.map_some, hindex]
  constructor
  · rw [matchOf, capturesOf, List.length_mapIdx, groupsIn, Haystack.groups, List.length_map]
  · intro i hi
    have hcapture : (matchOf text stop ⟨pos, groupsIn text.chars spans⟩).captures[i]? =
        some ⟨i, none⟩ := by
      rw [matchOf, capturesOf, List.getElem?_mapIdx, groupsIn, Haystack.groups,
        List.getElem?_map, hi]
      rfl
    refine ⟨hcapture, ?_⟩
    rw [Match.group?, hcapture]
    rfl
  · intro i s hi
    obtain ⟨b, hb, hbstop, rfl, hgroup⟩ := hpart i s hi
    exact ⟨_, _, _, cuts_byteSpan text.chars hb, tellsGroup_matchOf hgroup hb hbstop hstop⟩
  · obtain ⟨w, rest, hspans, -⟩ := hwhole
    have hw : spans[0]? = some (some w) := by rw [hspans, List.getElem?_cons_zero]
    obtain ⟨b, hb, hbstop, rfl, hgroup⟩ := hpart 0 w hw
    exact ⟨_, _, _, _, hw, cuts_byteSpan text.chars hb, tellsWhole_matchOf hfit hgroup hstop⟩

end Groups

/-! ## The theorem -/

open Bundled

variable {m : Matcher} {p : m.Pattern}

/-- A search is answered with what is found within its bounds, when that fits them. -/
theorem Session.Sound.search_answer_of_fits {setup : Setup Limits} {s : Session Unit (Handle m)}
    {supply : Supply} (hs : s.Sound m setup p supply) (hd : s.disposed = false) {text : Text}
    {start : Nat} {len : Option Nat} {bounds : Bounds}
    (hbounds : Session.resolveBounds text.chars.length start len = .ok bounds)
    (hfit : ∀ groups, look m p text.chars bounds.stop bounds.start = .ok (some groups) →
      GroupsFit bounds.start bounds.stop groups) :
    (s.search supply text start len).answer = searchAnswer m p text bounds := by
  have husual : (Request.mk text start len none).Usual setup.options := by
    intro code template h
    cases h
  rw [Session.search_eq, Turn.map, (Request.attempt_sound hs husual hd).1]
  simp only [Request.answerOn, hbounds, Except.map, Except.bind, Request.outcome]
  exact readMatch_searchOutcome_of_fits hfit

/-- **A match tells in characters what the matcher reports in bytes.** In every session and at every
time, for every text: when the matcher reports these spans for the text up to the end of the bounds,
from their start on, and the spans lie between boundaries and the first one begins inside the
bounds, then the search finds a match, in this text and with these bounds, that tells the spans. -/
theorem match_tells_byte_spans (m : Matcher) {setup : Setup Limits}
    {s : Session Unit (Handle m)} {supply : Supply} (hs : setup.Reaches m s supply)
    {p : m.Pattern} (hp : CompilesTo m setup.config setup.pattern setup.options p) (text : Text)
    (start : Nat) (len : Option Nat) {bounds : Bounds}
    (hbounds : Session.resolveBounds text.chars.length start len = .ok bounds)
    {spans : ByteSpans}
    (hsearch : m.search p (text.chars.take bounds.stop)
      (byteLength (text.chars.take bounds.start)) = .ok (some spans))
    (hwithin : ∀ b, some b ∈ spans → b.Within (text.chars.take bounds.stop))
    (hwhole : ∃ w rest, spans = some w :: rest ∧
      byteLength (text.chars.take bounds.start) ≤ w.start) :
    ∃ found : Match, (s.search supply text start len).answer = .ok (some found) ∧
      found.text = text ∧ found.bounds = bounds ∧ found.TellsSpans spans := by
  obtain ⟨-, hpos, hstop⟩ := resolveBounds_eq_ok hbounds
  have hlook : look m p text.chars bounds.stop bounds.start =
      .ok (some (groupsIn text.chars spans)) := by
    rw [look, bytePosition, hsearch]
    rfl
  have hfit := groupsFit_groupsIn hstop hpos hwithin hwhole
  refine ⟨matchOf text bounds.stop ⟨bounds.start, groupsIn text.chars spans⟩, ?_, rfl, rfl,
    tellsSpans_matchOf hstop hpos hwithin hwhole⟩
  rw [(hs.sound_of_compiles hp).search_answer_of_fits hs.live hbounds]
  · rw [searchAnswer, hlook]
    rfl
  · intro groups hgroups
    rw [hlook] at hgroups
    obtain rfl := Option.some.inj (Except.ok.inj hgroups)
    exact hfit

/-- A session for runs of a letter, opened and asked for another text before. -/
def askedElsewhere : List (Family.Event Limits) :=
  [.opened ⟨{}, "b*", ""⟩, .asked 0 (.find ⟨1, "bb"⟩)]

/-- Two letters after five bytes are two letters after two characters. A third one is past the end
of the bounds. -/
theorem match_tells_byte_spans_past_wide_characters :
    ∃ s found, (Family.after (bundled starred) () askedElsewhere).members[0]? =
        some (⟨{}, "b*", ""⟩, s) ∧
      (s.findIn (Family.after (bundled starred) () askedElsewhere).supply ⟨2, "é€bbb"⟩ 2 2).answer =
        .ok (some found) ∧
      found.TellsSpans [some ⟨5, 7⟩] := by
  have hmember : (Family.after (bundled starred) () askedElsewhere).members[0]? =
      some (⟨{}, "b*", ""⟩, _) := rfl
  have hs : Setup.Reaches starred ⟨{}, "b*", ""⟩ _ _ := ⟨askedElsewhere, 0, hmember, rfl, rfl⟩
  have hb : CompilesTo starred {} "b*" "" 'b' := ⟨_, rfl⟩
  have hwithin : ∀ b, some b ∈ ([some ⟨5, 7⟩] : ByteSpans) → b.Within ("é€bbb".toList.take 4) := by
    intro b hmem
    obtain rfl := Option.some.inj (List.mem_singleton.1 hmem)
    exact Option.isSome_iff_exists.2 ⟨['b', 'b'], by decide⟩
  have hbounds : Session.resolveBounds "é€bbb".toList.length 2 (some 2) = .ok ⟨2, 4⟩ := rfl
  obtain ⟨found, hanswer, -, -, htells⟩ :=
    match_tells_byte_spans starred hs hb ⟨2, "é€bbb"⟩ 2 (some 2) hbounds rfl hwithin
      ⟨⟨5, 7⟩, [], rfl, by decide⟩
  exact ⟨_, found, hmember, hanswer, htells⟩

end PatternSession
