import PatternSession.Haystack
import PatternSession.Proofs.Positions

/-!
# Decoded texts, in characters

A `Haystack` works in bytes. Here it is read in characters: `Haystack.ofChars` is the haystack of a
text, its conversions are `bytePosition` and its inverse, and what it shows of a range are the
characters up to the end of the range.

**Lawful searches.** `look` is a search of a matcher by character positions. When the matcher is
lawful, the groups it reports (`GroupsFit`) lie between characters of the visible text, the whole
match begins at or after the start, and nothing is lost by going from bytes to characters
(`Matcher.Lawful.spans_eq`).
-/

namespace PatternSession

/-! ## Units and characters -/

@[simp] theorem charOfUnit?_val (c : Char) : charOfUnit? c.val = some c := by
  rw [charOfUnit?, dif_pos c.valid]

@[simp] theorem decodeUnits?_unitsOf (cs : List Char) : decodeUnits? (unitsOf cs) = some cs := by
  induction cs with
  | nil => rfl
  | cons c cs ih =>
    rw [decodeUnits?, unitsOf] at ih
    simp [decodeUnits?, unitsOf, ih]

theorem decodeUnits?_cons (u : CodeUnit) (units : List CodeUnit) :
    decodeUnits? (u :: units) =
      (charOfUnit? u).bind fun c => (decodeUnits? units).map (c :: ·) := by
  rw [decodeUnits?, List.mapM_cons]
  cases charOfUnit? u with
  | none => rfl
  | some c =>
    show (decodeUnits? units >>= fun cs => pure (c :: cs)) = _
    cases decodeUnits? units <;> rfl

/-- Units that are all scalar values are the units of some characters. -/
theorem exists_unitsOf_eq {units : List CodeUnit} (h : ∀ u ∈ units, u.isValidChar) :
    ∃ cs, unitsOf cs = units := by
  induction units with
  | nil => exact ⟨[], rfl⟩
  | cons u units ih =>
    rw [List.forall_mem_cons] at h
    obtain ⟨cs, rfl⟩ := ih h.2
    exact ⟨⟨u, h.1⟩ :: cs, rfl⟩

/-- A single unit that is no scalar value spoils the decoding. -/
theorem decodeUnits?_eq_none {units : List CodeUnit} (h : ∃ u ∈ units, ¬u.isValidChar) :
    decodeUnits? units = none := by
  obtain ⟨u, hmem, hu⟩ := h
  induction units with
  | nil => cases hmem
  | cons v units ih =>
    rw [decodeUnits?_cons]
    rcases List.mem_cons.1 hmem with rfl | hmem
    · rw [charOfUnit?, dif_neg hu, Option.bind_none]
    · rw [ih hmem]
      cases charOfUnit? v <;> rfl

@[simp] theorem length_unitsOf (cs : List Char) : (unitsOf cs).length = cs.length :=
  List.length_map ..

theorem unitsOf_take (cs : List Char) (n : Nat) : (unitsOf cs).take n = unitsOf (cs.take n) :=
  List.map_take.symm

theorem unitsOf_drop (cs : List Char) (n : Nat) : (unitsOf cs).drop n = unitsOf (cs.drop n) :=
  List.map_drop.symm

@[simp] theorem unitsOf_eq_nil_iff {cs : List Char} : unitsOf cs = [] ↔ cs = [] :=
  List.map_eq_nil_iff

/-! ## The haystack of a text -/

namespace Haystack

/-- The haystack of a text copy. -/
def ofChars (generation : Nat) (cs : List Char) : Haystack :=
  ⟨generation, cs, charStarts 0 cs ++ [byteLength cs]⟩

variable (generation : Nat) (cs : List Char)

theorem build?_eq {r : TextRange} (h : r.units = unitsOf cs) :
    build? r = some (ofChars r.generation cs) := by
  rw [build?, h, decodeUnits?_unitsOf]
  rfl

theorem getElem?_offsets {i : Nat} (h : i ≤ cs.length) :
    (ofChars generation cs).offsets[i]? = some (bytePosition cs i) := by
  rcases Nat.lt_or_eq_of_le h with h | rfl
  · rw [ofChars, List.getElem?_append_left (by simpa using h), getElem?_charStarts, if_pos h,
      Nat.zero_add]
  · rw [ofChars, List.getElem?_append_right (by simp), length_charStarts, Nat.sub_self,
      bytePosition_of_length_le (Nat.le_refl _)]
    rfl

@[simp] theorem byte_ofChars (i : Nat) : (ofChars generation cs).byte i = bytePosition cs i := by
  rw [byte]
  by_cases h : i ≤ cs.length
  · rw [getElem?_offsets generation cs h, Option.getD_some]
  · have hlen : (ofChars generation cs).offsets.length ≤ i := by
      simp only [ofChars, List.length_append, length_charStarts, List.length_singleton]
      omega
    rw [List.getElem?_eq_none hlen, Option.getD_none, bytePosition_of_length_le (by omega)]
    rfl

@[simp] theorem index_ofChars {i : Nat} (h : i ≤ cs.length) :
    (ofChars generation cs).index (bytePosition cs i) = i := by
  have hlen : (ofChars generation cs).offsets.length = cs.length + 1 := by
    simp [ofChars]
  have hget : ∀ j (hj : j < (ofChars generation cs).offsets.length),
      (ofChars generation cs).offsets[j] = bytePosition cs j := by
    intro j hj
    have := getElem?_offsets generation cs (i := j) (by omega)
    rwa [List.getElem?_eq_getElem hj, Option.some.injEq] at this
  rw [index, List.findIdx_eq (by omega)]
  -- the first position that is not below the one looked for, by strict growth
  constructor
  · rw [hget]
    simp
  · intro j hj
    rw [hget, decide_eq_false_iff_not, Nat.not_le]
    exact bytePosition_strictMono hj h

@[simp] theorem visible_ofChars (r : TextRange) :
    (ofChars generation cs).visible r = cs.take r.bounds.stop := by
  have := sliceBytes?_bytePosition cs (Nat.zero_le r.bounds.stop)
  rw [bytePosition_zero, List.drop_zero, Nat.sub_zero] at this
  rw [visible, byte_ofChars]
  show (sliceBytes? cs 0 _).getD [] = _
  rw [this, Option.getD_some]

/-- The haystack at hand, if it serves the range, is the one of the range's text. -/
def Fits (cached : Option Haystack) (r : TextRange) (cs : List Char) : Prop :=
  r.units = unitsOf cs ∧
    ∀ hay, cached = some hay → hay.serves r = true → hay = ofChars r.generation cs

theorem Fits.prepare?_eq {cached : Option Haystack} {r : TextRange} {cs : List Char}
    (h : Fits cached r cs) : prepare? cached r = some (ofChars r.generation cs) := by
  cases cached with
  | none => exact build?_eq cs h.1
  | some hay =>
    rw [prepare?]
    split
    next hserves => rw [h.2 hay rfl hserves]
    next => exact build?_eq cs h.1

end Haystack

/-! ## Searching by characters -/

/-- The groups of a match in a text, as character positions. -/
def groupsIn (cs : List Char) (spans : ByteSpans) : List (Option GroupBounds) :=
  (Haystack.ofChars 0 cs).groups spans

theorem groups_ofChars (generation : Nat) (cs : List Char) (spans : ByteSpans) :
    (Haystack.ofChars generation cs).groups spans = groupsIn cs spans := rfl

/-- The bytes of a group. -/
def byteSpan (cs : List Char) (b : GroupBounds) : ByteSpan :=
  ⟨bytePosition cs b.start, bytePosition cs b.stop⟩

/-- The first match at or after character `pos` of the text up to `stop`. -/
def look (m : Matcher) (p : m.Pattern) (cs : List Char) (stop pos : Nat) :
    Except String (Option (List (Option GroupBounds))) :=
  (m.search p (cs.take stop) (bytePosition cs pos)).map (·.map (groupsIn cs))

/-- The groups of a match found from `pos` on in a text up to `stop`. -/
structure GroupsFit (pos stop : Nat) (groups : List (Option GroupBounds)) : Prop where
  /-- The whole match took part and begins at or after the start position. -/
  whole : ∃ w rest, groups = some w :: rest ∧ pos ≤ w.start
  /-- Every group lies inside the visible text. -/
  inside : ∀ g ∈ groups, ∀ b, g = some b → b.start ≤ b.stop ∧ b.stop ≤ stop

section Spans

variable {cs : List Char} {pos stop : Nat} {spans : ByteSpans}

/-- A span between boundaries of the visible text is the span of characters of the text. -/
theorem ByteSpan.Within.exists_byteSpan (hstop : stop ≤ cs.length) {s : ByteSpan}
    (h : s.Within (cs.take stop)) :
    ∃ b : GroupBounds, b.start ≤ b.stop ∧ b.stop ≤ stop ∧ s = byteSpan cs b := by
  obtain ⟨i, j, hij, hj, hi', hj'⟩ := sliceBytes?_isSome_iff.1 h
  rw [List.length_take, Nat.min_eq_left hstop] at hj
  rw [bytePosition_take (Nat.le_trans hij hj)] at hi'
  rw [bytePosition_take hj] at hj'
  refine ⟨⟨i, j⟩, hij, hj, ?_⟩
  obtain ⟨start, stop⟩ := s
  rw [byteSpan]
  exact congr (congrArg ByteSpan.mk hi') hj'

/-- The character position of a span's end is read back from its bytes. -/
theorem index_byteSpan {b : GroupBounds} (hb : b.start ≤ b.stop) (hstop : b.stop ≤ cs.length) :
    (⟨(Haystack.ofChars 0 cs).index (byteSpan cs b).start,
      (Haystack.ofChars 0 cs).index (byteSpan cs b).stop⟩ : GroupBounds) = b := by
  rw [byteSpan, Haystack.index_ofChars 0 cs (Nat.le_trans hb hstop),
    Haystack.index_ofChars 0 cs hstop]

/-- Spans between boundaries of the visible text are groups that lie inside it. -/
theorem groupsFit_groupsIn (hstop : stop ≤ cs.length) (hpos : pos ≤ stop)
    (hwithin : ∀ s, some s ∈ spans → s.Within (cs.take stop))
    (hwhole : ∃ w rest, spans = some w :: rest ∧ bytePosition cs pos ≤ w.start) :
    GroupsFit pos stop (groupsIn cs spans) := by
  constructor
  · obtain ⟨whole, rest, rfl, hle⟩ := hwhole
    obtain ⟨b, hb, hbstop, rfl⟩ :=
      (hwithin whole (List.mem_cons_self ..)).exists_byteSpan hstop
    refine ⟨b, groupsIn cs rest, ?_, ?_⟩
    · have := index_byteSpan hb (Nat.le_trans hbstop hstop)
      simp only [groupsIn, Haystack.groups, List.map_cons, Option.map_some, this]
    · exact (bytePosition_le_iff (Nat.le_trans hpos hstop)).1 hle
  · intro g hg b hgb
    obtain ⟨span, hmem, rfl⟩ := List.mem_map.1 hg
    obtain ⟨s, rfl, rfl⟩ := Option.map_eq_some_iff.1 hgb
    obtain ⟨b, hb, hbstop, rfl⟩ := (hwithin s hmem).exists_byteSpan hstop
    rw [index_byteSpan hb (Nat.le_trans hbstop hstop)]
    exact ⟨hb, hbstop⟩

end Spans

namespace Matcher.Lawful

variable {m : Matcher} {p : m.Pattern} {cs : List Char} {pos stop : Nat} {spans : ByteSpans}

/-- A lawful search can begin at every character, so its law applies. -/
theorem dropBytes?_isSome (cs : List Char) (hpos : pos ≤ stop) :
    (dropBytes? (cs.take stop) (bytePosition cs pos)).isSome := by
  rw [← bytePosition_take hpos, dropBytes?_bytePosition]
  rfl

/-- Every span of a lawful search is the span of characters of the visible text. -/
theorem exists_byteSpan (hm : m.Lawful) (hstop : stop ≤ cs.length) (hpos : pos ≤ stop)
    (hs : m.search p (cs.take stop) (bytePosition cs pos) = .ok (some spans)) {s : ByteSpan}
    (hmem : some s ∈ spans) :
    ∃ b : GroupBounds, b.start ≤ b.stop ∧ b.stop ≤ stop ∧ s = byteSpan cs b :=
  (hm.within p _ _ spans (dropBytes?_isSome cs hpos) hs _ hmem s rfl).exists_byteSpan hstop

/-- **Nothing is lost in character positions:** the bytes of the groups are the spans reported. -/
theorem spans_eq (hm : m.Lawful) (hstop : stop ≤ cs.length) (hpos : pos ≤ stop)
    (hs : m.search p (cs.take stop) (bytePosition cs pos) = .ok (some spans)) :
    spans = (groupsIn cs spans).map (·.map (byteSpan cs)) := by
  rw [groupsIn, Haystack.groups, List.map_map]
  refine (List.map_id spans).symm.trans (List.map_congr_left ?_)
  intro span hmem
  cases span with
  | none => rfl
  | some s =>
    obtain ⟨b, hb, hbstop, rfl⟩ := hm.exists_byteSpan hstop hpos hs hmem
    have := index_byteSpan hb (Nat.le_trans hbstop hstop)
    simp only [id_eq, Function.comp_apply, Option.map_some, this]

theorem groupsFit (hm : m.Lawful) (hstop : stop ≤ cs.length) (hpos : pos ≤ stop)
    (hs : m.search p (cs.take stop) (bytePosition cs pos) = .ok (some spans)) :
    GroupsFit pos stop (groupsIn cs spans) := by
  have hcut := dropBytes?_isSome cs hpos
  refine groupsFit_groupsIn hstop hpos ?_ (hm.start_le p _ _ spans hcut hs)
  intro s hmem
  exact hm.within p _ _ spans hcut hs _ hmem s rfl

end Matcher.Lawful

end PatternSession
