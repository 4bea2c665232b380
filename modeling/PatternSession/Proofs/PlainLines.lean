import PatternSession.Config.Reader
import PatternSession.Yaml.Document

/-!
# Mappings of plain lines

The simplest texts that are a mapping: lines of a key, a colon, a blank and a value, each of them a
word. `mapping?` handles all of YAML that a mapping of scalars can use; here is what it makes of
such lines.

**Theorem (`mapping?_lines`).** The mapping has an entry for every line, in their order, whether the
last line is ended or not. Only where a key is longer than 1024 characters is there no mapping: the
scanner has given it up as a key when the colon comes.

**Proof.** A line takes three tokens of the scanner: the key (`scan?_key`), the colon, at which the
key is told to be one (`scan?_colon`), and the value with its line end (`scan?_value`). The state
between lines is `Scanner.inLines`, so lines are scanned by induction (`scan?_lines`), and the
tokens are those of a block mapping.
-/

namespace PatternSession.Yaml

/-! ## Words -/

/-- The characters that no word begins with. -/
def reserved : List Char :=
  Scanner.indicators ++ [' ', '\t', '\n', '\r', '\u0085', '\u2028', '\u2029', '\uFEFF', '.']

/-- May a word begin with the character? -/
def beginsWord (x : Char) : Bool := !reserved.contains x

/-- May the character stand in a word? -/
def goesOn (x : Char) : Bool := !(isBlank x || isBreak x || x = ':')

/-- A text that is one word, and may stand in a document. -/
structure Word (w : List Char) : Prop where
  begins : ∃ x rest, w = x :: rest ∧ beginsWord x
  inner : ∀ x ∈ w, goesOn x
  allowed : ∀ x ∈ w, isAllowed x

/-- Nothing is ahead, or a word. -/
def AtWord (ahead : List Char) : Prop := ∀ x rest, ahead = x :: rest → beginsWord x

section Plain

variable {x : Char} {w ahead rest : List Char} {s : Scanner}

theorem beginsWord_iff : beginsWord x ↔ x ∉ reserved := by
  simp [beginsWord]

theorem not_mem_indicators (hx : beginsWord x) : x ∉ Scanner.indicators := fun hmem =>
  beginsWord_iff.1 hx (List.mem_append_left _ hmem)

theorem not_indicator (hx : beginsWord x) :
    x ≠ '-' ∧ x ≠ '?' ∧ x ≠ ':' ∧ x ≠ ',' ∧ x ≠ '[' ∧ x ≠ ']' ∧ x ≠ '\x7b' ∧ x ≠ '\x7d' ∧
      x ≠ '#' ∧ x ≠ '&' ∧ x ≠ '*' ∧ x ≠ '!' ∧ x ≠ '|' ∧ x ≠ '>' ∧ x ≠ '\'' ∧ x ≠ '"' ∧ x ≠ '%' ∧
      x ≠ '@' ∧ x ≠ '\x60' := by
  simpa [Scanner.indicators] using not_mem_indicators hx

theorem not_space (hx : beginsWord x) :
    isBlank x = false ∧ isBreak x = false ∧ x ≠ '\uFEFF' ∧ x ≠ '.' := by
  have hmem : x ∉ [' ', '\t', '\n', '\r', '\u0085', '\u2028', '\u2029', '\uFEFF', '.'] :=
    fun hmem => beginsWord_iff.1 hx (List.mem_append_right _ hmem)
  simpa [isBlank, isBreak, and_assoc] using hmem

theorem goesOn_of_beginsWord (hx : beginsWord x) : goesOn x := by
  simp [goesOn, not_space hx, not_indicator hx]

theorem isMarker_of_ne {c : Cursor} {mark : Char} (hahead : c.ahead = x :: rest) (hx : x ≠ mark) :
    c.isMarker mark = false := by
  simp [Cursor.isMarker, hahead, hx]

theorem not_documentMarker {c : Cursor} (hahead : c.ahead = x :: rest) (hx : beginsWord x) :
    c.isMarker '-' = false ∧ c.isMarker '.' = false :=
  ⟨isMarker_of_ne hahead (not_indicator hx).1, isMarker_of_ne hahead (not_space hx).2.2.2⟩

/-! ## Words as scalars -/

theorem pieceLength?_of_goesOn (hw : ∀ x ∈ w, goesOn x)
    (hend : pieceLength? false ahead = some 0) :
    pieceLength? false (w ++ ahead) = some w.length := by
  induction w with
  | nil => exact hend
  | cons x w ih =>
    obtain ⟨hx, hw⟩ := List.forall_mem_cons.1 hw
    simp only [goesOn, Bool.not_eq_true', Bool.or_eq_false_iff, decide_eq_false_iff_not] at hx
    obtain ⟨⟨hblank, hbreak⟩, hcolon⟩ := hx
    rw [List.cons_append, pieceLength?, ih hw]
    simp [hblank, hbreak, hcolon]

/-- **A plain scalar is read to the end of its first word.** It goes on after a gap, unless the next
line is not indented. -/
theorem plain?_of_word (hw : Word w) (hend : pieceLength? false ahead = some 0)
    (index line column indent : Nat) :
    Cursor.plain? ⟨w ++ ahead, index, line, column⟩ false indent =
      if ahead.head?.any fun x => isBlank x || isBreak x then
        (gapFrom? indent {} (index + w.length) line (column + w.length) ahead).bind fun (g, c) =>
          if c.column < indent then some (w, g.broken, c)
          else plainFrom? false indent (w ++ ahead).length w g c
      else some (w, false, ⟨ahead, index + w.length, line, column + w.length⟩) := by
  obtain ⟨x, rest, hfirst, hx⟩ := hw.begins
  have hcursor : (⟨w ++ ahead, index, line, column⟩ : Cursor).ahead = x :: (rest ++ ahead) := by
    rw [hfirst]
    rfl
  have hpiece := pieceLength?_of_goesOn hw.inner hend
  have hlength : w.length ≠ 0 := by
    rw [hfirst]
    exact Nat.succ_ne_zero _
  obtain ⟨hdash, hdot⟩ := not_documentMarker hcursor hx
  have hcomment : Cursor.at? ⟨w ++ ahead, index, line, column⟩ 0 ≠ some '#' := by
    rw [Cursor.at?, hcursor]
    simp [not_indicator hx]
  rw [Cursor.plain?, plainFrom?, Cursor.isDocumentMarker, hdash, hdot, hpiece]
  simp only [hcomment, Bool.or_self, decide_false, Bool.false_eq_true, if_false, Option.bind_some,
    hlength, Cursor.forward, List.drop_left, List.take_left, List.length_append]
  simp [Cursor.at?, Gap.text, Cursor.gap?, List.head?_eq_getElem?]

/-- A key ends before its colon. -/
theorem plain?_key (hw : Word w) (index line column indent : Nat) :
    Cursor.plain? ⟨w ++ ':' :: ' ' :: ahead, index, line, column⟩ false indent =
      some (w, false, ⟨':' :: ' ' :: ahead, index + w.length, line, column + w.length⟩) := by
  have hend : pieceLength? false (':' :: ' ' :: ahead) = some 0 := by
    simp [pieceLength?, isBlank, isBreak, endsWord]
  rw [plain?_of_word hw hend]
  simp [isBlank, isBreak]

theorem gapFrom?_of_atWord (hahead : AtWord ahead) (g : Gap) (indent index line column : Nat) :
    gapFrom? indent g index line column ahead = some (g, ⟨ahead, index, line, column⟩) := by
  cases ahead with
  | nil => rfl
  | cons x rest =>
    obtain ⟨hblank, hbreak, -⟩ := not_space (hahead x rest rfl)
    have hreturn : x ≠ '\r' := by
      rintro rfl
      cases hbreak
    rw [gapFrom?]
    · simp [hblank, hbreak]
    · exact fun _ h => absurd h hreturn

/-- A value ends with its line. -/
theorem plain?_value (hw : Word w) (hahead : AtWord ahead) (index line column : Nat) :
    Cursor.plain? ⟨w ++ '\n' :: ahead, index, line, column⟩ false 1 =
      some (w, true, ⟨ahead, index + w.length + 1, line + 1, 0⟩) := by
  have hend : pieceLength? false ('\n' :: ahead) = some 0 := by
    simp [pieceLength?, isBreak]
  rw [plain?_of_word hw hend, gapFrom?, gapFrom?_of_atWord hahead]
  · simp [isBreak, Gap.addBreak]
  · simp

/-- The last value may end with the text. -/
theorem plain?_last (hw : Word w) (index line column indent : Nat) :
    Cursor.plain? ⟨w, index, line, column⟩ false indent =
      some (w, false, ⟨[], index + w.length, line, column + w.length⟩) := by
  have hend : pieceLength? false [] = some 0 := rfl
  have hread := plain?_of_word hw hend index line column indent
  rw [List.append_nil] at hread
  exact hread

/-! ## Words as tokens -/

theorem beginsPlain_of_beginsWord (hx : beginsWord x) : s.beginsPlain x = true := by
  simp [Scanner.beginsPlain, not_space hx, not_mem_indicators hx]

theorem skipSpace_of_ne (hahead : s.cursor.ahead = x :: rest) (hblank : isBlank x = false)
    (hbreak : isBreak x = false) (hmark : x ≠ '\uFEFF') (hcomment : x ≠ '#') :
    s.skipSpace = s := by
  simp only [isBlank, Bool.or_eq_false_iff, decide_eq_false_iff_not] at hblank
  have hspace : spaceFrom s.inFlow s.keyAllowed false s.cursor.index s.cursor.line s.cursor.column
      (x :: rest) = (s.keyAllowed, s.cursor) := by
    rw [spaceFrom]
    · simp [hblank, hbreak, hmark, hcomment, ← hahead]
    · rintro _ rfl
      cases hbreak
  rw [Scanner.skipSpace, hahead]
  simp only [hspace]

theorem token?_of_word (hahead : s.cursor.ahead = x :: rest) (hx : beginsWord x) :
    s.token? x = s.plain? := by
  simp [Scanner.token?, not_indicator hx, not_documentMarker hahead hx,
    beginsPlain_of_beginsWord hx]

theorem token?_of_colon (hahead : s.cursor.ahead = ':' :: ' ' :: rest) :
    s.token? ':' = s.value? := by
  have hdash : s.cursor.isMarker '-' = false := isMarker_of_ne hahead (by decide)
  have hdot : s.cursor.isMarker '.' = false := isMarker_of_ne hahead (by decide)
  simp [Scanner.token?, hdash, hdot, Cursor.at?, hahead, endsWord, isBlank]

end Plain

/-! ## The tokens of a line -/

/-- The scanner in the lines of a mapping, which has begun with the first colon. -/
def Scanner.inLines (begun : Bool) (tokens : List Token) (cursor : Cursor) (keyAllowed : Bool)
    (blockKey : Option PendingKey) : Scanner where
  cursor := cursor
  tokens := tokens.toArray
  indent := begun.toNat
  outer := if begun then [0] else []
  keyAllowed := keyAllowed
  blockKey := blockKey

/-- The token that the first colon puts in front of all others. -/
def opening (begun : Bool) : List Token := if begun then [] else [.blockMapping]

section Scan

open Scanner

variable {begun keyAllowed : Bool} {tokens : List Token} {blockKey : Option PendingKey}
  {c : Cursor} {w key value ahead : List Char}

@[simp] theorem inLines_cursor :
    (inLines begun tokens c keyAllowed blockKey).cursor = c := rfl

/-- No token of a line ends the mapping. -/
theorem unroll_inLines (n : Nat) :
    (inLines begun tokens c keyAllowed blockKey).unroll (n + 1) =
      inLines begun tokens c keyAllowed blockKey := by
  cases begun <;> simp [unroll, inLines, unrollTo]

/-- **A word** is put out as a plain scalar, and is pending where a key may begin. -/
theorem scan?_word (hw : Word w) (hahead : c.ahead = w ++ ahead) {text : List Char} {broken : Bool}
    {c' : Cursor} (hread : c.plain? false begun.toNat = some (text, broken, c')) (fuel : Nat) :
    scan? (fuel + 1) (inLines begun tokens c keyAllowed none) =
      scan? fuel (inLines begun (tokens ++ [.scalar .plain text]) c' broken
        (if keyAllowed then
          some ⟨tokens.length, c.index, c.line, c.column, begun.toNat = c.column + 1⟩
        else none)) := by
  obtain ⟨x, rest, rfl, hx⟩ := hw.begins
  have hcursor : (inLines begun tokens c keyAllowed none).cursor.ahead = x :: (rest ++ ahead) :=
    hahead
  obtain ⟨hblank, hbreak, hmark, -⟩ := not_space hx
  have hfresh : (inLines begun tokens c keyAllowed none).dropStale? =
      some (inLines begun tokens c keyAllowed none) := rfl
  have hplain : (inLines begun tokens c keyAllowed none).plain? =
      some (inLines begun (tokens ++ [.scalar .plain text]) c' broken
        (if keyAllowed then
          some ⟨tokens.length, c.index, c.line, c.column, begun.toNat = c.column + 1⟩
        else none)) := by
    cases keyAllowed <;>
      simp [plain?, saveKey?, dropKey?, pending, setPending, inLines, hread, emit]
  rw [scan?, skipSpace_of_ne hcursor hblank hbreak hmark (by simp [not_indicator hx]), hfresh,
    Option.bind_some, hcursor]
  dsimp only
  rw [unroll_inLines, token?_of_word hcursor hx, hplain, Option.bind_some]

/-- A blank in front is skipped. -/
theorem scan?_blank (fuel index line column : Nat) :
    scan? (fuel + 1) (inLines begun tokens ⟨' ' :: ahead, index, line, column⟩ keyAllowed none) =
      scan? (fuel + 1)
        (inLines begun tokens ⟨ahead, index + 1, line, column + 1⟩ keyAllowed none) := by
  have hskip :
      (inLines begun tokens ⟨' ' :: ahead, index, line, column⟩ keyAllowed none).skipSpace =
        (inLines begun tokens ⟨ahead, index + 1, line, column + 1⟩ keyAllowed none).skipSpace := by
    simp only [skipSpace, inLines]
    rw [spaceFrom]
    · simp [isBreak]
    · simp
  rw [scan?, scan?, hskip]

/-- **The key** is pending until the colon. -/
theorem scan?_key (hkey : Word key) (fuel index line : Nat) :
    scan? (fuel + 1)
        (inLines begun tokens ⟨key ++ ':' :: ' ' :: ahead, index, line, 0⟩ true none) =
      scan? fuel (inLines begun (tokens ++ [.scalar .plain key])
        ⟨':' :: ' ' :: ahead, index + key.length, line, key.length⟩ false
        (some ⟨tokens.length, index, line, 0, begun⟩)) := by
  have hrequired : decide (begun.toNat = 0 + 1) = begun := by cases begun <;> rfl
  rw [scan?_word hkey rfl (plain?_key hkey index line 0 _), if_pos rfl, hrequired, Nat.zero_add]

/-- A pending key that is too far behind is given up, and must not be if it is required. -/
theorem dropStale?_inLines (k : PendingKey) :
    (inLines begun tokens c keyAllowed (some k)).dropStale? =
      if k.isStale c then
        if k.required then none else some (inLines begun tokens c keyAllowed none)
      else some (inLines begun tokens c keyAllowed (some k)) := by
  cases hstale : k.isStale c <;> cases hrequired : k.required <;>
    simp [dropStale?, inLines, freshKey?, hstale, hrequired]

theorem insertIdx_length_append {α : Type} (front back : List α) (a : α) :
    (front ++ back).insertIdx front.length a = front ++ a :: back := by
  induction front with
  | nil => rfl
  | cons b front ih => simp [ih]

/-- What is pending is told to be a key, and begins the mapping if it is the first. -/
theorem value?_inLines (t : Token) (index line : Nat) :
    (inLines begun (tokens ++ [t]) c false (some ⟨tokens.length, index, line, 0, begun⟩)).value? =
      some (inLines true (tokens ++ opening begun ++ [.key, t, .value]) (c.forward 1) false
        none) := by
  cases begun <;>
    simp [value?, inLines, pending, setPending, roll, take, emit, opening,
      insertIdx_length_append]

/-- **At the colon** the key is told to be one, unless it is too far behind. -/
theorem scan?_colon (fuel index line : Nat) :
    scan? (fuel + 1) (inLines begun (tokens ++ [.scalar .plain key])
        ⟨':' :: ' ' :: ahead, index + key.length, line, key.length⟩ false
        (some ⟨tokens.length, index, line, 0, begun⟩)) =
      if key.length ≤ 1024 then
        scan? fuel (inLines true (tokens ++ opening begun ++ [.key, .scalar .plain key, .value])
          ⟨' ' :: ahead, index + key.length + 1, line, key.length + 1⟩ false none)
      else none := by
  rw [scan?, skipSpace_of_ne rfl rfl rfl (by decide) (by decide), dropStale?_inLines]
  by_cases hlength : key.length ≤ 1024
  · have hstale : PendingKey.isStale ⟨tokens.length, index, line, 0, begun⟩
        ⟨':' :: ' ' :: ahead, index + key.length, line, key.length⟩ = false := by
      simp [PendingKey.isStale, hlength]
    rw [hstale, if_pos hlength, if_neg Bool.false_ne_true, Option.bind_some]
    simp only [inLines_cursor]
    rw [unroll_inLines, token?_of_colon rfl, value?_inLines, Option.bind_some]
    rfl
  · have hstale : PendingKey.isStale ⟨tokens.length, index, line, 0, begun⟩
        ⟨':' :: ' ' :: ahead, index + key.length, line, key.length⟩ = true := by
      simp [PendingKey.isStale]
      omega
    rw [hstale, if_neg hlength, if_pos rfl]
    -- only the first key can be given up, and then nothing is told by the colon
    cases begun with
    | true => rfl
    | false =>
      rw [if_neg Bool.false_ne_true, Option.bind_some]
      simp only [inLines_cursor]
      rw [unroll_inLines, token?_of_colon rfl]
      rfl

/-- **The value** ends with the line, and a key may begin after it. -/
theorem scan?_value (hvalue : Word value) (hahead : AtWord ahead)
    (fuel index line column : Nat) :
    scan? (fuel + 1)
        (inLines true tokens ⟨' ' :: (value ++ '\n' :: ahead), index, line, column⟩ false none) =
      scan? fuel (inLines true (tokens ++ [.scalar .plain value])
        ⟨ahead, index + 1 + value.length + 1, line + 1, 0⟩ true none) := by
  rw [scan?_blank, scan?_word hvalue rfl (plain?_value hvalue hahead _ _ _),
    if_neg Bool.false_ne_true]

/-- The last value may end with the text. -/
theorem scan?_last (hvalue : Word value) (fuel index line column : Nat) :
    scan? (fuel + 1)
        (inLines true tokens ⟨' ' :: value, index, line, column⟩ false none) =
      scan? fuel (inLines true (tokens ++ [.scalar .plain value])
        ⟨[], index + 1 + value.length, line, column + 1 + value.length⟩ false none) := by
  rw [scan?_blank, scan?_word hvalue (List.append_nil value).symm (plain?_last hvalue _ _ _ _),
    if_neg Bool.false_ne_true]

/-- **At the end** the mapping is ended. -/
theorem scan?_end (fuel index line column : Nat) :
    (scan? (fuel + 1) (inLines true tokens ⟨[], index, line, column⟩ keyAllowed none)).map
        (·.tokens.toList) = some (tokens ++ [.blockEnd]) := by
  simp [scan?, skipSpace, inLines, spaceFrom, dropStale?, freshKey?, unroll, unrollTo, dropKey?,
    pending, setPending]

end Scan

end PatternSession.Yaml

/-! ## Lines of words -/

namespace PatternSession.Config.Line

open Yaml

/-- The line is made of words. -/
structure OfWords (l : Line) : Prop where
  key : Word l.key
  value : Word l.value

def tokens (l : Line) : List Token :=
  [.key, .scalar .plain l.key, .value, .scalar .plain l.value]

/-- Key and value as scalars. -/
def entry (l : Line) : Scalar × Scalar := (⟨.plain, none, l.key⟩, ⟨.plain, none, l.value⟩)

theorem length_written (l : Line) : l.written.length = l.key.length + l.value.length + 2 := by
  simp [written]
  omega

theorem OfWords.allowed {l : Line} (hl : l.OfWords) : l.written.all isAllowed = true := by
  rw [written, List.all_append, List.all_eq_true.2 hl.key.allowed, List.all_cons, List.all_cons,
    List.all_eq_true.2 hl.value.allowed]
  decide

end PatternSession.Config.Line

namespace PatternSession.Yaml

open Config (Line linesText)

/-! ## The tokens of lines -/

section Lines

open Scanner

variable {ended begun : Bool} {tokens : List Token} {l : Line} {ls : List Line} {ahead : List Char}

theorem linesText_cons_cons (l' : Line) (ls : List Line) :
    linesText ended (l :: l' :: ls) = l.written ++ '\n' :: linesText ended (l' :: ls) := rfl

theorem Word.length_pos {w : List Char} (hw : Word w) : 0 < w.length := by
  obtain ⟨x, rest, rfl, -⟩ := hw.begins
  exact Nat.succ_pos _

/-- A line has at least as many characters as tokens of the scanner. -/
theorem length_linesText (hls : ∀ m ∈ ls, m.OfWords) :
    3 * ls.length ≤ (linesText ended ls).length := by
  induction ls with
  | nil => exact Nat.zero_le _
  | cons l ls ih =>
    obtain ⟨hl, hls⟩ := List.forall_mem_cons.1 hls
    have hkey := hl.key.length_pos
    have hvalue := hl.value.length_pos
    cases ls with
    | nil =>
      rw [linesText, List.length_append, Line.length_written, List.length_singleton]
      omega
    | cons l' ls =>
      have hrest := ih hls
      rw [linesText_cons_cons]
      simp only [List.length_append, Line.length_written, List.length_cons] at hrest ⊢
      omega

theorem atWord_linesText (ended : Bool) (hl : l.OfWords) (ls : List Line) :
    AtWord (linesText ended (l :: ls)) := by
  obtain ⟨x, rest, hkey, hx⟩ := hl.key.begins
  have hfirst : ∃ ahead, linesText ended (l :: ls) = x :: ahead := by
    cases ls <;> simp [linesText, Line.written, hkey]
  obtain ⟨ahead, hahead⟩ := hfirst
  rintro y rest' htext
  obtain ⟨rfl, -⟩ := List.cons.inj (hahead.symm.trans htext)
  exact hx

/-- Key and colon of a line. -/
theorem scan?_front (hl : l.OfWords) (fuel index line : Nat) :
    scan? (fuel + 2) (inLines begun tokens ⟨l.written ++ ahead, index, line, 0⟩ true none) =
      if l.key.length ≤ 1024 then
        scan? fuel
          (inLines true (tokens ++ opening begun ++ [.key, .scalar .plain l.key, .value])
            ⟨' ' :: (l.value ++ ahead), index + l.key.length + 1, line, l.key.length + 1⟩ false
            none)
      else none := by
  have hwritten : l.written ++ ahead = l.key ++ ':' :: ' ' :: (l.value ++ ahead) := by
    simp [Line.written]
  rw [hwritten, scan?_key hl.key, scan?_colon]

/-- The last line, whether it is ended or not, and the end of the mapping. -/
theorem scan?_lastLine (hl : l.OfWords) (fuel index line : Nat) :
    (scan? (fuel + 4)
        (inLines begun tokens ⟨linesText ended [l], index, line, 0⟩ true none)).map
          (·.tokens.toList) =
      if l.key.length ≤ 1024 then
        some (tokens ++ opening begun ++ l.tokens ++ [.blockEnd])
      else none := by
  rw [linesText, scan?_front hl]
  by_cases hlength : l.key.length ≤ 1024
  · rw [if_pos hlength, if_pos hlength]
    cases ended with
    | true =>
      have hnothing : AtWord [] := by rintro x rest ⟨⟩
      rw [if_pos rfl, scan?_value hl.value hnothing, scan?_end]
      simp [Line.tokens]
    | false =>
      rw [if_neg Bool.false_ne_true, List.append_nil, scan?_last hl.value, scan?_end]
      simp [Line.tokens]
  · rw [if_neg hlength, if_neg hlength]
    rfl

/-- **Lines are scanned one by one,** unless a key is too long. -/
theorem scan?_lines (ended begun : Bool) (tokens : List Token) (hls : ∀ m ∈ l :: ls, m.OfWords)
    {fuel : Nat} (hfuel : 3 * (l :: ls).length < fuel) (index line : Nat) :
    (scan? fuel
        (inLines begun tokens ⟨linesText ended (l :: ls), index, line, 0⟩ true none)).map
          (·.tokens.toList) =
      if ∀ m ∈ l :: ls, m.key.length ≤ 1024 then
        some (tokens ++ opening begun ++ (l :: ls).flatMap Line.tokens ++ [.blockEnd])
      else none := by
  induction ls generalizing l begun tokens fuel index line with
  | nil =>
    obtain ⟨fuel, rfl⟩ : ∃ n, fuel = n + 4 := ⟨fuel - 4, by simp at hfuel; omega⟩
    rw [scan?_lastLine (hls l List.mem_cons_self)]
    simp only [List.forall_mem_singleton, List.flatMap_singleton]
  | cons l' ls ih =>
    obtain ⟨hl, hls⟩ := List.forall_mem_cons.1 hls
    rw [List.length_cons] at hfuel
    obtain ⟨fuel, rfl⟩ : ∃ n, fuel = n + 3 := ⟨fuel - 3, by omega⟩
    have hnext := atWord_linesText ended (hls l' List.mem_cons_self) ls
    rw [linesText_cons_cons, scan?_front hl]
    by_cases hlength : l.key.length ≤ 1024
    · have hrest : (∀ m ∈ l :: l' :: ls, m.key.length ≤ 1024) ↔
          ∀ m ∈ l' :: ls, m.key.length ≤ 1024 := by
        rw [List.forall_mem_cons, and_iff_right hlength]
      rw [if_pos hlength, scan?_value hl.value hnext, ih true _ hls (by omega)]
      simp only [hrest]
      simp [Line.tokens, opening]
    · rw [if_neg hlength, if_neg fun h => hlength (h l List.mem_cons_self)]
      rfl

end Lines

/-! ## The mapping of lines -/

section Mapping

variable {ended : Bool} {l : Line} {ls : List Line}

/-- The tokens of lines. -/
theorem tokens?_linesText (hls : ∀ m ∈ l :: ls, m.OfWords) :
    tokens? (linesText ended (l :: ls)) =
      if ∀ m ∈ l :: ls, m.key.length ≤ 1024 then
        some (.blockMapping :: ((l :: ls).flatMap Line.tokens ++ [.blockEnd]))
      else none :=
  scan?_lines ended false [] hls (Nat.lt_succ_of_le (length_linesText hls)) 0 0

theorem blockEntries?_lines (d : Directives) (rest : List Token) {fuel : Nat}
    (hfuel : ls.length < fuel) :
    blockEntries? d fuel (ls.flatMap Line.tokens ++ .blockEnd :: rest) =
      some (ls.map fun l => (.scalar none l.entry.1, .scalar none l.entry.2), rest) := by
  induction ls generalizing fuel with
  | nil =>
    obtain ⟨fuel, rfl⟩ : ∃ n, fuel = n + 1 := ⟨fuel - 1, by omega⟩
    rfl
  | cons l ls ih =>
    rw [List.length_cons] at hfuel
    obtain ⟨fuel, rfl⟩ : ∃ n, fuel = n + 1 := ⟨fuel - 1, by omega⟩
    have hrest := ih (show ls.length < fuel by omega)
    simp [Line.tokens, blockEntries?, nodeOrNothing?, endsInBlock, node?, properties?,
      Properties.written, hrest, Line.entry]

theorem numberedEntries?_scalars (a : Anchors) (ls : List Line) :
    numberedEntries? a (ls.map fun l => (.scalar none l.entry.1, .scalar none l.entry.2)) =
      some (ls.map fun l => (.inl l.entry.1, .inl l.entry.2), a) := by
  induction ls with
  | nil => rfl
  | cons l ls ih => simp [numberedEntries?, numbered?, Anchors.add, ih]

/-- Without aliases a document has the entries that are written. -/
theorem entries?_scalars (ls : List Line) :
    Document.entries? ⟨none, ls.map fun l => (.scalar none l.entry.1, .scalar none l.entry.2)⟩ =
      some (ls.map Line.entry) := by
  simp only [Document.entries?, numberedEntries?_scalars, Option.bind_eq_bind, Option.bind_some]
  rw [List.mapM_map]
  exact List.mapM_pure

theorem length_tokens (ls : List Line) : ls.length ≤ (ls.flatMap Line.tokens).length := by
  induction ls with
  | nil => exact Nat.le_refl _
  | cons l ls ih =>
    rw [List.flatMap_cons, List.length_append, List.length_cons, Nat.add_comm]
    exact Nat.add_le_add (Nat.le_add_left 1 3) ih

theorem content?_lines (ls : List Line) :
    content? {} (.blockMapping :: (ls.flatMap Line.tokens ++ [.blockEnd])) =
      some (⟨none, ls.map fun l => (.scalar none l.entry.1, .scalar none l.entry.2)⟩, []) := by
  have hfuel : ls.length <
      (Token.blockMapping :: (ls.flatMap Line.tokens ++ [.blockEnd])).length + 1 := by
    rw [List.length_cons, List.length_append]
    have := length_tokens ls
    omega
  rw [content?]
  simp only [properties?, Option.bind_eq_bind, Option.bind_some]
  rw [blockEntries?_lines _ _ hfuel]
  rfl

theorem document?_lines (ls : List Line) :
    document? (.blockMapping :: (ls.flatMap Line.tokens ++ [.blockEnd])) =
      some ⟨none, ls.map fun l => (.scalar none l.entry.1, .scalar none l.entry.2)⟩ := by
  simp only [document?, directives?, Option.bind_eq_bind, Option.bind_some, if_true,
    content?_lines, List.all_nil]

theorem allowed_linesText (ended : Bool) (hls : ∀ m ∈ ls, m.OfWords) :
    (linesText ended ls).all isAllowed = true := by
  induction ls with
  | nil => rfl
  | cons l ls ih =>
    obtain ⟨hl, hls⟩ := List.forall_mem_cons.1 hls
    cases ls with
    | nil =>
      rw [linesText, List.all_append, hl.allowed]
      cases ended <;> decide
    | cons l' ls =>
      rw [linesText_cons_cons, List.all_append, List.all_cons, hl.allowed, ih hls]
      decide

/-- **The mapping of plain lines** has an entry for each of them, unless a key is too long. -/
theorem mapping?_lines (hls : ∀ m ∈ l :: ls, m.OfWords) :
    mapping? (linesText ended (l :: ls)) =
      if ∀ m ∈ l :: ls, m.key.length ≤ 1024 then some ((l :: ls).map Line.entry) else none := by
  rw [mapping?, if_pos (allowed_linesText ended hls), tokens?_linesText hls]
  split
  · rw [Option.bind_some, document?_lines, Option.bind_some, entries?_scalars]
  · rfl

end Mapping

end PatternSession.Yaml
