import Mathlib.Data.List.Forall2
import PatternSession.Proofs.TemplatePieces
import PatternSession.Proofs.TemplateTokens

/-!
# What a template compiles to

The meaning of a token, written down without the functions that compute it, for a pattern with so
many groups and these names.

**References** (`Template.Token.Refers`). The group a token refers to, whether the pattern has it or
not. What stands in braces is a number if it can be one, and a name otherwise; of several groups
with one name it is the first.

**Pieces and failures.** `Token.Stands` says which piece a token stands for, and `Token.Fails` why
it stands for none. A token of a source does one or the other (`Lexeme.stands_or_fails`).

**Theorem (`compileWith_accepts_grammar`).** A source has one reading. It compiles when no token of
the reading is bad, and then to the pieces that the tokens stand for, with neighbouring characters
joined; otherwise it fails as its first bad token does.
-/

namespace PatternSession

namespace Template

variable {groups : Nat} {names : List (Option String)}

/-! ## What a token refers to -/

/-- At least one digit, with a value that fits a machine word. -/
def DigitsOf (run : List Char) (i : Nat) : Prop :=
  run ≠ [] ∧ (∀ c ∈ run, c.isDigit) ∧ Nat.ofDigitChars 10 run 0 = i ∧ i < wordValues

/-- A number, with or without a plus sign. -/
def WritesNumber (inside : List Char) (i : Nat) : Prop :=
  ∃ run, (inside = run ∨ inside = '+' :: run) ∧ DigitsOf run i

/-- The first group of that name. -/
def FirstNamed (names : List (Option String)) (name : List Char) (i : Nat) : Prop :=
  names[i]? = some (some (String.ofList name)) ∧
    ∀ j < i, names[j]? ≠ some (some (String.ofList name))

/-- The number of the group that a token refers to. -/
inductive Token.Refers (names : List (Option String)) : Token → Nat → Prop where
  | index {i} : Refers names (.index i) i
  | digits {run i} : DigitsOf run i → Refers names (.digits run) i
  | number {inside i} : WritesNumber inside i → Refers names (.braced inside) i
  | name {inside i} : inside ≠ [] → (∀ n, ¬WritesNumber inside n) → FirstNamed names inside i →
      Refers names (.braced inside) i

/-- The piece that a token stands for. -/
inductive Token.Stands (groups : Nat) (names : List (Option String)) : Token → Piece → Prop where
  | char {c} : Stands groups names (.char c) (.literal [c])
  | group {token i} : token.Refers names i → i < groups → Stands groups names token (.group i)

/-- Why a token stands for no piece. -/
inductive Token.Fails (groups : Nat) (names : List (Option String)) :
    Token → TemplateError → Prop where
  | noSuchGroup {token i} : token.Refers names i → groups ≤ i →
      Fails groups names token (.noSuchGroup i)
  | numberTooLarge {run} : (∀ c ∈ run, c.isDigit) → wordValues ≤ Nat.ofDigitChars 10 run 0 →
      Fails groups names (.digits run) (.numberTooLarge run)
  | emptyName : Fails groups names (.braced []) .emptyName
  | undefinedName {inside} : inside ≠ [] → (∀ n, ¬WritesNumber inside n) →
      some (String.ofList inside) ∉ names →
      Fails groups names (.braced inside) (.undefinedName inside)
  | unclosed : Fails groups names .unclosed .unclosedBrace
  | dangling : Fails groups names .dangling .trailingBackslash

/-- The token stands for no piece. -/
def Token.Bad (groups : Nat) (names : List (Option String)) (token : Token) : Prop :=
  ∃ e, token.Fails groups names e

/-! ## Numbers and names in braces -/

theorem numeral_eq_some_iff (run : List Char) (i : Nat) :
    (if run ≠ [] ∧ run.all isDigit ∧ numeral 10 run < wordValues then some (numeral 10 run)
      else none) = some i ↔ DigitsOf run i := by
  have hall : run.all isDigit ↔ ∀ c ∈ run, c.isDigit := by simp [isDigit_eq]
  rw [Option.ite_none_right_eq_some, Option.some_inj, hall]
  constructor
  · rintro ⟨⟨hne, hdigits, hlt⟩, rfl⟩
    exact ⟨hne, hdigits, (numeral_eq_ofDigitChars hdigits).symm, hlt⟩
  · rintro ⟨hne, hdigits, rfl, hlt⟩
    rw [numeral_eq_ofDigitChars hdigits]
    exact ⟨⟨hne, hdigits, hlt⟩, rfl⟩

theorem bracedNumber?_plus (run : List Char) (i : Nat) :
    bracedNumber? ('+' :: run) = some i ↔ DigitsOf run i :=
  numeral_eq_some_iff run i

theorem bracedNumber?_of_no_plus {inside : List Char} (h : ∀ run, inside ≠ '+' :: run) (i : Nat) :
    bracedNumber? inside = some i ↔ DigitsOf inside i := by
  simp only [bracedNumber?]
  exact numeral_eq_some_iff inside i

theorem bracedNumber?_eq_some_iff {inside : List Char} {i : Nat} :
    bracedNumber? inside = some i ↔ WritesNumber inside i := by
  by_cases hplus : ∃ run, inside = '+' :: run
  · obtain ⟨run, rfl⟩ := hplus
    rw [bracedNumber?_plus]
    constructor
    · exact fun h => ⟨run, .inr rfl, h⟩
    · rintro ⟨run', rfl | heq, h⟩
      · -- the plus sign is not a digit
        exact absurd (h.2.1 '+' List.mem_cons_self) (by decide)
      · rwa [(List.cons.inj heq).2]
  · rw [not_exists] at hplus
    rw [bracedNumber?_of_no_plus hplus]
    constructor
    · exact fun h => ⟨inside, .inl rfl, h⟩
    · rintro ⟨run, rfl | rfl, h⟩
      · exact h
      · exact absurd rfl (hplus run)

theorem WritesNumber.ne_nil {inside : List Char} {i : Nat} (h : WritesNumber inside i) :
    inside ≠ [] := by
  obtain ⟨run, rfl | rfl, hne, -⟩ := h
  · exact hne
  · exact List.cons_ne_nil _ _

theorem bracedNumber?_eq_none {inside : List Char} (h : ∀ n, ¬WritesNumber inside n) :
    bracedNumber? inside = none :=
  Option.eq_none_iff_forall_ne_some.2 fun n hn => h n (bracedNumber?_eq_some_iff.1 hn)

theorem findIdx?_eq_some_iff_firstNamed {name : List Char} {i : Nat} :
    names.findIdx? (· = some (String.ofList name)) = some i ↔ FirstNamed names name i := by
  rw [List.findIdx?_eq_some_iff_getElem, FirstNamed, List.getElem?_eq_some_iff]
  constructor
  · rintro ⟨hi, hat, hbefore⟩
    refine ⟨⟨hi, by simpa using hat⟩, fun j hj hname => hbefore j hj ?_⟩
    obtain ⟨_, hname⟩ := List.getElem?_eq_some_iff.1 hname
    simpa using hname
  · rintro ⟨⟨hi, hat⟩, hbefore⟩
    refine ⟨hi, by simpa using hat, fun j hj hname => hbefore j hj ?_⟩
    rw [List.getElem?_eq_getElem (by omega)]
    simpa using hname

/-! ## Resolving one token -/

theorem resolve_braced {inside : List Char} (h : inside ≠ []) :
    (Token.braced inside).resolve groups names =
      match bracedNumber? inside with
      | some i => checkGroup groups i
      | none =>
        match names.findIdx? (· = some (String.ofList inside)) with
        | some i => checkGroup groups i
        | none => .error (.undefinedName inside) := by
  cases inside with
  | nil => exact absurd rfl h
  | cons => rfl

theorem Token.Refers.resolve_eq {token : Token} {i : Nat} (h : token.Refers names i) :
    token.resolve groups names = checkGroup groups i := by
  cases h with
  | index => rfl
  | digits hdigits =>
    obtain ⟨-, hrun, rfl, hlt⟩ := hdigits
    rw [Token.resolve, numeral_eq_ofDigitChars hrun, if_pos hlt]
  | number hnumber =>
    rw [resolve_braced hnumber.ne_nil, bracedNumber?_eq_some_iff.2 hnumber]
  | name hne hnumber hname =>
    rw [resolve_braced hne, bracedNumber?_eq_none hnumber, findIdx?_eq_some_iff_firstNamed.2 hname]

theorem Token.Stands.resolve_eq {token : Token} {p : Piece} (h : token.Stands groups names p) :
    token.resolve groups names = .ok p := by
  cases h with
  | char => rfl
  | group hrefers hlt => rw [hrefers.resolve_eq, checkGroup, if_pos hlt]

theorem Token.Fails.resolve_eq {token : Token} {e : TemplateError}
    (h : token.Fails groups names e) : token.resolve groups names = .error e := by
  cases h with
  | noSuchGroup hrefers hle => rw [hrefers.resolve_eq, checkGroup, if_neg (by omega)]
  | numberTooLarge hrun hle =>
    rw [Token.resolve, numeral_eq_ofDigitChars hrun, if_neg (Nat.not_lt.2 hle)]
  | emptyName | unclosed | dangling => rfl
  | undefinedName hne hnumber hname =>
    have hnone : names.findIdx? (· = some (String.ofList _)) = none :=
      List.findIdx?_eq_none_iff.2 fun x hx => decide_eq_false fun heq => hname (heq ▸ hx)
    rw [resolve_braced hne, bracedNumber?_eq_none hnumber, hnone]

theorem Token.Stands.not_bad {token : Token} {p : Piece} (h : token.Stands groups names p) :
    ¬token.Bad groups names := by
  rintro ⟨e, he⟩
  exact absurd (h.resolve_eq.symm.trans he.resolve_eq) (by simp)

theorem Token.Stands.units_eq {token : Token} {p : Piece} (h : token.Stands groups names p) :
    p.units = [p] := by
  cases h <;> rfl

/-- With a group to refer to, it is the number of groups that decides. -/
theorem Token.Refers.stands_or_fails {token : Token} {i : Nat} (h : token.Refers names i) :
    (∃ p, token.Stands groups names p) ∨ token.Bad groups names := by
  by_cases hlt : i < groups
  · exact .inl ⟨_, .group h hlt⟩
  · exact .inr ⟨_, .noSuchGroup h (by omega)⟩

theorem stands_or_fails_braced (inside : List Char) :
    (∃ p, (Token.braced inside).Stands groups names p) ∨
      (Token.braced inside).Bad groups names := by
  by_cases hne : inside = []
  · subst hne; exact .inr ⟨_, .emptyName⟩
  by_cases hnumber : ∃ n, WritesNumber inside n
  · obtain ⟨n, hn⟩ := hnumber
    exact (Token.Refers.number hn).stands_or_fails
  rw [not_exists] at hnumber
  cases hname : names.findIdx? (· = some (String.ofList inside)) with
  | some i =>
    exact (Token.Refers.name hne hnumber (findIdx?_eq_some_iff_firstNamed.1 hname)).stands_or_fails
  | none =>
    refine .inr ⟨_, .undefinedName hne hnumber fun hmem => ?_⟩
    simpa using List.findIdx?_eq_none_iff.1 hname _ hmem

/-- A token of a source is good or bad. -/
theorem Lexeme.stands_or_fails (groups : Nat) (names : List (Option String)) {token : Token}
    {word rest : List Char} (h : Lexeme token word rest) :
    (∃ p, token.Stands groups names p) ∨ token.Bad groups names := by
  cases h with
  | dollar | lone | newline | tab | carriageReturn | escaped | itself => exact .inl ⟨_, .char⟩
  | whole | escapedDigit => exact Token.Refers.index.stands_or_fails
  | @digits run _ hne hrun _ =>
    by_cases hlt : Nat.ofDigitChars 10 run 0 < wordValues
    · exact (Token.Refers.digits ⟨hne, hrun, rfl, hlt⟩).stands_or_fails
    · exact .inr ⟨_, .numberTooLarge hrun (Nat.not_lt.1 hlt)⟩
  | braced => exact stands_or_fails_braced _
  | unclosed => exact .inr ⟨_, .unclosed⟩
  | dangling => exact .inr ⟨_, .dangling⟩

/-! ## Resolving a source -/

theorem resolveAll_of_stands {ts : List Token} {us : List Piece}
    (h : List.Forall₂ (Token.Stands groups names) ts us) :
    resolveAll groups names ts = .ok (us.foldr consPiece []) := by
  induction h with
  | nil => rfl
  | cons hp _ ih => rw [resolveAll, hp.resolve_eq, ih]; rfl

theorem resolveAll_of_fails {good rest : List Token} {bad : Token} {e : TemplateError}
    (hgood : ∀ token ∈ good, ∃ p, token.Stands groups names p) (hbad : bad.Fails groups names e) :
    resolveAll groups names (good ++ bad :: rest) = .error e := by
  induction good with
  | nil => rw [List.nil_append, resolveAll, hbad.resolve_eq]
  | cons token good ih =>
    rw [List.forall_mem_cons] at hgood
    obtain ⟨p, hp⟩ := hgood.1
    rw [List.cons_append, resolveAll, hp.resolve_eq, ih hgood.2]

theorem Reads.exists_lexeme_of_mem {source : List Char} {ts : List Token} (h : Reads source ts)
    {token : Token} (ht : token ∈ ts) : ∃ word rest, Lexeme token word rest := by
  induction h with
  | nil => simp at ht
  | cons hlexeme _ ih =>
    rcases List.mem_cons.1 ht with rfl | ht
    · exact ⟨_, _, hlexeme⟩
    · exact ih ht

theorem Reads.stands_of_not_bad {source : List Char} {ts : List Token} (h : Reads source ts)
    {token : Token} (ht : token ∈ ts) (hgood : ¬token.Bad groups names) :
    ∃ p, token.Stands groups names p := by
  obtain ⟨_, _, hlexeme⟩ := h.exists_lexeme_of_mem ht
  exact (hlexeme.stands_or_fails groups names).resolve_right hgood

/-- Either every token stands for a piece, or there is a first one that does not. -/
theorem Reads.stand_or_fail (groups : Nat) (names : List (Option String)) {source : List Char}
    {ts : List Token} (h : Reads source ts) :
    (∃ us, List.Forall₂ (Token.Stands groups names) ts us) ∨
      ∃ good bad rest e, ts = good ++ bad :: rest ∧
        (∀ token ∈ good, ¬token.Bad groups names) ∧ bad.Fails groups names e := by
  induction h with
  | nil => exact .inl ⟨[], .nil⟩
  | @cons token _ _ ts hlexeme _ ih =>
    rcases hlexeme.stands_or_fails groups names with ⟨p, hp⟩ | ⟨e, he⟩
    · rcases ih with ⟨us, hus⟩ | ⟨good, bad, rest, e, rfl, hgood, hbad⟩
      · exact .inl ⟨p :: us, .cons hp hus⟩
      · exact .inr ⟨token :: good, bad, rest, e, rfl,
          List.forall_mem_cons.2 ⟨hp.not_bad, hgood⟩, hbad⟩
    · exact .inr ⟨[], token, ts, e, rfl, by simp, he⟩

/-! ## Compiling a source -/

theorem exists_left_of_mem {α β : Type} {R : α → β → Prop} {as : List α} {bs : List β}
    (h : List.Forall₂ R as bs) {b : β} (hb : b ∈ bs) : ∃ a ∈ as, R a b := by
  induction h with
  | nil => simp at hb
  | cons hab _ ih =>
    rcases List.mem_cons.1 hb with rfl | hb
    · exact ⟨_, List.mem_cons_self, hab⟩
    · obtain ⟨a, ha, hab⟩ := ih hb
      exact ⟨a, List.mem_cons_of_mem _ ha, hab⟩

theorem units_eq_of_stands {ts : List Token} {us : List Piece}
    (h : List.Forall₂ (Token.Stands groups names) ts us) : ∀ u ∈ us, u.units = [u] := by
  intro u hu
  obtain ⟨_, -, htoken⟩ := exists_left_of_mem h hu
  exact htoken.units_eq

theorem group_lt_of_stands {ts : List Token} {us ps : List Piece}
    (h : List.Forall₂ (Token.Stands groups names) ts us) (hjoins : Piece.Joins us ps) {i : Nat}
    (hi : .group i ∈ ps) : i < groups := by
  have hu : .group i ∈ us := by
    rw [← hjoins.units]
    exact List.mem_flatMap.2 ⟨_, hi, List.mem_singleton_self _⟩
  obtain ⟨_, -, htoken⟩ := exists_left_of_mem h hu
  cases htoken with
  | group _ hlt => exact hlt

variable {source : String} {ts : List Token}

theorem compileWith_of_stands {us ps : List Piece} (hreads : Reads source.toList ts)
    (h : List.Forall₂ (Token.Stands groups names) ts us) (hjoins : Piece.Joins us ps) :
    compileWith groups names source = .ok ⟨ps⟩ := by
  have hps : us.foldr consPiece [] = ps := (Piece.joins_iff (units_eq_of_stands h)).1 hjoins
  rw [compileWith, hreads.tokens_eq, resolveAll_of_stands h, hps]

theorem compileWith_of_fails {good rest : List Token} {bad : Token} {e : TemplateError}
    (hreads : Reads source.toList (good ++ bad :: rest))
    (hgood : ∀ token ∈ good, ¬token.Bad groups names) (hbad : bad.Fails groups names e) :
    compileWith groups names source = .error e := by
  have hstands : ∀ token ∈ good, ∃ p, token.Stands groups names p := fun token ht =>
    hreads.stands_of_not_bad (List.mem_append_left _ ht) (hgood token ht)
  rw [compileWith, hreads.tokens_eq, resolveAll_of_fails hstands hbad]

/-- One of the two happens, and the tokens of the source decide which. -/
theorem Reads.compileWith_cases (groups : Nat) (names : List (Option String))
    (hreads : Reads source.toList ts) :
    (∃ us ps, List.Forall₂ (Token.Stands groups names) ts us ∧ Piece.Joins us ps ∧
      compileWith groups names source = .ok ⟨ps⟩) ∨
    ∃ good bad rest e, ts = good ++ bad :: rest ∧ (∀ token ∈ good, ¬token.Bad groups names) ∧
      bad.Fails groups names e ∧ compileWith groups names source = .error e := by
  rcases hreads.stand_or_fail groups names with
    ⟨us, hus⟩ | ⟨good, bad, rest, e, rfl, hgood, hbad⟩
  · have hjoins := Piece.joins_foldr (units_eq_of_stands hus)
    exact .inl ⟨us, _, hus, hjoins, compileWith_of_stands hreads hus hjoins⟩
  · exact .inr ⟨good, bad, rest, e, rfl, hgood, hbad, compileWith_of_fails hreads hgood hbad⟩

/-- What a compiler answers for a source that reads as these tokens. -/
structure Compiles (groups : Nat) (names : List (Option String)) (ts : List Token)
    (answer : Except TemplateError Template) : Prop where
  succeeds_iff : (∃ t, answer = .ok t) ↔ ∀ token ∈ ts, ¬token.Bad groups names
  ok_iff (t : Template) : answer = .ok t ↔
    ∃ us, List.Forall₂ (Token.Stands groups names) ts us ∧ Piece.Joins us t.pieces
  error_iff (e : TemplateError) : answer = .error e ↔
    ∃ good bad rest, ts = good ++ bad :: rest ∧ (∀ token ∈ good, ¬token.Bad groups names) ∧
      bad.Fails groups names e
  normal (t : Template) : answer = .ok t → Piece.Normal t.pieces
  inRange (t : Template) : answer = .ok t → ∀ i, .group i ∈ t.pieces → i < groups

theorem Reads.compileWith_succeeds_iff (hreads : Reads source.toList ts) :
    (∃ t, compileWith groups names source = .ok t) ↔ ∀ token ∈ ts, ¬token.Bad groups names := by
  rcases hreads.compileWith_cases groups names with
    ⟨us, ps, hus, -, hok⟩ | ⟨good, bad, rest, e, rfl, -, hbad, herror⟩
  · refine ⟨fun _ token htoken => ?_, fun _ => ⟨_, hok⟩⟩
    obtain ⟨_, -, hstands⟩ :=
      exists_left_of_mem (List.Forall₂.flip (R := flip (Token.Stands groups names)) hus) htoken
    exact Token.Stands.not_bad hstands
  · constructor
    · rintro ⟨t, ht⟩
      exact absurd (herror.symm.trans ht) (by simp)
    · intro hgood
      exact absurd ⟨e, hbad⟩ (hgood bad (by simp))

theorem Reads.compileWith_ok_iff (hreads : Reads source.toList ts) (t : Template) :
    compileWith groups names source = .ok t ↔
      ∃ us, List.Forall₂ (Token.Stands groups names) ts us ∧ Piece.Joins us t.pieces := by
  constructor
  · intro ht
    rcases hreads.compileWith_cases groups names with
      ⟨us, ps, hus, hjoins, hok⟩ | ⟨_, _, _, _, -, -, -, herror⟩
    · obtain rfl : Template.mk ps = t := Except.ok.inj (hok.symm.trans ht)
      exact ⟨us, hus, hjoins⟩
    · exact absurd (herror.symm.trans ht) (by simp)
  · rintro ⟨us, hus, hjoins⟩
    exact compileWith_of_stands hreads hus hjoins

/-- The groups of a compiled template are groups of the pattern. -/
theorem group_lt_of_compileWith {t : Template} (ht : compileWith groups names source = .ok t)
    {i : Nat} (hi : .group i ∈ t.pieces) : i < groups := by
  have hreads : Reads source.toList (tokens .between source.toList) := reads_iff.2 rfl
  obtain ⟨us, hstands, hjoins⟩ := (hreads.compileWith_ok_iff t).1 ht
  exact group_lt_of_stands hstands hjoins hi

theorem Reads.compileWith_error_iff (hreads : Reads source.toList ts) (e : TemplateError) :
    compileWith groups names source = .error e ↔
      ∃ good bad rest, ts = good ++ bad :: rest ∧ (∀ token ∈ good, ¬token.Bad groups names) ∧
        bad.Fails groups names e := by
  constructor
  · intro he
    rcases hreads.compileWith_cases groups names with
      ⟨_, _, -, -, hok⟩ | ⟨good, bad, rest, e', rfl, hgood, hbad, herror⟩
    · exact absurd (hok.symm.trans he) (by simp)
    · obtain rfl : e' = e := Except.error.inj (herror.symm.trans he)
      exact ⟨good, bad, rest, rfl, hgood, hbad⟩
  · rintro ⟨good, bad, rest, rfl, hgood, hbad⟩
    exact compileWith_of_fails hreads hgood hbad

/-- Every source is read in one way, and what it compiles to is what the tokens stand for. -/
theorem compileWith_accepts_grammar (groups : Nat) (names : List (Option String))
    (source : String) :
    ∃ ts, Reads source.toList ts ∧ (∀ ts', Reads source.toList ts' → ts' = ts) ∧
      Compiles groups names ts (compileWith groups names source) := by
  have hreads : Reads source.toList (tokens .between source.toList) := reads_iff.2 rfl
  refine ⟨_, hreads, fun ts' hts' => (reads_iff.1 hts').symm, ?_⟩
  exact {
    succeeds_iff := hreads.compileWith_succeeds_iff
    ok_iff := hreads.compileWith_ok_iff
    error_iff := hreads.compileWith_error_iff
    normal := by
      intro t ht
      obtain ⟨_, -, hjoins⟩ := (hreads.compileWith_ok_iff t).1 ht
      exact hjoins.normal
    inRange := by
      intro t ht i hi
      obtain ⟨_, hus, hjoins⟩ := (hreads.compileWith_ok_iff t).1 ht
      exact group_lt_of_stands hus hjoins hi }

end Template

end PatternSession
