import Mathlib.Data.List.Forall2
import PatternSession.Proofs.TemplateGrammar

/-!
# One template source after another

Compiling is local: a source is compiled from the left, and what has been read does not change what
is read after it. Only where two sources meet can a token of the first one run on into the second.

**Seams.** `Template.EndsIn` names the last lexeme of a source. Two lexemes at the end of a source
that compiles depend on what follows: a dollar that stands for itself, and a dollar with a run of
digits. When neither goes on over the seam, the first source and the second are read one after the
other (`Reads.append`).

**Joining.** `Piece.append` puts two lists of pieces together, making one literal of two that meet.
It keeps the normal form and the units (`Piece.Joins.append`).

**Theorem (`compileWith_append`).** So one source after another compiles as the second one does: it
fails with the same error, or gives the pieces of both.
-/

namespace PatternSession

/-! ## Pieces -/

namespace Piece

open Template (consPiece)

/-- The pieces one after the other. A literal at the end of the first ones and a literal at the
beginning of the others become one. -/
def append (ps qs : List Piece) : List Piece :=
  match ps.getLast?, qs with
  | some (.literal a), .literal b :: rest => ps.dropLast ++ .literal (a ++ b) :: rest
  | _, _ => ps ++ qs

theorem append_nil_left (qs : List Piece) : append [] qs = qs := by
  cases qs <;> rfl

theorem append_concat (ps : List Piece) (p : Piece) (qs : List Piece) :
    append (ps ++ [p]) qs = ps ++ consPiece p qs := by
  have hlast : (ps ++ [p]).getLast? = some p := List.getLast?_concat
  have hinit : (ps ++ [p]).dropLast = ps := List.dropLast_concat
  unfold append
  rw [hlast, hinit]
  match p, qs with
  | .group i, qs => simp [consPiece]
  | .literal a, [] => simp [consPiece]
  | .literal a, .group i :: rest => simp [consPiece]
  | .literal a, .literal b :: rest => rfl

theorem isLiteral_of_head?_consPiece {p q : Piece} {qs : List Piece}
    (h : q ∈ (consPiece p qs).head?) : q.isLiteral = p.isLiteral := by
  match p, qs with
  | .group i, qs => obtain rfl := Option.some.inj h; rfl
  | .literal a, [] => obtain rfl := Option.some.inj h; rfl
  | .literal a, .group i :: rest => obtain rfl := Option.some.inj h; rfl
  | .literal a, .literal b :: rest => obtain rfl := Option.some.inj h; rfl

theorem Normal.append_consPiece {ps qs : List Piece} {p : Piece} (hps : Normal (ps ++ [p]))
    (hqs : Normal qs) : Normal (ps ++ consPiece p qs) := by
  induction ps with
  | nil =>
    obtain ⟨hp, -, -⟩ := normal_cons_iff.1 hps
    exact hqs.cons hp
  | cons p' ps ih =>
    obtain ⟨hp', hhead, hrest⟩ := normal_cons_iff.1 hps
    refine normal_cons_iff.2 ⟨hp', ?_, ih hrest⟩
    intro q hq
    cases ps with
    | nil =>
      -- the piece that comes next may have grown, but it is a literal only if it was one
      rw [isLiteral_of_head?_consPiece hq]
      exact hhead p rfl
    | cons => exact hhead q hq

theorem Joins.append {us vs ps qs : List Piece} (h : Joins us ps) (h' : Joins vs qs) :
    Joins (us ++ vs) (append ps qs) := by
  rcases List.eq_nil_or_concat ps with rfl | ⟨ps, p, rfl⟩
  · rw [append_nil_left, ← h.units]
    exact h'
  · rw [List.concat_eq_append] at h ⊢
    rw [append_concat]
    refine ⟨h.normal.append_consPiece h'.normal, ?_⟩
    rw [List.flatMap_append, flatMap_units_consPiece, ← h.units, ← h'.units, List.flatMap_append,
      List.append_assoc, List.flatMap_singleton]

theorem Joins.flatMap_expand_append {us vs ps qs : List Piece} (h : Joins us ps) (h' : Joins vs qs)
    (group : Nat → Option (List Char)) :
    (Piece.append ps qs).flatMap (expand group) =
      ps.flatMap (expand group) ++ qs.flatMap (expand group) := by
  rw [(h.append h').flatMap_expand, h.flatMap_expand, h'.flatMap_expand, List.flatMap_append]

end Piece

namespace Template

/-! ## Seams -/

/-- The last lexeme of the source is the word, which spells the token. -/
inductive EndsIn : List Char → Token → List Char → Prop where
  | last {token word} : Lexeme token word [] → EndsIn word token word
  | after {token word rest token' word'} : Lexeme token word rest → EndsIn rest token' word' →
      EndsIn (word ++ rest) token' word'

/-- The source ends in a dollar that stands for itself, and is neither doubled nor escaped. -/
def EndsInDollar (source : List Char) : Prop := EndsIn source (.char '$') ['$']

/-- The source ends in a dollar with a run of digits. -/
def EndsInDigits (source : List Char) : Prop := ∃ run, EndsIn source (.digits run) ('$' :: run)

theorem EndsIn.lexeme {source word : List Char} {token : Token} (h : EndsIn source token word) :
    Lexeme token word [] := by
  induction h with
  | last hlexeme => exact hlexeme
  | after _ _ ih => exact ih

theorem EndsIn.exists_reads {source word : List Char} {token : Token}
    (h : EndsIn source token word) : ∃ ts, Reads source ts ∧ token ∈ ts := by
  induction h with
  | @last token word hlexeme =>
    have hreads := Reads.cons hlexeme .nil
    rw [List.append_nil] at hreads
    exact ⟨[token], hreads, List.mem_singleton_self _⟩
  | after hlexeme _ ih =>
    obtain ⟨ts, hts, hmem⟩ := ih
    exact ⟨_, .cons hlexeme hts, List.mem_cons_of_mem _ hmem⟩

/-- The last token is one of the tokens. -/
theorem EndsIn.mem {source word : List Char} {token : Token} {ts : List Token}
    (h : EndsIn source token word) (hreads : Reads source ts) : token ∈ ts := by
  obtain ⟨ts', hts', hmem⟩ := h.exists_reads
  rwa [← hreads.tokens_eq, hts'.tokens_eq]

/-- A lexeme that is followed by something does not look further than that. -/
theorem Lexeme.append {token : Token} {word rest : List Char} (h : Lexeme token word rest)
    (hne : rest ≠ []) (more : List Char) : Lexeme token word (rest ++ more) := by
  have hhead : (rest ++ more).head? = rest.head? := List.head?_append_of_ne_nil _ hne
  cases h with
  | digits hrun hdigits hrest => exact .digits hrun hdigits (by rwa [hhead])
  | lone hrest => exact .lone (by rwa [hhead])
  | unclosed | dangling => exact absurd rfl hne
  | _ => constructor <;> assumption

/-- **Sources are read one after the other,** when the last lexeme of the first one is still a
lexeme in front of the second. -/
theorem Reads.append {a b : List Char} {ts ts' : List Token} (ha : Reads a ts) (hb : Reads b ts')
    (hseam : ∀ token word, EndsIn a token word → Lexeme token word b) :
    Reads (a ++ b) (ts ++ ts') := by
  induction ha with
  | nil => exact hb
  | @cons token word rest ts hlexeme hrest ih =>
    rw [List.append_assoc, List.cons_append]
    by_cases hempty : rest = []
    · subst hempty
      obtain rfl : [] = ts := hrest.tokens_eq
      rw [List.append_nil] at hseam
      exact .cons (hseam token word (.last hlexeme)) hb
    · exact .cons (hlexeme.append hempty b)
        (ih fun token' word' hend => hseam token' word' (.after hlexeme hend))

section Seam

variable {groups : Nat} {names : List (Option String)} {a b : List Char}

/-- Of the lexemes that can end a source that compiles, all but two stand in front of anything. -/
theorem EndsIn.lexeme_before {token : Token} {word : List Char} (h : EndsIn a token word)
    (hgood : ¬token.Bad groups names)
    (hlone : EndsInDollar a → ∀ c ∈ b.head?, ¬JoinsDollar c)
    (hrun : EndsInDigits a → ∀ c ∈ b.head?, ¬c.isDigit) : Lexeme token word b := by
  cases h.lexeme with
  | digits hne hdigits => exact .digits hne hdigits (hrun ⟨_, h⟩)
  | lone => exact .lone (hlone h)
  | unclosed => exact absurd ⟨_, .unclosed⟩ hgood
  | dangling => exact absurd ⟨_, .dangling⟩ hgood
  | _ => constructor <;> assumption

end Seam

/-! ## Compiling -/

section Compile

variable {groups : Nat} {names : List (Option String)} {a b : String} {ta : Template}

theorem compileWith_append_eq (ha : compileWith groups names a = .ok ta)
    (hlone : EndsInDollar a.toList → ∀ c ∈ b.toList.head?, ¬JoinsDollar c)
    (hrun : EndsInDigits a.toList → ∀ c ∈ b.toList.head?, ¬c.isDigit) :
    compileWith groups names (a ++ b) =
      (compileWith groups names b).map fun tb => ⟨Piece.append ta.pieces tb.pieces⟩ := by
  obtain ⟨ts, hts⟩ := exists_reads a.toList
  obtain ⟨ts', hts'⟩ := exists_reads b.toList
  obtain ⟨us, hus, hjoins⟩ := (hts.compileWith_ok_iff ta).1 ha
  have hgood : ∀ token ∈ ts, ¬token.Bad groups names := hts.compileWith_succeeds_iff.1 ⟨ta, ha⟩
  have hreads : Reads (a ++ b).toList (ts ++ ts') := by
    rw [String.toList_append]
    exact hts.append hts' fun token word hend =>
      hend.lexeme_before (hgood token (hend.mem hts)) hlone hrun
  rcases hts'.compileWith_cases groups names with
    ⟨vs, qs, hvs, hjoins', hok⟩ | ⟨good, bad, rest, e, rfl, hgood', hbad, herror⟩
  · have hstands : List.Forall₂ (Token.Stands groups names) (ts ++ ts') (us ++ vs) :=
      List.rel_append hus hvs
    rw [hok, compileWith_of_stands hreads hstands (hjoins.append hjoins')]
    rfl
  · -- the first bad token of the second source is the first one of both
    rw [← List.append_assoc] at hreads
    have hbefore : ∀ token ∈ ts ++ good, ¬token.Bad groups names := by
      intro token htoken
      rcases List.mem_append.1 htoken with htoken | htoken
      · exact hgood token htoken
      · exact hgood' token htoken
    rw [herror, compileWith_of_fails hreads hbefore hbad]
    rfl

/-- **Compiling is compositional.** Let `a` compile, and let no token go on over the seam: when `a`
ends in a dollar that stands for itself, `b` does not begin with a dollar, an ampersand, an opening
brace or a digit, and when `a` ends in a dollar with digits, `b` does not begin with a digit. Then
`a` followed by `b` compiles if and only if `b` does, fails with the same error, and gives the
pieces of `a` followed by those of `b`; on every match it expands to the two expansions in a
row. -/
theorem compileWith_append (ha : compileWith groups names a = .ok ta)
    (hlone : EndsInDollar a.toList → ∀ c ∈ b.toList.head?, ¬JoinsDollar c)
    (hrun : EndsInDigits a.toList → ∀ c ∈ b.toList.head?, ¬c.isDigit) :
    ((∃ t, compileWith groups names (a ++ b) = .ok t) ↔
      ∃ tb, compileWith groups names b = .ok tb) ∧
    (∀ e, compileWith groups names (a ++ b) = .error e ↔ compileWith groups names b = .error e) ∧
    ∀ tb, compileWith groups names b = .ok tb →
      compileWith groups names (a ++ b) = .ok ⟨Piece.append ta.pieces tb.pieces⟩ ∧
        ∀ group, expand ⟨Piece.append ta.pieces tb.pieces⟩ group =
          ta.expand group ++ tb.expand group := by
  have heq := compileWith_append_eq ha hlone hrun
  cases hb : compileWith groups names b with
  | error e =>
    rw [hb] at heq
    refine ⟨?_, ?_, ?_⟩
    · simp [heq, Except.map]
    · simp [heq, Except.map]
    · rintro tb ⟨⟩
  | ok tb =>
    rw [hb] at heq
    refine ⟨?_, ?_, ?_⟩
    · simp [heq, Except.map]
    · simp [heq, Except.map]
    · rintro _ ⟨⟩
      refine ⟨heq, fun group => ?_⟩
      obtain ⟨_, hts⟩ := exists_reads a.toList
      obtain ⟨_, hts'⟩ := exists_reads b.toList
      obtain ⟨_, -, hjoins⟩ := (hts.compileWith_ok_iff ta).1 ha
      obtain ⟨_, -, hjoins'⟩ := (hts'.compileWith_ok_iff tb).1 hb
      exact hjoins.flatMap_expand_append hjoins' group

/-- A dollar that stands for itself, in front of a character that it does not join. -/
theorem compileWith_append_after_dollar :
    EndsInDollar "$1$".toList ∧
      compileWith 3 [none, none, none] "$1$" = .ok ⟨[.group 1, .literal ['$']]⟩ ∧
      compileWith 3 [none, none, none] "-$2" = .ok ⟨[.literal ['-'], .group 2]⟩ ∧
      compileWith 3 [none, none, none] ("$1$" ++ "-$2") =
        .ok ⟨[.group 1, .literal ['$', '-'], .group 2]⟩ := by
  have hdigits : Lexeme (.digits ['1']) ['$', '1'] ['$'] :=
    .digits (by decide) (by simp) (by simp)
  have hdollar : EndsInDollar "$1$".toList := .after hdigits (.last (.lone (by simp)))
  have ha : compileWith 3 [none, none, none] "$1$" = .ok ⟨[.group 1, .literal ['$']]⟩ := by rfl
  have hb : compileWith 3 [none, none, none] "-$2" = .ok ⟨[.literal ['-'], .group 2]⟩ := by rfl
  have hlone : ∀ c ∈ "-$2".toList.head?, ¬JoinsDollar c := by simp; decide
  have hrun : ∀ c ∈ "-$2".toList.head?, ¬c.isDigit := by simp
  exact ⟨hdollar, ha, hb, ((compileWith_append ha (fun _ => hlone) fun _ => hrun).2.2 _ hb).1⟩

/-! In front of a digit it joins: here both sources compile, and one after the other they do not. -/

example : compileWith 1 [none] "$" = .ok ⟨[.literal ['$']]⟩ ∧
    compileWith 1 [none] "1" = .ok ⟨[.literal ['1']]⟩ ∧
    compileWith 1 [none] ("$" ++ "1") = .error (.noSuchGroup 1) := ⟨rfl, rfl, rfl⟩

end Compile

end Template

end PatternSession
