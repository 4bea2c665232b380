import Mathlib.Data.List.Forall2
import PatternSession.Proofs.TemplateGrammar

/-!
# Writing a template

`Template.source` doubles every dollar and every backslash of a literal, and writes a group as its
number in braces. What it writes can be read wherever it stands: whether a doubled character, a
plain one or a closed pair of braces is a lexeme does not depend on what follows. So the pieces are
read one after the other, and no piece can run into the next (`reads_append`).

**Theorem (`source_reads_back`).** A list of pieces in normal form, written so, compiles to itself
for every table of names, as long as the pattern has its groups. A text, written so, compiles to a
template that is the text on every match.
-/

namespace PatternSession

namespace Piece

open Template

/-! ## What is written is read -/

/-- The tokens of the source of a piece. -/
def tokens : Piece → List Token
  | literal text => text.map Token.char
  | .group i => [.braced (Nat.toDigits 10 i)]

theorem reads_quote_append {rest : List Char} {ts : List Token} (h : Reads rest ts)
    (text : List Char) : Reads (quote text ++ rest) (text.map Token.char ++ ts) := by
  induction text with
  | nil => exact h
  | cons c text ih =>
    rw [quote, List.flatMap_cons, List.append_assoc]
    by_cases hdollar : c = '$'
    · subst hdollar
      exact .cons .dollar ih
    by_cases hback : c = '\\'
    · subst hback
      exact .cons (.escaped (by decide) (by decide)) ih
    · rw [if_neg (by simp [hdollar, hback])]
      exact .cons (.itself hdollar hback) ih

theorem not_mem_toDigits (i : Nat) : '\x7d' ∉ Nat.toDigits 10 i := fun h =>
  absurd (Nat.isDigit_of_mem_toDigits (by decide) (by decide) h) (by decide)

/-- A piece is read to its end, whatever comes after it. -/
theorem reads_append {rest : List Char} {ts : List Token} (h : Reads rest ts) (p : Piece) :
    Reads (p.source ++ rest) (p.tokens ++ ts) := by
  cases p with
  | literal text => exact reads_quote_append h text
  | group i =>
    have hsource : (Piece.group i).source = '$' :: '\x7b' :: Nat.toDigits 10 i ++ ['\x7d'] := by
      rw [Piece.source, Nat.toString_eq_ofList_toDigits, String.toList_ofList]
    rw [hsource]
    exact .cons (.braced (not_mem_toDigits i)) h

theorem reads_flatMap_source (ps : List Piece) :
    Reads (ps.flatMap Piece.source) (ps.flatMap tokens) := by
  induction ps with
  | nil => exact .nil
  | cons p ps ih => exact reads_append ih p

/-! ## What is read stands for the pieces -/

variable {groups : Nat} {names : List (Option String)}

theorem writesNumber_toDigits {i : Nat} (hi : i < wordValues) :
    WritesNumber (Nat.toDigits 10 i) i :=
  ⟨_, .inl rfl, Nat.toDigits_ne_nil,
    fun _ hc => Nat.isDigit_of_mem_toDigits (by decide) (by decide) hc,
    Nat.ofDigitChars_ten_toDigits, hi⟩

theorem chars_stand (groups : Nat) (names : List (Option String)) (text : List Char) :
    List.Forall₂ (Token.Stands groups names) (text.map Token.char) (units (.literal text)) := by
  rw [units, List.forall₂_map_left_iff, List.forall₂_map_right_iff, List.forall₂_same]
  exact fun _ _ => .char

theorem tokens_stand (hword : groups < wordValues) {p : Piece}
    (hp : ∀ i, p = .group i → i < groups) :
    List.Forall₂ (Token.Stands groups names) p.tokens p.units := by
  cases p with
  | literal text => exact chars_stand groups names text
  | group i =>
    have hi : i < groups := hp i rfl
    have hfits : i < wordValues := Nat.lt_trans hi hword
    exact .cons (.group (.number (writesNumber_toDigits hfits)) hi) .nil

theorem flatMap_tokens_stand (hword : groups < wordValues) {ps : List Piece}
    (hps : ∀ i, .group i ∈ ps → i < groups) :
    List.Forall₂ (Token.Stands groups names) (ps.flatMap tokens) (ps.flatMap units) := by
  induction ps with
  | nil => exact .nil
  | cons p ps ih =>
    have hp : ∀ i, p = .group i → i < groups := fun i hi => hps i (hi ▸ List.mem_cons_self)
    have hrest := ih fun i hi => hps i (List.mem_cons_of_mem _ hi)
    exact List.rel_append (tokens_stand hword hp) hrest

end Piece

namespace Template

theorem toList_source (ps : List Piece) : (source ⟨ps⟩).toList = ps.flatMap Piece.source := by
  rw [source, String.toList_ofList]

/-- What is written is read back unchanged: pieces in normal form, where the number of groups is a
machine word, and any text. -/
theorem source_reads_back (groups : Nat) (names : List (Option String)) :
    (∀ ps, groups < wordValues → Piece.Normal ps → (∀ i, .group i ∈ ps → i < groups) →
      compileWith groups names (source ⟨ps⟩) = .ok ⟨ps⟩) ∧
    ∀ text : String, ∃ t,
      compileWith groups names (String.ofList (Piece.quote text.toList)) = .ok t ∧
        ∀ group, t.expand group = text.toList := by
  constructor
  · intro ps hword hnormal hps
    have hreads : Reads (source ⟨ps⟩).toList (ps.flatMap Piece.tokens) := by
      rw [toList_source]
      exact Piece.reads_flatMap_source ps
    exact compileWith_of_stands hreads (Piece.flatMap_tokens_stand hword hps) ⟨hnormal, rfl⟩
  · intro text
    have hreads : Reads (String.ofList (Piece.quote text.toList)).toList
        (text.toList.map Token.char) := by
      rw [String.toList_ofList]
      simpa using Piece.reads_quote_append .nil text.toList
    have hstands := Piece.chars_stand groups names text.toList
    have hjoins := Piece.joins_foldr (units_eq_of_stands hstands)
    refine ⟨_, compileWith_of_stands hreads hstands hjoins, fun group => ?_⟩
    calc ((Piece.literal text.toList).units.foldr consPiece []).flatMap (Piece.expand group)
        = (Piece.literal text.toList).units.flatMap (Piece.expand group) :=
          hjoins.flatMap_expand group
      _ = text.toList := Piece.flatMap_expand_units group _

/-- Neither the digits nor the brace after the group are read with it. -/
theorem source_reads_back_around_group :
    source ⟨[.literal ['$', '1', '\\'], .group 11, .literal ['0', '\x7d']]⟩ =
        "$$1\\\\$\x7b11\x7d0\x7d" ∧
      compileWith 12 [some "11"] (source ⟨[.literal ['$', '1', '\\'], .group 11,
        .literal ['0', '\x7d']]⟩) =
          .ok ⟨[.literal ['$', '1', '\\'], .group 11, .literal ['0', '\x7d']]⟩ := by
  refine ⟨by rfl, (source_reads_back 12 [some "11"]).1 _ (by decide) ⟨by decide, ?_⟩ (by simp)⟩
  simp [Piece.isLiteral]

end Template

end PatternSession
