import Mathlib.Data.List.Chain
import PatternSession.Template

/-!
# Pieces in normal form

**Normal form** (`Piece.Normal`). No literal is empty and no two literals stand side by side.

**Units** (`Piece.units`). A piece taken apart: its characters as literals of one character each,
or its group.

**Theorem (`joins_iff`).** Putting units together with `Template.consPiece`, the last one first,
gives the only list of pieces in normal form with these units. So what compiling a template makes of
its tokens is described by the normal form and by the units alone.
-/

namespace PatternSession

namespace Piece

open Template (consPiece)

def isLiteral : Piece → Bool
  | literal _ => true
  | .group _ => false

/-- No empty literal, and no two literals side by side. -/
structure Normal (ps : List Piece) : Prop where
  nonempty : literal [] ∉ ps
  apart : ps.IsChain fun p q => ¬(p.isLiteral ∧ q.isLiteral)

/-- The characters of a literal, each on its own, or the group. -/
def units : Piece → List Piece
  | literal text => text.map fun c => literal [c]
  | .group i => [.group i]

/-- The pieces are the units in order, with neighbouring characters joined. -/
structure Joins (us ps : List Piece) : Prop where
  normal : Normal ps
  units : ps.flatMap Piece.units = us

theorem Normal.nil : Normal [] := ⟨by simp, .nil⟩

theorem normal_cons_iff {p : Piece} {ps : List Piece} :
    Normal (p :: ps) ↔
      p ≠ literal [] ∧ (∀ q ∈ ps.head?, ¬(p.isLiteral ∧ q.isLiteral)) ∧ Normal ps := by
  constructor
  · rintro ⟨hne, hapart⟩
    rw [List.mem_cons, not_or] at hne
    rw [List.isChain_cons] at hapart
    exact ⟨Ne.symm hne.1, hapart.1, hne.2, hapart.2⟩
  · rintro ⟨hp, hhead, hps⟩
    exact ⟨by simp [Ne.symm hp, hps.nonempty], List.isChain_cons.2 ⟨hhead, hps.apart⟩⟩

/-! ## One more piece in front -/

theorem consPiece_of_apart {p : Piece} {ps : List Piece}
    (h : ∀ q ∈ ps.head?, ¬(p.isLiteral ∧ q.isLiteral)) : consPiece p ps = p :: ps := by
  cases p with
  | group i => rfl
  | literal a =>
    match ps with
    | [] => rfl
    | .group i :: rest => rfl
    | .literal b :: rest => exact absurd ⟨rfl, rfl⟩ (h _ rfl)

theorem consPiece_literal_literal (a b : List Char) (ps : List Piece) :
    consPiece (.literal a) (consPiece (.literal b) ps) = consPiece (.literal (a ++ b)) ps := by
  match ps with
  | [] => rfl
  | .group i :: rest => rfl
  | .literal d :: rest => simp [consPiece]

theorem Normal.cons {p : Piece} {ps : List Piece} (hp : p ≠ literal []) (hps : Normal ps) :
    Normal (consPiece p ps) := by
  match p, ps with
  | .group i, ps => exact normal_cons_iff.2 ⟨hp, by simp [isLiteral], hps⟩
  | .literal a, [] => exact normal_cons_iff.2 ⟨hp, by simp, hps⟩
  | .literal a, .group i :: rest => exact normal_cons_iff.2 ⟨hp, by simp [isLiteral], hps⟩
  | .literal a, .literal b :: rest =>
    obtain ⟨hb, hhead, hrest⟩ := normal_cons_iff.1 hps
    have hab : Piece.literal (a ++ b) ≠ .literal [] := by simp_all
    exact normal_cons_iff.2 ⟨hab, hhead, hrest⟩

theorem flatMap_units_consPiece (p : Piece) (ps : List Piece) :
    (consPiece p ps).flatMap units = p.units ++ ps.flatMap units := by
  match p, ps with
  | .group i, ps => rfl
  | .literal a, [] => rfl
  | .literal a, .group i :: rest => rfl
  | .literal a, .literal b :: rest => simp [consPiece, units]

/-! ## Putting units together -/

/-- The characters of a literal come together again in front of whatever follows. -/
theorem foldr_units {p : Piece} (hp : p ≠ literal []) (ps : List Piece) :
    p.units.foldr consPiece ps = consPiece p ps := by
  cases p with
  | group i => rfl
  | literal text =>
    induction text with
    | nil => exact absurd rfl hp
    | cons c text ih =>
      cases text with
      | nil => rfl
      | cons d text =>
        calc (units (.literal (c :: d :: text))).foldr consPiece ps
            = consPiece (.literal [c]) ((units (.literal (d :: text))).foldr consPiece ps) := rfl
          _ = consPiece (.literal (c :: d :: text)) ps := by
            rw [ih (by simp), consPiece_literal_literal]
            rfl

theorem Normal.foldr_flatMap_units {ps : List Piece} (h : Normal ps) :
    (ps.flatMap units).foldr consPiece [] = ps := by
  induction ps with
  | nil => rfl
  | cons p ps ih =>
    obtain ⟨hp, hhead, hps⟩ := normal_cons_iff.1 h
    rw [List.flatMap_cons, List.foldr_append, ih hps, foldr_units hp, consPiece_of_apart hhead]

theorem joins_foldr {us : List Piece} (hus : ∀ u ∈ us, u.units = [u]) :
    Joins us (us.foldr consPiece []) := by
  induction us with
  | nil => exact ⟨.nil, rfl⟩
  | cons u us ih =>
    rw [List.forall_mem_cons] at hus
    obtain ⟨hnormal, hunits⟩ := ih hus.2
    have hne : u ≠ literal [] := by
      rintro rfl
      exact absurd hus.1 (by simp [units])
    refine ⟨hnormal.cons hne, ?_⟩
    rw [List.foldr_cons, flatMap_units_consPiece, hus.1, hunits]
    rfl

theorem joins_iff {us ps : List Piece} (hus : ∀ u ∈ us, u.units = [u]) :
    Joins us ps ↔ us.foldr consPiece [] = ps := by
  constructor
  · rintro ⟨hnormal, rfl⟩
    exact hnormal.foldr_flatMap_units
  · rintro rfl
    exact joins_foldr hus

/-! ## Expanding -/

theorem flatMap_expand_units (group : Nat → Option (List Char)) (p : Piece) :
    p.units.flatMap (expand group) = p.expand group := by
  cases p with
  | group i => simp [units]
  | literal text =>
    induction text with
    | nil => rfl
    | cons c text ih =>
      calc (units (.literal (c :: text))).flatMap (expand group)
          = c :: (units (.literal text)).flatMap (expand group) := rfl
        _ = c :: text := by rw [ih]; rfl

/-- Joining does not show in the expansion. -/
theorem Joins.flatMap_expand {us ps : List Piece} (h : Joins us ps)
    (group : Nat → Option (List Char)) : ps.flatMap (expand group) = us.flatMap (expand group) := by
  rw [← h.units, List.flatMap_assoc]
  simp only [flatMap_expand_units]

end Piece

end PatternSession
