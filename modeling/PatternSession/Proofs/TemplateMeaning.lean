import PatternSession.Proofs.TemplateGrammar

/-!
# Templates that mean the same are the same

What a compiled template means is the text it expands to, for every assignment that gives each group
of the pattern a text or leaves it out.

**Theorem (`pieces_eq_iff_expand_eq`).** Of two sources compiled against the same groups, the pieces
are equal when the templates mean the same, however the sources are spelled.

**Proof.** Pieces in normal form are determined by their units. Two lists of units are compared from
the left, and at the first place where they differ there stand two units, or one unit and the end.
Under a `marking` every group is a single character, so every unit is; and a marking can be chosen
for any two different units that makes them different characters (`exists_marking_ne`). What stands
before that place is the same text on both sides, so the expansions differ there.
-/

namespace PatternSession

namespace Piece

/-! ## Assignments -/

/-- The assignment is for the groups of a pattern with so many groups. -/
def Assigns (groups : Nat) (group : Nat → Option (List Char)) : Prop :=
  ∀ i, groups ≤ i → group i = none

/-- The assignment that gives every group a single character. -/
def marking (groups : Nat) (mark : Nat → Char) (i : Nat) : Option (List Char) :=
  if i < groups then some [mark i] else none

theorem assigns_marking (groups : Nat) (mark : Nat → Char) : Assigns groups (marking groups mark) :=
  fun _ hi => if_neg (Nat.not_lt.2 hi)

/-! ## Units under a marking -/

/-- A literal of one character, or a group that the pattern has. -/
inductive IsUnit (groups : Nat) : Piece → Prop where
  | char (c : Char) : IsUnit groups (.literal [c])
  | group {i : Nat} : i < groups → IsUnit groups (.group i)

variable {groups : Nat}

theorem IsUnit.units_eq {u : Piece} (hu : IsUnit groups u) : u.units = [u] := by
  cases hu <;> rfl

theorem expand_marking_group {i : Nat} (hi : i < groups) (mark : Nat → Char) :
    (Piece.group i).expand (marking groups mark) = [mark i] := by
  rw [expand, marking, if_pos hi, Option.getD_some]

theorem IsUnit.exists_expand_marking {u : Piece} (hu : IsUnit groups u) (mark : Nat → Char) :
    ∃ c, u.expand (marking groups mark) = [c] := by
  cases hu with
  | char c => exact ⟨c, rfl⟩
  | group hi => exact ⟨_, expand_marking_group hi mark⟩

theorem exists_char_ne (c : Char) : ∃ d : Char, d ≠ c := by
  by_cases hc : c = 'a'
  · exact ⟨'b', by rw [hc]; decide⟩
  · exact ⟨'a', Ne.symm hc⟩

/-- **Some marking tells two units apart.** -/
theorem exists_marking_ne {u v : Piece} (hu : IsUnit groups u) (hv : IsUnit groups v)
    (hne : u ≠ v) :
    ∃ mark c d, u.expand (marking groups mark) = [c] ∧ v.expand (marking groups mark) = [d] ∧
      c ≠ d := by
  cases hu with
  | char c =>
    cases hv with
    | char d =>
      refine ⟨fun _ => 'a', c, d, rfl, rfl, ?_⟩
      rintro rfl
      exact hne rfl
    | group hj =>
      obtain ⟨d, hd⟩ := exists_char_ne c
      exact ⟨fun _ => d, c, d, rfl, expand_marking_group hj _, Ne.symm hd⟩
  | @group i hi =>
    cases hv with
    | char d =>
      obtain ⟨c, hc⟩ := exists_char_ne d
      exact ⟨fun _ => c, c, d, expand_marking_group hi _, rfl, hc⟩
    | @group j hj =>
      have hij : j ≠ i := by
        rintro rfl
        exact hne rfl
      refine ⟨fun k => if k = i then 'a' else 'b', 'a', 'b', ?_, ?_, by decide⟩
      · rw [expand_marking_group hi, if_pos rfl]
      · rw [expand_marking_group hj, if_neg hij]

/-! ## Lists of units -/

/-- Units do not expand to nothing. -/
theorem IsUnit.flatMap_expand_ne_nil {u : Piece} (hu : IsUnit groups u) (us : List Piece) :
    (u :: us).flatMap (expand (marking groups fun _ => 'a')) ≠ [] := by
  obtain ⟨c, hc⟩ := hu.exists_expand_marking fun _ => 'a'
  rw [List.flatMap_cons, hc]
  exact List.cons_ne_nil _ _

/-- **Units that mean the same are the same.** -/
theorem units_eq_of_expand_eq {us vs : List Piece} (hus : ∀ u ∈ us, IsUnit groups u)
    (hvs : ∀ v ∈ vs, IsUnit groups v)
    (h : ∀ group, Assigns groups group →
      us.flatMap (expand group) = vs.flatMap (expand group)) : us = vs := by
  induction us generalizing vs with
  | nil =>
    cases vs with
    | nil => rfl
    | cons v vs =>
      have hv := hvs v List.mem_cons_self
      exact absurd (h _ (assigns_marking _ _)).symm (hv.flatMap_expand_ne_nil vs)
  | cons u us ih =>
    have hu := hus u List.mem_cons_self
    cases vs with
    | nil => exact absurd (h _ (assigns_marking _ _)) (hu.flatMap_expand_ne_nil us)
    | cons v vs =>
      have hv := hvs v List.mem_cons_self
      by_cases huv : u = v
      · subst huv
        -- the same text in front is taken off, under every assignment
        have hrest : us = vs := by
          refine ih (fun u' hu' => hus u' (List.mem_cons_of_mem _ hu'))
            (fun v' hv' => hvs v' (List.mem_cons_of_mem _ hv')) fun group hgroup => ?_
          have hall := h group hgroup
          rw [List.flatMap_cons, List.flatMap_cons] at hall
          exact List.append_cancel_left hall
        rw [hrest]
      · obtain ⟨mark, c, d, hc, hd, hcd⟩ := exists_marking_ne hu hv huv
        have hmark := h _ (assigns_marking groups mark)
        rw [List.flatMap_cons, List.flatMap_cons, hc, hd] at hmark
        exact absurd (List.cons.inj hmark).1 hcd

end Piece

/-! ## Templates -/

namespace Template

open Piece (Assigns IsUnit)

variable {groups : Nat} {names : List (Option String)}

theorem Token.Stands.isUnit {token : Token} {p : Piece} (h : token.Stands groups names p) :
    IsUnit groups p := by
  cases h with
  | char => exact .char _
  | group _ hlt => exact .group hlt

/-- The pieces that a source compiles to are joined units. -/
theorem exists_units_of_compileWith {source : String} {t : Template}
    (h : compileWith groups names source = .ok t) :
    ∃ us, (∀ u ∈ us, IsUnit groups u) ∧ Piece.Joins us t.pieces := by
  obtain ⟨ts, hreads⟩ := exists_reads source.toList
  obtain ⟨us, hus, hjoins⟩ := (hreads.compileWith_ok_iff t).1 h
  refine ⟨us, fun u hu => ?_, hjoins⟩
  obtain ⟨_, -, hstands⟩ := exists_left_of_mem hus hu
  exact hstands.isUnit

/-- **Compiled templates are canonical.** Two sources that compile against the same groups and names
have the same pieces if and only if they expand to the same text under every assignment that gives
each group a text or leaves it out. -/
theorem pieces_eq_iff_expand_eq {a b : String} {ta tb : Template}
    (ha : compileWith groups names a = .ok ta) (hb : compileWith groups names b = .ok tb) :
    ta.pieces = tb.pieces ↔
      ∀ group, Assigns groups group → ta.expand group = tb.expand group := by
  constructor
  · intro heq group _
    rw [expand, expand, heq]
  · intro h
    obtain ⟨us, hus, hjoins⟩ := exists_units_of_compileWith ha
    obtain ⟨vs, hvs, hjoins'⟩ := exists_units_of_compileWith hb
    have huv : us = vs := by
      refine Piece.units_eq_of_expand_eq hus hvs fun group hgroup => ?_
      rw [← hjoins.flatMap_expand group, ← hjoins'.flatMap_expand group]
      exact h group hgroup
    have hfold := (Piece.joins_iff fun u hu => (hus u hu).units_eq).1 hjoins
    have hfold' := (Piece.joins_iff fun v hv => (hvs v hv).units_eq).1 hjoins'
    rw [← hfold, ← hfold', huv]

/-- A group by its name and one by its number, after a dollar that stands alone and one that is
escaped: the literals are equal, and the groups are told apart. -/
theorem pieces_eq_iff_expand_eq_of_two_groups :
    compileWith 2 [none, some "n"] "$a$\x7bn\x7d" = .ok ⟨[.literal ['$', 'a'], .group 1]⟩ ∧
      compileWith 2 [none, some "n"] "\\$a$0" = .ok ⟨[.literal ['$', 'a'], .group 0]⟩ ∧
      ¬∀ group, Assigns 2 group →
        expand ⟨[.literal ['$', 'a'], .group 1]⟩ group =
          expand ⟨[.literal ['$', 'a'], .group 0]⟩ group := by
  have hname : compileWith 2 [none, some "n"] "$a$\x7bn\x7d" =
      .ok ⟨[.literal ['$', 'a'], .group 1]⟩ := by rfl
  have hnumber : compileWith 2 [none, some "n"] "\\$a$0" =
      .ok ⟨[.literal ['$', 'a'], .group 0]⟩ := by rfl
  exact ⟨hname, hnumber, fun h =>
    absurd ((pieces_eq_iff_expand_eq hname hnumber).2 h) (by decide)⟩

end Template

end PatternSession
