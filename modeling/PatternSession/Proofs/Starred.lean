import PatternSession.Matcher
import PatternSession.Proofs.Positions

/-!
# A small matcher

`starred` knows the patterns `c*` for a letter `c`, and matches the longest run of that letter,
which may be empty. It finds a match from every position, and an empty one right after every run:
all that makes replacing and iterating difficult. It is lawful (`starred_lawful`), so what is proved
of lawful matchers is proved of something.
-/

namespace PatternSession

/-- The matcher for runs of a letter. -/
def starred : Matcher where
  Pattern := Char
  compile _ source :=
    match source.toList with
    | [c, '*'] => if c.isAlpha then .ok c else .error "unsupported pattern"
    | _ => .error "unsupported pattern"
  groupNames _ := [none]
  search c text start :=
    match dropBytes? text start with
    | some rest => .ok (some [some ⟨start, start + byteLength (rest.takeWhile (· = c))⟩])
    | none => .ok none

/-- From a boundary, the match is the run that begins there. -/
theorem starred_search {c : Char} {text : List Char} {start : Nat} {spans : ByteSpans}
    (hs : starred.search c text start = .ok (some spans)) :
    ∃ i k, start = bytePosition text i ∧ i + k ≤ text.length ∧
      spans = [some ⟨bytePosition text i, bytePosition text (i + k)⟩] := by
  simp only [starred] at hs
  split at hs
  next rest hrest =>
    obtain ⟨i, hi, rfl, rfl⟩ := exists_of_dropBytes? hrest
    obtain rfl := Option.some.inj (Except.ok.inj hs)
    have hrun := List.takeWhile_prefix (· = c) (l := text.drop i)
    have hlen : ((text.drop i).takeWhile (· = c)).length ≤ text.length - i := by
      rw [← List.length_drop]
      exact hrun.length_le
    refine ⟨i, ((text.drop i).takeWhile (· = c)).length, rfl, by omega, ?_⟩
    rw [bytePosition_add, bytePosition, bytePosition, ← List.prefix_iff_eq_take.1 hrun]
  next => cases hs

theorem starred_lawful : starred.Lawful where
  length_eq p text start spans hs := by
    obtain ⟨i, k, -, -, rfl⟩ := starred_search hs
    rfl
  within p text start spans _ hs s hmem b hb := by
    obtain ⟨i, k, -, hk, rfl⟩ := starred_search hs
    obtain rfl := List.mem_singleton.1 hmem
    obtain rfl := Option.some.inj hb
    exact sliceBytes?_isSome_iff.2 ⟨i, i + k, Nat.le_add_right i k, hk, rfl, rfl⟩
  start_le p text start spans _ hs := by
    obtain ⟨i, k, rfl, -, rfl⟩ := starred_search hs
    exact ⟨_, [], rfl, Nat.le_refl _⟩

end PatternSession
