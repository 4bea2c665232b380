import PatternSession.Text.Slice

/-!
# Character positions as byte positions

`bytePosition cs i` is the byte position of character `i`, or of the end when there is none. It is
strictly increasing up to the end, so character positions and byte positions on boundaries determine
each other, and cutting a text at byte positions is cutting it at character positions.

* `sliceBytes?_isSome_iff`: the spans that can be cut out are those between two characters.
* `byteOffset_eq`: the shortcut for ASCII texts agrees with the table of positions.
* `sliceChars_eq`: a slice by characters is what `drop` and `take` give, also past the end.
-/

namespace PatternSession

/-! ## Lengths in bytes -/

@[simp] theorem byteLength_nil : byteLength [] = 0 := rfl

@[simp] theorem byteLength_cons (c : Char) (cs : List Char) :
    byteLength (c :: cs) = c.utf8Size + byteLength cs := rfl

@[simp] theorem byteLength_append (a b : List Char) :
    byteLength (a ++ b) = byteLength a + byteLength b := by
  induction a with
  | nil => simp
  | cons c a ih => simp [ih, Nat.add_assoc]

theorem length_le_byteLength (cs : List Char) : cs.length ≤ byteLength cs := by
  induction cs with
  | nil => simp
  | cons c cs ih =>
    have := c.utf8Size_pos
    simp only [List.length_cons, byteLength_cons]
    omega

/-- The byte position of character `i`, or of the end. -/
def bytePosition (cs : List Char) (i : Nat) : Nat := byteLength (cs.take i)

@[simp] theorem bytePosition_zero (cs : List Char) : bytePosition cs 0 = 0 := by
  simp [bytePosition]

@[simp] theorem bytePosition_nil (i : Nat) : bytePosition [] i = 0 := by
  simp [bytePosition]

@[simp] theorem bytePosition_cons_succ (c : Char) (cs : List Char) (i : Nat) :
    bytePosition (c :: cs) (i + 1) = c.utf8Size + bytePosition cs i := rfl

theorem bytePosition_of_length_le {cs : List Char} {i : Nat} (h : cs.length ≤ i) :
    bytePosition cs i = byteLength cs := by
  rw [bytePosition, List.take_of_length_le h]

/-- All positions past the end are the end. -/
theorem bytePosition_min_length (cs : List Char) (i : Nat) :
    bytePosition cs (min i cs.length) = bytePosition cs i := by
  rcases Nat.le_total i cs.length with h | h
  · rw [Nat.min_eq_left h]
  · rw [Nat.min_eq_right h, bytePosition_of_length_le h, bytePosition_of_length_le (Nat.le_refl _)]

/-- Positions inside a text do not depend on what follows. -/
theorem bytePosition_take {cs : List Char} {i n : Nat} (h : i ≤ n) :
    bytePosition (cs.take n) i = bytePosition cs i := by
  rw [bytePosition, List.take_take, Nat.min_eq_left h, bytePosition]

theorem bytePosition_add (cs : List Char) (i k : Nat) :
    bytePosition cs (i + k) = bytePosition cs i + bytePosition (cs.drop i) k := by
  simp only [bytePosition, List.take_add, byteLength_append]

theorem bytePosition_mono (cs : List Char) {i j : Nat} (h : i ≤ j) :
    bytePosition cs i ≤ bytePosition cs j := by
  obtain ⟨k, rfl⟩ := Nat.exists_eq_add_of_le h
  rw [bytePosition_add]
  exact Nat.le_add_right _ _

theorem bytePosition_le_byteLength (cs : List Char) (i : Nat) :
    bytePosition cs i ≤ byteLength cs := by
  rw [← bytePosition_min_length, ← bytePosition_of_length_le (Nat.le_refl cs.length)]
  exact bytePosition_mono cs (Nat.min_le_right i cs.length)

theorem bytePosition_strictMono {cs : List Char} {i j : Nat} (h : i < j) (hj : j ≤ cs.length) :
    bytePosition cs i < bytePosition cs j := by
  obtain ⟨k, rfl⟩ := Nat.exists_eq_add_of_lt h
  rw [Nat.add_assoc, bytePosition_add, bytePosition]
  have hlen : ((cs.drop i).take (k + 1)).length = k + 1 := by
    rw [List.length_take, List.length_drop]
    omega
  have := length_le_byteLength ((cs.drop i).take (k + 1))
  rw [bytePosition]
  omega

theorem bytePosition_le_iff {cs : List Char} {i j : Nat} (hi : i ≤ cs.length) :
    bytePosition cs i ≤ bytePosition cs j ↔ i ≤ j := by
  refine ⟨?_, bytePosition_mono cs⟩
  intro h
  by_cases hij : i ≤ j
  · exact hij
  · have := bytePosition_strictMono (Nat.lt_of_not_le hij) hi
    omega

theorem bytePosition_inj {cs : List Char} {i j : Nat} (hi : i ≤ cs.length) (hj : j ≤ cs.length) :
    bytePosition cs i = bytePosition cs j ↔ i = j := by
  constructor
  · intro h
    exact Nat.le_antisymm ((bytePosition_le_iff hi).1 (Nat.le_of_eq h))
      ((bytePosition_le_iff hj).1 (Nat.le_of_eq h.symm))
  · intro h
    rw [h]

/-! ## Cutting at byte positions -/

theorem dropBytes?_zero (cs : List Char) : dropBytes? cs 0 = some cs := by
  cases cs <;> rfl

theorem takeBytes?_zero (cs : List Char) : takeBytes? cs 0 = some [] := by
  cases cs <;> rfl

theorem dropBytes?_cons_add (c : Char) (cs : List Char) (n : Nat) :
    dropBytes? (c :: cs) (c.utf8Size + n) = dropBytes? cs n := by
  have hpos := c.utf8Size_pos
  obtain ⟨k, hk⟩ : ∃ k, c.utf8Size + n = k + 1 := ⟨c.utf8Size + n - 1, by omega⟩
  rw [hk, dropBytes?, if_pos (by omega), ← hk, Nat.add_sub_cancel_left]

theorem takeBytes?_cons_add (c : Char) (cs : List Char) (n : Nat) :
    takeBytes? (c :: cs) (c.utf8Size + n) = (takeBytes? cs n).map (c :: ·) := by
  have hpos := c.utf8Size_pos
  obtain ⟨k, hk⟩ : ∃ k, c.utf8Size + n = k + 1 := ⟨c.utf8Size + n - 1, by omega⟩
  rw [hk, takeBytes?, if_pos (by omega), ← hk, Nat.add_sub_cancel_left]

@[simp] theorem dropBytes?_bytePosition (cs : List Char) (i : Nat) :
    dropBytes? cs (bytePosition cs i) = some (cs.drop i) := by
  induction cs generalizing i with
  | nil => simp [dropBytes?_zero]
  | cons c cs ih =>
    cases i with
    | zero => rw [bytePosition_zero, dropBytes?_zero, List.drop_zero]
    | succ i => rw [bytePosition_cons_succ, dropBytes?_cons_add, ih, List.drop_succ_cons]

@[simp] theorem takeBytes?_bytePosition (cs : List Char) (i : Nat) :
    takeBytes? cs (bytePosition cs i) = some (cs.take i) := by
  induction cs generalizing i with
  | nil => simp [takeBytes?_zero]
  | cons c cs ih =>
    cases i with
    | zero => rw [bytePosition_zero, takeBytes?_zero, List.take_zero]
    | succ i => rw [bytePosition_cons_succ, takeBytes?_cons_add, ih, Option.map_some,
        List.take_succ_cons]

/-- A position at which a text can be cut is the position of a character, or of the end. -/
theorem exists_of_dropBytes? {cs rest : List Char} {n : Nat} (h : dropBytes? cs n = some rest) :
    ∃ i, i ≤ cs.length ∧ n = bytePosition cs i ∧ rest = cs.drop i := by
  induction cs generalizing n with
  | nil =>
    cases n with
    | zero => exact ⟨0, by simp, by simp, by simpa [dropBytes?] using h.symm⟩
    | succ n => simp [dropBytes?] at h
  | cons c cs ih =>
    cases n with
    | zero => exact ⟨0, by simp, by simp, by simpa [dropBytes?] using h.symm⟩
    | succ n =>
      rw [dropBytes?] at h
      split at h
      · obtain ⟨i, hi, hn, hrest⟩ := ih h
        refine ⟨i + 1, by simpa using hi, ?_, by simpa using hrest⟩
        rw [bytePosition_cons_succ]
        omega
      · simp at h

theorem exists_of_takeBytes? {cs front : List Char} {n : Nat} (h : takeBytes? cs n = some front) :
    ∃ i, i ≤ cs.length ∧ n = bytePosition cs i ∧ front = cs.take i := by
  induction cs generalizing n front with
  | nil =>
    cases n with
    | zero => exact ⟨0, by simp, by simp, by simpa [takeBytes?] using h.symm⟩
    | succ n => simp [takeBytes?] at h
  | cons c cs ih =>
    cases n with
    | zero => exact ⟨0, by simp, by simp, by simpa [takeBytes?] using h.symm⟩
    | succ n =>
      rw [takeBytes?] at h
      split at h
      · obtain ⟨front', hfront, rfl⟩ := Option.map_eq_some_iff.1 h
        obtain ⟨i, hi, hn, rfl⟩ := ih hfront
        refine ⟨i + 1, by simpa using hi, ?_, by simp⟩
        rw [bytePosition_cons_succ]
        omega
      · simp at h

theorem sliceBytes?_bytePosition (cs : List Char) {i j : Nat} (h : i ≤ j) :
    sliceBytes? cs (bytePosition cs i) (bytePosition cs j) = some ((cs.drop i).take (j - i)) := by
  obtain ⟨k, rfl⟩ := Nat.exists_eq_add_of_le h
  rw [sliceBytes?, if_pos (bytePosition_mono cs h), dropBytes?_bytePosition, Option.bind_some,
    bytePosition_add, Nat.add_sub_cancel_left, Nat.add_sub_cancel_left]
  exact takeBytes?_bytePosition _ _

/-- The spans that can be cut out of a text lie between two of its characters. -/
theorem sliceBytes?_isSome_iff {cs : List Char} {start stop : Nat} :
    (sliceBytes? cs start stop).isSome ↔
      ∃ i j, i ≤ j ∧ j ≤ cs.length ∧ start = bytePosition cs i ∧ stop = bytePosition cs j := by
  constructor
  · intro h
    rw [sliceBytes?] at h
    split at h
    next hle =>
      obtain ⟨mid, hmid⟩ := Option.isSome_iff_exists.1 h
      obtain ⟨rest, hrest, hmid⟩ := Option.bind_eq_some_iff.1 hmid
      obtain ⟨i, hi, rfl, rfl⟩ := exists_of_dropBytes? hrest
      obtain ⟨k, hk, hstop, -⟩ := exists_of_takeBytes? hmid
      rw [List.length_drop] at hk
      refine ⟨i, i + k, Nat.le_add_right i k, by omega, rfl, ?_⟩
      rw [bytePosition_add]
      omega
    next => simp at h
  · rintro ⟨i, j, hij, -, rfl, rfl⟩
    rw [sliceBytes?_bytePosition cs hij]
    rfl

/-! ## Byte positions by table and by shortcut -/

theorem getElem?_charStarts (first : Nat) (cs : List Char) (i : Nat) :
    (charStarts first cs)[i]? =
      if i < cs.length then some (first + bytePosition cs i) else none := by
  induction cs generalizing first i with
  | nil => simp [charStarts]
  | cons c cs ih =>
    cases i with
    | zero => simp [charStarts]
    | succ i => simp [charStarts, ih, Nat.add_assoc]

@[simp] theorem length_charStarts (first : Nat) (cs : List Char) :
    (charStarts first cs).length = cs.length := by
  induction cs generalizing first with
  | nil => rfl
  | cons c cs ih => simp [charStarts, ih]

theorem utf8Size_of_lt {c : Char} (h : c.val < 128) : c.utf8Size = 1 := by
  rw [Char.utf8Size_eq_one_iff]
  exact UInt32.le_iff_toNat_le.2 (Nat.le_of_lt_succ (UInt32.lt_iff_toNat_lt.1 h))

theorem byteLength_of_isAscii {cs : List Char} (h : isAscii cs = true) :
    byteLength cs = cs.length := by
  induction cs with
  | nil => rfl
  | cons c cs ih =>
    simp only [isAscii, List.all_cons, Bool.and_eq_true, decide_eq_true_eq] at h
    rw [byteLength_cons, ih h.2, utf8Size_of_lt h.1, List.length_cons, Nat.add_comm]

theorem isAscii_take {cs : List Char} (h : isAscii cs = true) (i : Nat) :
    isAscii (cs.take i) = true := by
  rw [isAscii, List.all_eq_true] at h ⊢
  exact fun c hc => h c (List.mem_of_mem_take hc)

/-- The table has an entry for every character, and the end stands for all positions past it. -/
theorem charStarts_getD (cs : List Char) (i : Nat) :
    (charStarts 0 cs)[i]?.getD (byteLength cs) = bytePosition cs i := by
  rw [getElem?_charStarts]
  by_cases hi : i < cs.length
  · rw [if_pos hi, Option.getD_some, Nat.zero_add]
  · rw [if_neg hi, Option.getD_none, bytePosition_of_length_le (Nat.le_of_not_lt hi)]

/-- The two ways to find a byte position agree. -/
theorem byteOffset_eq (cs : List Char) (i : Nat) : byteOffset cs i = bytePosition cs i := by
  rw [byteOffset]
  split
  next h =>
    rw [byteLength_of_isAscii h, bytePosition, byteLength_of_isAscii (isAscii_take h i),
      List.length_take]
  next => exact charStarts_getD cs i

/-- A slice by characters, also past the end. -/
theorem sliceChars_eq (cs : List Char) (start len : Nat) :
    sliceChars cs start len = (cs.drop start).take len := by
  simp only [sliceChars, byteOffset_eq, dropBytes?_bytePosition, Option.getD_some]
  rw [← bytePosition_add, sliceBytes?_bytePosition cs (Nat.le_add_right _ _), Option.getD_some,
    Nat.add_sub_cancel_left]

end PatternSession
