/-!
# Digits and numbers

Reading numbers in bases up to sixteen, where letters of either case are the digits from ten on.
Only ASCII characters are digits. A number that does not fit a machine word is often not read as a
number at all; `wordValues` is the limit.
-/

namespace PatternSession

/-- The value of a digit. -/
def digitValue? (c : Char) : Option Nat :=
  if '0' ≤ c && c ≤ '9' then some (c.toNat - '0'.toNat)
  else if 'a' ≤ c && c ≤ 'f' then some (c.toNat - 'a'.toNat + 10)
  else if 'A' ≤ c && c ≤ 'F' then some (c.toNat - 'A'.toNat + 10)
  else none

/-- Is the character a digit in a base? -/
def isDigitOf (base : Nat) (c : Char) : Bool := (digitValue? c).any (· < base)

/-- Is the character a decimal digit? -/
def isDigit (c : Char) : Bool := isDigitOf 10 c

/-- Is the character a hexadecimal digit? -/
def isHexDigit (c : Char) : Bool := isDigitOf 16 c

/-- The number that digits write in a base. -/
def numeral (base : Nat) (digits : List Char) : Nat :=
  digits.foldl (fun n c => base * n + (digitValue? c).getD 0) 0

/-- The number of values of a machine word of 64 bits. -/
def wordValues : Nat := 18446744073709551616

/-! ## Decimal digits as `Char.isDigit` and `Nat.ofDigitChars` have them -/

theorem isDigit_iff_between {c : Char} : c.isDigit ↔ '0' ≤ c ∧ c ≤ '9' := by
  simp [Char.isDigit, Char.le_def]

theorem digitValue?_of_isDigit {c : Char} (hc : c.isDigit) :
    digitValue? c = some (c.toNat - '0'.toNat) := by
  rw [digitValue?, if_pos (by simpa using isDigit_iff_between.1 hc)]

/-- Letters are digits from ten on only, so no letter is a decimal digit. -/
theorem isDigit_eq (c : Char) : isDigit c = c.isDigit := by
  by_cases hc : c.isDigit
  · have hle : c.toNat ≤ '9'.toNat := Char.le_def.1 (isDigit_iff_between.1 hc).2
    have hlt : c.toNat - '0'.toNat < 10 := by
      simp only [Char.reduceToNat] at hle ⊢
      omega
    rw [isDigit, isDigitOf, digitValue?_of_isDigit hc, hc, Option.any_some, decide_eq_true hlt]
  · have hnot : ('0' ≤ c && c ≤ '9') = false := by
      simpa [isDigit_iff_between] using hc
    rw [Bool.eq_false_iff.2 hc, isDigit, isDigitOf, digitValue?, hnot]
    simp only [Bool.false_eq_true, if_false]
    split
    · simp
    · split <;> simp

theorem numeral_eq_ofDigitChars {digits : List Char} (h : ∀ c ∈ digits, c.isDigit) :
    numeral 10 digits = Nat.ofDigitChars 10 digits 0 := by
  suffices ∀ n, digits.foldl (fun n c => 10 * n + (digitValue? c).getD 0) n =
      Nat.ofDigitChars 10 digits n from this 0
  induction digits with
  | nil => exact fun _ => rfl
  | cons c digits ih =>
    rw [List.forall_mem_cons] at h
    intro n
    rw [List.foldl_cons, Nat.ofDigitChars_cons, digitValue?_of_isDigit h.1]
    exact ih h.2 _

end PatternSession
