import Mathlib.Data.List.Basic
import Mathlib.Data.List.TakeDrop
import Phrasebook.Decimal.Reading

/-! The digits that whole numbers are written with are read back. -/

namespace Phrasebook.Decimal

/-- The digits of a base are read as their values. -/
theorem digitIn?_digitChar {base d : Nat} (limit : base ≤ 16) (small : d < base) :
    digitIn? base (Nat.digitChar d) = some d := by
  -- There are sixteen digits at most; that each has its value is checked once for all.
  have values : ∀ d < 16, digitIn? 16 (Nat.digitChar d) = some d := by decide
  have value := values d (by omega)
  unfold digitIn? at value ⊢
  rw [Option.filter_eq_some_iff] at value ⊢
  exact ⟨value.1, by simpa using small⟩

/-- Adding a digit to those read so far. -/
def shift (base n : Nat) (c : Char) : Option Nat :=
  (digitIn? base c).map (n * base + ·)

/-- A number is read digit by digit, each one shifting what was read before it. -/
theorem natural?_eq_foldlM {base : Nat} {s : List Char} (nonempty : s ≠ []) :
    natural? base s = s.foldlM (shift base) 0 := by
  rw [natural?, if_neg (by simpa using nonempty)]
  rfl

/-- No number is read where one of the characters is no digit. -/
theorem natural?_eq_none {base : Nat} {s : List Char} {c : Char} (member : c ∈ s) (other : digitIn? base c = none) :
    natural? base s = none := by
  rw [natural?_eq_foldlM (List.ne_nil_of_mem member)]
  generalize 0 = n
  -- Digit by digit: a character that is no digit ends the reading, whatever was read before.
  induction s generalizing n with
  | nil => cases member
  | cons d rest ih =>
    rw [List.foldlM_cons]
    rcases List.mem_cons.1 member with rfl | behind
    · simp [shift, other]
    · cases shift base n d with
      | none => rfl
      | some n => exact ih behind n

/-- The digits of a number are read as the number. -/
theorem natural?_toDigits {base : Nat} (least : 1 < base) (limit : base ≤ 16) (n : Nat) :
    natural? base (Nat.toDigits base n) = some n := by
  rw [natural?_eq_foldlM Nat.toDigits_ne_nil]
  -- The last digit is the remainder, and those before it are the digits of the quotient.
  induction n using Nat.strongRecOn with
  | ind n ih =>
    by_cases single : n < base
    · rw [Nat.toDigits_of_lt_base single]
      simp [shift, digitIn?_digitChar limit single]
    · have smaller : n / base < n := Nat.div_lt_self (by omega) least
      rw [Nat.toDigits_of_base_le least (by omega), List.foldlM_append, ih _ smaller]
      simp only [List.foldlM_cons, List.foldlM_nil, shift, Option.bind_eq_bind, Option.bind_some,
        digitIn?_digitChar limit (Nat.mod_lt n (by omega)), Option.map_some]
      rw [Nat.mul_comm, Nat.div_add_mod]
      rfl

/-- A decimal digit of the base ten is a digit, and has the same value. -/
theorem digit?_digitChar {d : Nat} (small : d < 10) : digit? (Nat.digitChar d) = some d := by
  have values : ∀ d < 10, digit? (Nat.digitChar d) = some d := by decide
  exact values d small

/-- The digits of the base ten are the digits. -/
theorem digitIn?_ten (c : Char) : digitIn? 10 c = digit? c := by
  unfold digitIn? digit?
  by_cases within : '0' ≤ c ∧ c ≤ '9'
  · have below : c.toNat ≤ 57 := within.2
    simp only [within, and_self, if_true, Option.filter_some, decide_eq_true_eq]
    exact if_pos (show c.toNat - 48 < 10 by omega)
  -- The other digits, letters of either case, stand for ten and more.
  · simp only [within, if_false]
    split
    · simp
    split
    · simp
    · rfl

/-- Numbers are written in digits. -/
theorem isSome_digit?_of_mem_toDigits {n : Nat} {c : Char} (member : c ∈ Nat.toDigits 10 n) :
    (digit? c).isSome = true := by
  -- The library says that they lie between zero and nine.
  have isDigit := Nat.isDigit_of_mem_toDigits (by decide) (by decide) member
  simp only [Char.isDigit, Bool.and_eq_true, decide_eq_true_eq] at isDigit
  have within : '0' ≤ c ∧ c ≤ '9' := isDigit
  rw [digit?, if_pos within]
  rfl

/-- A digit is none of the characters that are no digits. -/
theorem ne_of_isSome_digit? {c d : Char} (isDigit : (digit? c).isSome = true) (other : digit? d = none) : c ≠ d := by
  rintro rfl
  simp [other] at isDigit

/-- A number that is not zero is not written with a zero in front. -/
theorem head?_toDigits_ne {n : Nat} (positive : 0 < n) : (Nat.toDigits 10 n).head? ≠ some '0' := by
  -- The first digit is that of a shorter number, down to a number of one digit.
  induction n using Nat.strongRecOn with
  | ind n ih =>
    by_cases single : n < 10
    · have values : ∀ d < 10, 0 < d → Nat.digitChar d ≠ '0' := by decide
      rw [Nat.toDigits_of_lt_base single]
      simpa using values n single positive
    · rw [Nat.toDigits_of_base_le (by decide) (by omega), List.head?_append_of_ne_nil _ Nat.toDigits_ne_nil]
      exact ih _ (Nat.div_lt_self positive (by decide)) (by omega)

/-- The digits of a number that is not zero: the first one is no zero. -/
theorem exists_toDigits_eq_cons {n : Nat} (positive : 0 < n) :
    ∃ c more, Nat.toDigits 10 n = c :: more ∧ c ≠ '0' ∧ (digit? c).isSome = true := by
  obtain ⟨c, more, spelled⟩ := List.exists_cons_of_ne_nil (Nat.toDigits_ne_nil (n := n) (b := 10))
  refine ⟨c, more, spelled, ?_, isSome_digit?_of_mem_toDigits (spelled ▸ List.mem_cons_self)⟩
  -- The first digit is the head of what is written.
  have first := head?_toDigits_ne positive
  rw [spelled] at first
  exact fun zero => first (congrArg some zero)

/-- The digits of a number end where no digit follows. -/
theorem spanDigits_toDigits (n : Nat) {tail : List Char} (ends : ∀ c ∈ tail.head?, digit? c = none) :
    spanDigits (Nat.toDigits 10 n ++ tail) = (Nat.toDigits 10 n, tail) := by
  -- All digits of the number are taken, and what follows begins with none.
  have digits : ∀ c ∈ Nat.toDigits 10 n, (digit? c).isSome = true := fun _ => isSome_digit?_of_mem_toDigits
  rw [spanDigits, List.span_eq_takeWhile_dropWhile, List.takeWhile_append_of_pos digits,
    List.dropWhile_append_of_pos digits]
  cases tail with
  | nil => simp
  | cons c rest => simp [ends c rfl]

end Phrasebook.Decimal
