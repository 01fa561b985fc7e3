import Mathlib.Algebra.Group.Nat.Defs
import Phrasebook.Proofs.Decimal.Digits
import Phrasebook.Proofs.Text.Split
import Phrasebook.Settings.Listing
import Phrasebook.Text.CodePoint

/-! Texts in the form that YAML and TOML share. -/

namespace Phrasebook.Settings

/-- As many digits are written as are asked for. -/
theorem length_hexDigits (count n : Nat) : (hexDigits count n).length = count := by
  -- By the number of digits.
  induction count generalizing n with
  | zero => rfl
  | succ count ih => simp [hexDigits, ih]

/-- So many digits are read as what they leave of a number. -/
theorem foldlM_hexDigits (count n : Nat) : (hexDigits count n).foldlM (Decimal.shift 16) 0 = some (n % 16 ^ count) := by
  -- By the number of digits: the last one stands for the remainder, and those in front for the rest.
  induction count generalizing n with
  | zero => simp [hexDigits, Nat.mod_one]
  | succ count ih =>
    have last : n % 16 < 16 := Nat.mod_lt n (by decide)
    have whole : n % (16 * 16 ^ count) = n % 16 + 16 * (n / 16 % 16 ^ count) := Nat.mod_mul
    rw [hexDigits, List.foldlM_append, ih, Nat.pow_succ, Nat.mul_comm (16 ^ count), whole]
    simp only [List.foldlM_cons, List.foldlM_nil, Decimal.shift, Option.bind_eq_bind, Option.bind_some,
      Decimal.digitIn?_digitChar (Nat.le_refl 16) last, Option.map_some]
    rw [Nat.add_comm, Nat.mul_comm]
    rfl

/-- A character is read back from the digits of its number. -/
theorem codePoint?_hexDigits (c : Char) (rest : List Char) :
    Text.codePoint? 8 (hexDigits 8 c.toNat ++ rest) = some (c, rest) := by
  have length := length_hexDigits 8 c.toNat
  have valid : c.toNat < 0xd800 ∨ (0xdfff < c.toNat ∧ c.toNat < 0x110000) := c.valid
  have small : c.toNat % 16 ^ 8 = c.toNat := Nat.mod_eq_of_lt (by omega)
  -- Eight digits are enough for every character, and no character is a surrogate.
  have digits : Decimal.natural? 16 (hexDigits 8 c.toNat) = some c.toNat := by
    rw [Decimal.natural?_eq_foldlM (List.length_pos_iff.1 (by omega)), foldlM_hexDigits, small]
  have inside : ¬ ((0xd800 ≤ c.toNat ∧ c.toNat ≤ 0xdfff) ∨ 0x10ffff < c.toNat) := by omega
  rw [Text.codePoint?]
  rw [List.take_left' length, List.drop_left' length, digits]
  simp [length, inside, Char.ofNat_toNat]

/-- Whether a character is a visible one of ASCII. -/
def isInk (c : Char) : Bool :=
  '!' ≤ c && c ≤ '~'

/-- Ink is the visible range of ASCII. -/
theorem isInk_iff {c : Char} : isInk c = true ↔ 0x21 ≤ c.toNat ∧ c.toNat ≤ 0x7e := by
  rw [isInk, Bool.and_eq_true, decide_eq_true_eq, decide_eq_true_eq]
  rfl

/-- Ink is no character that is not ink. -/
theorem ne_of_isInk {c d : Char} (ink : isInk c = true) (other : isInk d = false) : c ≠ d := by
  rintro rfl
  exact absurd other (by simp [ink])

/-- Hexadecimal digits are ink. -/
theorem isInk_hexDigits (count n : Nat) : ∀ c ∈ hexDigits count n, isInk c = true := by
  -- There are sixteen digits.
  have each : ∀ d < 16, isInk (Nat.digitChar d) = true := by decide
  induction count generalizing n with
  | zero => nofun
  | succ count ih =>
    intro c member
    rcases List.mem_append.1 member with front | back
    · exact ih _ c front
    · rw [List.mem_singleton.1 back]
      exact each _ (Nat.mod_lt n (by decide))

/-- What is written as it is is ink. -/
theorem isInk_of_isPlain {c : Char} (plain : isPlain c = true) : isInk c = true := by
  simp only [isPlain, isInk, Bool.and_eq_true] at plain ⊢
  exact plain.1.1

/-- Every character is written in ink. -/
theorem isInk_portableChar (c : Char) : ∀ d ∈ portableChar c, isInk d = true := by
  -- A plain character is ink, and the others are written with a backslash, a letter and digits.
  unfold portableChar
  split
  · next plain => simpa using isInk_of_isPlain plain
  · have marks : ['\\', 'U'].all isInk = true := by decide
    intro d member
    rcases List.mem_append.1 member with front | back
    · exact List.all_eq_true.1 marks d front
    · exact isInk_hexDigits _ _ d back

/-- Every character is written as something. -/
theorem portableChar_ne_nil (c : Char) : portableChar c ≠ [] := by
  unfold portableChar
  split <;> simp

/-- No character is written with a quote in front. -/
theorem head?_portableChar_ne (c : Char) (rest : List Char) : (portableChar c ++ rest).head? ≠ some '"' := by
  -- A quote is not plain, and what is not plain starts with a backslash.
  unfold portableChar
  split
  · next plain =>
    simp only [isPlain, Bool.and_eq_true, bne_iff_ne] at plain
    simp [plain.1.2]
  · simp

/-- A text is written between quotation marks, character by character. -/
theorem toList_portableText (text : String) :
    (portableText text).toList = '"' :: (text.toList.flatMap portableChar ++ ['"']) := by
  simp [portableText]

/-- The texts of an array that holds texts. -/
def itemTexts (items : List Json) : List String :=
  items.map fun item => (jsonText? item).getD ""

/-- The texts of an array of texts are the texts. -/
@[simp] theorem itemTexts_map_text (texts : List String) : itemTexts (texts.map .text) = texts := by
  simp [itemTexts, jsonText?, Function.comp_def]

/-- Texts are written between brackets, with commas between them. -/
theorem toList_portableValue_texts (texts : List String) :
    (portableValue (.array (texts.map .text))).toList =
      '[' :: ([',', ' '].intercalate (texts.map fun text => (portableText text).toList) ++ [']']) := by
  simp [portableValue, jsonText?, Function.comp_def]

end Phrasebook.Settings
