import Mathlib.Data.List.DropRight
import Phrasebook.Json.Printer
import Phrasebook.Json.Reader
import Phrasebook.Proofs.Decimal.Digits
import Phrasebook.Proofs.Text.Split

/-! Data written as JSON text, one item a line, is read back. -/

namespace Phrasebook

/-- A whole number is written in its digits. -/
theorem Number.toList_render (n : Nat) : (Number.whole n).render.toList = Nat.toDigits 10 n :=
  Nat.toList_repr

namespace Json

/-- An escape of two digits is read as the control character with this number. -/
theorem natural?_twoDigits {n : Nat} (small : n < 32) :
    Decimal.natural? 16 ('0' :: '0' :: twoDigits n) = some n := by
  have each : ∀ n < 32, Decimal.natural? 16 ('0' :: '0' :: twoDigits n) = some n := by decide
  exact each n small

/-- A character that stands in a string is read back. -/
theorem stringBody?_escapeChar (fuel : Nat) (held : List Char) (c : Char) (rest : List Char) :
    stringBody? (fuel + 1) held (escapeChar c ++ rest) = stringBody? fuel (c :: held) rest := by
  -- One case for each way to write a character: seven short escapes, four digits for the other controls, the character
  -- itself.
  unfold escapeChar
  split
  · next special => rcases special with rfl | rfl <;> simp [stringBody?, escape?]
  split
  · next same => simp [same, stringBody?, escape?]
  split
  · next same => simp [same, stringBody?, escape?]
  split
  · next same => simp [same, stringBody?, escape?]
  split
  · next same => simp [same, stringBody?, escape?]
  split
  · next same => simp [same, stringBody?, escape?]
  split
  · next control =>
    have number := natural?_twoDigits control
    have low : ¬ (0xdc00 ≤ c.toNat ∧ c.toNat ≤ 0xdfff) := by omega
    have high : ¬ (0xd800 ≤ c.toNat ∧ c.toNat ≤ 0xdbff) := by omega
    rw [twoDigits] at number ⊢
    simp [stringBody?, escape?, fourDigits?, number, low, high]
  · next plain _ _ _ _ _ visible =>
    rw [not_or] at plain
    simp [stringBody?, plain, visible]

/-- The characters of a string are read back up to the quote behind them. -/
theorem stringBody?_escaped (text : List Char) (fuel : Nat) (held rest : List Char) (enough : text.length < fuel) :
    stringBody? fuel held (text.flatMap escapeChar ++ '"' :: rest) =
      some (String.ofList (held.reverse ++ text), rest) := by
  -- Character by character; the bound counts the characters of the text, not those that write them.
  induction text generalizing fuel held with
  | nil =>
    obtain ⟨fuel, rfl⟩ := Nat.exists_eq_add_of_lt enough
    simp [stringBody?]
  | cons c text ih =>
    obtain ⟨fuel, rfl⟩ : ∃ more, fuel = more + 1 := Nat.exists_eq_succ_of_ne_zero (by omega)
    rw [List.flatMap_cons, List.append_assoc, stringBody?_escapeChar, ih _ _ (by simpa using enough)]
    simp

/-- Every character is written as something. -/
theorem escapeChar_ne_nil (c : Char) : escapeChar c ≠ [] := by
  -- None of the cases is empty.
  unfold escapeChar
  repeat' split
  all_goals simp

/-- A string is read back. -/
theorem string?_escaped (text : String) (rest : List Char) :
    string? (text.toList.flatMap escapeChar ++ '"' :: rest) = some (text, rest) := by
  -- No character is written as nothing, so that the length of what is written bounds that of the text.
  have longer := Text.length_le_flatMap escapeChar_ne_nil text.toList
  rw [string?, stringBody?_escaped]
  · simp
  · simp only [List.length_append, List.length_cons]
    omega

/-- A text is written between quotation marks, character by character. -/
theorem toList_renderText (text : String) :
    (renderText text).toList = '"' :: (text.toList.flatMap escapeChar ++ ['"']) := by
  simp [renderText]

/-- The digits of a number that fits a word are taken in. -/
theorem fillWord_toDigits {n : Nat} (small : n < UInt64.size) (rest : List Char) :
    fillWord 0 0 (Nat.toDigits 10 n ++ rest) = fillWord n (Nat.toDigits 10 n).length rest := by
  induction n using Nat.strongRecOn generalizing rest with
  | ind n ih =>
    by_cases single : n < 10
    · rw [Nat.toDigits_of_lt_base single]
      simp [fillWord, Decimal.digit?_digitChar single, small]
    -- The last digit is taken in behind the digits of the tenth part, which is smaller.
    · have last : n % 10 < 10 := Nat.mod_lt n (by decide)
      have whole : n / 10 * 10 + n % 10 = n := Nat.div_add_mod' n 10
      rw [Nat.toDigits_of_base_le (by decide) (by omega), List.append_assoc, ih _ (by omega) (by omega)]
      simp [fillWord, Decimal.digit?_digitChar last, whole, small]

/-- A value that is read in front of a comma or the end of a line, whatever follows. -/
def Reads (depth : Nat) (spelled : List Char) (value : Json) : Prop :=
  ∀ tail : List Char, (∀ c ∈ tail.head?, c = ',' ∨ c = '\n') → value? depth (spelled ++ tail) = some (value, tail)

/-- A written text is read back. -/
theorem reads_text (depth : Nat) (text : String) : Reads depth (renderText text).toList (.text text) := by
  -- A quote starts a text and nothing else.
  intro tail _
  rw [value?.eq_def]
  simp [toList_renderText, skipGap, isGap, string?_escaped]

/-- Nothing is read back as nothing. -/
theorem reads_null (depth : Nat) : Reads depth "null".toList .null := by
  -- The word is none of the others.
  intro tail _
  rw [value?.eq_def]
  simp [skipGap, isGap, word?]

/-- A flag is read back. -/
theorem reads_bool (depth : Nat) (flag : Bool) :
    Reads depth (if flag then "true" else "false").toList (.bool flag) := by
  -- Both words are tried one after the other.
  intro tail _
  rw [value?.eq_def]
  cases flag <;> simp [skipGap, isGap, word?]

/-- A whole number is read in front of a comma or the end of a line. -/
theorem numberAt?_toDigits {n : Nat} (positive : 0 < n) (small : n < UInt64.size) {tail : List Char}
    (ends : ∀ c ∈ tail.head?, c = ',' ∨ c = '\n') :
    numberAt? (Nat.toDigits 10 n ++ tail) = some (.whole n, tail) := by
  have noDigit : ∀ c ∈ tail.head?, Decimal.digit? c = none := fun c head => by
    rcases ends c head with rfl | rfl <;> rfl
  have spans := Decimal.spanDigits_toDigits n noDigit
  have filled := fillWord_toDigits small []
  rw [List.append_nil] at filled
  obtain ⟨c, more, spelled, nonzero, isDigit⟩ := Decimal.exists_toDigits_eq_cons positive
  rw [spelled] at spans filled ⊢
  -- The first character is a digit other than zero: there is no sign and no leading zero.
  have unsigned : c ≠ '-' := by
    rintro rfl
    cases isDigit
  have value : number? false (c :: more) none none = some (.whole n) := by
    unfold number?
    rw [filled]
    simp [fillWord]
  unfold numberAt?
  simp only [List.cons_append] at spans ⊢
  cases tail with
  | nil =>
    rw [List.append_nil] at spans ⊢
    simp [unsigned, spans, nonzero, value]
  | cons d rest => rcases ends d rfl with rfl | rfl <;> simp [unsigned, spans, nonzero, value]

/-- A positive number that fits a word is read back from its digits. -/
theorem reads_whole (depth : Nat) {n : Nat} (positive : 0 < n) (small : n < UInt64.size) :
    Reads depth (Nat.toDigits 10 n) (.number (.whole n)) := by
  intro tail ends
  have number := numberAt?_toDigits positive small ends
  obtain ⟨c, more, spelled, _, isDigit⟩ := Decimal.exists_toDigits_eq_cons positive
  rw [spelled] at number ⊢
  -- A digit begins no other kind of value.
  have apart {d : Char} : Decimal.digit? d = none → c ≠ d := Decimal.ne_of_isSome_digit? isDigit
  have visible : isGap c = false := by
    simp [isGap, apart (d := ' ') rfl, apart (d := '\n') rfl, apart (d := '\t') rfl, apart (d := '\r') rfl]
  rw [List.cons_append] at number
  rw [value?.eq_def]
  simp [skipGap, visible, apart (d := '"') rfl, apart (d := 'n') rfl, apart (d := 't') rfl, apart (d := 'f') rfl,
    apart (d := '[') rfl, apart (d := '\x7b') rfl, number]

/-- A gap in front of a value is skipped. -/
theorem value?_gap (depth : Nat) {gap : List Char} (blank : ∀ c ∈ gap, isGap c = true) (s : List Char) :
    value? depth (gap ++ s) = value? depth s := by
  -- A value is looked for behind the gap.
  have skipped : skipGap (gap ++ s) = skipGap s := List.dropWhile_append_of_pos blank
  rw [value?.eq_def, value?.eq_def depth s]
  simp only [skipped]

/-- Pushing a character some times writes it as often. -/
theorem toList_pushn (c : Char) (count : Nat) : ("".pushn c count).toList = List.replicate count c := by
  -- By the number of times.
  rw [String.pushn]
  induction count with
  | zero => rfl
  | succ count ih => rw [Nat.repeat, String.toList_push, ih, ← List.replicate_succ']

/-- The lines between two brackets, behind the first of these. -/
def bracketedLines (depth : Nat) (lines : List String) : List Char :=
  '\n' :: [',', '\n'].intercalate (lines.map fun line => List.replicate (2 * depth + 2) ' ' ++ line.toList)

/-- Between brackets stand the lines, and the closing bracket on a line of its own. -/
theorem toList_bracketed (opening closing : String) (depth : Nat) {lines : List String} (some : lines ≠ []) :
    (bracketed opening closing depth lines).toList =
      opening.toList ++ (bracketedLines depth lines ++ '\n' :: (List.replicate (2 * depth) ' ' ++ closing.toList)) := by
  have margin : "  ".toList = List.replicate 2 ' ' := rfl
  simp [bracketed, some, bracketedLines, toList_pushn, margin, List.replicate_add, Function.comp_def]

/-- Every line but the last is followed by a comma. -/
theorem bracketedLines_cons (depth : Nat) (line next : String) (rest : List String) :
    bracketedLines depth (line :: next :: rest) =
      '\n' :: (List.replicate (2 * depth + 2) ' ' ++ (line.toList ++ ',' :: bracketedLines depth (next :: rest))) := by
  simp [bracketedLines]

/-- The last line has no comma behind it. -/
theorem bracketedLines_singleton (depth : Nat) (line : String) :
    bracketedLines depth [line] = '\n' :: (List.replicate (2 * depth + 2) ' ' ++ line.toList) := by
  simp [bracketedLines]

/-- A new line and its margin are a gap. -/
theorem isGap_margin (count : Nat) : ∀ c ∈ '\n' :: List.replicate count ' ', isGap c = true := by
  -- The first character is the new line, and all others are spaces.
  intro c member
  rcases List.mem_cons.1 member with rfl | inside
  · rfl
  · rw [List.eq_of_mem_replicate inside]
    rfl

/-- A new line and its margin are passed over. -/
theorem skipGap_margin (count : Nat) (s : List Char) :
    skipGap ('\n' :: (List.replicate count ' ' ++ s)) = skipGap s := by
  rw [skipGap, ← List.cons_append, List.dropWhile_append_of_pos (isGap_margin count)]
  rfl

/-- Nothing is passed over in front of a visible character. -/
theorem skipGap_of_visible {c : Char} (visible : isGap c = false) (s : List Char) : skipGap (c :: s) = c :: s := by
  simp [skipGap, visible]

/-- Behind a gap there is no other gap. -/
theorem skipGap_skipGap (s : List Char) : skipGap (skipGap s) = skipGap s :=
  List.dropWhile_idempotent ..

/-- The items are written each for itself. -/
theorem renderItemLines_eq_map (depth : Nat) (items : List Json) :
    renderItemLines depth items = items.map (renderLines depth) := by
  -- Item by item.
  induction items with
  | nil => rfl
  | cons item rest ih => rw [renderItemLines, ih, List.map_cons]

/-- The items of an array are read line by line if each of them is. -/
theorem items?_lines (reach depth : Nat) {items : List Json} (some : items ≠ [])
    (each : ∀ item ∈ items, Reads reach (item.renderLines (depth + 1)).toList item) (fuel : Nat) (held : List Json)
    (tail : List Char) (enough : (bracketedLines depth (items.map (renderLines (depth + 1)))).length < fuel) :
    items? (value? reach) fuel held
        (bracketedLines depth (items.map (renderLines (depth + 1))) ++
          '\n' :: (List.replicate (2 * depth) ' ' ++ ']' :: tail)) =
      .some (held.reverse ++ items, tail) := by
  induction items generalizing fuel held with
  | nil => exact absurd rfl some
  | cons item rest ih =>
    obtain ⟨own, others⟩ := List.forall_mem_cons.1 each
    obtain ⟨fuel, rfl⟩ : ∃ more, fuel = more + 1 := Nat.exists_eq_succ_of_ne_zero (by omega)
    have gap := isGap_margin (2 * depth + 2)
    -- Behind the last item stands the closing bracket, and behind every other one a comma and a new line.
    cases rest with
    | nil =>
      simp only [List.map_cons, List.map_nil, bracketedLines_singleton, ← List.cons_append, List.append_assoc, items?]
      rw [value?_gap reach gap, own _ (by simp)]
      simp [skipGap_margin, skipGap_of_visible, isGap]
    | cons next rest =>
      simp only [List.map_cons, bracketedLines_cons, List.length_cons, List.length_append] at enough ⊢
      simp only [← List.cons_append, List.append_assoc, items?]
      rw [value?_gap reach gap, List.cons_append, own _ (by simp)]
      have shorter : (bracketedLines depth (List.map (renderLines (depth + 1)) (next :: rest))).length < fuel := by
        rw [List.map_cons]
        omega
      have inner := ih (by simp) others fuel (item :: held) shorter
      simpa [skipGap_of_visible, isGap] using inner

/-- No value starts with a closing bracket. -/
theorem skipGap_ne_of_value? {depth : Nat} {s : List Char} {found : Json × List Char}
    (read : value? depth s = some found) (rest : List Char) : skipGap s ≠ ']' :: rest := by
  -- A bracket would have to be the first digit of a number.
  intro closing
  rw [value?.eq_def] at read
  simp [closing, numberAt?, Decimal.spanDigits, List.span_eq_takeWhile_dropWhile, Decimal.digit?] at read

/-- An array is read whose items are written one a line, if each of the items is read. -/
theorem reads_array (reach depth : Nat) {items : List Json}
    (each : ∀ item ∈ items, Reads reach (item.renderLines (depth + 1)).toList item) :
    Reads (reach + 1) ((Json.array items).renderLines depth).toList (.array items) := by
  intro tail _
  rw [renderLines, renderItemLines_eq_map]
  cases items with
  | nil =>
    rw [value?.eq_def]
    simp [bracketed, skipGap_of_visible, isGap]
  | cons item rest =>
    rw [toList_bracketed _ _ _ (by simp), List.append_assoc, List.append_assoc, List.cons_append, List.append_assoc]
    generalize behind : bracketedLines depth ((item :: rest).map (renderLines (depth + 1))) ++
      '\n' :: (List.replicate (2 * depth) ' ' ++ ("]".toList ++ tail)) = s
    have inner : items? (value? reach) (s.length + 1) [] s = some (item :: rest, tail) := by
      subst behind
      refine items?_lines reach depth (List.cons_ne_nil item rest) each _ [] tail ?_
      rw [List.length_append]
      omega
    -- The first item is read, and so the array does not end where it starts.
    have first : ∃ found, value? reach s = some found := by
      rw [items?] at inner
      obtain ⟨found, read, _⟩ := Option.bind_eq_some_iff.1 inner
      exact ⟨found, read⟩
    obtain ⟨found, read⟩ := first
    rw [value?.eq_def]
    simp [skipGap_of_visible, isGap, inner, skipGap_ne_of_value? read]

end Json

end Phrasebook
