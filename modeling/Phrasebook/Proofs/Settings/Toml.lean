import Phrasebook.Proofs.Json.Written
import Phrasebook.Proofs.Settings.Lawful
import Phrasebook.Proofs.Settings.Portable

/-! Values by name that are written as TOML text are read back. -/

namespace Phrasebook

namespace Toml

open Settings

/-! ### Texts -/

/-- Ink is visible. -/
theorem isVisible_of_isInk {c : Char} (ink : isInk c = true) : isVisible c = true := by
  -- Ink lies between the space and the delete character.
  have bounds := isInk_iff.1 ink
  have above : ' ' ≤ c := show 0x20 ≤ c.toNat by omega
  have delete : c ≠ '\x7f' := ne_of_isInk ink rfl
  simp [isVisible, above, delete]

/-- A character of a text is read back. -/
theorem lineText?_portableChar (fuel : Nat) (held : List Char) (c : Char) (rest : List Char) :
    lineText? '"' (fuel + 1) held (portableChar c ++ rest) = lineText? '"' fuel (c :: held) rest := by
  -- The character stands for itself, or is written as its code point.
  unfold portableChar
  split
  · next plain =>
    have visible := isVisible_of_isInk (isInk_of_isPlain plain)
    simp only [isPlain, Bool.and_eq_true, decide_eq_true_eq, bne_iff_ne] at plain
    simp [lineText?, plain, visible]
  · simp [lineText?, escape?, codePoint?_hexDigits]

/-- A text is read up to the quote behind it. -/
theorem lineText?_portable (text : List Char) (fuel : Nat) (held rest : List Char) (enough : text.length < fuel) :
    lineText? '"' fuel held (text.flatMap portableChar ++ '"' :: rest) = some (held.reverse ++ text, rest) := by
  -- Character by character; the bound counts the characters of the text, not those that write them.
  induction text generalizing fuel held with
  | nil =>
    obtain ⟨fuel, rfl⟩ := Nat.exists_eq_add_of_lt enough
    simp [lineText?]
  | cons c text ih =>
    obtain ⟨fuel, rfl⟩ : ∃ more, fuel = more + 1 := Nat.exists_eq_succ_of_ne_zero (by omega)
    rw [List.flatMap_cons, List.append_assoc, lineText?_portableChar, ih _ _ (by simpa using enough)]
    simp

/-- A text is taken to stand on one line unless two more quotes follow the first one. -/
theorem text?_eq_quoted? {rest : List Char} (single : ∀ more, rest ≠ '"' :: '"' :: more) :
    text? ('"' :: rest) = quoted? ('"' :: rest) := by
  -- A text over several lines starts with three quotes.
  unfold text?
  split
  · next c d e more same =>
    obtain ⟨rfl, rfl⟩ := List.cons.inj same
    rw [if_neg]
    rintro ⟨-, rfl, rfl⟩
    exact single more rfl
  · rfl

/-- A text is read in front of what is no quote. -/
theorem text?_portableText (text : String) {tail : List Char} (apart : tail.head? ≠ some '"') :
    text? ((portableText text).toList ++ tail) = some (text.toList, tail) := by
  have longer := Text.length_le_flatMap portableChar_ne_nil text.toList
  have quoted : quoted? ((portableText text).toList ++ tail) = some (text.toList, tail) := by
    rw [toList_portableText, List.cons_append, quoted?, if_pos (.inl rfl), List.append_assoc, List.singleton_append,
      lineText?_portable]
    · simp
    · simp only [List.length_append, List.length_cons]
      omega
  rw [← quoted, toList_portableText]
  refine text?_eq_quoted? fun more same => ?_
  -- Behind an empty text there is no quote, and no other text starts with one.
  cases characters : text.toList with
  | nil => simp_all
  | cons c rest =>
    refine head?_portableChar_ne c (rest.flatMap portableChar ++ '"' :: tail) ?_
    simpa [characters] using congrArg List.head? same

/-! ### Numbers -/

section Numbers

variable {digits tail : List Char}

/-- Digits are read to the end of their line. -/
theorem digits?_line (some : digits ≠ []) (each : ∀ c ∈ digits, (Decimal.digit? c).isSome = true) :
    digits? 10 (digits ++ '\n' :: tail) = .some (digits, '\n' :: tail) := by
  have ended : Decimal.digit? '\n' = none := rfl
  induction digits with
  | nil => exact absurd rfl some
  | cons c rest ih =>
    obtain ⟨own, others⟩ := List.forall_mem_cons.1 each
    obtain ⟨d, isDigit⟩ := Option.isSome_iff_exists.1 own
    -- No underscore stands between the digits, and the new line ends them.
    cases rest with
    | nil => simp [digits?, Decimal.digitIn?_ten, isDigit, ended]
    | cons next rest =>
      obtain ⟨e, isNext⟩ := Option.isSome_iff_exists.1 (others next (by simp))
      have apart : next ≠ '_' := by
        rintro rfl
        cases isNext
      have inner := ih (by simp) others
      rw [List.cons_append] at inner
      simp [digits?, Decimal.digitIn?_ten, isDigit, isNext, apart, inner]

/-- A field of a date is made of its first characters, and leaves the others. -/
theorem of_field?_eq_some {count least greatest n : Nat} {s rest : List Char}
    (field : field? count least greatest s = some (n, rest)) :
    Decimal.natural? 10 (s.take count) = some n ∧ rest = s.drop count := by
  -- The digits are counted, and their number has to be within bounds.
  simp only [field?, Option.bind_eq_bind] at field
  split at field
  · cases field
  · obtain ⟨m, number, inside⟩ := Option.bind_eq_some_iff.1 field
    split at inside
    · obtain ⟨rfl, rfl⟩ := Prod.mk.inj (Option.some.inj inside)
      exact ⟨number, rfl⟩
    · cases inside

/-- A field of a time is not followed by a mark where there are only digits in the line. -/
theorem after?_of_field? {count least greatest n : Nat} (mark : Char) {rest : List Char}
    (other : Decimal.digit? mark = none) (apart : mark ≠ '\n') (each : ∀ c ∈ digits, (Decimal.digit? c).isSome = true)
    (field : field? count least greatest (digits ++ '\n' :: tail) = some (n, rest)) : after? mark rest = none := by
  obtain ⟨number, rfl⟩ := of_field?_eq_some field
  by_cases inside : count ≤ digits.length
  · rw [List.drop_append_of_le_length inside]
    cases left : digits.drop count with
    | nil => simp [after?, apart]
    | cons c more =>
      have isDigit := each c (List.mem_of_mem_drop (left ▸ List.mem_cons_self))
      have different : mark ≠ c := by
        rintro rfl
        simp [other] at isDigit
      simp [after?, different]
  · -- A field that is longer than the line holds its end, which is no digit.
    have crossed : '\n' ∈ (digits ++ '\n' :: tail).take count := by
      obtain ⟨more, rfl⟩ := Nat.exists_eq_add_of_lt (Nat.lt_of_not_le inside)
      rw [Nat.add_assoc, List.take_length_add_append, List.take_succ_cons]
      simp
    rw [Decimal.natural?_eq_none crossed rfl] at number
    cases number

/-- Digits alone are no time. -/
theorem timeRest?_line (each : ∀ c ∈ digits, (Decimal.digit? c).isSome = true) :
    timeRest? (digits ++ '\n' :: tail) = none := by
  -- Neither a hyphen nor a colon stands behind the first digits.
  have dateless : dateRest? (digits ++ '\n' :: tail) = none := by
    rw [dateRest?]
    cases year : field? 4 0 9999 (digits ++ '\n' :: tail) with
    | none => rfl
    | some found => simp [after?_of_field? '-' rfl (by decide) each year]
  have clockless : clockRest? (digits ++ '\n' :: tail) = none := by
    rw [clockRest?]
    cases hour : field? 2 0 23 (digits ++ '\n' :: tail) with
    | none => rfl
    | some found => simp [after?_of_field? ':' rfl (by decide) each hour]
  simp [timeRest?, dateless, clockless]

end Numbers

/-- What fits a word of 32 bits fits a signed one of 64. -/
theorem fitsSigned_of_small {n : Nat} (small : n < UInt32.size) : Decimal.fitsSigned n = true := by
  -- There is room for more than 32 bits.
  have bound : UInt32.size < Nat.pow 2 63 := by decide
  simp only [Decimal.fitsSigned, Bool.and_eq_true, decide_eq_true_eq]
  omega

/-- A whole number is read at the end of its line. -/
theorem number?_toDigits {n : Nat} (positive : 0 < n) (small : n < UInt32.size) (tail : List Char) :
    number? (Nat.toDigits 10 n ++ '\n' :: tail) = some (.whole n, '\n' :: tail) := by
  have each : ∀ c ∈ Nat.toDigits 10 n, (Decimal.digit? c).isSome = true :=
    fun _ => Decimal.isSome_digit?_of_mem_toDigits
  have timeless : timeRest? (Nat.toDigits 10 n ++ '\n' :: tail) = none := timeRest?_line each
  have read : digits? 10 (Nat.toDigits 10 n ++ '\n' :: tail) = some (Nat.toDigits 10 n, '\n' :: tail) :=
    digits?_line Nat.toDigits_ne_nil each
  have value : Decimal.natural? 10 (Nat.toDigits 10 n) = some n :=
    Decimal.natural?_toDigits (by decide) (by decide) n
  obtain ⟨c, more, spelled, nonzero, isDigit⟩ := Decimal.exists_toDigits_eq_cons positive
  rw [spelled] at value
  rw [spelled, List.cons_append] at timeless read ⊢
  have apart {d : Char} : Decimal.digit? d = none → c ≠ d := Decimal.ne_of_isSome_digit? isDigit
  -- The forms that are tried before whole numbers do not fit: times, fractions, and numbers with a name.
  have unsigned : sign (c :: (more ++ '\n' :: tail)) = (false, c :: (more ++ '\n' :: tail)) := by
    simp [sign, apart (d := '-') rfl, apart (d := '+') rfl]
  have leading : leading? (c :: (more ++ '\n' :: tail)) = some (c :: more, '\n' :: tail) := by
    rw [← read]
    simp [leading?, nonzero]
  have undivided : decimalRest? (c :: (more ++ '\n' :: tail)) = none := by
    simp [decimalRest?, unsigned, leading]
  have unnamed : namedRest? (c :: (more ++ '\n' :: tail)) = none := by
    rw [namedRest?, unsigned]
    simp [apart (d := 'i') rfl, apart (d := 'n') rfl]
  have fits := fitsSigned_of_small small
  have whole : whole? (c :: (more ++ '\n' :: tail)) = some ((n : Int), '\n' :: tail) := by
    have checked : whole? (c :: (more ++ '\n' :: tail)) = (Decimal.natural? 10 (c :: more)).bind fun n =>
        if Decimal.fitsSigned n then some ((n : Int), '\n' :: tail) else none := by
      simp [whole?, nonzero, unsigned, leading]
    rw [checked, value, Option.bind_some, if_pos fits]
  simp [number?, timeless, undivided, unnamed, whole]

/-! ### Values -/

/-- A value that is read at the end of its line. -/
def Reads (depth : Nat) (spelled : List Char) (value : Value) : Prop :=
  ∀ tail, value? depth (skipBlanks (spelled ++ '\n' :: tail)) = some (value, '\n' :: tail)

/-- Nothing is passed over in front of a visible character. -/
theorem skipBlanks_of_visible {c : Char} (visible : isBlank c = false) (s : List Char) :
    skipBlanks (c :: s) = c :: s := by
  simp [skipBlanks, visible]

/-- A text is read as a value in front of what is no quote. -/
theorem value?_portableText (depth : Nat) (text : String) (tail : List Char) (apart : tail.head? ≠ some '"') :
    value? depth ((portableText text).toList ++ tail) = some (.text text, tail) := by
  -- Of all kinds of values only texts start with a quote.
  have read := text?_portableText text apart
  rw [toList_portableText, List.cons_append, List.append_assoc, List.singleton_append] at read ⊢
  rw [value?.eq_def]
  simp [read]

/-- A written text is read back. -/
theorem reads_text (depth : Nat) (text : String) : Reads depth (portableText text).toList (.text text) := by
  -- A quote is no blank.
  intro tail
  have read := value?_portableText depth text ('\n' :: tail) (by simp)
  rw [toList_portableText, List.cons_append] at read ⊢
  rw [skipBlanks_of_visible rfl, read]

/-- A positive number is read back from its digits. -/
theorem reads_whole (depth : Nat) {n : Nat} (positive : 0 < n) (small : n < UInt32.size) :
    Reads depth (Nat.toDigits 10 n) (.whole n) := by
  intro tail
  have read := number?_toDigits positive small tail
  obtain ⟨c, more, spelled, _, isDigit⟩ := Decimal.exists_toDigits_eq_cons positive
  rw [spelled, List.cons_append] at read ⊢
  -- A digit begins neither a text, nor an array, nor a table, nor a flag.
  have apart {d : Char} : Decimal.digit? d = none → c ≠ d := Decimal.ne_of_isSome_digit? isDigit
  have visible : isBlank c = false := by
    simp [isBlank, apart (d := ' ') rfl, apart (d := '\t') rfl]
  rw [skipBlanks_of_visible visible, value?.eq_def]
  simp [apart (d := '[') rfl, apart (d := '\x7b') rfl, apart (d := 't') rfl, apart (d := 'f') rfl,
    apart (d := '"') rfl, apart (d := '\'') rfl, read]

/-- A flag is read back. -/
theorem reads_flag (depth : Nat) (flag : Bool) :
    Reads depth (if flag then "true" else "false").toList (.flag flag) := by
  -- Both words are tried, and only the one that is written stands there.
  intro tail
  have word (word : String) : Text.stripPrefix? word.toList (word.toList ++ '\n' :: tail) = some ('\n' :: tail) :=
    Text.stripPrefix?_eq_some_iff.2 rfl
  have found := word "true"
  have missed := word "false"
  simp only [String.reduceToList, List.cons_append, List.nil_append] at found missed
  rw [value?.eq_def]
  cases flag <;> simp [word?, skipBlanks, isBlank, found, missed]

/-- What is visible and starts no comment is not skipped, but blanks in front of it are. -/
theorem skipLines_of_isInk (fuel : Nat) (gap : List Char) (blank : ∀ d ∈ gap, isBlank d = true) {c : Char}
    (ink : isInk c = true) (noComment : c ≠ '#') (s : List Char) :
    skipLines (fuel + 1) (gap ++ c :: s) = c :: s := by
  have visible : isBlank c = false := by
    simp [isBlank, ne_of_isInk ink (d := ' ') rfl, ne_of_isInk ink (d := '\t') rfl]
  have skipped : skipBlanks (gap ++ c :: s) = c :: s := by
    rw [skipBlanks, List.dropWhile_append_of_pos blank]
    simp [visible]
  -- The line does not end there, and no comment starts.
  have goesOn : newline? (c :: s) = none := by
    simp [newline?, ne_of_isInk ink (d := '\n') rfl, ne_of_isInk ink (d := '\r') rfl]
  simp [skipLines, skipped, skipComment, noComment, goesOn]

/-- A text of an array is read up to the mark behind it. -/
theorem items?_text (depth fuel : Nat) (held : List Value) (gap : List Char) (blank : ∀ d ∈ gap, isBlank d = true)
    (text : String) {mark : Char} (ink : isInk mark = true) (noComment : mark ≠ '#') (noQuote : mark ≠ '"')
    (tail : List Char) :
    items? (value? depth) (fuel + 1) held (gap ++ ((portableText text).toList ++ mark :: tail)) =
      if mark = ',' then items? (value? depth) fuel (.text text :: held) tail
      else if mark = ']' then some ((.text text :: held).reverse, tail)
      else none := by
  have read := value?_portableText depth text (mark :: tail) (by simpa using noQuote)
  have behind := skipLines_of_isInk (mark :: tail).length [] (by simp) ink noComment tail
  obtain ⟨spelled, quote⟩ : ∃ spelled, (portableText text).toList ++ mark :: tail = '"' :: spelled :=
    ⟨_, by rw [toList_portableText, List.cons_append]⟩
  rw [List.nil_append, List.length_cons] at behind
  rw [quote] at read ⊢
  rw [items?, skipLines_of_isInk _ _ blank rfl (by decide)]
  -- The mark behind the text decides how it goes on.
  by_cases comma : mark = ','
  · subst comma
    simp [read, behind]
  by_cases bracket : mark = ']'
  · subst bracket
    simp [read, behind]
  · simp [read, behind, comma, bracket]

/-- The texts of an array are read up to its end. -/
theorem items?_texts (depth : Nat) {texts : List String} (some : texts ≠ []) (fuel : Nat) (held : List Value)
    (gap : List Char) (blank : ∀ d ∈ gap, isBlank d = true) (tail : List Char)
    (enough : ([',', ' '].intercalate (texts.map fun text => (portableText text).toList)).length < fuel) :
    items? (value? depth) fuel held
        (gap ++ ([',', ' '].intercalate (texts.map fun text => (portableText text).toList) ++ ']' :: tail)) =
      .some (held.reverse ++ texts.map .text, tail) := by
  induction texts generalizing fuel held gap with
  | nil => exact absurd rfl some
  | cons text rest ih =>
    obtain ⟨fuel, rfl⟩ : ∃ more, fuel = more + 1 := Nat.exists_eq_succ_of_ne_zero (by omega)
    -- Behind the last text stands the bracket, and behind every other one a comma and a blank.
    cases rest with
    | nil =>
      rw [List.map_cons, List.map_nil, List.intercalate_singleton,
        items?_text depth fuel held gap blank text rfl (by decide) (by decide)]
      simp
    | cons next rest =>
      have inner := ih (by simp) fuel (.text text :: held) [' '] (by simp [isBlank])
      simp only [List.map_cons, List.intercalate_cons_cons, List.append_assoc, List.cons_append, List.nil_append,
        List.length_append, List.length_cons] at enough inner ⊢
      rw [items?_text depth fuel held gap blank text rfl (by decide) (by decide)]
      simp [inner (by omega)]

/-- Written texts are read back, one level deeper than they stand. -/
theorem reads_texts (depth : Nat) (texts : List String) :
    Reads (depth + 1) (portableValue (.array (texts.map .text))).toList (.array (texts.map .text)) := by
  intro tail
  rw [toList_portableValue_texts, List.cons_append, List.append_assoc, List.singleton_append, skipBlanks_of_visible rfl,
    value?.eq_def]
  generalize behind : [',', ' '].intercalate (texts.map fun text => (portableText text).toList) ++
    ']' :: '\n' :: tail = rest
  have items : items? (value? depth) (rest.length + 1) [] rest = some (texts.map .text, '\n' :: tail) := by
    rw [← behind]
    -- Without texts the bracket is closed at once.
    cases texts with
    | nil =>
      have closed (fuel : Nat) : skipLines (fuel + 1) (']' :: '\n' :: tail) = ']' :: '\n' :: tail :=
        skipLines_of_isInk fuel [] (by simp) rfl (by decide) _
      rw [items?, List.map_nil, List.intercalate_nil, List.nil_append, closed]
      rfl
    | cons text rest =>
      refine items?_texts depth (List.cons_ne_nil text rest) _ [] [] (by simp) ('\n' :: tail) ?_
      rw [List.length_append]
      omega
  simp [items]

/-! ### Lines -/

/-- A name that is a key without quotes. -/
def IsBare (name : String) : Prop :=
  name ≠ "" ∧ ∀ c ∈ name.toList, isBareKey c = true

instance (name : String) : Decidable (IsBare name) :=
  decidable_of_iff (name ≠ "" ∧ name.toList.all isBareKey = true) (and_congr_right fun _ => List.all_eq_true)

/-- A bare name has a first character, which may stand in a bare key. -/
theorem IsBare.start {name : String} (bare : IsBare name) : ∃ c rest, name.toList = c :: rest ∧ isBareKey c = true := by
  obtain ⟨c, rest, spelled⟩ := List.exists_cons_of_ne_nil (mt String.toList_eq_nil_iff.1 bare.1)
  exact ⟨c, rest, spelled, bare.2 c (spelled ▸ List.mem_cons_self)⟩

/-- A character of bare keys is none that no bare key has. -/
theorem ne_of_isBareKey {c d : Char} (bare : isBareKey c = true) (other : isBareKey d = false) : c ≠ d := by
  rintro rfl
  exact absurd other (by simp [bare])

/-- A key without quotes and dots is read up to the blank behind it. -/
theorem key?_bare {name : String} (bare : IsBare name) (rest : List Char) :
    key? (name.toList ++ ' ' :: '=' :: rest) = some ([], name, '=' :: rest) := by
  obtain ⟨c, more, spelled, isKey⟩ := bare.start
  have apart {d : Char} : isBareKey d = false → c ≠ d := ne_of_isBareKey isKey
  have visible : isBlank c = false := by
    simp [isBlank, apart (d := ' ') rfl, apart (d := '\t') rfl]
  have skipped : skipBlanks (name.toList ++ ' ' :: '=' :: rest) = name.toList ++ ' ' :: '=' :: rest := by
    rw [spelled, List.cons_append, skipBlanks_of_visible visible]
  have taken : (name.toList ++ ' ' :: '=' :: rest).takeWhile isBareKey = name.toList := by
    rw [List.takeWhile_append_of_pos bare.2]
    simp [isBareKey]
  -- Neither a quote nor a dot is in the key, so that it has one part.
  have part : keyPart? (name.toList ++ ' ' :: '=' :: rest) = some (name, ' ' :: '=' :: rest) := by
    rw [keyPart?, if_neg]
    · simp [taken, bare.1]
    · simp [spelled, apart (d := '"') rfl, apart (d := '\'') rfl]
  have behind : skipBlanks (' ' :: '=' :: rest) = '=' :: rest := by
    simp [skipBlanks, isBlank]
  have parts (fuel : Nat) : keyParts? (fuel + 1) (name.toList ++ ' ' :: '=' :: rest) = some ([name], '=' :: rest) := by
    simp [keyParts?, skipped, part, behind]
  rw [key?, show depthLimit = 78 + 1 from rfl, parts]
  rfl

/-- A line with a key and a value is read. -/
theorem lines?_line {name : String} (bare : IsBare name) {spelled : List Char} {value : Value}
    (read : Reads depthLimit spelled value) {root : Entries} (fresh : root.find? name = none) (fuel : Nat)
    (tail : List Char) :
    lines? (fuel + 1) { root := root } (name.toList ++ ' ' :: '=' :: ' ' :: (spelled ++ '\n' :: tail)) =
      lines? fuel { root := root ++ [(name, value)] } tail := by
  have key := key?_bare bare (' ' :: (spelled ++ '\n' :: tail))
  obtain ⟨c, more, start, isKey⟩ := bare.start
  have apart {d : Char} : isBareKey d = false → c ≠ d := ne_of_isBareKey isKey
  have pair : pair? (value? depthLimit) (name.toList ++ ' ' :: '=' :: ' ' :: (spelled ++ '\n' :: tail)) =
      some (([], name, value), '\n' :: tail) := by
    have behind : skipBlanks (' ' :: (spelled ++ '\n' :: tail)) = skipBlanks (spelled ++ '\n' :: tail) := by
      simp [skipBlanks, isBlank]
    simp [pair?, key, behind, read tail]
  have ended : lineEnd? ('\n' :: tail) = some tail := by
    simp [lineEnd?, skipBlanks, isBlank, skipComment, newline?]
  have assigned : Draft.assign { root := root } [] name value = some { root := root ++ [(name, value)] } := by
    simp [Draft.assign, descend, Toml.assign, fresh, Entries.set]
  have visible : isBlank c = false := by
    simp [isBlank, apart (d := ' ') rfl, apart (d := '\t') rfl]
  -- The line is neither empty nor the head of a table.
  rw [start, List.cons_append] at pair ⊢
  have goesOn : lineEnd? (c :: (more ++ ' ' :: '=' :: ' ' :: (spelled ++ '\n' :: tail))) = none := by
    simp [lineEnd?, skipBlanks_of_visible visible, skipComment, apart (d := '#') rfl, newline?, apart (d := '\n') rfl,
      apart (d := '\r') rfl]
  simp [lines?, goesOn, skipBlanks_of_visible visible, apart (d := '[') rfl, pair, assigned, ended]

/-- A listing has a line for each member, the name in front of an equals sign and the value behind it. -/
theorem toList_listing (members : List (String × Json)) :
    (listing " = " members).toList =
      members.flatMap fun entry =>
        entry.1.toList ++ ' ' :: '=' :: ' ' :: ((portableValue entry.2).toList ++ ['\n']) := by
  simp [listing, List.flatMap_map]

/-- A name that is new stays new behind an entry of another name. -/
theorem find?_append_eq_none {root : Entries} {name other : String} {value : Value} (fresh : root.find? name = none)
    (apart : other ≠ name) : Entries.find? (root ++ [(other, value)]) name = none := by
  -- The entry behind is found only under its own name.
  simp only [Entries.find?, Option.map_eq_none_iff] at fresh ⊢
  rw [List.find?_append, fresh]
  simp [apart]

/-- Lines with different keys are read one after the other. -/
theorem lines?_listing {encode : Json → Value} {members : List (String × Json)}
    (bare : ∀ entry ∈ members, IsBare entry.1)
    (read : ∀ entry ∈ members, Reads depthLimit (portableValue entry.2).toList (encode entry.2))
    (distinct : (members.map Prod.fst).Nodup) (root : Entries)
    (fresh : ∀ entry ∈ members, root.find? entry.1 = none) (fuel : Nat)
    (enough : (listing " = " members).toList.length < fuel) :
    lines? fuel { root := root } (listing " = " members).toList =
      some (root ++ members.map fun entry => (entry.1, encode entry.2)) := by
  rw [toList_listing] at enough ⊢
  induction members generalizing root fuel with
  | nil =>
    obtain ⟨fuel, rfl⟩ := Nat.exists_eq_add_of_lt enough
    simp [lines?, lineEnd?, skipBlanks, skipComment]
  | cons entry rest ih =>
    obtain ⟨fuel, rfl⟩ : ∃ more, fuel = more + 1 := Nat.exists_eq_succ_of_ne_zero (by omega)
    obtain ⟨name, value⟩ := entry
    obtain ⟨ownBare, bare⟩ := List.forall_mem_cons.1 bare
    obtain ⟨ownRead, read⟩ := List.forall_mem_cons.1 read
    obtain ⟨ownFresh, fresh⟩ := List.forall_mem_cons.1 fresh
    obtain ⟨apart, distinct⟩ := List.nodup_cons.1 distinct
    -- A key that has been read is none of those that follow, since they are different.
    have inner := ih bare read distinct (root ++ [(name, encode value)])
      (fun entry member => find?_append_eq_none (fresh entry member) fun same =>
        apart (List.mem_map.2 ⟨entry, member, same.symm⟩)) fuel
    simp only [List.flatMap_cons, List.append_assoc, List.cons_append, List.nil_append, List.length_append,
      List.length_cons] at enough inner ⊢
    rw [lines?_line ownBare ownRead ownFresh, inner (by omega)]
    simp

/-- A text that does not start with a mark is read from its first line on. -/
theorem read?_eq {content : String} (unmarked : content.toList.head? ≠ some '\ufeff') :
    read? content = lines? (content.toList.length + 1) {} content.toList := by
  -- Only a mark at the front would be passed over.
  rw [read?]
  cases characters : content.toList with
  | nil => rfl
  | cons c rest =>
    rw [characters] at unmarked
    simp only [if_neg (show c ≠ '\ufeff' by simpa using unmarked)]

end Toml

namespace Settings

open Toml

/-- What is read as the value of an option that is written as TOML. -/
def tomlValue : Json → Toml.Value
  | .text text => .text text
  | .array items => .array ((itemTexts items).map .text)
  | .number (.whole n) => .whole n
  | .bool flag => .flag flag
  | _ => .other

/-- An array of texts is an array of texts in this language as well. -/
theorem tomlValue_texts (texts : List String) : tomlValue (.array (texts.map .text)) = .array (texts.map .text) := by
  rw [tomlValue, itemTexts_map_text]

/-- Whether something is said does not depend on the name. -/
theorem isStated_iff {entry : String × Json} : isStated entry = true ↔ entry.2 ≠ .null := by
  obtain ⟨name, value⟩ := entry
  cases value <;> simp [isStated]

/-- What is read for a value is read as the value. -/
theorem tomlSource_returns {value : Json} (plain : IsPlain value) (stated : value ≠ .null) :
    tomlSource.Returns (tomlValue value) value := by
  -- By the kinds of values; nothing cannot be written in this language.
  cases plain with
  | nothing => exact absurd rfl stated
  | text text => exact .text rfl rfl rfl
  | texts texts =>
    rw [tomlValue_texts]
    exact .texts (Traversal.mapM_of_leftInverse tomlText? (fun _ => rfl) texts)
  | @count n positive small =>
    have least : (n : Int) < UInt32.size := by exact_mod_cast small
    refine .count ?_
    simp only [tomlSource, tomlValue, Int.natCast_nonneg, least, and_self, if_true, Int.toNat_natCast]
  | flag flag => exact .flag rfl

/-- The value of an option is read where it stands. -/
theorem tomlReads_plain {value : Json} (plain : IsPlain value) (stated : value ≠ .null) :
    Reads depthLimit (portableValue value).toList (tomlValue value) := by
  -- By the kinds of values; nothing cannot be written in this language.
  cases plain with
  | nothing => exact absurd rfl stated
  | text text => exact reads_text _ text
  | texts texts =>
    rw [tomlValue_texts]
    exact reads_texts _ texts
  | @count n positive small =>
    have digits : (portableValue (.number (.whole n))).toList = Nat.toDigits 10 n := Number.toList_render _
    rw [digits]
    exact reads_whole _ positive small
  | flag flag => exact reads_flag _ flag

/-- Options that are written as lines are read back, if something is said in each. -/
theorem read?_listing {members : List (String × Json)} (known : ∀ name ∈ members.map Prod.fst, name ∈ optionNames)
    (distinct : (members.map Prod.fst).Nodup) (plain : ∀ entry ∈ members, IsPlain entry.2)
    (stated : ∀ entry ∈ members, entry.2 ≠ .null) :
    Toml.read? (listing " = " members) = some (members.map fun entry => (entry.1, tomlValue entry.2)) := by
  have bare : ∀ name ∈ optionNames, IsBare name := by decide
  have own (entry : String × Json) (member : entry ∈ members) : IsBare entry.1 :=
    bare _ (known _ (List.mem_map_of_mem member))
  have read := lines?_listing own (fun entry member => tomlReads_plain (plain entry member) (stated entry member))
    distinct []
    (fun _ _ => rfl) _ (Nat.lt_succ_self _)
  -- No name starts with the mark that may stand in front of a text.
  have unmarked : (listing " = " members).toList.head? ≠ some '\ufeff' := by
    rw [toList_listing]
    cases members with
    | nil => simp
    | cons entry rest =>
      obtain ⟨c, more, spelled, isKey⟩ := (own entry List.mem_cons_self).start
      simpa [spelled] using ne_of_isBareKey isKey (d := '\ufeff') rfl
  rw [Toml.read?_eq unmarked, read, List.nil_append]

/-- TOML keeps every value of which something is said. -/
theorem tomlCodec_lawful : tomlCodec.Lawful .toml where
  reads members content options written := by
    cases written
    -- What is written are the members of which something is said.
    have among (entry : String × Json) (member : entry ∈ members.filter isStated) : entry ∈ members ∧ entry.2 ≠ .null :=
      ⟨List.mem_of_mem_filter member, isStated_iff.1 (List.of_mem_filter member)⟩
    have plain : ∀ entry ∈ members.filter isStated, IsPlain entry.2 := fun entry member =>
      options.plain entry (among entry member).1
    have stated : ∀ entry ∈ members.filter isStated, entry.2 ≠ .null := fun entry member => (among entry member).2
    have kept : ((members.filter isStated).map Prod.fst).Sublist (members.map Prod.fst) :=
      List.filter_sublist.map Prod.fst
    -- They are different options, as all members are.
    have read := read?_listing (fun name member => options.known name (kept.subset member))
      (options.distinct.sublist kept) plain stated
    refine ⟨_, congrArg (Option.map Contents.members) read, ?_⟩
    refine List.forall₂_map_left_iff.2 (List.forall₂_same.2 fun entry member => ⟨rfl, ?_⟩)
    exact tomlSource_returns (plain entry member) (stated entry member)

end Settings

end Phrasebook
