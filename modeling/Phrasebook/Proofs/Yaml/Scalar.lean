import Phrasebook.Proofs.Settings.Portable
import Phrasebook.Yaml.Scalar

/-! Words and quoted texts are read as scalars. -/

namespace Phrasebook.Yaml

open Settings

/-! ### Characters -/

/-- Ink is no gap. -/
theorem isGap_of_isInk {c : Char} (ink : isInk c = true) : isGap c = false := by
  -- None of the characters of gaps is ink.
  simp [isGap, isBlank, isBreak, ne_of_isInk ink (d := ' ') rfl, ne_of_isInk ink (d := '\t') rfl,
    ne_of_isInk ink (d := '\n') rfl, ne_of_isInk ink (d := '\r') rfl, ne_of_isInk ink (d := '\x85') rfl,
    ne_of_isInk ink (d := '\u2028') rfl, ne_of_isInk ink (d := '\u2029') rfl]

/-- Ink breaks no line. -/
theorem isBreak_of_isInk {c : Char} (ink : isInk c = true) : isBreak c = false := by
  -- A break would be a gap.
  have gap := isGap_of_isInk ink
  rw [isGap, Bool.or_eq_false_iff] at gap
  exact gap.2

/-- Ink is not blank. -/
theorem isBlank_of_isInk {c : Char} (ink : isInk c = true) : isBlank c = false := by
  -- A blank would be a gap.
  have gap := isGap_of_isInk ink
  rw [isGap, Bool.or_eq_false_iff] at gap
  exact gap.1

namespace Cursor

variable {cursor : Cursor} {c : Char} {rest : List Char}

/-- Advancing by nothing stays. -/
theorem advance_zero (cursor : Cursor) : cursor.advance 0 = cursor := by
  simp [advance]

/-- Advancing twice is advancing by the sum. -/
theorem advance_advance (cursor : Cursor) (m n : Nat) : (cursor.advance m).advance n = cursor.advance (m + n) := by
  simp [advance, Nat.add_assoc]

/-- Behind as many characters as a front has stands what follows the front. -/
theorem rest_advance (front : List Char) (behind : cursor.rest = front ++ rest) :
    (cursor.advance front.length).rest = rest := by
  simp [advance, behind]

/-- Ink begins no new line. -/
theorem nextLine?_of_isInk (behind : cursor.rest = c :: rest) (ink : isInk c = true) : cursor.nextLine? = none := by
  -- A line ends at a break only.
  unfold nextLine?
  rw [behind]
  simp [isBreak_of_isInk ink, ne_of_isInk ink (d := '\r') rfl]

/-- A newline begins a new line, at its first column. -/
theorem nextLine?_of_newline (behind : cursor.rest = '\n' :: rest) :
    cursor.nextLine? = some (['\n'], { rest, index := cursor.index + 1, line := cursor.line + 1, column := 0 }) := by
  -- A newline is a break of one character.
  unfold nextLine?
  rw [behind]
  simp [isBreak]

/-- Marks of documents stand at the first column only. -/
theorem atDocumentMark_of_column (inside : 0 < cursor.column) : cursor.atDocumentMark = false := by
  simp [atDocumentMark, atMark, Nat.ne_of_gt inside]

end Cursor

/-! ### Quoted texts -/

/-- A character of a text is read back. -/
theorem quotedRun_portableChar (fuel : Nat) (held : List Char) (c : Char) {cursor : Cursor} {rest : List Char}
    (behind : cursor.rest = portableChar c ++ rest) :
    quotedRun '"' (fuel + 1) held cursor = quotedRun '"' fuel (c :: held) (cursor.advance (portableChar c).length) := by
  -- The character stands for itself, or is written as its code point behind a backslash.
  unfold portableChar at behind ⊢
  split at behind
  · next plain =>
    have gap := isGap_of_isInk (isInk_of_isPlain plain)
    rw [if_pos plain]
    simp only [isPlain, Bool.and_eq_true, bne_iff_ne] at plain
    rw [quotedRun, behind]
    simp [gap, plain]
  · next special =>
    rw [if_neg special]
    have spelled : cursor.rest = '\\' :: 'U' :: (hexDigits 8 c.toNat ++ rest) := by simpa using behind
    have sameLine : (cursor.advance 1).nextLine? = none :=
      Cursor.nextLine?_of_isInk (Cursor.rest_advance ['\\'] spelled) rfl
    have escaped : escape? ('U' :: (hexDigits 8 c.toNat ++ rest)) = some (c, rest) := codePoint?_hexDigits c rest
    have moved : cursor.moveTo rest = cursor.advance (['\\', 'U'] ++ hexDigits 8 c.toNat).length := by
      rw [Cursor.moveTo, behind, List.length_append, Nat.add_sub_cancel]
    rw [quotedRun, spelled]
    simp only [show isGap '\\' = false from rfl, sameLine, escaped, ← moved]
    rfl

/-- A text is read up to the quote behind it. -/
theorem quotedRun_portable (text : List Char) (fuel : Nat) (held : List Char) {cursor : Cursor} {rest : List Char}
    (behind : cursor.rest = text.flatMap portableChar ++ '"' :: rest) (enough : text.length < fuel) :
    quotedRun '"' fuel held cursor =
      some (text.reverse ++ held, {}, cursor.advance (text.flatMap portableChar).length) := by
  -- Character by character; the bound counts the characters of the text, not those that write them.
  induction text generalizing fuel held cursor with
  | nil =>
    obtain ⟨fuel, rfl⟩ := Nat.exists_eq_add_of_lt enough
    rw [List.flatMap_nil, List.nil_append] at behind
    rw [List.length_nil, Nat.zero_add, quotedRun, behind]
    simp [isGap, isBlank, isBreak, Cursor.advance_zero]
  | cons c text ih =>
    obtain ⟨fuel, rfl⟩ : ∃ more, fuel = more + 1 := Nat.exists_eq_succ_of_ne_zero (by omega)
    rw [List.flatMap_cons, List.append_assoc] at behind
    rw [quotedRun_portableChar fuel held c behind,
      ih fuel (c :: held) (Cursor.rest_advance _ behind) (by simpa using enough), Cursor.advance_advance,
      List.flatMap_cons, List.length_append]
    simp

/-- A text between quotes is read. -/
theorem quotedScalar?_portableText (text : String) {cursor : Cursor} {rest : List Char}
    (behind : cursor.rest = (portableText text).toList ++ rest) :
    quotedScalar? '"' cursor = some (text.toList, cursor.advance (portableText text).toList.length) := by
  have longer := Text.length_le_flatMap portableChar_ne_nil text.toList
  rw [toList_portableText] at behind ⊢
  have inside : (cursor.advance 1).rest = text.toList.flatMap portableChar ++ '"' :: rest :=
    Cursor.rest_advance ['"'] (by simpa using behind)
  have run := quotedRun_portable text.toList ((cursor.advance 1).rest.length + 1) [] inside
    (by rw [inside, List.length_append, List.length_cons]; omega)
  have closing : ((cursor.advance 1).advance (text.toList.flatMap portableChar).length).rest = '"' :: rest :=
    Cursor.rest_advance _ inside
  -- Within a line no mark of a document can stand.
  have unmarked : (cursor.advance 1).atDocumentMark = false := Cursor.atDocumentMark_of_column (Nat.succ_pos _)
  have nonempty : (cursor.advance 1).rest.isEmpty = false := by simp [inside]
  -- The quotes in front of the text and behind it count as well.
  have last : cursor.advance ('"' :: (text.toList.flatMap portableChar ++ ['"'])).length =
      ((cursor.advance 1).advance (text.toList.flatMap portableChar).length).advance 1 := by
    rw [Cursor.advance_advance, Cursor.advance_advance]
    congr 1
    simp only [List.length_cons, List.length_append, List.length_nil]
    omega
  rw [last, quotedScalar?, quotedFrom]
  generalize (cursor.advance 1).advance (text.toList.flatMap portableChar).length = closed at run closing ⊢
  simp [unmarked, nonempty, run, closing]

/-! ### Words -/

/-- Whether a character stands in words: a small letter, a digit or a line between the words of a name. -/
def isWordChar (c : Char) : Bool :=
  ('a' ≤ c && c ≤ 'z') || ('0' ≤ c && c ≤ '9') || c == '_'

/-- Some characters that make up words. -/
def IsWord (word : List Char) : Prop :=
  word ≠ [] ∧ ∀ c ∈ word, isWordChar c = true

instance (word : List Char) : Decidable (IsWord word) :=
  decidable_of_iff (word ≠ [] ∧ word.all isWordChar = true) (and_congr_right fun _ => List.all_eq_true)

/-- The characters of words are ink. -/
theorem isInk_of_isWordChar {c : Char} (word : isWordChar c = true) : isInk c = true := by
  -- Letters, digits and the underscore are in the visible range.
  simp only [isWordChar, Bool.or_eq_true, Bool.and_eq_true, decide_eq_true_eq, beq_iff_eq] at word
  rcases word with (⟨above, below⟩ | ⟨above, below⟩) | rfl
  · have least : 97 ≤ c.toNat := above
    have greatest : c.toNat ≤ 122 := below
    exact isInk_iff.2 ⟨by omega, by omega⟩
  · have least : 48 ≤ c.toNat := above
    have greatest : c.toNat ≤ 57 := below
    exact isInk_iff.2 ⟨by omega, by omega⟩
  · rfl

/-- A character of a word is none that no word has. -/
theorem ne_of_isWordChar {c d : Char} (word : isWordChar c = true) (other : isWordChar d = false) : c ≠ d := by
  rintro rfl
  exact absurd other (by simp [word])

/-- A word ends at a gap, and at a colon before one. -/
theorem plainRun_word {word : List Char} (each : ∀ c ∈ word, isWordChar c = true) {c : Char} {rest : List Char}
    (ends : isGap c = true ∨ c = ':' ∧ endsWord rest = true) : plainRun false (word ++ c :: rest) = some word := by
  -- Character by character; none of a word is a gap or a colon.
  induction word with
  | nil =>
    rcases ends with gap | ⟨rfl, ended⟩
    · simp [plainRun, gap]
    · simp [plainRun, ended]
  | cons d word ih =>
    obtain ⟨own, others⟩ := List.forall_mem_cons.1 each
    have gap := isGap_of_isInk (isInk_of_isWordChar own)
    simp [plainRun, gap, ne_of_isWordChar own (d := ':') rfl, ih others]

/-- No word starts a document. -/
theorem atDocumentMark_of_isWordChar {cursor : Cursor} {c : Char} {rest : List Char} (behind : cursor.rest = c :: rest)
    (word : isWordChar c = true) : cursor.atDocumentMark = false := by
  have apart {d : Char} (other : isWordChar d = false) : d ≠ c := Ne.symm (ne_of_isWordChar word other)
  simp [Cursor.atDocumentMark, Cursor.atMark, behind, Text.stripPrefix?, apart (d := '-') rfl, apart (d := '.') rfl]

/-- A word is a scalar if the gap behind it is read, and the scalar ends there. -/
theorem plainScalar?_word {word : List Char} (isWord : IsWord word) (gap : Gap) {indent : Nat} {cursor next : Cursor}
    {rest : List Char} (behind : cursor.rest = word ++ rest) (run : plainRun false (word ++ rest) = some word)
    (read : Gap.read indent {} (cursor.advance word.length) = some (gap, next))
    (ends : gap.blanks = [] ∧ gap.broken = false ∨ next.column < indent) :
    plainScalar? false indent cursor = some (word, gap.broken, next) := by
  obtain ⟨nonempty, each⟩ := isWord
  obtain ⟨c, more, spelled⟩ := List.exists_cons_of_ne_nil nonempty
  have own := each c (spelled ▸ List.mem_cons_self)
  have start : cursor.rest = c :: (more ++ rest) := by rw [behind, spelled, List.cons_append]
  -- A word starts neither a mark of a document nor a comment.
  have unmarked := atDocumentMark_of_isWordChar start own
  have noComment : cursor.rest.head? ≠ some '#' := by
    rw [start, List.head?_cons]
    exact fun same => ne_of_isWordChar own (d := '#') rfl (Option.some.inj same)
  rw [← behind] at run
  rw [plainScalar?, plainFrom]
  simp [unmarked, noComment, run, nonempty, read, ends, Gap.text]

/-- A word is read as a scalar up to the colon behind it. -/
theorem plainScalar?_colon {word : List Char} (isWord : IsWord word) (indent : Nat) {cursor : Cursor} {rest : List Char}
    (behind : cursor.rest = word ++ ':' :: rest) (ended : endsWord rest = true) :
    plainScalar? false indent cursor = some (word, false, cursor.advance word.length) := by
  -- Nothing is skipped between the word and the colon.
  have after : (cursor.advance word.length).rest = ':' :: rest := Cursor.rest_advance _ behind
  refine plainScalar?_word isWord {} behind (plainRun_word isWord.2 (.inr ⟨rfl, ended⟩)) ?_ (.inl ⟨rfl, rfl⟩)
  rw [Gap.read, Gap.readFrom, Cursor.nextLine?_of_isInk after rfl]
  simp only [after]
  rfl

/-- A word at the end of its line is read as a scalar up to the next line, if that starts with another word. -/
theorem plainScalar?_newline {word : List Char} (isWord : IsWord word) (indent : Nat) {cursor : Cursor}
    {rest : List Char} (behind : cursor.rest = word ++ '\n' :: rest) (next : ∀ c ∈ rest.head?, isWordChar c = true) :
    plainScalar? false (indent + 1) cursor =
      some (word, true, { rest, index := cursor.index + word.length + 1, line := cursor.line + 1, column := 0 }) := by
  -- Behind the break stands a word or nothing, so that no more is skipped.
  have after : (cursor.advance word.length).rest = '\n' :: rest := Cursor.rest_advance _ behind
  refine plainScalar?_word isWord (Gap.addBreak {} ['\n']) behind (plainRun_word isWord.2 (.inl rfl)) ?_
    (.inr (Nat.succ_pos _))
  rw [Gap.read, Gap.readFrom, Cursor.nextLine?_of_newline after, after, List.length_cons]
  simp only
  rw [Gap.readFrom]
  cases rest with
  | nil => rfl
  | cons c rest =>
    have ink := isInk_of_isWordChar (next c rfl)
    rw [Cursor.nextLine?_of_isInk rfl ink]
    simp only [isBlank_of_isInk ink]
    rfl

end Phrasebook.Yaml
