import Phrasebook.Proofs.Settings.Valid
import Phrasebook.Proofs.Template.Parts
import Phrasebook.Proofs.Template.Pattern

/-! The pattern of tokens, and the scan of a template for it. For delimiters that are not empty the tokens
of a template are those that the scan finds. -/

namespace Phrasebook.Grammar

open Unicode (isWord)
open Pattern (literal optional)

variable (grammar : Grammar)

section Patterns

/-- A character of a name. -/
def wordChar : Pattern :=
  .char isWord

/-- The parentheses of a call. -/
def callPattern : Pattern :=
  .seq (literal ['(']) (.seq (.many (.char isCallChar)) (literal [')']))

/-- One character of a name or more. -/
def word : Pattern :=
  .seq wordChar (.many wordChar)

/-- A word, and any number of words behind delimiters. -/
def namePattern : Pattern :=
  .seq word (.many (.seq (literal grammar.space) word))

/-- A name behind any number of delimiters. -/
def dottedName : Pattern :=
  .seq (.many (literal grammar.space)) grammar.namePattern

/-- What stands in braces: a name behind any number of delimiters, and a call or none. -/
def dottedPattern : Pattern :=
  .seq grammar.dottedName (optional callPattern)

/-- A reference without braces: a name behind at least one delimiter. -/
def relativePattern : Pattern :=
  .seq (literal grammar.space) grammar.dottedName

/-- A word, and a call or none. -/
def wordPattern : Pattern :=
  .seq word (optional callPattern)

/-- What stands without braces. -/
def namedPattern : Pattern :=
  .prefer grammar.relativePattern wordPattern

/-- What may stand behind the delimiter of a token, in the order of preference. -/
def introducedPattern : Pattern :=
  .prefer (.capture .escaped (literal grammar.placeholder))
    (.prefer (.seq (literal ['\x7b']) (.seq (.capture .braced grammar.dottedPattern) (literal ['\x7d'])))
      (.prefer (.capture .named grammar.namedPattern) (.capture .invalid .nothing)))

/-- The pattern of tokens other than text. -/
def tokenPattern : Pattern :=
  .seq (literal grammar.placeholder) grammar.introducedPattern

end Patterns

section Scan

/-- The token that a reading stands for, by what has been captured in it. -/
def tokenOf (one : Reading) (raw : List Char) (position : Nat) : Token :=
  match one.captured? .escaped, one.captured? .braced, one.captured? .named with
  | some _, _, _ => .escaped raw
  | none, some body, _ => grammar.placeholderOf raw body true
  | none, none, some body => grammar.placeholderOf raw body false
  | none, none, none => .invalid raw position

/-- The tokens of a text that a number of bytes precedes: those of the pattern, one after the other, and
the text between them. -/
def scanFrom (position : Nat) (s : List Char) : List Token :=
  match grammar.tokenPattern.search? s with
  | none => textToken s
  | some (before, one) =>
    let start := position + byteLength before
    let raw := (s.drop before.length).take (s.length - before.length - one.rest.length)
    textToken before ++ grammar.tokenOf one raw start ::
      if _shorter : one.rest.length < s.length then scanFrom (start + byteLength raw) one.rest else []
termination_by s.length

/-- The tokens that the scan of a template finds. -/
def scan (template : List Char) : List Token :=
  grammar.scanFrom 0 template

end Scan

section Names

variable {α : Type} {goal : Reading → Option α} {space s : List Char}

/-- The parentheses of a call close behind all characters of a call. -/
theorem find?_callPattern : callPattern.find? goal s = (call? s).bind fun rest => goal ⟨[], rest⟩ := by
  -- The closing parenthesis is none of those characters, so fewer of them will not do.
  rw [callPattern, Pattern.find?_seq, Pattern.find?_literal]
  unfold call?
  cases s with
  | nil => rfl
  | cons c rest =>
    by_cases opens : c = '('
    · subst opens
      simp only [Text.stripPrefix?, if_true, Option.bind_some, Reading.mk_nil_andThen, Pattern.find?_seq]
      rw [Pattern.find?_many_char]
      · simp only [Pattern.find?_literal, Reading.mk_nil_andThen]
        cases rest.dropWhile isCallChar with
        | nil => rfl
        | cons d after =>
          by_cases closes : d = ')'
          · subst closes
            simp [Text.stripPrefix?]
          · simp [Text.stripPrefix?, closes, Ne.symm closes]
      · intro d after inside
        have different : ')' ≠ d := by
          rintro rfl
          exact absurd inside (by decide)
        simp [Pattern.find?_literal, Text.stripPrefix?, different]
    · simp [Text.stripPrefix?, opens, Ne.symm opens]

/-- A call that may be missing is tried first. -/
theorem find?_optional_callPattern :
    (optional callPattern).find? goal s = withCall (fun rest => goal ⟨[], rest⟩) s := by
  simp [Pattern.find?_optional, find?_callPattern, withCall]

/-- A call has no closing brace. -/
theorem optional_callPattern_avoids : (optional callPattern).Avoids '\x7d' :=
  ⟨⟨Pattern.avoids_literal (by decide), rfl, Pattern.avoids_literal (by decide)⟩, trivial⟩

/-- Behind the first character of a name: the word goes on, or a delimiter and another word follow, or the
name ends. -/
theorem insideName_eq (nonempty : space ≠ []) (goal : List Char → Option α) (s : List Char) :
    insideName space goal s =
      (name? space goal s).or (((Text.stripPrefix? space s).bind (name? space goal)).or (goal s)) := by
  -- A delimiter is not empty, so that what is behind it is shorter, and the cases can be put in a row.
  have notEmpty : space.isEmpty = false := by simpa using nonempty
  rw [insideName.eq_def]
  cases s with
  | nil => cases space <;> simp_all [name?, Text.stripPrefix?]
  | cons c rest =>
    simp only [notEmpty, name?, Option.orElse_eq_orElse]
    cases found : Text.stripPrefix? space (c :: rest) with
    | none => simp
    | some after => cases after <;> simp [name?]

/-- Delimiters may precede a name. -/
theorem dotted?_eq (nonempty : space ≠ []) (goal : List Char → Option α) (s : List Char) :
    dotted? space goal s =
      ((Text.stripPrefix? space s).bind (dotted? space goal)).or (name? space goal s) := by
  rw [dotted?.eq_def, dif_pos nonempty]
  cases found : Text.stripPrefix? space s <;> simp

/-- The words of a name behind its first character. -/
theorem find?_insideName (nonempty : space ≠ []) :
    (Pattern.seq (.many wordChar) (.many (.seq (literal space) word))).find? goal s =
      insideName space (fun rest => goal ⟨[], rest⟩) s := by
  -- The induction is on the length of the text, as a delimiter and a word are read in one step.
  induction length : s.length using Nat.strongRecOn generalizing s with
  | ind size ih =>
    have behind (rest : List Char) (shorter : rest.length < s.length) := ih rest.length (length ▸ shorter) rfl
    simp only [Pattern.find?_seq] at behind
    rw [Pattern.find?_seq, Pattern.find?_many, insideName_eq nonempty]
    congr 1
    · -- The word goes on.
      cases s with
      | nil => rfl
      | cons c rest => simp [wordChar, name?, ← behind rest]
    · -- The word ends, and a delimiter and another word may follow.
      simp only [Reading.mk_nil_andThen]
      rw [Pattern.find?_many, Pattern.find?_seq, Pattern.find?_literal]
      congr 1
      cases found : Text.stripPrefix? space s with
      | none => rfl
      | some after =>
        have parts := Text.length_of_stripPrefix? found
        have positive := List.length_pos_iff.2 nonempty
        simp only [Option.bind_some, Reading.mk_nil_andThen]
        cases after with
        | nil => rfl
        | cons c rest =>
          have shorter : rest.length < s.length := by simp only [List.length_cons] at parts; omega
          rw [word, Pattern.find?_seq, wordChar, Pattern.find?_char_cons, name?, ← behind rest shorter]
          split
          · refine Pattern.find?_congr fun one member => if_pos ?_
            exact Nat.lt_of_le_of_lt (Pattern.length_le_of_mem_readings member) shorter
          · rfl

/-- A name is read where its pattern leads. -/
theorem find?_namePattern (nonempty : grammar.space ≠ []) :
    grammar.namePattern.find? goal s = name? grammar.space (fun rest => goal ⟨[], rest⟩) s := by
  -- The first character is one of words, and what stands behind it is the inside of a name.
  rw [namePattern, Pattern.find?_seq, word, Pattern.find?_seq]
  cases s with
  | nil => rfl
  | cons c rest => simp [wordChar, name?, ← find?_insideName nonempty, Pattern.find?_seq, word]

/-- A word alone is read as a name without delimiters. -/
theorem find?_word : word.find? goal s = name? [] (fun rest => goal ⟨[], rest⟩) s := by
  have inside (s : List Char) : (Pattern.many wordChar).find? goal s =
      insideName [] (fun rest => goal ⟨[], rest⟩) s := by
    induction s with
    | nil => rw [Pattern.find?_many, insideName]; simp [wordChar]
    | cons c rest ih => rw [Pattern.find?_many, insideName]; simp [wordChar, ← ih]
  rw [word, Pattern.find?_seq]
  -- The first character is one of a word, and the others follow.
  cases s with
  | nil => rfl
  | cons c rest => simp [wordChar, name?, ← inside]

/-- Delimiters and a name are read where their pattern leads. -/
theorem find?_dottedName (nonempty : grammar.space ≠ []) :
    grammar.dottedName.find? goal s = dotted? grammar.space (fun rest => goal ⟨[], rest⟩) s := by
  -- Every delimiter makes the text shorter.
  induction length : s.length using Nat.strongRecOn generalizing s with
  | ind size ih =>
    rw [dottedName, Pattern.find?_seq, Pattern.find?_many, dotted?_eq nonempty, Pattern.find?_literal]
    congr 1
    · -- A delimiter is read, and more of them may follow.
      cases found : Text.stripPrefix? grammar.space s with
      | none => rfl
      | some after =>
        have parts := Text.length_of_stripPrefix? found
        have positive := List.length_pos_iff.2 nonempty
        have shorter : after.length < s.length := by omega
        simp only [Option.bind_some, if_pos shorter, Reading.mk_nil_andThen]
        rw [← ih after.length (length ▸ shorter) rfl, dottedName, Pattern.find?_seq]
    · -- No delimiter is read, and the name follows.
      simp only [Reading.mk_nil_andThen, grammar.find?_namePattern nonempty]

/-- What stands in braces is read where its pattern leads. -/
theorem find?_dottedPattern (nonempty : grammar.space ≠ []) :
    grammar.dottedPattern.find? goal s =
      dotted? grammar.space (withCall fun rest => goal ⟨[], rest⟩) s := by
  simp only [dottedPattern, Pattern.find?_seq, grammar.find?_dottedName nonempty,
    Reading.mk_nil_andThen, find?_optional_callPattern]

/-- What stands without braces is read where its patterns lead. -/
theorem find?_namedPattern (nonempty : grammar.space ≠ []) :
    grammar.namedPattern.find? goal s =
      ((Text.stripPrefix? grammar.space s).bind (dotted? grammar.space fun rest => goal ⟨[], rest⟩)).or
        (name? [] (withCall fun rest => goal ⟨[], rest⟩) s) := by
  -- A relative reference is preferred to a word with a call behind it.
  rw [namedPattern, Pattern.find?_prefer]
  congr 1
  · simp only [relativePattern, Pattern.find?_seq, Pattern.find?_literal,
      grammar.find?_dottedName nonempty, Reading.mk_nil_andThen]
  · simp only [wordPattern, Pattern.find?_seq, find?_word, Reading.mk_nil_andThen,
      find?_optional_callPattern]

end Names

section Tokens

variable {grammar} {s rest : List Char}

/-- A closing brace is taken off the front. -/
theorem closing?_eq (s : List Char) : closing? s = Text.stripPrefix? ['\x7d'] s := by
  -- The first character is the brace or not.
  cases s with
  | nil => rfl
  | cons c rest =>
    by_cases brace : c = '\x7d'
    · simp [brace, closing?, Text.stripPrefix?]
    · simp [brace, Ne.symm brace, closing?, Text.stripPrefix?]

/-- Reading in braces is a search for the pattern with a closing brace behind it. -/
theorem braced_eq_find? (nonempty : grammar.space ≠ []) (s : List Char) :
    dotted? grammar.space (withCall closing?) s = grammar.dottedPattern.find? (fun one => closing? one.rest) s := by
  rw [grammar.find?_dottedPattern nonempty]

/-- Reading without braces is a search for one of the patterns. -/
theorem unbraced?_eq_find? (nonempty : grammar.space ≠ []) (s : List Char) :
    grammar.unbraced? s = grammar.namedPattern.find? (fun one => some one.rest) s := by
  simp [grammar.find?_namedPattern nonempty, unbraced?]

/-- What is read in braces is a text of the pattern, and a closing brace stands behind it. -/
theorem matches_of_braced (nonempty : grammar.space ≠ [])
    (found : dotted? grammar.space (withCall closing?) s = some rest) :
    ∃ body, s = body ++ '\x7d' :: rest ∧ grammar.dottedPattern.Matches body := by
  rw [braced_eq_find? nonempty] at found
  obtain ⟨one, member, closes⟩ := Pattern.exists_of_find? found
  obtain ⟨body, rfl, fits⟩ := Pattern.matches_of_mem_readings member
  -- The only text that closes is a brace with what it leaves.
  rw [closing?_eq, Text.stripPrefix?_eq_some_iff] at closes
  exact ⟨body, by rw [closes]; rfl, fits⟩

/-- A text of the pattern with a closing brace behind it can be read in braces. -/
theorem isSome_of_matches (nonempty : grammar.space ≠ []) {body : List Char}
    (fits : grammar.dottedPattern.Matches body) (rest : List Char) :
    (dotted? grammar.space (withCall closing?) (body ++ '\x7d' :: rest)).isSome := by
  -- One of the readings is that of the text, behind which the brace stands.
  rw [braced_eq_find? nonempty]
  obtain ⟨one, member, left⟩ := Pattern.exists_reading fits ('\x7d' :: rest)
  exact Pattern.find?_isSome member (by simp [left, closing?])

/-- What is read without braces is a text of one of the patterns. -/
theorem matches_of_unbraced (nonempty : grammar.space ≠ []) (found : grammar.unbraced? s = some rest) :
    ∃ body, s = body ++ rest ∧ grammar.namedPattern.Matches body := by
  -- What leads to a goal is one of the readings, and a reading is of a text that matches.
  rw [unbraced?_eq_find? nonempty] at found
  obtain ⟨one, member, left⟩ := Pattern.exists_of_find? found
  obtain ⟨body, rfl, fits⟩ := Pattern.matches_of_mem_readings member
  exact ⟨body, by rw [Option.some.inj left], fits⟩

/-- The body between braces is captured, and what stands behind the closing brace is left. -/
theorem find?_captured_braced (nonempty : grammar.space ≠ []) (s : List Char) :
    (Pattern.seq (.capture .braced grammar.dottedPattern) (literal ['\x7d'])).find? some s =
      (dotted? grammar.space (withCall closing?) s).map fun rest =>
        ⟨[(.braced, s.take (s.length - (rest.length + 1)))], rest⟩ := by
  -- The readings of the body capture nothing, so what is captured depends on what is left only.
  rw [braced_eq_find? nonempty, ← Pattern.find?_map, Pattern.find?_seq, Pattern.find?_capture,
    grammar.find?_dottedPattern nonempty, grammar.find?_dottedPattern nonempty]
  congr 2
  funext rest
  rw [Pattern.find?_literal, ← closing?_eq]
  cases closes : closing? rest with
  | none => rfl
  | some after =>
    have length := Text.length_of_stripPrefix? (closing?_eq rest ▸ closes)
    simp [Reading.andThen, length, Nat.add_comm]

/-- What stands without braces is captured. -/
theorem find?_captured_named (nonempty : grammar.space ≠ []) (s : List Char) :
    (Pattern.capture .named grammar.namedPattern).find? some s =
      (grammar.unbraced? s).map fun rest => ⟨[(.named, s.take (s.length - rest.length))], rest⟩ := by
  -- What is captured is told by what is left.
  rw [unbraced?_eq_find? nonempty, ← Pattern.find?_map, Pattern.find?_capture, grammar.find?_namedPattern nonempty,
    grammar.find?_namedPattern nonempty]
  rfl

/-- The preferred reading of what a delimiter introduces. -/
theorem first?_introducedPattern (nonempty : grammar.space ≠ []) (s : List Char) :
    grammar.introducedPattern.first? s =
      ((Text.stripPrefix? grammar.placeholder s).map fun rest =>
          Reading.mk [(.escaped, s.take (s.length - rest.length))] rest).or
        (((Text.stripPrefix? ['\x7b'] s).bind fun inside =>
            (dotted? grammar.space (withCall closing?) inside).map fun rest =>
              Reading.mk [(.braced, inside.take (inside.length - (rest.length + 1)))] rest).or
          (((grammar.unbraced? s).map fun rest => Reading.mk [(.named, s.take (s.length - rest.length))] rest).or
            (some (Reading.mk [(.invalid, [])] s)))) := by
  rw [← Pattern.find?_some, introducedPattern, Pattern.find?_prefer, Pattern.find?_prefer, Pattern.find?_prefer,
    find?_captured_named nonempty, Pattern.find?_seq, Pattern.find?_literal]
  -- The four ways are tried one after the other; the first is the escape.
  congr 1
  · rw [Pattern.find?_capture, Pattern.find?_literal]
    cases Text.stripPrefix? grammar.placeholder s <;> rfl
  · simp only [Reading.mk_nil_andThen, find?_captured_braced nonempty]
    simp [Pattern.find?_capture]

/-- Behind a delimiter that no other one follows: a placeholder in braces, or one without, or nothing. -/
theorem introduced_of_single {position : Nat} (single : Text.stripPrefix? grammar.placeholder s = none) :
    grammar.introduced position s =
      match (Text.stripPrefix? ['\x7b'] s).bind grammar.bracedLength? with
      | some n => (grammar.placeholderOf (grammar.placeholder ++ s.take (n + 1)) ((s.take n).drop 1) true, n + 1)
      | none =>
        match grammar.unbracedLength? s with
        | some n => (grammar.placeholderOf (grammar.placeholder ++ s.take n) (s.take n) false, n)
        | none => (.invalid grammar.placeholder position, 0) := by
  -- Without a second delimiter there is no escape; a brace decides between the other ways.
  cases s with
  | nil => cases bare : grammar.unbracedLength? [] <;> simp [introduced, single, Text.stripPrefix?, bare]
  | cons c rest =>
    by_cases brace : c = '\x7b'
    · subst brace
      cases inside : grammar.bracedLength? rest <;> cases bare : grammar.unbracedLength? ('\x7b' :: rest) <;>
        simp [introduced, single, Text.stripPrefix?, inside, bare]
    · cases bare : grammar.unbracedLength? (c :: rest) <;>
        simp [introduced, single, Text.stripPrefix?, bare, brace, Ne.symm brace]

/-- Behind a delimiter that no other one follows, a body that is read between braces makes a placeholder. -/
theorem introduced_of_braced {position : Nat} {body : List Char}
    (single : Text.stripPrefix? grammar.placeholder ('\x7b' :: (body ++ '\x7d' :: rest)) = none)
    (found : dotted? grammar.space (withCall closing?) (body ++ '\x7d' :: rest) = some rest) :
    grammar.introduced position ('\x7b' :: (body ++ '\x7d' :: rest)) =
      (grammar.placeholderOf (grammar.placeholder ++ '\x7b' :: (body ++ ['\x7d'])) body true, body.length + 2) := by
  have length : grammar.bracedLength? (body ++ '\x7d' :: rest) = some (body.length + 1) := by
    rw [bracedLength?, found, Option.map_some]
    simp only [List.length_append, List.length_cons, Option.some.injEq]
    omega
  -- The closing brace belongs to what is covered, but not to the body.
  have covered : (body ++ '\x7d' :: rest).take (body.length + 1) = body ++ ['\x7d'] := by
    rw [List.take_length_add_append]
    rfl
  rw [introduced_of_single single]
  simp [Text.stripPrefix?, length, covered]

/-- Behind a delimiter that no other one follows, and no braces, what is read makes a placeholder. -/
theorem introduced_of_unbraced {position : Nat} {body : List Char}
    (single : Text.stripPrefix? grammar.placeholder (body ++ rest) = none)
    (noBraces : (Text.stripPrefix? ['\x7b'] (body ++ rest)).bind (dotted? grammar.space (withCall closing?)) = none)
    (found : grammar.unbraced? (body ++ rest) = some rest) :
    grammar.introduced position (body ++ rest) =
      (grammar.placeholderOf (grammar.placeholder ++ body) body false, body.length) := by
  -- Between braces nothing can be read, whatever its length would be.
  have noLength : (Text.stripPrefix? ['\x7b'] (body ++ rest)).bind grammar.bracedLength? = none := by
    simpa only [Option.bind_eq_none_iff, bracedLength?, Option.map_eq_none_iff] using noBraces
  rw [introduced_of_single single, noLength]
  simp [unbracedLength?, found]

/-- Behind a delimiter that neither another one nor anything that can be read follows, nothing is introduced. -/
theorem introduced_of_none {position : Nat} (single : Text.stripPrefix? grammar.placeholder s = none)
    (noBraces : (Text.stripPrefix? ['\x7b'] s).bind (dotted? grammar.space (withCall closing?)) = none)
    (noName : grammar.unbraced? s = none) :
    grammar.introduced position s = (.invalid grammar.placeholder position, 0) := by
  -- Between braces nothing can be read, whatever its length would be.
  have noLength : (Text.stripPrefix? ['\x7b'] s).bind grammar.bracedLength? = none := by
    simpa only [Option.bind_eq_none_iff, bracedLength?, Option.map_eq_none_iff] using noBraces
  rw [introduced_of_single single, noLength]
  simp [unbracedLength?, noName]

/-- What a delimiter introduces is the token of the preferred reading behind it. -/
theorem introduced_eq_tokenOf (nonempty : grammar.space ≠ []) (position : Nat) (s : List Char) :
    ∃ one read, grammar.introducedPattern.first? s = some one ∧ s = read ++ one.rest ∧
      grammar.introduced position s = (grammar.tokenOf one (grammar.placeholder ++ read) position, read.length) := by
  rw [first?_introducedPattern nonempty]
  cases single : Text.stripPrefix? grammar.placeholder s with
  | some rest =>
    obtain rfl := Text.stripPrefix?_eq_some_iff.1 single
    refine ⟨_, grammar.placeholder, rfl, rfl, ?_⟩
    simp only [introduced, single]
    rfl
  | none =>
    cases braced : (Text.stripPrefix? ['\x7b'] s).bind (dotted? grammar.space (withCall closing?)) with
    | some rest =>
      -- A body between braces, which the pattern reads.
      obtain ⟨inside, opens, found⟩ := Option.bind_eq_some_iff.1 braced
      obtain rfl := Text.stripPrefix?_eq_some_iff.1 opens
      obtain ⟨body, rfl, _⟩ := matches_of_braced nonempty found
      refine ⟨⟨[(.braced, body)], rest⟩, '\x7b' :: (body ++ ['\x7d']), ?_, by simp, ?_⟩
      · simp [Text.stripPrefix?, found]
      · refine (introduced_of_braced single found).trans ?_
        simp [tokenOf, Reading.captured?]
    | none =>
      have noReading : ((Text.stripPrefix? ['\x7b'] s).bind fun inside =>
          (dotted? grammar.space (withCall closing?) inside).map fun rest =>
            Reading.mk [(.braced, inside.take (inside.length - (rest.length + 1)))] rest) = none := by
        simpa only [Option.bind_eq_none_iff, Option.map_eq_none_iff] using braced
      rw [noReading, Option.map_none, Option.none_or, Option.none_or]
      cases named : grammar.unbraced? s with
      | some rest =>
        -- A body of one of the patterns without braces.
        obtain ⟨body, rfl, _⟩ := matches_of_unbraced nonempty named
        refine ⟨⟨[(.named, body)], rest⟩, body, by simp, rfl, ?_⟩
        rw [introduced_of_unbraced single braced named]
        simp [tokenOf, Reading.captured?]
      | none =>
        refine ⟨⟨[(.invalid, [])], s⟩, [], by simp, rfl, ?_⟩
        rw [introduced_of_none single braced named]
        simp [tokenOf, Reading.captured?]

/-- The pattern of tokens is found at the first delimiter, and read there as what it introduces. -/
theorem search?_tokenPattern (nonempty : grammar.space ≠ []) (delimiter : grammar.placeholder ≠ []) (s : List Char) :
    grammar.tokenPattern.search? s = (Text.breakOn? grammar.placeholder s).bind fun (before, after) =>
      (grammar.introducedPattern.first? after).map fun one => (before, one) := by
  have here (s : List Char) : grammar.tokenPattern.first? s =
      (Text.stripPrefix? grammar.placeholder s).bind grammar.introducedPattern.first? := by
    rw [← Pattern.find?_some, tokenPattern, Pattern.find?_seq, Pattern.find?_literal]
    simp only [Reading.mk_nil_andThen, Pattern.find?_some]
  induction s with
  | nil =>
    rw [Pattern.search?, here]
    cases found : grammar.placeholder with
    | nil => exact absurd found delimiter
    | cons d more => rfl
  | cons c rest ih =>
    rw [Pattern.search?, here, Text.breakOn?]
    cases found : Text.stripPrefix? grammar.placeholder (c :: rest) with
    | none =>
      simp only [Option.bind_none, ih]
      cases Text.breakOn? grammar.placeholder rest with
      | none => rfl
      | some around => simp [Function.comp_def]
    | some after =>
      -- The delimiter alone can be read in any case.
      obtain ⟨one, _, first, _⟩ := introduced_eq_tokenOf nonempty 0 after
      simp [first]

/-- The tokens behind any number of bytes are those that the scan finds. -/
theorem tokensFrom_eq_scanFrom (nonempty : grammar.space ≠ []) (delimiter : grammar.placeholder ≠ [])
    (position : Nat) (s : List Char) :
    grammar.tokensFrom delimiter position s = grammar.scanFrom position s := by
  -- Behind every token the text is shorter.
  induction length : s.length using Nat.strongRecOn generalizing s position with
  | ind size ih =>
    rw [tokensFrom, scanFrom, search?_tokenPattern nonempty delimiter]
    split
    · next cut => simp [cut]
    · next before after cut =>
      obtain ⟨one, read, first, rfl, introduced⟩ :=
        introduced_eq_tokenOf nonempty (position + byteLength before) after
      obtain rfl := Text.eq_of_breakOn? cut
      have positive := List.length_pos_iff.2 delimiter
      have source := introduced_source grammar (position + byteLength before) (read ++ one.rest)
      rw [introduced, List.take_left] at source
      have raw : ((before ++ grammar.placeholder ++ (read ++ one.rest)).drop before.length).take
          ((before ++ grammar.placeholder ++ (read ++ one.rest)).length - before.length - one.rest.length) =
            grammar.placeholder ++ read := by
        have length : (before ++ grammar.placeholder ++ (read ++ one.rest)).length - before.length - one.rest.length =
            (grammar.placeholder ++ read).length := by simp only [List.length_append]; omega
        rw [length, List.append_assoc, List.drop_left, ← List.append_assoc grammar.placeholder, List.take_left]
      have shorter : one.rest.length < (before ++ grammar.placeholder ++ (read ++ one.rest)).length := by
        simp only [List.length_append]
        omega
      simp only [cut, Option.bind_some, first, Option.map_some, introduced, raw, source, dif_pos shorter,
        List.drop_left]
      rw [ih _ (length ▸ shorter) _ _ rfl]

/-- The tokens of a template are those that the scan for their pattern finds. -/
theorem tokenize_eq_scan (usable : grammar.Usable) (template : List Char) :
    grammar.tokenize template = grammar.scan template := by
  rw [tokenize, dif_pos usable.placeholder_ne_nil, scan,
    tokensFrom_eq_scanFrom usable.space_ne_nil usable.placeholder_ne_nil]

end Tokens

end Phrasebook.Grammar
