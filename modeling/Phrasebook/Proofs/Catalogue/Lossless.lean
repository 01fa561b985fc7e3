import Phrasebook.Proofs.Catalogue.Escaping

/-! Cutting a template into tokens loses nothing: the tokens cover it without gaps, each of them is made of the
delimiter and of what it says, and no delimiter is left in the text between them. So a template without references is
expanded to itself. -/

namespace Phrasebook

namespace Pattern

variable {x : Char} {first second inner : Pattern}

/-- Every text that a pattern stands for has a last character, which is not the given one. -/
def EndsOther (x : Char) (pattern : Pattern) : Prop :=
  ∀ s, pattern.Matches s → ∃ front c, s = front ++ [c] ∧ c ≠ x

/-- A character of a class is not one that the class refuses. -/
theorem endsOther_char {accepts : Char → Bool} (refused : accepts x = false) : (char accepts).EndsOther x := by
  -- The one character that is read is accepted, so that it is not the refused one.
  rintro s (_ | ⟨accepted⟩)
  refine ⟨[], _, rfl, ?_⟩
  rintro rfl
  simp [refused] at accepted

/-- What stands in front of a text does not change its end. -/
theorem EndsOther.behind (ends : second.EndsOther x) : (seq first second).EndsOther x := by
  -- The end of the whole text is that of what matches the second pattern.
  rintro s (_ | _ | ⟨_, back⟩)
  obtain ⟨front, c, rfl, other⟩ := ends _ back
  exact ⟨_ ++ front, c, (List.append_assoc ..).symm, other⟩

/-- What follows a text may be missing if it does not have the character. -/
theorem EndsOther.followed (ends : first.EndsOther x) (avoids : second.Avoids x) :
    (seq first second).EndsOther x := by
  -- What follows is missing, or its own last character ends the whole.
  rintro s (_ | _ | @⟨_, _, a, b, front, back⟩)
  rcases List.eq_nil_or_concat b with rfl | ⟨init, c, rfl⟩
  · simpa using ends a front
  · refine ⟨a ++ init, c, by simp, ?_⟩
    rintro rfl
    exact not_mem_of_matches back avoids (by simp)

/-- What follows a text may be repeated if each repetition ends with another character. -/
theorem EndsOther.repeated (ends : first.EndsOther x) (others : inner.EndsOther x) :
    (seq first (many inner)).EndsOther x := by
  -- The last of the repetitions decides, or the text itself if there is none.
  have many {pattern : Pattern} {s : List Char} (fits : pattern.Matches s) (same : pattern = many inner) :
      s = [] ∨ ∃ front c, s = front ++ [c] ∧ c ≠ x := by
    induction fits with
    | done => exact .inl rfl
    | @more _ a b front _ _ ih =>
      cases same
      rcases ih rfl with rfl | ⟨init, c, rfl, other⟩
      · simpa using .inr (others a front)
      · exact .inr ⟨a ++ init, c, (List.append_assoc ..).symm, other⟩
    | _ => cases same
  rintro s (_ | _ | @⟨_, _, a, b, front, back⟩)
  rcases many back rfl with rfl | ⟨init, c, rfl, other⟩
  · simpa using ends a front
  · exact ⟨a ++ init, c, (List.append_assoc ..).symm, other⟩

/-- Either of two patterns ends as both do. -/
theorem EndsOther.either (ends : first.EndsOther x) (others : second.EndsOther x) :
    (prefer first second).EndsOther x := by
  -- One of the two matches the whole text.
  rintro s (_ | _ | _ | fits | fits)
  · exact ends s fits
  · exact others s fits

end Pattern

namespace Grammar

variable {grammar : Grammar} {position : Nat} {covered rest : List Char} {token : Token} {tokens : List Token}

/-- A body without braces does not end with a closing brace. -/
theorem namedPattern_endsOther (grammar : Grammar) : grammar.namedPattern.EndsOther '\x7d' := by
  -- It ends with a character of a word, or with a call, which holds no brace at all.
  have letter : wordChar.EndsOther '\x7d' := Pattern.endsOther_char (by decide +kernel)
  have word : word.EndsOther '\x7d' := letter.repeated letter
  have name : grammar.namePattern.EndsOther '\x7d' := word.repeated word.behind
  exact name.behind.behind.either (word.followed optional_callPattern_avoids)

/-- The bytes of a text are those that it takes in UTF-8. -/
theorem byteLength_eq (s : List Char) : byteLength s = (String.ofList s).utf8ByteSize := by
  -- Both count character by character.
  induction s with
  | nil => rfl
  | cons c rest ih =>
    rw [byteLength, ih, ← List.singleton_append, String.ofList_append, String.utf8ByteSize_append]
    simp

/-- What a token behind a number of bytes is made of. Text is there, holds no delimiter and ends where another token
starts. A placeholder is the delimiter and its body, in braces exactly if it says so. A delimiter that introduces
nothing names the bytes before it. -/
def Exact (grammar : Grammar) (position : Nat) (after : List Token) : Token → Prop
  | .text source => source ≠ [] ∧ ¬ grammar.placeholder <:+: source ∧ ∀ other rest, after ≠ .text other :: rest
  | .escaped raw => raw = grammar.placeholder ++ grammar.placeholder
  | .placeholder found =>
    found.raw = grammar.placeholder ++
      (if found.braced then '\x7b' :: (found.body ++ ['\x7d']) else found.body) ∧
    (found.braced = true ↔ ∃ inside, found.raw = grammar.placeholder ++ '\x7b' :: (inside ++ ['\x7d']))
  | .invalid raw named => raw = grammar.placeholder ∧ named = position

/-- Tokens that are exact one behind the other. -/
def Chained (grammar : Grammar) : Nat → List Token → Prop
  | _, [] => True
  | position, token :: rest =>
    grammar.Exact position rest token ∧ Chained grammar (position + byteLength token.source) rest

/-- In a chain every token is exact behind the bytes of those before it. -/
theorem Chained.exact {before after : List Token}
    (chained : grammar.Chained position (before ++ token :: after)) :
    grammar.Exact (position + byteLength (before.flatMap Token.source)) after token := by
  -- Each token before it moves the position by its own bytes.
  induction before generalizing position with
  | nil => exact chained.1
  | cons first rest ih =>
    rw [List.flatMap_cons, byteLength_append, ← Nat.add_assoc]
    exact ih chained.2

/-- A text without the delimiter may stand in front of a chain that does not start with text. -/
theorem Chained.textToken {s : List Char} (chained : grammar.Chained (position + byteLength s) tokens)
    (absent : ¬ grammar.placeholder <:+: s) (different : ∀ other rest, tokens ≠ .text other :: rest) :
    grammar.Chained position (Grammar.textToken s ++ tokens) := by
  cases s with
  | nil =>
    -- An empty text makes no token.
    exact chained
  | cons c rest => exact ⟨⟨List.cons_ne_nil c rest, absent, different⟩, chained⟩

/-- What a delimiter introduces is exact: no text, and the delimiter with what it covers. -/
theorem Introduces.exact (introduces : grammar.Introduces position covered rest token) (after : List Token) :
    grammar.Exact position after token ∧ token.source = grammar.placeholder ++ covered ∧
      ∀ other, token ≠ .text other := by
  -- One case for each way to be introduced; only a body without braces has something to show.
  cases introduces with
  | escaped => exact ⟨rfl, rfl, nofun⟩
  | invalid => exact ⟨⟨rfl, rfl⟩, (List.append_nil _).symm, nofun⟩
  | braced => exact ⟨⟨rfl, fun _ => ⟨_, rfl⟩, fun _ => rfl⟩, rfl, nofun⟩
  | unbraced single noBraces fits =>
    -- A body in braces would end with one.
    refine ⟨⟨rfl, nofun, ?_⟩, rfl, nofun⟩
    rintro ⟨inside, whole⟩
    obtain ⟨front, c, rfl, other⟩ := grammar.namedPattern_endsOther _ fits
    have ends := congrArg List.getLast? (List.append_cancel_left whole)
    rw [← List.cons_append, List.getLast?_concat, List.getLast?_concat] at ends
    exact absurd (Option.some.inj ends) other

/-- The tokens of a text that a number of bytes precedes are chained. -/
theorem Scanned.chained (nonempty : grammar.placeholder ≠ []) {s : List Char}
    (scanned : grammar.Scanned position s tokens) : grammar.Chained position tokens := by
  -- Before each token stands text up to the first delimiter, and behind the last one text without any.
  induction scanned with
  | @text position s absent =>
    have behind : grammar.Chained (position + byteLength s) [] := trivial
    simpa using behind.textToken absent nofun
  | @token position before covered rest token others first introduces later ih =>
    obtain ⟨introduced, source, noText⟩ := introduces.exact others
    refine Chained.textToken ⟨introduced, ?_⟩ (first.absent nonempty) fun other rest same =>
      noText other (List.cons.inj same).1
    rwa [Nat.add_assoc, source, ← byteLength_append]

/-- For delimiters that pass the check of settings, the tokens of a template are put together to the template, and each
of them is exact. So a template without references, whether or not it passes the check, is expanded to itself, and
messages made of such templates are left alone. -/
theorem tokenize_lossless (settings : Settings) (valid : settings.validate = .ok ()) (template : String) :
    let grammar := ofSettings settings
    String.ofList ((grammar.tokenize template.toList).flatMap Token.source) = template ∧
    (∀ before token after, grammar.tokenize template.toList = before ++ token :: after →
      grammar.Exact (String.ofList (before.flatMap Token.source)).utf8ByteSize after token) ∧
    (∀ (σ : Type) (expansion : Expansion σ) (library : Library σ), expansion.grammar = grammar →
      (grammar.hasReference template = false → ∀ follow,
        (expansion.expandTemplate follow template).outcome library = (.ok template, library)) ∧
      ∀ keys : List String, (∀ key ∈ keys, ∀ value, library.store.get? key expansion.locale = some value →
          value.templates.any grammar.hasReference = false) →
        (expansion.expandKeys keys).outcome library = (.ok (), library)) := by
  have usable := Settings.usable_of_validate valid
  intro grammar
  refine ⟨?_, ?_, ?_⟩
  · rw [tokenize_sources, String.ofList_toList]
  · -- The chain starts at the first byte of the template.
    intro before token after whole
    have chained : grammar.Chained 0 (grammar.tokenize template.toList) :=
      ((scanned_iff usable _ _).2 rfl).chained usable.placeholder_ne_nil
    rw [whole] at chained
    rw [← byteLength_eq, ← Nat.zero_add (byteLength _)]
    exact chained.exact
  · -- Without a reference there is nothing to follow, so neither the store nor the searcher is asked.
    intro σ expansion library same
    rw [← same]
    refine ⟨fun plain follow => ?_, fun keys plain => ?_⟩
    · have none : expansion.grammar.references template = [] := by simpa [hasReference_eq] using plain
      exact expansion.expandTemplate_of_plain follow none library
    · refine Expansion.expandKeys_of_clean fun key listed value stored => ?_
      simpa [Value.any_hasReference] using plain key listed value stored

/-- A delimiter of two bytes, a letter of two bytes before it and a call that is not closed: the last delimiter
introduces nothing behind fifteen bytes. -/
theorem tokenize_lossless_paragraph :
    let settings : Settings := { placeholderDelimiter := "§" }
    let before : List Token := [.text "né".toList,
      .placeholder ⟨"§name".toList, "name".toList, false, .named "name".toList⟩, .text "(x".toList,
      .escaped "§§".toList]
    settings.validate = .ok () ∧
    (ofSettings settings).tokenize "né§name(x§§§".toList = before ++ [.invalid "§".toList 15] ∧
    15 = (String.ofList (before.flatMap Token.source)).utf8ByteSize ∧
    (ofSettings settings).hasReference "né§name(x§§§" = false ∧
    ∀ (σ : Type) (expansion : Expansion σ) (library : Library σ) (follow : Reference → Lookup σ String),
      expansion.grammar = ofSettings settings →
      (expansion.expandTemplate follow "né§name(x§§§").outcome library = (.ok "né§name(x§§§", library) := by
  intro settings before
  have valid : settings.validate = .ok () := by decide +kernel
  have tokens : (ofSettings settings).tokenize "né§name(x§§§".toList = before ++ [.invalid "§".toList 15] := by
    decide +kernel
  have plain : (ofSettings settings).hasReference "né§name(x§§§" = false := by decide +kernel
  -- The tokens and the absence of references are computed; where the last one stands and what an expansion gives
  -- follow.
  obtain ⟨-, exactly, expands⟩ := tokenize_lossless settings valid "né§name(x§§§"
  exact ⟨valid, tokens, (exactly before _ [] tokens).2, plain,
    fun σ expansion library follow same => (expands σ expansion library same).1 plain follow⟩

end Grammar

end Phrasebook
