import Phrasebook.Proofs.Template.Matching
import Phrasebook.Proofs.Text.Split

/-! What the tokens of a template are, told token by token, and that tokenizing finds them. -/

namespace Phrasebook.Grammar

open Pattern (literal)

variable {grammar : Grammar} {s rest : List Char}

section Description

/-- A text in braces that may be the body of a placeholder stands at the front. -/
def Braces (grammar : Grammar) (s : List Char) : Prop :=
  ∃ body rest, s = '\x7b' :: (body ++ '\x7d' :: rest) ∧ grammar.dottedPattern.Matches body

/-- What stands between braces, up to the closing one. -/
def bracedPattern (grammar : Grammar) : Pattern :=
  .seq grammar.dottedPattern (literal ['\x7d'])

/-- A delimiter behind a number of bytes introduces a token, which covers some of the characters behind the
delimiter and leaves the rest. -/
inductive Introduces (grammar : Grammar) (position : Nat) : List Char → List Char → Token → Prop where
  | escaped {rest : List Char} :
    Introduces grammar position grammar.placeholder rest (.escaped (grammar.placeholder ++ grammar.placeholder))
  | braced {body rest : List Char} (single : ¬ grammar.placeholder <+: '\x7b' :: (body ++ '\x7d' :: rest))
    (fits : grammar.dottedPattern.Matches body)
    (preferred : grammar.bracedPattern.first? (body ++ '\x7d' :: rest) = some ⟨[], rest⟩) :
    Introduces grammar position ('\x7b' :: (body ++ ['\x7d'])) rest
      (grammar.placeholderOf (grammar.placeholder ++ '\x7b' :: (body ++ ['\x7d'])) body true)
  | unbraced {body rest : List Char} (single : ¬ grammar.placeholder <+: body ++ rest)
    (noBraces : ¬ grammar.Braces (body ++ rest)) (fits : grammar.namedPattern.Matches body)
    (preferred : grammar.namedPattern.first? (body ++ rest) = some ⟨[], rest⟩) :
    Introduces grammar position body rest (grammar.placeholderOf (grammar.placeholder ++ body) body false)
  | invalid {rest : List Char} (single : ¬ grammar.placeholder <+: rest) (noBraces : ¬ grammar.Braces rest)
    (noName : ∀ body after, rest = body ++ after → ¬ grammar.namedPattern.Matches body) :
    Introduces grammar position [] rest (.invalid grammar.placeholder position)

/-- The tokens of a text that a number of bytes precedes: what the first delimiter introduces, with the text
before it, and then the tokens of what is left. -/
inductive Scanned (grammar : Grammar) : Nat → List Char → List Token → Prop where
  | text {position : Nat} {s : List Char} (absent : ¬ grammar.placeholder <:+: s) :
    Scanned grammar position s (textToken s)
  | token {position : Nat} {before covered rest : List Char} {token : Token} {others : List Token}
    (first : Text.EndsFirst grammar.placeholder before)
    (introduces : Introduces grammar (position + byteLength before) covered rest token)
    (later : Scanned grammar (position + byteLength (before ++ (grammar.placeholder ++ covered))) rest others) :
    Scanned grammar position (before ++ (grammar.placeholder ++ (covered ++ rest)))
      (textToken before ++ token :: others)

end Description

section Introduced

/-- The preferred reading between braces. -/
theorem first?_bracedPattern (nonempty : grammar.space ≠ []) (s : List Char) :
    grammar.bracedPattern.first? s = (dotted? grammar.space (withCall closing?) s).map (Reading.mk []) := by
  -- What is behind the body has to be a closing brace, in the pattern as in the reader.
  rw [← Pattern.find?_some, bracedPattern, Pattern.find?_seq, grammar.find?_dottedPattern nonempty,
    braced_eq_find? nonempty, ← Pattern.find?_map, grammar.find?_dottedPattern nonempty]
  congr 2
  funext rest
  rw [Pattern.find?_literal, ← closing?_eq]
  cases closing? rest <;> rfl

/-- The preferred reading without braces. -/
theorem first?_namedPattern (nonempty : grammar.space ≠ []) (s : List Char) :
    grammar.namedPattern.first? s = (grammar.unbraced? s).map (Reading.mk []) := by
  -- Nothing is captured within, so that the reading is told by what is left.
  rw [← Pattern.find?_some, unbraced?_eq_find? nonempty, ← Pattern.find?_map,
    grammar.find?_namedPattern nonempty, grammar.find?_namedPattern nonempty]
  rfl

/-- Braces stand at the front where a body between them can be read. -/
theorem braces_iff (nonempty : grammar.space ≠ []) :
    grammar.Braces s ↔ ((Text.stripPrefix? ['\x7b'] s).bind (dotted? grammar.space (withCall closing?))).isSome := by
  -- A body that fits is read, and what is read is a body that fits.
  constructor
  · rintro ⟨body, rest, rfl, fits⟩
    simpa [Text.stripPrefix?] using isSome_of_matches nonempty fits rest
  · intro some
    obtain ⟨rest, read⟩ := Option.isSome_iff_exists.1 some
    obtain ⟨inside, opens, found⟩ := Option.bind_eq_some_iff.1 read
    obtain rfl := Text.stripPrefix?_eq_some_iff.1 opens
    obtain ⟨body, rfl, fits⟩ := matches_of_braced nonempty found
    exact ⟨body, rest, rfl, fits⟩

/-- Some name stands at the front where one can be read. -/
theorem unbraced?_eq_none_iff (nonempty : grammar.space ≠ []) :
    grammar.unbraced? s = none ↔ ∀ body rest, s = body ++ rest → ¬ grammar.namedPattern.Matches body := by
  constructor
  · -- A body of the pattern has a reading, and so something is found, if not that body.
    rintro absent body rest rfl fits
    obtain ⟨one, member, _⟩ := Pattern.exists_reading fits rest
    have found : (grammar.namedPattern.find? (fun one => some one.rest) (body ++ rest)).isSome :=
      Pattern.find?_isSome member rfl
    rw [← unbraced?_eq_find? nonempty, absent] at found
    exact absurd found nofun
  · intro absent
    cases found : grammar.unbraced? s with
    | none => rfl
    | some rest =>
      obtain ⟨body, whole, fits⟩ := matches_of_unbraced nonempty found
      exact absurd fits (absent body rest whole)

/-- A delimiter introduces what its description says. -/
theorem Introduces.introduced_eq (nonempty : grammar.space ≠ []) {position : Nat} {covered : List Char} {token : Token}
    (introduces : grammar.Introduces position covered rest token) :
    grammar.introduced position (covered ++ rest) = (token, covered.length) := by
  -- One case for each kind of token, with the equation for it.
  cases introduces with
  | escaped => simp [introduced, Text.stripPrefix?_eq_some_iff.2 rfl]
  | @braced body _ single fits preferred =>
    rw [first?_bracedPattern nonempty] at preferred
    obtain ⟨left, found, same⟩ := Option.map_eq_some_iff.1 preferred
    obtain rfl : left = rest := congrArg Reading.rest same
    have introduced : grammar.introduced position ('\x7b' :: (body ++ '\x7d' :: left)) = _ :=
      introduced_of_braced (Text.stripPrefix?_eq_none_iff.2 single) found
    simpa using introduced
  | unbraced single noBraces fits preferred =>
    rw [first?_namedPattern nonempty] at preferred
    obtain ⟨left, found, same⟩ := Option.map_eq_some_iff.1 preferred
    obtain rfl : left = rest := congrArg Reading.rest same
    rw [braces_iff nonempty, Option.not_isSome_iff_eq_none] at noBraces
    exact introduced_of_unbraced (Text.stripPrefix?_eq_none_iff.2 single) noBraces found
  | invalid single noBraces noName =>
    rw [braces_iff nonempty, Option.not_isSome_iff_eq_none] at noBraces
    exact introduced_of_none (Text.stripPrefix?_eq_none_iff.2 single) noBraces
      ((unbraced?_eq_none_iff nonempty).2 noName)

/-- Whatever stands behind a delimiter, some token is introduced. -/
theorem exists_introduces (nonempty : grammar.space ≠ []) (position : Nat) (s : List Char) :
    ∃ covered rest token, s = covered ++ rest ∧ grammar.Introduces position covered rest token := by
  -- The kinds are tried in the order of the pattern: another delimiter, braces, a name, nothing.
  by_cases single : grammar.placeholder <+: s
  · obtain ⟨rest, rfl⟩ := single
    exact ⟨_, rest, _, rfl, .escaped⟩
  by_cases braces : grammar.Braces s
  · -- The body that is read may be shorter than the one there is.
    obtain ⟨rest, read⟩ := Option.isSome_iff_exists.1 ((braces_iff nonempty).1 braces)
    obtain ⟨inside, opens, found⟩ := Option.bind_eq_some_iff.1 read
    obtain rfl := Text.stripPrefix?_eq_some_iff.1 opens
    obtain ⟨body, rfl, fits⟩ := matches_of_braced nonempty found
    refine ⟨_, rest, _, ?_, .braced single fits ?_⟩
    · simp
    · rw [first?_bracedPattern nonempty, found, Option.map_some]
  cases found : grammar.unbraced? s with
  | some rest =>
    obtain ⟨body, rfl, fits⟩ := matches_of_unbraced nonempty found
    refine ⟨body, rest, _, rfl, .unbraced single braces fits ?_⟩
    rw [first?_namedPattern nonempty, found, Option.map_some]
  | none => exact ⟨[], s, _, rfl, .invalid single braces ((unbraced?_eq_none_iff nonempty).1 found)⟩

end Introduced

section Tokens

/-- The bytes of two texts are counted one after the other. -/
theorem byteLength_append (a b : List Char) : byteLength (a ++ b) = byteLength a + byteLength b := by
  -- Character by character.
  induction a with
  | nil => simp [byteLength]
  | cons c rest ih => simp [byteLength, ih, Nat.add_assoc]

/-- Tokenizing finds the tokens that the description asks for. -/
theorem Scanned.tokensFrom_eq (usable : grammar.Usable) {position : Nat} {tokens : List Token}
    (scanned : grammar.Scanned position s tokens) :
    grammar.tokensFrom usable.placeholder_ne_nil position s = tokens := by
  -- The scan cuts at the first delimiter, as the description does.
  induction scanned with
  | text absent =>
    rw [tokensFrom]
    split
    · rfl
    · next cut => rw [Text.breakOn?_eq_none_iff.2 absent] at cut; simp at cut
  | @token position before covered rest token others first introduces later ih =>
    have cut := Text.breakOn?_append first (covered ++ rest)
    have introduced := introduces.introduced_eq usable.space_ne_nil
    -- The source of the token is the delimiter with what it covers.
    have source := introduced_source grammar (position + byteLength before) (covered ++ rest)
    rw [introduced, List.take_left] at source
    rw [tokensFrom]
    split
    · next absent => rw [cut] at absent; simp at absent
    · next front back same =>
      rw [cut] at same
      obtain ⟨rfl, rfl⟩ := Prod.mk.inj (Option.some.inj same)
      simp only [introduced, source, List.drop_left]
      rw [Nat.add_assoc, ← byteLength_append, ih]

/-- Every text has tokens as the description asks for. -/
theorem exists_scanned (usable : grammar.Usable) (position : Nat) (s : List Char) :
    ∃ tokens, grammar.Scanned position s tokens := by
  -- Behind every token the text is shorter.
  induction length : s.length using Nat.strongRecOn generalizing s position with
  | ind size ih =>
    cases cut : Text.breakOn? grammar.placeholder s with
    | none => exact ⟨_, .text (Text.breakOn?_eq_none_iff.1 cut)⟩
    | some around =>
      obtain ⟨before, after⟩ := around
      obtain ⟨covered, rest, token, rfl, introduces⟩ :=
        exists_introduces usable.space_ne_nil (position + byteLength before) after
      obtain rfl := Text.eq_of_breakOn? cut
      have positive := List.length_pos_iff.2 usable.placeholder_ne_nil
      simp only [List.length_append] at length
      obtain ⟨others, later⟩ := ih rest.length (by omega)
        (position + byteLength (before ++ (grammar.placeholder ++ covered))) rest rfl
      refine ⟨textToken before ++ token :: others, ?_⟩
      rw [List.append_assoc]
      exact .token (Text.endsFirst_of_breakOn? cut) introduces later

/-- The tokens of a template are the ones that the description asks for. -/
theorem scanned_iff (usable : grammar.Usable) (template : List Char) (tokens : List Token) :
    grammar.Scanned 0 template tokens ↔ tokens = grammar.tokenize template := by
  rw [tokenize, dif_pos usable.placeholder_ne_nil]
  constructor
  · intro scanned
    exact (scanned.tokensFrom_eq usable).symm
  · -- There are tokens as described, and they are the ones that are found.
    rintro rfl
    obtain ⟨tokens, scanned⟩ := exists_scanned usable 0 template
    rwa [scanned.tokensFrom_eq usable]

/-- For settings that pass the check, the tokens of every template are those that the scan for the pattern of
tokens finds, and they alone are the ones that the description asks for. -/
theorem tokenize_prescribed (settings : Settings) (valid : settings.validate = .ok ()) (template : List Char) :
    (ofSettings settings).tokenize template = (ofSettings settings).scan template ∧
      ∀ tokens, (ofSettings settings).Scanned 0 template tokens ↔
        tokens = (ofSettings settings).tokenize template := by
  have usable := Settings.usable_of_validate valid
  exact ⟨tokenize_eq_scan usable template, scanned_iff usable template⟩

/-- A closing brace that separates segments is part of a name if another one follows. -/
theorem tokenize_prescribed_braces :
    ({ namespaceDelimiter := "\x7d" } : Settings).validate = .ok () ∧
      (ofSettings { namespaceDelimiter := "\x7d" }).tokenize "a%\x7bb\x7dc\x7d%%%d".toList =
        [.text ['a'], .placeholder ⟨"%\x7bb\x7dc\x7d".toList, "b\x7dc".toList, true, .named "b\x7dc".toList⟩,
          .escaped ['%', '%'], .placeholder ⟨"%d".toList, ['d'], false, .named ['d']⟩] := by
  have valid : ({ namespaceDelimiter := "\x7d" } : Settings).validate = .ok () := by decide +kernel
  exact ⟨valid, (tokenize_prescribed _ valid _).1.trans (by decide +kernel)⟩

end Tokens

end Phrasebook.Grammar
