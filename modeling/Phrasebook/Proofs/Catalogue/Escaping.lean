import Phrasebook.Proofs.Catalogue.Settling
import Phrasebook.Proofs.Rendering.Tokens

/-! Any text can be written as a template that says it: every delimiter in the text is written twice. The scan finds
exactly the delimiters that were doubled, also where a delimiter overlaps itself or the text around it. -/

namespace Phrasebook

/-- A token that says its text whatever it is put together with. -/
def Token.Fixed : Token → Prop
  | .text _ => True
  | .escaped _ => True
  | _ => False

namespace Grammar

variable {grammar : Grammar} {pieces : List (List Char)} {position : Nat} {token : Token} {text : String}

/-- The template that says a text: with each occurrence of the delimiter, from the left, written twice. -/
def escape (grammar : Grammar) (text : String) : String :=
  .ofList ((grammar.placeholder ++ grammar.placeholder).intercalate (Text.splitOn grammar.placeholder text.toList))

/-- The tokens of pieces of text with doubled delimiters between them. -/
def literalTokens (grammar : Grammar) : List (List Char) → List Token
  | [] => []
  | [last] => textToken last
  | piece :: next :: more =>
    textToken piece ++ .escaped (grammar.placeholder ++ grammar.placeholder) :: grammar.literalTokens (next :: more)

/-- The text that a token says whatever it is put together with: what is written, or a single delimiter. -/
def said (grammar : Grammar) : Token → List Char
  | .text source => source
  | .escaped _ => grammar.placeholder
  | _ => []

/-- Where the delimiter separates pieces of text, the scan of them with doubled delimiters between them finds these. -/
theorem scanned_literal (separated : Text.Separates grammar.placeholder pieces) (position : Nat) :
    grammar.Scanned position ((grammar.placeholder ++ grammar.placeholder).intercalate pieces)
      (grammar.literalTokens pieces) := by
  -- The first half of a doubled delimiter is the first delimiter behind its piece, and introduces the second half.
  induction pieces generalizing position with
  | nil => exact separated.elim
  | cons piece rest ih =>
    cases rest with
    | nil =>
      rw [List.intercalate_singleton]
      exact .text separated
    | cons next more =>
      rw [List.intercalate_cons_cons, List.append_assoc, List.append_assoc]
      exact .token separated.1 .escaped (ih separated.2 _)

/-- Pieces with doubled delimiters between them say the pieces with single ones. -/
theorem said_literalTokens (some : pieces ≠ []) :
    (grammar.literalTokens pieces).flatMap grammar.said = grammar.placeholder.intercalate pieces := by
  -- A piece says itself, and a doubled delimiter says one.
  have piece (s : List Char) : (textToken s).flatMap grammar.said = s := flatMap_textToken (fun _ => rfl) s
  induction pieces with
  | nil => exact absurd rfl some
  | cons first rest ih =>
    cases rest with
    | nil => rw [literalTokens, piece, List.intercalate_singleton]
    | cons next more =>
      rw [literalTokens, List.flatMap_append, piece, List.flatMap_cons, ih (List.cons_ne_nil next more),
        List.intercalate_cons_cons, said, List.append_assoc]

/-- The tokens of pieces with doubled delimiters between them are fixed. -/
theorem fixed_of_mem (member : token ∈ grammar.literalTokens pieces) : token.Fixed := by
  -- There are no tokens but those for the pieces and the doubled delimiters.
  have piece {s : List Char} (inside : token ∈ textToken s) : token.Fixed := by
    unfold textToken at inside
    split at inside
    · cases inside
    · rw [List.mem_singleton.1 inside]
      trivial
  induction pieces with
  | nil => cases member
  | cons first rest ih =>
    cases rest with
    | nil => exact piece member
    | cons next more =>
      rcases List.mem_append.1 member with front | behind
      · exact piece front
      · rcases List.mem_cons.1 behind with rfl | later
        · trivial
        · exact ih later

variable (usable : grammar.Usable)
include usable

/-- The tokens of an escaped text are its pieces and the doubled delimiters. -/
theorem tokenize_escape (text : String) : grammar.tokenize (grammar.escape text).toList =
    grammar.literalTokens (Text.splitOn grammar.placeholder text.toList) := by
  -- The pieces between the delimiters of the text are separated by the delimiter.
  have separated : Text.Separates grammar.placeholder (Text.splitOn grammar.placeholder text.toList) := by
    rw [Text.splitOn, dif_pos usable.placeholder_ne_nil]
    exact Text.separates_cutAt usable.placeholder_ne_nil text.toList
  rw [escape, String.toList_ofList]
  exact ((scanned_iff usable _ _).1 (scanned_literal separated 0)).symm

/-- The tokens of an escaped text are fixed. -/
theorem fixed_of_mem_escape (member : token ∈ grammar.tokenize (grammar.escape text).toList) : token.Fixed := by
  rw [tokenize_escape usable] at member
  exact fixed_of_mem member

/-- The tokens of an escaped text say the text. -/
theorem said_escape (text : String) :
    (grammar.tokenize (grammar.escape text).toList).flatMap grammar.said = text.toList := by
  rw [tokenize_escape usable, Text.splitOn, dif_pos usable.placeholder_ne_nil,
    said_literalTokens (Text.cutAt_ne_nil usable.placeholder_ne_nil _), Text.intercalate_cutAt]

/-- An escaped text passes the check. -/
theorem check_escape (text : String) : grammar.check (grammar.escape text) = .ok () := by
  -- A token that is fixed stands for something.
  rw [check_eq_ok_iff]
  intro token member
  have fixed := fixed_of_mem_escape usable member
  cases token <;> trivial

/-- An escaped text holds no reference. -/
theorem references_escape (text : String) : grammar.references (grammar.escape text) = [] := by
  -- Only placeholders refer to something.
  refine List.filterMap_eq_nil_iff.2 fun token member => ?_
  have fixed := fixed_of_mem_escape usable member
  cases token with
  | placeholder found => exact fixed.elim
  | _ => rfl

omit usable

/-- A text without the delimiter is its own escape. -/
theorem escape_eq_self (nonempty : grammar.placeholder ≠ []) (absent : ¬ grammar.placeholder <:+: text.toList) :
    grammar.escape text = text := by
  -- There is one piece, and nothing is doubled.
  rw [escape, Text.splitOn, dif_pos nonempty, Text.cutAt]
  split
  · rw [List.intercalate_singleton, String.ofList_toList]
  · next before after cut =>
    rw [Text.breakOn?_eq_none_iff.2 absent] at cut
    cases cut

end Grammar

namespace Formatter

variable {formatter : Formatter}

/-- A fixed token becomes what it says. -/
theorem becomes_said {template : String} {token : Token} (fixed : token.Fixed) :
    formatter.Becomes template token (.ofList (formatter.grammar.said token)) := by
  -- Only texts and escapes are fixed.
  cases token with
  | text source => exact .text
  | escaped raw => exact .escaped
  | placeholder found => exact fixed.elim
  | invalid raw position => exact fixed.elim

/-- An escaped text says the text. -/
theorem substitute_escape (usable : formatter.grammar.Usable) (text : String) :
    formatter.substitute (formatter.grammar.escape text) = .ok text := by
  -- Every token becomes what it says, and together they say the text.
  rw [substitute_eq_ok_iff]
  refine ⟨_, List.forall₂_map_right_iff.2 (List.forall₂_same.2 fun token member =>
    becomes_said (Grammar.fixed_of_mem_escape usable member)), ?_⟩
  rw [← String.toList_inj, String.toList_join, List.flatMap_map]
  simpa using (Grammar.said_escape usable text).symm

end Formatter

namespace Expansion

variable {σ : Type} {expansion : Expansion σ}

/-- A template without references is expanded to itself, and nothing is looked for. -/
theorem expandTemplate_of_plain (follow : Reference → Lookup σ String) {template : String}
    (plain : expansion.grammar.references template = []) (library : Library σ) :
    (expansion.expandTemplate follow template).outcome library = (.ok template, library) := by
  -- The references that are left are none, and so the library is the one at the start.
  have meets : (expansion.expandTemplate follow template).Meets library
      (fun result left => result = template ∧ left = library) fun _ _ => False := by
    refine (Lookup.Meets.expandTemplate (fun _ _ => False) (fun rest left => rest = [] ∧ left = library) ?_
      ⟨by rw [plain, List.append_nil], rfl⟩).mono (fun result left ends => ?_) fun _ _ => id
    · rintro reference rest left ⟨referring, -⟩
      cases referring
    · exact ⟨ends.1.eq_self plain, ends.2.2⟩
  generalize ends : (expansion.expandTemplate follow template).outcome library = outcome at meets
  obtain ⟨_ | _, left⟩ := outcome
  · exact (meets.error ends).elim
  · obtain ⟨rfl, rfl⟩ := meets.ok ends
    rfl

end Expansion

/-- Escaping makes any text literal: for delimiters that pass the check of settings, an escaped text passes the check of
templates and holds no placeholder, says the text in every formatter, and is left alone by expansion; a text without the
delimiter is its own escape. -/
theorem Grammar.escape_verbatim (settings : Settings) (valid : settings.validate = .ok ()) (text : String) :
    (ofSettings settings).check ((ofSettings settings).escape text) = .ok () ∧
    (∀ found, .placeholder found ∉ (ofSettings settings).tokenize ((ofSettings settings).escape text).toList) ∧
    (∀ formatter : Formatter, formatter.grammar = ofSettings settings →
      formatter.substitute ((ofSettings settings).escape text) = .ok text) ∧
    (∀ (σ : Type) (expansion : Expansion σ) (library : Library σ), expansion.grammar = ofSettings settings →
      (∀ follow, (expansion.expandTemplate follow ((ofSettings settings).escape text)).outcome library =
        (.ok ((ofSettings settings).escape text), library)) ∧
      ∀ keys : List String, (∀ key ∈ keys, ∀ value, library.store.get? key expansion.locale = some value →
          ∀ template ∈ value.templates, ∃ other, template = (ofSettings settings).escape other) →
        (expansion.expandKeys keys).outcome library = (.ok (), library)) ∧
    (¬ (ofSettings settings).placeholder <:+: text.toList → (ofSettings settings).escape text = text) := by
  have usable := Settings.usable_of_validate valid
  refine ⟨check_escape usable text, fun found member => fixed_of_mem_escape usable member, ?_, ?_,
    escape_eq_self usable.placeholder_ne_nil⟩
  · intro formatter same
    rw [← same] at usable ⊢
    exact formatter.substitute_escape usable text
  · -- Neither the template nor a stored message made of such templates holds a reference.
    intro σ expansion library same
    rw [← same] at usable ⊢
    refine ⟨fun follow => expansion.expandTemplate_of_plain follow (references_escape usable text) library, ?_⟩
    intro keys escaped
    refine Expansion.expandKeys_of_clean fun key listed value stored => ?_
    refine List.flatMap_eq_nil_iff.2 fun template member => ?_
    obtain ⟨other, rfl⟩ := escaped key listed value stored template member
    exact references_escape usable other

/-- A delimiter that overlaps itself is doubled from the left: of the second occurrence only the end is left over. -/
theorem Grammar.escape_verbatim_overlapping :
    ({ placeholderDelimiter := "%-%" } : Settings).validate = .ok () ∧
    (ofSettings { placeholderDelimiter := "%-%" }).escape "a%-%-%b" = "a%-%%-%-%b" ∧
    (∀ formatter : Formatter, formatter.grammar = ofSettings { placeholderDelimiter := "%-%" } →
      formatter.substitute "a%-%%-%-%b" = .ok "a%-%-%b") ∧
    ¬ (ofSettings { placeholderDelimiter := "%-%" }).placeholder <:+: "50% off".toList ∧
    (ofSettings { placeholderDelimiter := "%-%" }).escape "50% off" = "50% off" := by
  -- Both words on the last text follow from the delimiter not standing in it.
  have valid : ({ placeholderDelimiter := "%-%" } : Settings).validate = .ok () := by decide +kernel
  have doubled : (ofSettings { placeholderDelimiter := "%-%" }).escape "a%-%-%b" = "a%-%%-%-%b" := by decide +kernel
  have absent : ¬ (ofSettings { placeholderDelimiter := "%-%" }).placeholder <:+: "50% off".toList := by decide +kernel
  refine ⟨valid, doubled, ?_, absent, (escape_verbatim _ valid "50% off").2.2.2.2 absent⟩
  rw [← doubled]
  exact (escape_verbatim _ valid "a%-%-%b").2.2.1

end Phrasebook
