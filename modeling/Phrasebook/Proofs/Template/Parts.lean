import Phrasebook.Catalogue.Expansion
import Phrasebook.Rendering.Formatter

/-! A template is scanned character by character: either a delimiter introduces a token, or one character
is text. -/

namespace Phrasebook

/-- A token with its text cut into single characters and its position forgotten. -/
def Token.parts : Token → List Token
  | .text source => source.map fun c => .text [c]
  | .invalid raw _ => [.invalid raw 0]
  | token => [token]

/-- A token that stands for something: any but a delimiter that introduces nothing. -/
def Token.Valid : Token → Prop
  | .invalid _ _ => False
  | _ => True

/-- Cutting a token into parts keeps its source. -/
@[simp] theorem Token.parts_sources (token : Token) : token.parts.flatMap Token.source = token.source := by
  -- Only text is cut, and its characters are put together again.
  cases token with
  | text source =>
    simp only [Token.parts, List.flatMap_map, Token.source]
    exact List.flatMap_singleton' source
  | escaped raw => simp [Token.parts, Token.source]
  | placeholder found => simp [Token.parts, Token.source]
  | invalid raw position => simp [Token.parts, Token.source]

namespace Grammar

variable {grammar : Grammar} {s rest : List Char}

/-- The parts of a template: its tokens, with all text cut into characters and without positions. -/
def parts (grammar : Grammar) (s : List Char) : List Token :=
  (grammar.tokenize s).flatMap Token.parts

/-- The text before a delimiter is cut into its characters. -/
theorem textToken_parts (s : List Char) :
    (textToken s).flatMap Token.parts = s.map fun c => .text [c] := by
  -- No token is made of the empty text, which has no characters either.
  cases s with
  | nil => rfl
  | cons c rest => simp [textToken, Token.parts]

/-- Where a delimiter stands decides neither what it introduces nor how much of the template that is. -/
theorem introduced_position (grammar : Grammar) (position other : Nat) (s : List Char) :
    (grammar.introduced position s).2 = (grammar.introduced other s).2 ∧
      (grammar.introduced position s).1.parts = (grammar.introduced other s).1.parts := by
  -- Every case reads the text only, and the position is written down in the last one alone.
  simp only [introduced]
  split
  · exact ⟨rfl, rfl⟩
  · split
    · exact ⟨rfl, rfl⟩
    · split <;> exact ⟨rfl, rfl⟩

/-- A delimiter introduces one part. -/
theorem introduced_parts (grammar : Grammar) (s : List Char) :
    (grammar.introduced 0 s).1.parts = [(grammar.introduced 0 s).1] := by
  -- It never introduces text, and the position is already forgotten.
  simp only [introduced]
  split
  · rfl
  · split
    · rfl
    · split <;> rfl

/-- The token that a delimiter introduces is the delimiter with the text it covers behind it. -/
theorem introduced_source (grammar : Grammar) (position : Nat) (s : List Char) :
    (grammar.introduced position s).1.source =
      grammar.placeholder ++ s.take (grammar.introduced position s).2 := by
  -- A second delimiter covers itself, and the other tokens are cut out of the text.
  simp only [introduced]
  split
  · next after found =>
    rw [Text.stripPrefix?_eq_some_iff.1 found]
    simp [Token.source]
  · split
    · rfl
    · split
      · rfl
      · simp [Token.source]

/-- The parts do not depend on what precedes a template. -/
theorem tokensFrom_parts_position (nonempty : grammar.placeholder ≠ []) (position other : Nat)
    (s : List Char) :
    (grammar.tokensFrom nonempty position s).flatMap Token.parts =
      (grammar.tokensFrom nonempty other s).flatMap Token.parts := by
  -- The induction follows the scan, which is shorter behind every delimiter.
  induction length : s.length using Nat.strongRecOn generalizing s position other with
  | ind size ih =>
    rw [tokensFrom, tokensFrom]
    split
    · rfl
    · next before after cut =>
      obtain ⟨covered, introduced⟩ := introduced_position grammar
        (position + byteLength before) (other + byteLength before) after
      have shorter : (after.drop (grammar.introduced (position + byteLength before) after).2).length
          < size := by
        have lengths := congrArg List.length (Text.eq_of_breakOn? cut)
        have positive := List.length_pos_iff.2 nonempty
        simp only [List.length_append, List.length_drop] at lengths ⊢
        omega
      simp only [List.flatMap_append, List.flatMap_cons, introduced, covered] at shorter ⊢
      rw [ih _ shorter _ _ _ rfl]

/-- A delimiter at the front of a template introduces its first part. -/
theorem parts_delimiter (nonempty : grammar.placeholder ≠ []) (s : List Char) :
    grammar.parts (grammar.placeholder ++ s) =
      (grammar.introduced 0 s).1 :: grammar.parts (s.drop (grammar.introduced 0 s).2) := by
  -- The first occurrence of the delimiter is at the front, with no text before it.
  have front : Text.breakOn? grammar.placeholder (grammar.placeholder ++ s) = some ([], s) := by
    have found : Text.stripPrefix? grammar.placeholder (grammar.placeholder ++ s) = some s :=
      Text.stripPrefix?_eq_some_iff.2 rfl
    cases whole : grammar.placeholder ++ s with
    | nil => exact absurd (List.append_eq_nil_iff.1 whole).1 nonempty
    | cons c rest =>
      rw [whole] at found
      simp [Text.breakOn?, found]
  simp only [parts, tokenize, dif_pos nonempty]
  rw [tokensFrom]
  split
  · next absent => simp [front] at absent
  · next before after cut =>
    rw [front] at cut
    obtain ⟨rfl, rfl⟩ := Prod.mk.inj (Option.some.inj cut)
    simp only [byteLength, Nat.add_zero, List.flatMap_append, List.flatMap_cons, textToken_parts,
      List.map_nil, List.nil_append, introduced_parts, List.singleton_append]
    rw [tokensFrom_parts_position nonempty]

/-- A character that does not start a delimiter is a part of its own. -/
theorem parts_char {c : Char} (different : Text.stripPrefix? grammar.placeholder (c :: s) = none) :
    grammar.parts (c :: s) = .text [c] :: grammar.parts s := by
  -- The first delimiter is found in the rest, and the text before it is longer by the character.
  have nonempty : grammar.placeholder ≠ [] := by
    intro empty
    simp [empty, Text.stripPrefix?] at different
  have cut : Text.breakOn? grammar.placeholder (c :: s) =
      (Text.breakOn? grammar.placeholder s).map fun around => (c :: around.1, around.2) := by
    simp [Text.breakOn?, different]
  simp only [parts, tokenize, dif_pos nonempty]
  rw [tokensFrom, tokensFrom]
  cases found : Text.breakOn? grammar.placeholder s with
  | none =>
    simp only [found, Option.map_none] at cut
    split
    · simp [textToken_parts]
    · next absent => simp [cut] at absent
  | some pair =>
    obtain ⟨before, after⟩ := pair
    simp only [found, Option.map_some] at cut
    split
    · next absent => simp [cut] at absent
    · next front back same =>
      rw [cut] at same
      obtain ⟨rfl, rfl⟩ := Prod.mk.inj (Option.some.inj same)
      obtain ⟨covered, introduced⟩ := introduced_position grammar
        (0 + byteLength (c :: before)) (0 + byteLength before) after
      simp only [List.flatMap_append, List.flatMap_cons, textToken_parts, List.map_cons,
        List.cons_append, introduced, covered]
      rw [tokensFrom_parts_position nonempty]

/-- The empty template has no parts. -/
theorem parts_nil (nonempty : grammar.placeholder ≠ []) : grammar.parts [] = [] := by
  -- No delimiter occurs, and there is no text.
  simp only [parts, tokenize, dif_pos nonempty]
  rw [tokensFrom]
  split
  · rfl
  · next cut =>
    have whole := (List.append_eq_nil_iff.1 (Text.eq_of_breakOn? cut).symm).1
    exact absurd (List.append_eq_nil_iff.1 whole).2 nonempty

/-- The sources of the parts, one after the other, are the template. -/
theorem parts_sources (grammar : Grammar) (s : List Char) :
    (grammar.parts s).flatMap Token.source = s := by
  by_cases nonempty : grammar.placeholder ≠ []
  · -- Each step of the scan takes a part off the front, and the rest is shorter.
    induction length : s.length using Nat.strongRecOn generalizing s with
    | ind size ih =>
      cases s with
      | nil => simp [parts_nil nonempty]
      | cons c rest =>
        cases found : Text.stripPrefix? grammar.placeholder (c :: rest) with
        | none =>
          rw [parts_char found, List.flatMap_cons, ih rest.length (by simp_all; omega) rest rfl]
          rfl
        | some after =>
          have front := Text.stripPrefix?_eq_some_iff.1 found
          have lengths := Text.length_of_stripPrefix? found
          have positive := List.length_pos_iff.2 nonempty
          rw [front, parts_delimiter nonempty, List.flatMap_cons, introduced_source,
            ih _ (by simp only [List.length_drop]; omega) _ rfl, List.append_assoc, List.take_append_drop]
  · -- Around every character stand empty delimiters.
    simp only [parts, tokenize, dif_neg nonempty, List.flatMap_cons, List.flatMap_assoc]
    induction s with
    | nil => rfl
    | cons c rest ih => simpa [Token.parts, Token.source] using ih

/-- The sources of the tokens, one after the other, are the template. -/
theorem tokenize_sources (grammar : Grammar) (s : List Char) :
    (grammar.tokenize s).flatMap Token.source = s := by
  -- Cutting tokens into parts keeps their sources.
  have whole := parts_sources grammar s
  simpa only [parts, List.flatMap_assoc, Token.parts_sources] using whole

/-- The references in a template, in the order in which they stand there. -/
def references (grammar : Grammar) (template : String) : List Reference :=
  (grammar.tokenize template.toList).filterMap grammar.tokenReference?

/-- A template holds a reference if there is one among its references. -/
theorem hasReference_eq (grammar : Grammar) (template : String) :
    grammar.hasReference template = !(grammar.references template).isEmpty := by
  -- Both ask whether some token is a reference.
  simp only [hasReference, references]
  induction grammar.tokenize template.toList with
  | nil => rfl
  | cons token rest ih => cases found : grammar.tokenReference? token <;> simp [found, ih]

/-- A template passes the check if all its tokens stand for something. -/
theorem check_eq_ok_iff (grammar : Grammar) (template : String) :
    grammar.check template = .ok () ↔ ∀ token ∈ grammar.tokenize template.toList, token.Valid := by
  -- The check looks for the first delimiter that introduces nothing.
  simp only [check, invalidPosition?]
  induction grammar.tokenize template.toList with
  | nil => simp
  | cons token rest ih => cases token <;> simp_all [Token.Valid]

/-- A token that is neither a reference nor invalid. -/
def Inert (grammar : Grammar) (token : Token) : Prop :=
  token.Valid ∧ grammar.tokenReference? token = none

/-- A template without references and without delimiters that introduce nothing. -/
def Settled (grammar : Grammar) (s : List Char) : Prop :=
  ∀ token ∈ grammar.parts s, grammar.Inert token

/-- A token is inert if all its parts are. -/
theorem inert_iff_parts (grammar : Grammar) (token : Token) :
    grammar.Inert token ↔ ∀ part ∈ token.parts, grammar.Inert part := by
  -- Text is always inert, and so are its characters; no other token is cut.
  cases token <;> simp [Token.parts, Inert, Token.Valid, tokenReference?]

/-- The settled templates are those that pass the check and hold no reference. -/
theorem settled_iff (grammar : Grammar) (template : String) :
    grammar.Settled template.toList ↔
      grammar.check template = .ok () ∧ grammar.references template = [] := by
  -- Cutting tokens into parts makes none of them inert that was not.
  have tokens : grammar.Settled template.toList ↔
      ∀ token ∈ grammar.tokenize template.toList, grammar.Inert token := by
    simp only [Settled, parts, List.mem_flatMap]
    constructor
    · intro settled token member
      exact (inert_iff_parts grammar token).2 fun part inside => settled part ⟨token, member, inside⟩
    · intro inert part split
      obtain ⟨token, member, inside⟩ := split
      exact (inert_iff_parts grammar token).1 (inert token member) part inside
  rw [tokens, check_eq_ok_iff, references, List.filterMap_eq_nil_iff]
  simp only [Inert, imp_and, forall_and]

end Grammar

end Phrasebook
