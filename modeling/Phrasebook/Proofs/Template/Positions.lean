import Phrasebook.Proofs.Template.Scanned

/-! Where the tokens of a template stand. A delimiter that introduces nothing says how many bytes precede it, and the
check reports the first of these delimiters. -/

namespace Phrasebook

/-- What a token says about the number of bytes before it: a delimiter that introduces nothing names it. A placeholder
covers a part of the template. -/
def Token.Fits (position : Nat) : Token → Prop
  | .invalid _ named => named = position
  | .placeholder found => found.raw ≠ []
  | _ => True

/-- The position that a delimiter that introduces nothing names. -/
def Token.named? : Token → Option Nat
  | .invalid _ position => some position
  | _ => none

/-- All tokens but those delimiters stand for something. -/
theorem Token.named?_eq_none_iff (token : Token) : token.named? = none ↔ token.Valid := by
  cases token <;> simp [named?, Valid]

namespace Grammar

variable {grammar : Grammar} {position : Nat} {tokens others before after : List Token} {raw : List Char}

/-- Every token fits the number of bytes that the tokens before it cover. -/
def Placed : Nat → List Token → Prop
  | _, [] => True
  | position, token :: rest => token.Fits position ∧ Placed (position + byteLength token.source) rest

/-- Tokens stand behind others if they do so by the bytes of those. -/
theorem placed_append : Placed position (tokens ++ others) ↔
    Placed position tokens ∧ Placed (position + byteLength (tokens.flatMap Token.source)) others := by
  -- The bytes before a token are those before the first one and those of the tokens between them.
  induction tokens generalizing position with
  | nil => simp [Placed, byteLength]
  | cons token rest ih =>
    rw [List.cons_append, Placed, Placed, ih, and_assoc, List.flatMap_cons, byteLength_append, Nat.add_assoc]

/-- A text may stand anywhere. -/
theorem placed_textToken (position : Nat) (s : List Char) : Placed position (textToken s) := by
  -- An empty text makes no token.
  unfold textToken
  split
  · trivial
  · exact ⟨trivial, trivial⟩

/-- What is written for the tokens of a text is the text, if that is what is written for a text token. -/
theorem flatMap_textToken {write : Token → List Char} (same : ∀ source, write (.text source) = source) (s : List Char) :
    (textToken s).flatMap write = s := by
  -- An empty text makes no token.
  cases s with
  | nil => rfl
  | cons c rest => simp [textToken, same]

/-- What a delimiter introduces fits the place of the delimiter. -/
theorem introduced_fits (nonempty : grammar.placeholder ≠ []) (position : Nat) (s : List Char) :
    (grammar.introduced position s).1.Fits position := by
  -- The source of the token starts with the delimiter.
  have source := introduced_source grammar position s
  have named : (grammar.introduced position s).1 = .invalid grammar.placeholder position ∨
      ∀ raw other, (grammar.introduced position s).1 ≠ .invalid raw other := by
    simp only [introduced]
    split
    · exact .inr nofun
    · split
      · exact .inr nofun
      · split
        · exact .inr nofun
        · exact .inl rfl
  cases introduced : (grammar.introduced position s).1 with
  | text source => trivial
  | escaped raw => trivial
  | invalid raw other =>
    rcases named with same | different
    · cases introduced.symm.trans same
      rfl
    · exact absurd introduced (different raw other)
  | placeholder found =>
    rw [introduced] at source
    intro empty
    have parts : [] = grammar.placeholder ++ _ := empty.symm.trans source
    exact nonempty (List.append_eq_nil_iff.1 parts.symm).1

/-- The tokens of a text that a number of bytes precedes stand behind these. -/
theorem tokensFrom_placed (nonempty : grammar.placeholder ≠ []) (position : Nat) (s : List Char) :
    Placed position (grammar.tokensFrom nonempty position s) := by
  -- The induction follows the scan: behind every token the bytes that it covers have been counted.
  fun_induction tokensFrom grammar nonempty position s with
  | case1 position s absent => exact placed_textToken position s
  | case2 position s before after cut start token covered introduced ih =>
    rw [placed_append, flatMap_textToken fun _ => rfl]
    refine ⟨placed_textToken position before, ?_, ih⟩
    have fits := introduced_fits nonempty start after
    rwa [introduced] at fits

/-- The tokens of a template stand one behind the other. -/
theorem tokenize_placed (grammar : Grammar) (template : List Char) : Placed 0 (grammar.tokenize template) := by
  unfold tokenize
  split
  · next nonempty => exact tokensFrom_placed nonempty 0 template
  · -- Empty delimiters and characters may stand anywhere.
    have anywhere (position : Nat) :
        Placed position (template.flatMap fun c => [.text [c], .escaped []]) := by
      induction template generalizing position with
      | nil => trivial
      | cons c rest ih => exact ⟨trivial, trivial, ih _⟩
    exact ⟨trivial, anywhere _⟩

/-- A token stands in a template behind a number of bytes. -/
def At (grammar : Grammar) (template : String) (start : Nat) (token : Token) : Prop :=
  ∃ before after, grammar.tokenize template.toList = before ++ token :: after ∧
    start = byteLength (before.flatMap Token.source)

variable {template : String}

/-- A delimiter that introduces nothing names the number of bytes before it. -/
theorem position_of_invalid
    (whole : grammar.tokenize template.toList = before ++ .invalid raw position :: after) :
    position = byteLength (before.flatMap Token.source) := by
  -- All tokens are placed, and this one behind those before it.
  have placed := tokenize_placed grammar template.toList
  rw [whole, placed_append, Nat.zero_add] at placed
  exact placed.2.1

/-- The placeholders that start before a delimiter that introduces nothing are those among the tokens before it. -/
theorem exists_at_lt_iff {found : Placeholder}
    (whole : grammar.tokenize template.toList = before ++ .invalid raw position :: after) :
    (∃ start, grammar.At template start (.placeholder found) ∧ start < position) ↔ .placeholder found ∈ before := by
  -- The delimiter stands behind exactly the bytes of the tokens before it.
  have covered := position_of_invalid whole
  constructor
  · rintro ⟨start, ⟨front, back, parts, rfl⟩, less⟩
    rw [whole, List.append_eq_append_iff] at parts
    rcases parts with ⟨middle, rfl, -⟩ | ⟨middle, rfl, rest⟩
    · -- Behind the delimiter there are more bytes before a token, not fewer.
      rw [List.flatMap_append, byteLength_append] at less
      omega
    · cases middle with
      | nil => cases rest
      | cons first middle =>
        obtain ⟨rfl, -⟩ := List.cons.inj rest
        exact List.mem_append_right _ List.mem_cons_self
  · intro member
    obtain ⟨front, middle, rfl⟩ := List.append_of_mem member
    refine ⟨_, ⟨front, middle ++ .invalid raw position :: after, by simp [whole], rfl⟩, ?_⟩
    -- The placeholder itself covers a byte.
    have placed := tokenize_placed grammar template.toList
    rw [whole, List.append_assoc, placed_append] at placed
    have some : found.raw ≠ [] := placed.2.1
    have positive : 0 < byteLength found.raw := by
      obtain ⟨c, rest, raw⟩ := List.exists_cons_of_ne_nil some
      rw [raw, byteLength]
      have size := c.utf8Size_pos
      omega
    rw [List.flatMap_append, List.flatMap_cons, byteLength_append, byteLength_append, Token.source] at covered
    omega

/-- The position that the check looks for is the first one that is named. -/
theorem invalidPosition?_eq (grammar : Grammar) (s : List Char) :
    grammar.invalidPosition? s = (grammar.tokenize s).findSome? Token.named? :=
  rfl

/-- The check fails with the first delimiter that introduces nothing. -/
theorem check_eq_error_iff {error : Error} : grammar.check template = .error error ↔
    ∃ before raw position after, grammar.tokenize template.toList = before ++ .invalid raw position :: after ∧
      (∀ earlier ∈ before, earlier.Valid) ∧ error = .invalidTemplate template position := by
  -- The position that is reported is the first one that some token names.
  rw [check, invalidPosition?_eq]
  constructor
  · intro fails
    split at fails
    · next position first =>
      obtain ⟨before, token, after, whole, named, earlier⟩ := List.findSome?_eq_some_iff.1 first
      cases token with
      | invalid raw other =>
        obtain rfl := Option.some.inj named
        exact ⟨before, raw, other, after, whole,
          fun token member => token.named?_eq_none_iff.1 (earlier token member), (Except.error.inj fails).symm⟩
      | _ => cases named
    · cases fails
  · rintro ⟨before, raw, position, after, whole, earlier, rfl⟩
    have first : (grammar.tokenize template.toList).findSome? Token.named? = some position :=
      List.findSome?_eq_some_iff.2
        ⟨before, _, after, whole, rfl, fun token member => token.named?_eq_none_iff.2 (earlier token member)⟩
    rw [first]

end Grammar

end Phrasebook
