import Mathlib.Data.List.Infix
import Mathlib.Data.List.TakeWhile
import Phrasebook.Proofs.Template.Printing
import Phrasebook.Proofs.Template.Splice

/-! Which delimiters tell names apart: whether a name that is put together from words is read as one reference, and
whether words that stand next to each other are read as two. -/

namespace Phrasebook.Grammar

open Unicode (isWord)

variable {grammar : Grammar}

section Names

variable {α : Type} {space w s : List Char} {goal : List Char → Option α}

/-- A word goes on as long as it can, if the goal is reached behind it. -/
theorem insideName_run {x : α} (nonempty : space ≠ []) (chars : ∀ c ∈ w, isWord c = true)
    (reached : insideName space goal s = some x) : insideName space goal (w ++ s) = some x := by
  -- Character by character, from the last one back to the first.
  induction w with
  | nil => exact reached
  | cons c rest ih =>
    rw [List.cons_append, insideName_eq nonempty, name?, if_pos (chars c List.mem_cons_self),
      ih fun d member => chars d (List.mem_cons_of_mem _ member)]
    rfl

/-- A word behind which the goal is reached is a name. -/
theorem name?_word {x : α} (nonempty : space ≠ []) (word : Word w) (reached : insideName space goal s = some x) :
    name? space goal (w ++ s) = some x := by
  -- A word has a first character, and the others are the inside of a name.
  obtain ⟨some, chars⟩ := word
  cases w with
  | nil => exact absurd rfl some
  | cons c rest =>
    rw [List.cons_append, name?, if_pos (chars c List.mem_cons_self)]
    exact insideName_run nonempty (fun d member => chars d (List.mem_cons_of_mem _ member)) reached

/-- Behind a part of the word that starts a delimiter a name does not go on: no delimiter stands there, only what is
left of one. -/
theorem insideName_stuck {x : Char} {front behind rest : List Char} (delimiter : space = front ++ x :: behind)
    (inFront : ∀ c ∈ front, isWord c = true) (mark : isWord x = false)
    (unreached : ∀ c after, isWord c = true ∨ c = x → goal (c :: after) = none) (chars : ∀ c ∈ w, isWord c = true)
    (shorter : w.length < front.length) : insideName space goal (w ++ x :: rest) = none := by
  have nonempty : space ≠ [] := by simp [delimiter]
  -- The first character of a delimiter that is none of a word comes later than here.
  have noDelimiter {part : List Char} (inside : ∀ c ∈ part, isWord c = true) (shorter : part.length < front.length) :
      Text.stripPrefix? space (part ++ x :: rest) = none := by
    rw [Text.stripPrefix?_eq_none_iff]
    rintro ⟨more, whole⟩
    rw [delimiter, List.append_assoc, List.cons_append] at whole
    obtain ⟨same, -⟩ := Text.append_cons_inj whole inFront inside mark mark
    rw [same] at shorter
    exact Nat.lt_irrefl _ shorter
  induction w with
  | nil =>
    have here := noDelimiter chars shorter
    rw [List.nil_append] at here ⊢
    rw [insideName_eq nonempty, here, unreached x rest (.inr rfl)]
    simp [name?, mark]
  | cons c word ih =>
    have here := noDelimiter chars shorter
    have first : isWord c = true := chars c List.mem_cons_self
    have later := ih (fun d member => chars d (List.mem_cons_of_mem _ member)) (Nat.lt_of_succ_lt shorter)
    rw [List.cons_append] at here ⊢
    rw [insideName_eq nonempty, here, unreached c _ (.inl first)]
    simp [name?, first, later]

/-- What starts with no character of words stands in front of no word. -/
theorem not_prefix_word {mark : List Char} (nonempty : mark ≠ []) (boundary : mark.head?.any isWord = false)
    (word : Word w) (s : List Char) : ¬ mark <+: w ++ s := by
  -- The first character of a word is one of words.
  obtain ⟨c, rest, rfl⟩ := List.exists_cons_of_ne_nil word.1
  obtain ⟨d, others, rfl⟩ := List.exists_cons_of_ne_nil nonempty
  rintro ⟨more, whole⟩
  obtain ⟨rfl, -⟩ := List.cons.inj whole
  simp [word.2 d List.mem_cons_self] at boundary

end Names

section Braces

variable {first second w : List Char} {words more : List (List Char)}

/-- Behind the first of some words the others follow, each with a delimiter in front. -/
theorem intercalate_eq (space first : List Char) (words : List (List Char)) :
    space.intercalate (first :: words) = first ++ words.flatMap (space ++ ·) := by
  -- Word by word.
  induction words generalizing first with
  | nil => simp
  | cons w rest ih => simp [List.intercalate_cons_cons, ih, List.append_assoc]

/-- Behind a name the braces close neither at a character of a word nor at one that is neither bracket. -/
theorem withCall_closing?_eq_none {c : Char} (opening : c ≠ '(') (closing : c ≠ '}') (after : List Char) :
    withCall closing? (c :: after) = none := by
  simp [withCall, call?, closing?, opening, closing]

/-- A delimiter that closes no braces: none stands in it behind nothing but characters of words. -/
def NotClosing (space : List Char) : Prop :=
  ∀ front behind, space = front ++ '}' :: behind → (∀ c ∈ front, isWord c = true) → front = []

/-- A delimiter that can be told from the word before it is not read as a part of that word: the name does not go on
behind the characters of words in it. -/
theorem name?_space {x : Char} {front behind : List Char} (delimiter : grammar.space = front ++ x :: behind)
    (chars : ∀ c ∈ front, isWord c = true) (mark : isWord x = false) (opening : '(' ∉ grammar.space)
    (closing : NotClosing grammar.space) (rest : List Char) :
    name? grammar.space (withCall closing?) (grammar.space ++ rest) = none := by
  have notOpening : x ≠ '(' := fun same => opening (by simp [delimiter, same])
  cases front with
  | nil =>
    have whole : grammar.space ++ rest = x :: (behind ++ rest) := by simp [delimiter]
    rw [whole, name?, if_neg (by simp [mark])]
  | cons c word =>
    -- The first character that is none of a word closes nothing, as others stand before it.
    have notClosing : x ≠ '\x7d' := fun same => List.cons_ne_nil c word (closing _ behind (same ▸ delimiter) chars)
    have unreached (d : Char) (after : List Char) (kind : isWord d = true ∨ d = x) :
        withCall closing? (d :: after) = none := by
      rcases kind with word | rfl
      · exact withCall_closing?_eq_none (ne_of_isWord word isWord_marks.2.2.2.2.1)
          (ne_of_isWord word isWord_marks.2.2.2.1) after
      · exact withCall_closing?_eq_none notOpening notClosing after
    have stuck : insideName grammar.space (withCall closing?) (word ++ x :: (behind ++ rest)) = none :=
      insideName_stuck delimiter chars mark unreached (fun d member => chars d (List.mem_cons_of_mem _ member))
        (Nat.lt_succ_self _)
    have whole : grammar.space ++ rest = c :: (word ++ x :: (behind ++ rest)) := by simp [delimiter]
    rw [whole, name?, if_pos (chars c List.mem_cons_self), stuck]

/-- Words with delimiters in front are read up to the closing brace. -/
theorem insideName_words (nonempty : grammar.space ≠ []) (opening : '(' ∉ grammar.space)
    (closing : NotClosing grammar.space) (each : ∀ w ∈ words, Word w) :
    insideName grammar.space (withCall closing?) (words.flatMap (grammar.space ++ ·) ++ ['\x7d']) = some [] := by
  induction words with
  | nil =>
    have closes : withCall closing? ['\x7d'] = some [] := rfl
    have noWord : isWord '\x7d' = false := isWord_marks.2.2.2.1
    -- No word stands behind a delimiter here.
    have noName : (Text.stripPrefix? grammar.space ['\x7d']).bind (name? grammar.space (withCall closing?)) = none := by
      cases found : Text.stripPrefix? grammar.space ['\x7d'] with
      | none => rfl
      | some left =>
        have parts := Text.length_of_stripPrefix? found
        have positive := List.length_pos_iff.2 nonempty
        simp only [List.length_singleton] at parts
        obtain rfl := List.length_eq_zero_iff.1 (show left.length = 0 by omega)
        rfl
    rw [List.flatMap_nil, List.nil_append, insideName_eq nonempty, closes, noName]
    simp [name?, noWord]
  | cons w rest ih =>
    have word : Word w := each w List.mem_cons_self
    have reached := ih fun other member => each other (List.mem_cons_of_mem _ member)
    rw [List.flatMap_cons, List.append_assoc, List.append_assoc]
    obtain ⟨front, behind, delimiter, chars, boundary⟩ := exists_word grammar.space
    cases behind with
    | nil =>
      -- The delimiter is a word itself, and all is read as one.
      rw [List.append_nil] at delimiter
      have inDelimiter : ∀ c ∈ grammar.space, isWord c = true := delimiter ▸ chars
      exact insideName_run nonempty inDelimiter (insideName_run nonempty word.2 reached)
    | cons x behind =>
      have stripped : Text.stripPrefix? grammar.space
          (grammar.space ++ (w ++ (rest.flatMap (grammar.space ++ ·) ++ ['\x7d']))) = some _ :=
        Text.stripPrefix?_eq_some_iff.2 rfl
      rw [insideName_eq nonempty, stripped,
        name?_space delimiter chars (by simpa using boundary) opening closing]
      simp [name?_word nonempty word reached]

/-- Whether a delimiter stands at the front of words that are joined by it depends on the first word only. -/
theorem prefix_append_space_iff (space first rest : List Char) :
    space <+: first ++ (space ++ rest) ↔ space <+: first ++ space := by
  -- The text behind the first delimiter is too far away to matter.
  constructor
  · intro front
    rw [← List.append_assoc] at front
    exact List.prefix_of_prefix_length_le front (List.prefix_append _ _) (by simp)
  · intro front
    rw [← List.append_assoc]
    exact front.trans (List.prefix_append _ _)

/-- A name of words that does not start with a delimiter is read up to the closing brace. -/
theorem dotted?_words (nonempty : grammar.space ≠ []) (opening : '(' ∉ grammar.space)
    (closing : NotClosing grammar.space) (leading : ¬ grammar.space <+: first ++ grammar.space) (word : Word first)
    (each : ∀ w ∈ second :: more, Word w) :
    dotted? grammar.space (withCall closing?) (grammar.space.intercalate (first :: second :: more) ++ ['\x7d']) =
      some [] := by
  have reached := insideName_words nonempty opening closing each
  -- No delimiter is taken off the front, since none stands before the end of the first word.
  have noDelimiter : Text.stripPrefix? grammar.space
      (grammar.space.intercalate (first :: second :: more) ++ ['\x7d']) = none := by
    rw [Text.stripPrefix?_eq_none_iff, intercalate_eq, List.flatMap_cons, List.append_assoc, List.append_assoc,
      List.append_assoc, prefix_append_space_iff]
    exact leading
  rw [dotted?_eq nonempty, noDelimiter, intercalate_eq, List.append_assoc, name?_word nonempty word reached]
  rfl

/-- A brace in the delimiter behind nothing but characters of words ends the name there. -/
theorem dotted?_closing (nonempty : grammar.space ≠ []) (leading : ¬ grammar.space <+: first ++ grammar.space)
    (word : Word first) {front behind : List Char} (delimiter : grammar.space = front ++ '\x7d' :: behind)
    (chars : ∀ c ∈ front, isWord c = true) (some : front ≠ []) (rest : List Char) :
    dotted? grammar.space (withCall closing?) (first ++ (grammar.space ++ rest)) = .some (behind ++ rest) := by
  have noDelimiter : Text.stripPrefix? grammar.space (first ++ (grammar.space ++ rest)) = none := by
    rwa [Text.stripPrefix?_eq_none_iff, prefix_append_space_iff]
  -- The delimiter does not start with the brace, so that the brace is all there is to go on with.
  have closes : insideName grammar.space (withCall closing?) ('\x7d' :: (behind ++ rest)) = .some (behind ++ rest) := by
    have noWord : isWord '\x7d' = false := isWord_marks.2.2.2.1
    have noSpace : Text.stripPrefix? grammar.space ('\x7d' :: (behind ++ rest)) = none := by
      obtain ⟨c, word, rfl⟩ := List.exists_cons_of_ne_nil some
      rw [Text.stripPrefix?_eq_none_iff, delimiter]
      rintro ⟨more, whole⟩
      exact ne_of_isWord (chars c List.mem_cons_self) noWord (List.cons.inj whole).1
    rw [insideName_eq nonempty, noSpace]
    simp [name?, noWord, withCall, call?, closing?]
  have goes : insideName grammar.space (withCall closing?) (grammar.space ++ rest) = .some (behind ++ rest) := by
    have whole : grammar.space ++ rest = front ++ '\x7d' :: (behind ++ rest) := by simp [delimiter]
    rw [whole]
    exact insideName_run nonempty chars closes
  rw [dotted?_eq nonempty, noDelimiter, name?_word nonempty word goes]
  rfl

end Braces

section Tokens

variable {first second w s : List Char} {words more : List (List Char)}

/-- A text that starts with a delimiter has the token that the delimiter introduces, and those of what is left. -/
theorem tokensFrom_delimiter (nonempty : grammar.placeholder ≠ []) {position covered : Nat} {token : Token}
    (introduces : grammar.introduced position s = (token, covered)) :
    grammar.tokensFrom nonempty position (grammar.placeholder ++ s) =
      token :: grammar.tokensFrom nonempty (position + byteLength token.source) (s.drop covered) := by
  -- The text is cut at its front, so that there is no text in front of the delimiter.
  have cut := Text.breakOn?_append (Text.endsFirst_nil grammar.placeholder) s
  rw [List.nil_append] at cut
  rw [tokensFrom]
  split
  · next absent => cases cut.symm.trans absent
  · next before after same =>
    obtain ⟨rfl, rfl⟩ := Prod.mk.inj (Option.some.inj (cut.symm.trans same))
    simp [byteLength, textToken, introduces]

/-- At the end there are no tokens. -/
theorem tokensFrom_nil (nonempty : grammar.placeholder ≠ []) (position : Nat) :
    grammar.tokensFrom nonempty position [] = [] := by
  -- No delimiter is empty, so that none is found.
  rw [tokensFrom]
  split
  · rfl
  · next before after cut => simp [Text.breakOn?, nonempty] at cut

/-- What a placeholder asks for that a delimiter introduces stands in its body. -/
theorem request_of_introduced {position covered : Nat} {found : Placeholder}
    (introduces : grammar.introduced position s = (.placeholder found, covered)) :
    found.request = grammar.requestOf found.body := by
  unfold introduced at introduces
  -- Braces or none: both make a placeholder of their body.
  split at introduces
  · cases introduces
  · simp only at introduces
    split at introduces
    · obtain ⟨same, -⟩ := Prod.mk.inj introduces
      cases same
      rfl
    · split at introduces
      · obtain ⟨same, -⟩ := Prod.mk.inj introduces
        cases same
        rfl
      · cases introduces

/-- A text without an opening parenthesis asks for a value, and no other one does. -/
theorem requestOf_eq_named_iff {body : List Char} : grammar.requestOf body = .named body ↔ '(' ∉ body := by
  rw [← List.singleton_infix_iff, ← Text.breakOn?_eq_none_iff, requestOf]
  cases Text.breakOn? ['('] body <;> simp

/-- A delimiter does not start with a brace. -/
theorem single_brace (usable : grammar.Usable) (s : List Char) :
    Text.stripPrefix? grammar.placeholder ('\x7b' :: s) = none := by
  -- The check refuses braces in the placeholder delimiter.
  obtain ⟨d, rest, delimiter⟩ := List.exists_cons_of_ne_nil usable.placeholder_ne_nil
  have allowed := usable.placeholder_allowed d (by simp [delimiter])
  have different : d ≠ '\x7b' := by
    rintro rfl
    simp [Settings.forbids] at allowed
  simp [delimiter, Text.stripPrefix?, different]

end Tokens

section Joined

variable {first second : List Char} {more : List (List Char)}

/-- The placeholder of a name in braces. -/
def joinedPlaceholder (grammar : Grammar) (name : List Char) : Placeholder :=
  { raw := Fragment.inBraces grammar name, body := name, braced := true, request := .named name }

/-- A name in braces is one placeholder if it is read up to the closing brace and has no opening parenthesis. -/
theorem tokenize_inBraces_iff (usable : grammar.Usable) (name : List Char) :
    grammar.tokenize (Fragment.inBraces grammar name) = [.placeholder (grammar.joinedPlaceholder name)] ↔
      dotted? grammar.space (withCall closing?) (name ++ ['\x7d']) = some [] ∧ '(' ∉ name := by
  have single := single_brace usable (name ++ ['\x7d'])
  rw [tokenize, dif_pos usable.placeholder_ne_nil, Fragment.inBraces]
  constructor
  · intro tokens
    obtain ⟨token, covered, introduces⟩ : ∃ token covered,
        grammar.introduced 0 ('\x7b' :: (name ++ ['\x7d'])) = (token, covered) := ⟨_, _, rfl⟩
    rw [tokensFrom_delimiter usable.placeholder_ne_nil introduces] at tokens
    obtain ⟨rfl, -⟩ := List.cons.inj tokens
    refine ⟨?_, requestOf_eq_named_iff.1 (request_of_introduced introduces).symm⟩
    cases found : dotted? grammar.space (withCall closing?) (name ++ ['\x7d']) with
    | none =>
      -- Without a body the braces are passed over, and what is found stands in none.
      have noBraces :
          (Text.stripPrefix? ['\x7b'] ('\x7b' :: (name ++ ['\x7d']))).bind grammar.bracedLength? = none := by
        simp [Text.stripPrefix?, bracedLength?, found]
      rw [introduced_of_single single, noBraces] at introduces
      simp only at introduces
      split at introduces
      · exact absurd (congrArg Placeholder.braced (Token.placeholder.inj (Prod.mk.inj introduces).1)) Bool.false_ne_true
      · cases introduces
    | some rest =>
      obtain ⟨body, whole, -⟩ := matches_of_braced usable.space_ne_nil found
      rw [whole] at found single introduces
      rw [introduced_of_braced single found] at introduces
      obtain rfl : body = name := congrArg Placeholder.body (Token.placeholder.inj (Prod.mk.inj introduces).1)
      rw [(List.cons.inj (List.append_cancel_left whole)).2]
  · rintro ⟨found, absent⟩
    rw [tokensFrom_delimiter usable.placeholder_ne_nil (introduced_of_braced single found),
      List.drop_of_length_le (by simp), tokensFrom_nil, placeholderOf, requestOf_eq_named_iff.2 absent]
    rfl

/-- A name of words is a reference by its full key exactly if it does not start with a delimiter. -/
theorem reference?_joined (nonempty : grammar.space ≠ []) :
    grammar.reference? (grammar.joinedPlaceholder (grammar.space.intercalate (first :: second :: more))) =
        some (.absolute (String.ofList (grammar.space.intercalate (first :: second :: more)))) ↔
      ¬ grammar.space <+: first ++ grammar.space := by
  obtain ⟨rest, whole⟩ :
      ∃ rest, grammar.space.intercalate (first :: second :: more) = first ++ (grammar.space ++ rest) :=
    ⟨second ++ more.flatMap (grammar.space ++ ·), by rw [intercalate_eq, List.flatMap_cons, List.append_assoc]⟩
  rw [whole, ← prefix_append_space_iff grammar.space first rest, ← Text.stripPrefix?_eq_none_iff]
  -- There is a delimiter in any case.
  have inside : (Text.breakOn? grammar.space (first ++ (grammar.space ++ rest))).isSome := by
    rw [Option.isSome_iff_ne_none, Ne, Text.breakOn?_eq_none_iff, not_not]
    exact ⟨first, rest, by simp⟩
  have notEmpty : (String.ofList grammar.space).isEmpty = false := by simpa using nonempty
  cases found : Text.stripPrefix? grammar.space (first ++ (grammar.space ++ rest)) <;>
    simp [reference?, joinedPlaceholder, Key.stripLeading?, spaceText, notEmpty, inside, found, -String.ofList_append]

/-- A character that is none of words is in a name of words if it is in the delimiter. -/
theorem mem_joined_iff {x : Char} (mark : isWord x = false) (each : ∀ w ∈ first :: second :: more, Word w) :
    x ∈ grammar.space.intercalate (first :: second :: more) ↔ x ∈ grammar.space := by
  -- Words have no such character.
  constructor
  · intro member
    rcases Text.mem_intercalate member with inside | ⟨w, among, inside⟩
    · exact inside
    · exact absurd inside ((each w among).not_mem mark)
  · intro member
    simp [intercalate_eq, member]

/-- A name of words in braces is one placeholder and refers to the message of that name exactly if its delimiter has no
opening parenthesis, is not found in front, and closes no braces. -/
theorem joined_iff (usable : grammar.Usable) (each : ∀ w ∈ first :: second :: more, Word w) :
    let name := grammar.space.intercalate (first :: second :: more)
    grammar.tokenize (Fragment.inBraces grammar name) = [.placeholder (grammar.joinedPlaceholder name)] ∧
        grammar.reference? (grammar.joinedPlaceholder name) = some (.absolute (String.ofList name)) ↔
      '(' ∉ grammar.space ∧ ¬ grammar.space <+: first ++ grammar.space ∧ NotClosing grammar.space := by
  intro name
  have word : Word first := each first List.mem_cons_self
  rw [tokenize_inBraces_iff usable, reference?_joined usable.space_ne_nil,
    mem_joined_iff isWord_marks.2.2.2.2.1 each]
  constructor
  · rintro ⟨⟨found, opening⟩, leading⟩
    refine ⟨opening, leading, fun front behind delimiter chars => ?_⟩
    -- Where the name ended at a brace of the delimiter, the second word would be left.
    by_contra some
    have early := dotted?_closing usable.space_ne_nil leading word delimiter chars some
      (second ++ (more.flatMap (grammar.space ++ ·) ++ ['\x7d']))
    have whole : name ++ ['\x7d'] =
        first ++ (grammar.space ++ (second ++ (more.flatMap (grammar.space ++ ·) ++ ['\x7d']))) := by
      simp [name, intercalate_eq, List.append_assoc]
    rw [← whole, found] at early
    simp at early
  · rintro ⟨opening, leading, closing⟩
    exact ⟨⟨dotted?_words usable.space_ne_nil opening closing leading word
      fun w member => each w (List.mem_cons_of_mem _ member), opening⟩, leading⟩

end Joined

section Adjacent

variable {first second w s : List Char}

/-- At the front stand delimiters, one at least, and a name behind them. -/
def Relative (grammar : Grammar) (s : List Char) : Prop :=
  ∃ count c rest, isWord c = true ∧ s = (List.replicate (count + 1) grammar.space).flatten ++ c :: rest

/-- Behind the first character of a name it may end anywhere. -/
theorem insideName_isSome (nonempty : grammar.space ≠ []) (s : List Char) :
    (insideName grammar.space some s).isSome := by
  rw [insideName_eq nonempty]
  simp

/-- A name behind delimiters is read where a character of a word stands behind some of them. -/
theorem dotted?_isSome_iff (nonempty : grammar.space ≠ []) :
    (dotted? grammar.space some s).isSome ↔
      ∃ count c rest, isWord c = true ∧ s = (List.replicate count grammar.space).flatten ++ c :: rest := by
  constructor
  · -- Every delimiter makes the text shorter.
    intro found
    induction length : s.length using Nat.strongRecOn generalizing s with
    | ind size ih =>
      rw [dotted?_eq nonempty, Option.isSome_or, Bool.or_eq_true] at found
      rcases found with behind | here
      · obtain ⟨_, reads⟩ := Option.isSome_iff_exists.1 behind
        obtain ⟨rest, stripped, found⟩ := Option.bind_eq_some_iff.1 reads
        have parts := Text.length_of_stripPrefix? stripped
        have positive := List.length_pos_iff.2 nonempty
        obtain ⟨count, c, after, word, rfl⟩ := ih rest.length (by omega) (by simp [found]) rfl
        refine ⟨count + 1, c, after, word, ?_⟩
        rw [Text.stripPrefix?_eq_some_iff.1 stripped]
        simp [List.replicate_succ]
      · cases s with
        | nil => cases here
        | cons c rest =>
          refine ⟨0, c, rest, ?_, rfl⟩
          by_contra mark
          simp [name?, mark] at here
  · rintro ⟨count, c, rest, word, rfl⟩
    induction count with
    | zero =>
      rw [dotted?_eq nonempty]
      simp [name?, word, insideName_isSome nonempty rest]
    | succ count ih =>
      have stripped :
          Text.stripPrefix? grammar.space ((List.replicate (count + 1) grammar.space).flatten ++ c :: rest) =
          some ((List.replicate count grammar.space).flatten ++ c :: rest) :=
        Text.stripPrefix?_eq_some_iff.2 (by simp [List.replicate_succ])
      rw [dotted?_eq nonempty, stripped]
      simp [ih]

/-- A relative reference is read exactly where one stands at the front. -/
theorem relative_iff (nonempty : grammar.space ≠ []) :
    grammar.Relative s ↔ ((Text.stripPrefix? grammar.space s).bind (dotted? grammar.space some)).isSome := by
  -- A relative reference is a delimiter, some more of them, and a word.
  constructor
  · rintro ⟨count, c, rest, word, rfl⟩
    have stripped : Text.stripPrefix? grammar.space ((List.replicate (count + 1) grammar.space).flatten ++ c :: rest) =
        some ((List.replicate count grammar.space).flatten ++ c :: rest) :=
      Text.stripPrefix?_eq_some_iff.2 (by simp [List.replicate_succ])
    rw [stripped, Option.bind_some, dotted?_isSome_iff nonempty]
    exact ⟨count, c, rest, word, rfl⟩
  · intro reads
    obtain ⟨_, reads⟩ := Option.isSome_iff_exists.1 reads
    obtain ⟨rest, stripped, found⟩ := Option.bind_eq_some_iff.1 reads
    obtain ⟨count, c, after, word, rfl⟩ := (dotted?_isSome_iff nonempty).1 (Option.isSome_of_eq_some found)
    refine ⟨count, c, after, word, ?_⟩
    rw [Text.stripPrefix?_eq_some_iff.1 stripped]
    simp [List.replicate_succ]

/-- Without braces a word is read to its end, with a call if one follows, unless a relative reference stands there. -/
theorem unbraced?_word_append (word : Word w) :
    grammar.unbraced? (w ++ s) = ((Text.stripPrefix? grammar.space (w ++ s)).bind (dotted? grammar.space some)).or
      (some ((call? (s.dropWhile isWord)).getD (s.dropWhile isWord))) := by
  obtain ⟨nonempty, chars⟩ := word
  obtain ⟨c, rest, rfl⟩ := List.exists_cons_of_ne_nil nonempty
  -- Behind the word stands a call, or the reading ends there.
  have reached : withCall some ((rest ++ s).dropWhile isWord) =
      some ((call? (s.dropWhile isWord)).getD (s.dropWhile isWord)) := by
    rw [List.dropWhile_append_of_pos fun d member => chars d (List.mem_cons_of_mem _ member)]
    cases found : call? (s.dropWhile isWord) <;> simp [withCall, found]
  simp [unbraced?, name?, chars c List.mem_cons_self, insideName_word reached]

/-- The placeholder of a word without braces. -/
def barePlaceholder (grammar : Grammar) (w : List Char) : Placeholder :=
  { raw := grammar.placeholder ++ w, body := w, braced := false, request := .named w }

/-- What a name behind delimiters leaves is no longer than the text. -/
theorem length_le_of_dotted? {rest : List Char} (nonempty : grammar.space ≠ [])
    (found : dotted? grammar.space some s = some rest) : rest.length ≤ s.length := by
  -- What a reading leaves is an end of the text.
  have read : grammar.dottedName.find? (fun one => some one.rest) s = some rest :=
    (grammar.find?_dottedName nonempty).trans found
  obtain ⟨one, member, left⟩ := Pattern.exists_of_find? read
  rw [← Option.some.inj left]
  exact Pattern.length_le_of_mem_readings member

/-- A word without the delimiter in it is read, and nothing more, exactly if no relative reference stands in its place
and neither a character of a word nor a call stands behind it. -/
theorem unbraced?_eq_some_iff (nonempty : grammar.space ≠ []) (word : Word w) (noSpace : ¬ grammar.space <:+: w) :
    grammar.unbraced? (w ++ s) = some s ↔
      ¬ grammar.Relative (w ++ s) ∧ s.head?.any isWord = false ∧ call? s = none := by
  rw [unbraced?_word_append word, relative_iff nonempty]
  constructor
  · intro read
    cases relative : (Text.stripPrefix? grammar.space (w ++ s)).bind (dotted? grammar.space some) with
    | some left =>
      -- The delimiter would lie within the word.
      obtain ⟨rest, stripped, found⟩ := Option.bind_eq_some_iff.1 relative
      rw [relative] at read
      obtain rfl : left = s := Option.some.inj read
      have shorter := length_le_of_dotted? nonempty found
      have whole := Text.stripPrefix?_eq_some_iff.1 stripped
      have lengths := congrArg List.length whole
      simp only [List.length_append] at lengths
      have front : grammar.space <+: w :=
        List.prefix_of_prefix_length_le (whole ▸ List.prefix_append _ _) (List.prefix_append w left) (by omega)
      exact absurd front.isInfix noSpace
    | none =>
      rw [relative, Option.none_or] at read
      have behind := (List.dropWhile_suffix isWord (l := s)).length_le
      cases call : call? (s.dropWhile isWord) with
      | some after =>
        -- A call would leave less.
        rw [call] at read
        obtain rfl : after = s := Option.some.inj read
        obtain ⟨args, closed, -⟩ := call?_eq_some_iff.1 call
        rw [closed] at behind
        simp only [List.length_cons, List.length_append] at behind
        omega
      | none =>
        rw [call] at read
        have same : s.dropWhile isWord = s := Option.some.inj read
        refine ⟨Bool.false_ne_true, ?_, same ▸ call⟩
        cases s with
        | nil => rfl
        | cons c rest => simpa using List.dropWhile_eq_self_iff.1 same
  · rintro ⟨noRelative, boundary, noCall⟩
    have same : s.dropWhile isWord = s := dropWhile_word (w := []) (by simp) boundary
    rw [Option.not_isSome_iff_eq_none.1 noRelative, same, noCall]
    rfl

variable (grammar) in
/-- A word stands in no braces. -/
theorem noBraces_of_word (word : Word w) (s : List Char) :
    (Text.stripPrefix? ['\x7b'] (w ++ s)).bind (dotted? grammar.space (withCall closing?)) = none := by
  -- A word does not start with a brace.
  obtain ⟨c, rest, rfl⟩ := List.exists_cons_of_ne_nil word.1
  have different := ne_of_isWord (word.2 c List.mem_cons_self) isWord_marks.2.2.1
  simp [Text.stripPrefix?, different.symm]

/-- A word that is read, and nothing more, makes a placeholder. -/
theorem introduced_of_word (word : Word w) (single : ¬ grammar.placeholder <+: w ++ s)
    (found : grammar.unbraced? (w ++ s) = some s) (position : Nat) :
    grammar.introduced position (w ++ s) = (.placeholder (grammar.barePlaceholder w), w.length) := by
  -- A word has no parenthesis, so that it asks for a value.
  rw [introduced_of_unbraced (Text.stripPrefix?_eq_none_iff.2 single) (grammar.noBraces_of_word word s) found,
    placeholderOf,
    requestOf_eq_named_iff.2 (word.not_mem isWord_marks.2.2.2.2.1)]
  rfl

/-- A word that makes a placeholder is read, and nothing more. -/
theorem unbraced?_of_introduced (usable : grammar.Usable) (word : Word w) {position covered : Nat}
    (introduces : grammar.introduced position (w ++ s) = (.placeholder (grammar.barePlaceholder w), covered)) :
    grammar.unbraced? (w ++ s) = some s := by
  -- An escape would have been preferred.
  have single : ¬ grammar.placeholder <+: w ++ s := by
    rintro ⟨rest, whole⟩
    simp [introduced, Text.stripPrefix?_eq_some_iff.2 whole.symm] at introduces
  obtain ⟨rest, found⟩ : ∃ rest, grammar.unbraced? (w ++ s) = some rest := by
    rw [unbraced?_word_append word]
    cases (Text.stripPrefix? grammar.space (w ++ s)).bind (dotted? grammar.space some) <;> exact ⟨_, rfl⟩
  have noBraces := grammar.noBraces_of_word word s
  obtain ⟨body, whole, -⟩ := matches_of_unbraced usable.space_ne_nil found
  rw [whole] at introduces found noBraces single
  rw [introduced_of_unbraced (Text.stripPrefix?_eq_none_iff.2 single) noBraces found] at introduces
  -- The body of the placeholder is what was read, so that it is the word.
  obtain rfl : body = w := congrArg Placeholder.body (Token.placeholder.inj (Prod.mk.inj introduces).1)
  rw [whole, found, List.append_cancel_left whole]

/-- A word without the delimiters in it that nothing follows makes a placeholder. -/
theorem introduced_last (nonempty : grammar.space ≠ []) (word : Word w) (single : ¬ grammar.placeholder <:+: w)
    (noSpace : ¬ grammar.space <:+: w) (position : Nat) :
    grammar.introduced position w = (.placeholder (grammar.barePlaceholder w), w.length) := by
  have found : grammar.unbraced? (w ++ []) = some [] := by
    rw [unbraced?_eq_some_iff nonempty word noSpace]
    -- A relative reference would have the delimiter in the word.
    refine ⟨?_, rfl, rfl⟩
    rintro ⟨count, c, rest, -, whole⟩
    rw [List.append_nil, List.replicate_succ, List.flatten_cons, List.append_assoc] at whole
    exact noSpace ⟨[], _, whole.symm⟩
  have introduces := introduced_of_word word (fun front => single (by simpa using front.isInfix)) found position
  rwa [List.append_nil] at introduces

/-- A word behind a delimiter does not make it a call. -/
theorem call?_append_word (nonempty : s ≠ []) (word : Word w) : call? (s ++ w) = none ↔ call? s = none := by
  simp only [Option.eq_none_iff_forall_ne_some, Ne, call?_eq_some_iff]
  constructor
  · rintro none after ⟨args, rfl, inside⟩
    exact none (after ++ w) ⟨args, by simp, inside⟩
  · rintro none after ⟨args, whole, inside⟩
    -- The closing parenthesis is not in the word.
    obtain ⟨c, rest, rfl⟩ := List.exists_cons_of_ne_nil nonempty
    rw [List.cons_append] at whole
    obtain ⟨rfl, behind⟩ := List.cons.inj whole
    have notIn : ')' ∉ w := word.not_mem isWord_marks.2.2.2.2.2
    rcases List.append_eq_append_iff.1 behind with ⟨front, rfl, split⟩ | ⟨front, rfl, split⟩
    · exact notIn (by simp [split])
    · cases front with
      | nil =>
        rw [List.nil_append] at split
        exact notIn (split ▸ List.mem_cons_self)
      | cons d more =>
        obtain ⟨rfl, -⟩ := List.cons.inj split
        exact none more ⟨args, rfl, inside⟩

/-- Words behind delimiters are two placeholders exactly if the placeholder delimiter starts with no character of a
word and with no call, and no relative reference stands behind the first one. -/
theorem adjacent_iff (usable : grammar.Usable) (one : Word first) (two : Word second)
    (single : ¬ grammar.placeholder <:+: second) (noSpace : ¬ grammar.space <:+: first ∧ ¬ grammar.space <:+: second) :
    grammar.tokenize (grammar.placeholder ++ (first ++ (grammar.placeholder ++ second))) =
        [.placeholder (grammar.barePlaceholder first), .placeholder (grammar.barePlaceholder second)] ↔
      grammar.placeholder.head?.any isWord = false ∧ call? grammar.placeholder = none ∧
        ¬ grammar.Relative (first ++ (grammar.placeholder ++ second)) := by
  have boundary : (grammar.placeholder ++ second).head?.any isWord = grammar.placeholder.head?.any isWord := by
    rw [List.head?_append_of_ne_nil _ usable.placeholder_ne_nil]
  have reads : grammar.unbraced? (first ++ (grammar.placeholder ++ second)) = some (grammar.placeholder ++ second) ↔
      grammar.placeholder.head?.any isWord = false ∧ call? grammar.placeholder = none ∧
        ¬ grammar.Relative (first ++ (grammar.placeholder ++ second)) := by
    rw [unbraced?_eq_some_iff usable.space_ne_nil one noSpace.1, boundary,
      call?_append_word usable.placeholder_ne_nil two]
    tauto
  rw [← reads, tokenize, dif_pos usable.placeholder_ne_nil]
  constructor
  · intro tokens
    obtain ⟨token, covered, introduces⟩ : ∃ token covered,
        grammar.introduced 0 (first ++ (grammar.placeholder ++ second)) = (token, covered) := ⟨_, _, rfl⟩
    rw [tokensFrom_delimiter usable.placeholder_ne_nil introduces] at tokens
    obtain ⟨rfl, -⟩ := List.cons.inj tokens
    exact unbraced?_of_introduced usable one introduces
  · intro found
    obtain ⟨mark, -, -⟩ := reads.1 found
    have starts := not_prefix_word usable.placeholder_ne_nil mark one (grammar.placeholder ++ second)
    -- Behind the first word a delimiter is left, and the second word with nothing behind it.
    rw [tokensFrom_delimiter usable.placeholder_ne_nil (introduced_of_word one starts found 0), List.drop_left,
      tokensFrom_delimiter usable.placeholder_ne_nil (introduced_last usable.space_ne_nil two single noSpace.2 _),
      List.drop_length, tokensFrom_nil]

end Adjacent

section Delimiters

variable {settings : Settings} {first second : List Char} {more : List (List Char)}

/-- Words can be put together and taken apart: joined in braces they are one placeholder, which refers to the message of
that name, and without braces two of them are two placeholders. -/
structure Unambiguous (grammar : Grammar) (first second : List Char) (more : List (List Char)) : Prop where
  joined : let name := grammar.space.intercalate (first :: second :: more)
    grammar.tokenize (Fragment.inBraces grammar name) = [.placeholder (grammar.joinedPlaceholder name)] ∧
      grammar.reference? (grammar.joinedPlaceholder name) = some (.absolute (String.ofList name))
  adjacent : grammar.tokenize (grammar.placeholder ++ (first ++ (grammar.placeholder ++ second))) =
    [.placeholder (grammar.barePlaceholder first), .placeholder (grammar.barePlaceholder second)]

/-- What delimiters have to be like for that, which the check of the settings does not ask for. -/
structure Distinct (grammar : Grammar) (first second : List Char) : Prop where
  opening : '(' ∉ grammar.space
  leading : ¬ grammar.space <+: first ++ grammar.space
  closing : NotClosing grammar.space
  boundary : grammar.placeholder.head?.any isWord = false
  noCall : call? grammar.placeholder = none
  noRelative : ¬ grammar.Relative (first ++ (grammar.placeholder ++ second))

/-- Delimiters without characters of words and without opening parentheses are like that for all words. -/
theorem distinct_of_marks (usable : grammar.Usable)
    (marks : ∀ c ∈ grammar.placeholder ++ grammar.space, isWord c = false ∧ c ≠ '(') (word : Word first) :
    grammar.Distinct first second := by
  obtain ⟨c, others, space⟩ := List.exists_cons_of_ne_nil usable.space_ne_nil
  obtain ⟨d, rest, placeholder⟩ := List.exists_cons_of_ne_nil usable.placeholder_ne_nil
  have boundary : grammar.space.head?.any isWord = false := by simp [space, (marks c (by simp [space])).1]
  have starts (s : List Char) : ¬ grammar.space <+: first ++ s :=
    not_prefix_word usable.space_ne_nil boundary word s
  exact
    { opening := fun member => (marks '(' (by simp [member])).2 rfl
      leading := starts grammar.space
      closing := fun front behind delimiter inWords => by
        cases front with
        | nil => rfl
        | cons f front =>
          have mark := (marks f (by simp [delimiter])).1
          rw [inWords f List.mem_cons_self] at mark
          cases mark
      boundary := by simp [placeholder, (marks d (by simp [placeholder])).1]
      noCall := by
        have different := (marks d (by simp [placeholder])).2
        rw [placeholder, call?]
        simp [different]
      noRelative := by
        -- A relative reference would start with the namespace delimiter.
        rintro ⟨count, x, after, -, whole⟩
        rw [List.replicate_succ, List.flatten_cons, List.append_assoc] at whole
        exact starts _ ⟨_, whole.symm⟩ }

/-- For settings that pass the check, words in which neither delimiter occurs can be put together and taken apart
exactly if the delimiters are told apart from them. -/
theorem unambiguous_iff (valid : settings.validate = .ok ())
    (words : ∀ w ∈ first :: second :: more, Word w ∧ ¬ settings.placeholderDelimiter.toList <:+: w ∧
      ¬ settings.namespaceDelimiter.toList <:+: w) :
    (ofSettings settings).Unambiguous first second more ↔ (ofSettings settings).Distinct first second := by
  -- The two parts of being unambiguous are three conditions each.
  have usable := Settings.usable_of_validate valid
  have joined := joined_iff usable fun w member => (words w member).1
  have one := words first List.mem_cons_self
  have two := words second (List.mem_cons_of_mem _ List.mem_cons_self)
  have adjacent := adjacent_iff usable one.1 two.1 two.2.1 ⟨one.2.2, two.2.2⟩
  constructor
  · intro clear
    obtain ⟨opening, leading, closing⟩ := joined.1 clear.joined
    obtain ⟨boundary, noCall, noRelative⟩ := adjacent.1 clear.adjacent
    exact { opening, leading, closing, boundary, noCall, noRelative }
  · intro distinct
    exact
      { joined := joined.2 ⟨distinct.opening, distinct.leading, distinct.closing⟩
        adjacent := adjacent.2 ⟨distinct.boundary, distinct.noCall, distinct.noRelative⟩ }

/-- A namespace delimiter that starts with a character of words, and a placeholder delimiter of two characters. -/
theorem unambiguous_iff_tied :
    let settings : Settings := { placeholderDelimiter := "%%", namespaceDelimiter := "‿-" }
    let words : List (List Char) := [['a'], ['b'], ['c']]
    settings.validate = .ok () ∧ (∀ w ∈ words, Word w ∧ ¬ settings.placeholderDelimiter.toList <:+: w ∧
        ¬ settings.namespaceDelimiter.toList <:+: w) ∧
      (ofSettings settings).Unambiguous ['a'] ['b'] [['c']] := by
  intro settings words
  have valid : settings.validate = .ok () := by decide +kernel
  have plain : ∀ w ∈ words, Word w ∧ ¬ settings.placeholderDelimiter.toList <:+: w ∧
      ¬ settings.namespaceDelimiter.toList <:+: w := by
    -- Only the characters of a word are to be gone through, not all there are.
    simp only [Word, ← List.all_eq_true]
    decide +kernel
  have delimiters : ofSettings settings = ⟨['%', '%'], ['‿', '-'], ['|']⟩ := by decide +kernel
  have distinct : (ofSettings settings).Distinct ['a'] ['b'] := by
    rw [delimiters]
    exact
      { opening := by decide
        leading := by decide
        closing := fun front behind delimiter _ => by
          have same : ['‿', '-'] = front ++ '\x7d' :: behind := delimiter
          have inside : '\x7d' ∈ ['‿', '-'] := by rw [same]; simp
          exact absurd inside (by decide)
        boundary := by decide +kernel
        noCall := rfl
        noRelative := (relative_iff (by simp)).not.2 (by decide +kernel) }
  exact ⟨valid, plain, (unambiguous_iff valid plain).2 distinct⟩

/-- Settings pass the check with which a word goes on into the placeholder delimiter, or is a call of it, and with which
a name in braces is a call, or ends within the delimiter. -/
theorem ambiguous_delimiters :
    let tie : Settings := { placeholderDelimiter := "‿" }
    let parentheses : Settings := { placeholderDelimiter := "()" }
    let opening : Settings := { namespaceDelimiter := "(" }
    let brace : Settings := { namespaceDelimiter := "‿\x7d" }
    (∀ settings ∈ [tie, parentheses, opening, brace], settings.validate = .ok () ∧
        (∀ w ∈ [['a'], ['b']], Word w ∧ ¬ settings.placeholderDelimiter.toList <:+: w ∧
          ¬ settings.namespaceDelimiter.toList <:+: w) ∧
        ¬ (ofSettings settings).Unambiguous ['a'] ['b'] []) ∧
      (ofSettings tie).tokenize "‿a‿b".toList =
        [.placeholder ⟨"‿a‿b".toList, "a‿b".toList, false, .named "a‿b".toList⟩] ∧
      (ofSettings opening).tokenize "%\x7ba(b\x7d".toList =
        [.placeholder ⟨"%\x7ba(b\x7d".toList, "a(b".toList, true, .call ['a'] [['b']]⟩] := by
  -- All four settings pass the check, and are shown to be ambiguous by running them on two letters.
  intro tie parentheses opening brace
  have plain (settings : Settings) (listed : settings ∈ [tie, parentheses, opening, brace]) :
      settings.validate = .ok () ∧ ∀ w ∈ [['a'], ['b']], Word w ∧ ¬ settings.placeholderDelimiter.toList <:+: w ∧
        ¬ settings.namespaceDelimiter.toList <:+: w := by
    simp only [Word, ← List.all_eq_true]
    revert settings
    decide +kernel
  refine ⟨fun settings listed => ⟨(plain settings listed).1, (plain settings listed).2, ?_⟩, by decide +kernel,
    by decide +kernel⟩
  simp only [List.mem_cons, List.not_mem_nil, or_false] at listed
  rcases listed with rfl | rfl | rfl | rfl
  · exact fun clear => absurd clear.adjacent (by decide +kernel)
  · exact fun clear => absurd clear.adjacent (by decide +kernel)
  · exact fun clear => absurd clear.joined.1 (by decide +kernel)
  · exact fun clear => absurd clear.joined.1 (by decide +kernel)

end Delimiters

end Phrasebook.Grammar
