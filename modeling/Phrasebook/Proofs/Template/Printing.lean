import Phrasebook.Proofs.Template.Scanned

/-! Templates are printed fragment by fragment, and tokenizing what has been printed gives the fragments back. -/

namespace Phrasebook

open Pattern (literal)

/-- A fragment of a template as it is written: text, an escaped delimiter, or a placeholder in braces, which is a name
or a call with arguments. -/
inductive Fragment where
  | text (source : List Char)
  | escaped
  | named (name : List Char)
  | call (name : List Char) (arguments : List (List Char))
deriving DecidableEq, Repr

namespace Fragment

variable (grammar : Grammar)

/-- A placeholder in braces, with its delimiter. -/
def inBraces (body : List Char) : List Char :=
  grammar.placeholder ++ '\x7b' :: (body ++ ['\x7d'])

/-- What stands between the braces of a call. -/
def callBody (name : List Char) (arguments : List (List Char)) : List Char :=
  name ++ '(' :: (grammar.argument.intercalate arguments ++ [')'])

/-- A fragment written down. -/
def print : Fragment → List Char
  | text source => source
  | escaped => grammar.placeholder ++ grammar.placeholder
  | named name => inBraces grammar name
  | call name arguments => inBraces grammar (callBody grammar name arguments)

/-- The token that a fragment stands for. -/
def token : Fragment → Token
  | text source => .text source
  | escaped => .escaped (grammar.placeholder ++ grammar.placeholder)
  | named name => .placeholder ⟨inBraces grammar name, name, true, .named name⟩
  | call name arguments =>
    let body := callBody grammar name arguments
    .placeholder ⟨inBraces grammar body, body, true, .call name arguments⟩

/-- Text is printed as it is. -/
@[simp] theorem print_text (source : List Char) : (text source).print grammar = source :=
  rfl

/-- Text is a token of its own. -/
@[simp] theorem token_text (source : List Char) : (text source).token grammar = .text source :=
  rfl

/-- A fragment other than text whose name, if it has one, is a name of the grammar, and whose arguments, if it has
some, are without brackets and can be told apart. -/
inductive Marked : Fragment → Prop where
  | escaped : Marked escaped
  | named {name : List Char} (fits : grammar.dottedName.Matches name) : Marked (named name)
  | call {name : List Char} {arguments : List (List Char)} (fits : grammar.dottedName.Matches name)
    (plain : ∀ argument ∈ arguments, ∀ c ∈ argument, Grammar.isCallChar c = true)
    (separated : Text.Separates grammar.argument arguments) : Marked (call name arguments)

/-- Fragments that can be told apart once they are written down: between two texts stands another fragment, the
delimiter occurs first behind every text that another fragment follows, and not at all in a text at the end. -/
inductive Printable : List Fragment → Prop where
  | nil : Printable []
  | last {source : List Char} (nonempty : source ≠ []) (absent : ¬ grammar.placeholder <:+: source) :
    Printable [text source]
  | marked {fragment : Fragment} {rest : List Fragment} (marked : Marked grammar fragment) (more : Printable rest) :
    Printable (fragment :: rest)
  | text {source : List Char} {fragment : Fragment} {rest : List Fragment} (nonempty : source ≠ [])
    (first : Text.EndsFirst grammar.placeholder source) (marked : Marked grammar fragment) (more : Printable rest) :
    Printable (text source :: fragment :: rest)

end Fragment

namespace Grammar

variable {grammar : Grammar}

section Bodies

variable {name body : List Char}

/-- A name is without the characters that are neither in the delimiter nor in words. -/
theorem dottedName_avoids {x : Char} (apart : x ∉ grammar.space) (noWord : Unicode.isWord x = false) :
    grammar.dottedName.Avoids x := by
  have delimiter := Pattern.avoids_literal apart
  exact ⟨delimiter, ⟨noWord, noWord⟩, delimiter, noWord, noWord⟩

/-- A closing brace is in no body, unless it is in the delimiter. -/
theorem dottedPattern_avoids (apart : '\x7d' ∉ grammar.space) : grammar.dottedPattern.Avoids '\x7d' := by
  have noWord : Unicode.isWord '\x7d' = false := by decide +kernel
  exact ⟨dottedName_avoids apart noWord, optional_callPattern_avoids⟩

/-- A body without a closing brace is read up to its brace. -/
theorem first?_body (usable : grammar.Usable) (apart : '\x7d' ∉ grammar.space)
    (fits : grammar.dottedPattern.Matches body) (rest : List Char) :
    grammar.bracedPattern.first? (body ++ '\x7d' :: rest) = some ⟨[], rest⟩ := by
  -- Every body that is read ends at the first closing brace.
  have noBrace {read : List Char} (readFits : grammar.dottedPattern.Matches read) :
      ∀ c ∈ read, (c != '\x7d') = true := by
    rintro c member
    have absent := Pattern.not_mem_of_matches readFits (dottedPattern_avoids apart)
    exact bne_iff_ne.2 fun same => absent (same ▸ member)
  obtain ⟨left, found⟩ := Option.isSome_iff_exists.1 (isSome_of_matches usable.space_ne_nil fits rest)
  obtain ⟨read, same, readFits⟩ := matches_of_braced usable.space_ne_nil found
  obtain ⟨_, _, rfl⟩ := Text.append_cons_inj same (noBrace fits) (noBrace readFits) rfl rfl
  rw [first?_bracedPattern usable.space_ne_nil, found, Option.map_some]

/-- A delimiter introduces what is written in braces behind it. -/
theorem introduces_inBraces (usable : grammar.Usable) (apart : '\x7d' ∉ grammar.space)
    (fits : grammar.dottedPattern.Matches body) (position : Nat) (rest : List Char) :
    grammar.Introduces position ('\x7b' :: (body ++ ['\x7d'])) rest
      (grammar.placeholderOf (Fragment.inBraces grammar body) body true) := by
  refine .braced ?_ fits (first?_body usable apart fits rest)
  -- The delimiter does not start with a brace.
  rintro ⟨more, whole⟩
  cases delimiter : grammar.placeholder with
  | nil => exact usable.placeholder_ne_nil delimiter
  | cons d others =>
    rw [delimiter] at whole
    obtain ⟨rfl, _⟩ := List.cons.inj whole
    have allowed := usable.placeholder_allowed '\x7b' (by simp [delimiter])
    simp [Settings.forbids] at allowed

/-- A name asks for a value. -/
theorem requestOf_name (apart : '(' ∉ grammar.space) (fits : grammar.dottedName.Matches name) :
    grammar.requestOf name = .named name := by
  -- A name has no parenthesis, with which a call would start.
  have noWord : Unicode.isWord '(' = false := by decide +kernel
  have absent := Pattern.not_mem_of_matches fits (dottedName_avoids apart noWord)
  rw [requestOf, Text.breakOn?_eq_none absent]

/-- A call asks for a choice among its arguments. -/
theorem requestOf_callBody (usable : grammar.Usable) (apart : '(' ∉ grammar.space)
    (fits : grammar.dottedName.Matches name) {arguments : List (List Char)}
    (separated : Text.Separates grammar.argument arguments) :
    grammar.requestOf (Fragment.callBody grammar name arguments) = .call name arguments := by
  -- The first parenthesis of the body is the one that is written: neither words nor the delimiter have another.
  have noWord : Unicode.isWord '(' = false := by decide +kernel
  have absent := Pattern.not_mem_of_matches fits (dottedName_avoids apart noWord)
  rw [requestOf, Fragment.callBody, Text.breakOn?_eq_some absent]
  simp [Text.splitOn_intercalate usable.argument_ne_nil separated]

/-- Characters of parts and of the delimiter are all there is between them. -/
theorem forall_mem_intercalate {p : Char → Prop} {d : List Char} {parts : List (List Char)}
    (delimiter : ∀ c ∈ d, p c) (inside : ∀ part ∈ parts, ∀ c ∈ part, p c) : ∀ c ∈ d.intercalate parts, p c := by
  -- Part by part, with the delimiter between two of them.
  induction parts with
  | nil => simp
  | cons part more ih =>
    have here := inside part (List.mem_cons_self ..)
    have there := ih fun other member => inside other (List.mem_cons_of_mem _ member)
    cases more with
    | nil => simpa using here
    | cons next others =>
      rw [List.intercalate_cons_cons]
      intro c member
      rcases List.mem_append.1 member with member | member
      · exact (List.mem_append.1 member).elim (here c) (delimiter c)
      · exact there c member

/-- A name with arguments is a body. -/
theorem matches_callBody (usable : grammar.Usable) (fits : grammar.dottedName.Matches name)
    {arguments : List (List Char)} (plain : ∀ argument ∈ arguments, ∀ c ∈ argument, isCallChar c = true) :
    grammar.dottedPattern.Matches (Fragment.callBody grammar name arguments) := by
  -- A delimiter between arguments has no parentheses and no braces either.
  have delimiter : ∀ c ∈ grammar.argument, isCallChar c = true := by
    intro c member
    have allowed := usable.argument_allowed c member
    simp_all [Settings.forbids, isCallChar]
  have inside := forall_mem_intercalate delimiter plain
  have opening := Pattern.matches_literal ['(']
  have closing := Pattern.matches_literal [')']
  exact .seq fits (.first (.seq opening (.seq (Pattern.matches_many_char inside) closing)))

/-- A name is a body. -/
theorem matches_name (fits : grammar.dottedName.Matches name) : grammar.dottedPattern.Matches name := by
  -- The call of a body may be left out.
  have noCall : (Pattern.optional callPattern).Matches [] := .second .nothing
  have body := Pattern.Matches.seq fits noCall
  rwa [List.append_nil] at body

end Bodies

section Fragments

/-- A fragment other than text is a delimiter and what it introduces. -/
theorem exists_introduces_token (usable : grammar.Usable) (opening : '(' ∉ grammar.space)
    (closing : '\x7d' ∉ grammar.space) {fragment : Fragment} (marked : fragment.Marked grammar) :
    ∃ covered, fragment.print grammar = grammar.placeholder ++ covered ∧
      ∀ position rest, grammar.Introduces position covered rest (fragment.token grammar) := by
  -- By the kinds of fragments: an escape, a name between braces, a call between braces.
  cases marked with
  | escaped => exact ⟨_, rfl, fun _ _ => .escaped⟩
  | @named name fits =>
    refine ⟨_, rfl, fun position rest => ?_⟩
    have introduces := introduces_inBraces usable closing (matches_name fits) position rest
    rwa [placeholderOf, requestOf_name opening fits] at introduces
  | @call name arguments fits plain separated =>
    refine ⟨_, rfl, fun position rest => ?_⟩
    have introduces := introduces_inBraces usable closing (matches_callBody usable fits plain) position rest
    rwa [placeholderOf, requestOf_callBody usable opening fits separated] at introduces

/-- What is printed has the tokens that the fragments stand for. -/
theorem scanned_print (usable : grammar.Usable) (opening : '(' ∉ grammar.space) (closing : '\x7d' ∉ grammar.space)
    {fragments : List Fragment} (printable : Fragment.Printable grammar fragments) (position : Nat) :
    grammar.Scanned position (fragments.flatMap (Fragment.print grammar)) (fragments.map (Fragment.token grammar)) := by
  -- Behind every fragment that is not text the scan starts afresh.
  induction printable generalizing position with
  | nil => exact .text fun present => usable.placeholder_ne_nil (List.infix_nil.1 present)
  | @last source nonempty absent =>
    have token : textToken source = [.text source] := by simp [textToken, nonempty]
    simpa [token] using Scanned.text absent
  | @marked fragment rest marked more ih =>
    obtain ⟨covered, print, introduces⟩ := exists_introduces_token usable opening closing marked
    have scanned := Scanned.token (Text.endsFirst_nil grammar.placeholder)
      (introduces _ (rest.flatMap (Fragment.print grammar)))
      (ih (position + byteLength ([] ++ (grammar.placeholder ++ covered))))
    simpa [print, textToken] using scanned
  | @text source fragment rest nonempty first marked more ih =>
    -- The text ends at the delimiter of the fragment behind it, and not before.
    obtain ⟨covered, print, introduces⟩ := exists_introduces_token usable opening closing marked
    have token : textToken source = [.text source] := by simp [textToken, nonempty]
    have scanned := Scanned.token first (introduces _ (rest.flatMap (Fragment.print grammar)))
      (ih (position + byteLength (source ++ (grammar.placeholder ++ covered))))
    simpa [print, token] using scanned

/-- For settings that pass the check and whose namespace delimiter has no opening parenthesis and no closing brace in
it, tokenizing what has been printed gives back the tokens of the fragments. -/
theorem tokenize_print (settings : Settings) (valid : settings.validate = .ok ())
    (opening : '(' ∉ settings.namespaceDelimiter.toList) (closing : '\x7d' ∉ settings.namespaceDelimiter.toList)
    (fragments : List Fragment) (printable : Fragment.Printable (ofSettings settings) fragments) :
    (ofSettings settings).tokenize (fragments.flatMap (Fragment.print (ofSettings settings))) =
      fragments.map (Fragment.token (ofSettings settings)) := by
  have usable := Settings.usable_of_validate valid
  exact ((scanned_iff usable _ _).1 (scanned_print usable opening closing printable 0)).symm

/-- A template with an escaped delimiter next to a placeholder, and the delimiter within an argument. -/
theorem tokenize_print_neighbours :
    let settings : Settings := { placeholderDelimiter := "%%", argumentDelimiter := "||" }
    let fragments : List Fragment := [.text ['a'], .escaped, .named ['.', 'b'], .call ['p'] [['%', '%'], [], ['s']]]
    settings.validate = .ok () ∧ '(' ∉ settings.namespaceDelimiter.toList ∧
      '\x7d' ∉ settings.namespaceDelimiter.toList ∧ Fragment.Printable (ofSettings settings) fragments ∧
      fragments.flatMap (Fragment.print (ofSettings settings)) = "a%%%%%%\x7b.b\x7d%%\x7bp(%%||||s)\x7d".toList ∧
      (ofSettings settings).tokenize (fragments.flatMap (Fragment.print (ofSettings settings))) =
        fragments.map (Fragment.token (ofSettings settings)) := by
  intro settings fragments
  have valid : settings.validate = .ok () := by decide +kernel
  have opening : '(' ∉ settings.namespaceDelimiter.toList := by decide
  have closing : '\x7d' ∉ settings.namespaceDelimiter.toList := by decide
  have delimiters : ofSettings settings = ⟨['%', '%'], ['.'], ['|', '|']⟩ := by decide +kernel
  have printable : Fragment.Printable (ofSettings settings) fragments := by
    rw [delimiters]
    have word (c : Char) (accepted : Unicode.isWord c = true) : word.Matches [c] :=
      .seq (a := [c]) (.char accepted) .done
    have named : (dottedName ⟨['%', '%'], ['.'], ['|', '|']⟩).Matches ['.', 'b'] :=
      .seq (a := ['.']) (.more (a := ['.']) (Pattern.matches_literal ['.']) .done)
        (.seq (a := ['b']) (word 'b' (by decide +kernel)) .done)
    have called : (dottedName ⟨['%', '%'], ['.'], ['|', '|']⟩).Matches ['p'] :=
      .seq .done (.seq (a := ['p']) (word 'p' (by decide +kernel)) .done)
    -- Neither the text nor an argument runs into the delimiter behind it.
    have text : Text.EndsFirst ['%', '%'] ['a'] := Text.endsFirst_of_breakOn? (s := ['a', '%', '%']) rfl
    have argument : Text.EndsFirst ['|', '|'] ['%', '%'] :=
      Text.endsFirst_of_breakOn? (s := ['%', '%', '|', '|']) rfl
    have last : ¬ ['|', '|'] <:+: ['s'] := by decide
    have call : Fragment.Marked _ (.call ['p'] [['%', '%'], [], ['s']]) :=
      .call called (by simp [isCallChar]) ⟨argument, Text.endsFirst_nil _, last⟩
    exact .text (by decide) text .escaped (.marked (.named named) (.marked call .nil))
  exact ⟨valid, opening, closing, printable, by decide +kernel,
    tokenize_print settings valid opening closing fragments printable⟩

end Fragments

end Grammar

end Phrasebook
