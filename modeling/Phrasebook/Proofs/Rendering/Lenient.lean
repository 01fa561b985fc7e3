import Mathlib.Algebra.Order.BigOperators.Group.List
import Mathlib.Algebra.Order.Group.Nat
import Phrasebook.Proofs.Rendering.Splicing
import Phrasebook.Rendering.Variants

/-! Formatting when all that is missing is passed over: what has no template of its own becomes the key, which is then
read as a template. Main statement: nothing fails and the key is left alone exactly if reading it changes nothing. -/

namespace Phrasebook

/-- The members of a message: itself, unless it is a list of variants. -/
def Value.members : Value → List Variant
  | .scalar template => [.text template]
  | .plural forms => [.plural forms]
  | .variants members => members

/-- The texts of a formatted message. -/
def Translation.results : Translation → List (Except Error String)
  | .text spelled => [.ok spelled]
  | .variants set => set.members.map set.formatter.formatVariant

/-- A category that a count does not lead to has no template: neither the one it asks for nor `many`. -/
theorem Forms.get?_select_eq_none_iff {forms : Forms} {count few : Int} :
    forms.get? (Category.select count few forms) = none ↔
      (∀ category, Category.preferred? count few = some category → forms.get? category = none) ∧
        forms.many = none := by
  unfold Category.select
  cases asked : Category.preferred? count few with
  | none => simp [get?]
  | some category =>
    rw [Option.filter_some]
    -- The category that is asked for is taken if it has a template, and `many` otherwise.
    cases held : forms.get? category with
    | none => simp [contains, held, show forms.get? .many = forms.many from rfl]
    | some template => simp [contains, held]

namespace Formatter

variable {formatter : Formatter} {value : Value} {template : String} {tokens : List Token}

/-- A formatter that passes over what is missing, without handlers and without functions for its locale. -/
structure Permissive (formatter : Formatter) : Prop where
  placeholder_ignored : formatter.settings.onMissingPlaceholder = .ignore
  plural_ignored : formatter.settings.onMissingPlural = .ignore
  no_placeholder_handler : formatter.handlers.placeholder = none
  no_plural_handler : formatter.handlers.plural = none
  no_functions : ∀ name, formatter.functions.lookup? name formatter.locale = none

/-- The template that the count selects among plural forms, if there is a count and it selects one. -/
def formOf? (formatter : Formatter) (forms : Forms) : Option String :=
  formatter.count?.bind fun count =>
    forms.get? (Category.select count formatter.settings.fewThreshold forms)

/-- Plural forms that cannot be reduced to one of them: there is no whole count, or neither the category that the count
prefers nor `many` has a template. -/
def Irreducible (formatter : Formatter) : Variant → Prop
  | .text _ => False
  | .plural forms => ∀ count, formatter.count? = some count →
      (∀ category, Category.preferred? count formatter.settings.fewThreshold = some category →
        forms.get? category = none) ∧ forms.many = none

/-- The template a member is reduced to: one of its own, or else the key. -/
def reduced (formatter : Formatter) : Variant → String
  | .text template => template
  | .plural forms => (formatter.formOf? forms).getD formatter.key

/-- A message is formatted without a failure, and each of its members that cannot be reduced gives the key. -/
def Lenient (formatter : Formatter) (value : Value) : Prop :=
  ∃ translation, formatter.format value = .ok translation ∧
    List.Forall₂ (fun member result =>
      ∃ spelled, result = .ok spelled ∧ (formatter.Irreducible member → spelled = formatter.key))
      value.members translation.results

/-- What is written in the stead of a token that stands for something: the value of an argument, a single delimiter, or
the token as it is. -/
def written (formatter : Formatter) : Token → List Char
  | .text source => source
  | .escaped _ => formatter.grammar.placeholder
  | .invalid raw _ => raw
  | .placeholder found =>
    match found.request with
    | .call _ _ => found.raw
    | .named name =>
      match formatter.arguments.get? (String.ofList name) with
      | some argument => argument.display.toList
      | none => found.raw

/-- The key is read as a template that says the key. -/
def Echoes (formatter : Formatter) : Prop :=
  (∀ token ∈ formatter.grammar.tokenize formatter.key.toList, token.Valid) ∧
    (formatter.grammar.tokenize formatter.key.toList).flatMap formatter.written = formatter.key.toList

/-- Nothing is selected among forms that cannot be reduced. -/
theorem irreducible_plural_iff {forms : Forms} :
    formatter.Irreducible (.plural forms) ↔ formatter.formOf? forms = none := by
  -- Without a count no form is selected at all.
  unfold Irreducible formOf?
  cases formatter.count? with
  | none => simp
  | some count => simp [Forms.get?_select_eq_none_iff]

/-- What cannot be reduced becomes the key. -/
theorem reduced_of_irreducible {member : Variant} (irreducible : formatter.Irreducible member) :
    formatter.reduced member = formatter.key := by
  -- Only forms can be without one that fits.
  cases member with
  | text template => exact irreducible.elim
  | plural forms => rw [reduced, irreducible_plural_iff.1 irreducible, Option.getD_none]

section Permissive

variable (permissive : formatter.Permissive)
include permissive

/-- What has no value is left as it is written. -/
theorem Permissive.missing_eq (template : String) (found : Placeholder) (error : Error) :
    formatter.missing template found error = .ok (String.ofList found.raw) := by
  simp only [missing, permissive.no_placeholder_handler, permissive.placeholder_ignored, Policy.choose]

/-- A token that stands for something has a text. -/
theorem Permissive.tokenText_eq (template : String) {token : Token} (valid : token.Valid) :
    formatter.tokenText template token = .ok (String.ofList (formatter.written token)) := by
  cases token with
  | text source => rfl
  | escaped raw => rfl
  | invalid raw position => exact valid.elim
  | placeholder found =>
    -- A name may have a value, and nothing answers a call.
    simp only [tokenText, replacement, written]
    cases found.request with
    | named name =>
      simp only
      cases formatter.arguments.get? (String.ofList name) with
      | some argument => simp
      | none => exact permissive.missing_eq template found _
    | call name arguments =>
      simp only [permissive.no_functions]
      exact permissive.missing_eq template found _

/-- A template that passes the check has the text that is written for its tokens, and any other one the error of the
check. -/
theorem Permissive.substitute_eq (template : String) : formatter.substitute template =
    (formatter.grammar.check template).map fun _ =>
      String.ofList ((formatter.grammar.tokenize template.toList).flatMap formatter.written) := by
  change formatter.text template (formatter.grammar.tokenize template.toList) = _
  unfold Grammar.check Grammar.invalidPosition?
  -- The first token that introduces nothing decides both.
  induction formatter.grammar.tokenize template.toList with
  | nil => rfl
  | cons token rest ih =>
    rw [text_cons, ih]
    by_cases valid : token.Valid
    · rw [permissive.tokenText_eq template valid]
      cases token with
      | invalid raw position => exact valid.elim
      | _ =>
        simp only [List.findSome?_cons]
        split <;> simp [joined, Except.bind, Except.map]
    · cases token with
      | invalid raw position => rfl
      | _ => exact absurd trivial valid

/-- Reading the key gives the key exactly if it says itself. -/
theorem Permissive.substitute_key_iff : formatter.substitute formatter.key = .ok formatter.key ↔ formatter.Echoes := by
  -- The key is written token by token if it passes the check.
  rw [permissive.substitute_eq, Echoes, ← Grammar.check_eq_ok_iff]
  cases formatter.grammar.check formatter.key with
  | error error => simp [Except.map]
  | ok passed => simp [Except.map, ← String.toList_inj]

/-- A member is reduced to a template whatever it has. -/
theorem Permissive.pluralizeVariant_eq (member : Variant) :
    formatter.pluralizeVariant member = .ok (formatter.reduced member) := by
  -- Neither a count without a form nor forms without a count are an error, as both are passed over.
  cases member with
  | text template => rfl
  | plural forms =>
    simp only [pluralizeVariant, pluralize, reduced, formOf?]
    cases formatter.count? with
    | none =>
      simp [Selector.resolveWithoutCount, selector, permissive.no_plural_handler, permissive.plural_ignored,
        Policy.choose]
    | some count =>
      simp only [Selector.resolve, Selector.tryResolve, Selector.tryForms, selector, permissive.no_plural_handler,
        permissive.plural_ignored, Policy.choose, Option.bind_some]
      cases forms.get? (Category.select count formatter.settings.fewThreshold forms) <;> rfl

/-- A single template is not reduced by a count. -/
theorem Permissive.pluralize_scalar (template : String) : formatter.pluralize (.scalar template) = .ok template := by
  -- That a count does not fit a single template is passed over.
  unfold pluralize
  cases formatter.count? with
  | none => rfl
  | some count =>
    simp [Selector.resolve, Selector.tryResolve, selector, permissive.no_plural_handler, permissive.plural_ignored,
      Policy.choose]

/-- Variants are reduced at once or when they are asked for, and then say the same. -/
theorem Permissive.format_variants (members : List Variant) :
    ∃ set, formatter.format (.variants members) = .ok (.variants set) ∧
      (Translation.variants set).results =
        members.map fun member => formatter.substitute (formatter.reduced member) := by
  have texts : formatter.formatVariant = fun member => formatter.substitute (formatter.reduced member) := by
    funext member
    rw [formatVariant, permissive.pluralizeVariant_eq]
    rfl
  -- Without a count the members are reduced when they are asked for, and with one they are reduced now.
  unfold format
  cases formatter.count? with
  | none => exact ⟨⟨members, formatter⟩, rfl, by rw [Translation.results, texts]⟩
  | some count =>
    have reduces : members.mapM (fun member => (formatter.pluralizeVariant member).map Variant.text) =
        .ok (members.map fun member => Variant.text (formatter.reduced member)) := by
      simp only [permissive.pluralizeVariant_eq]
      exact List.mapM_pure
    refine ⟨⟨members.map fun member => Variant.text (formatter.reduced member), formatter⟩, ?_, ?_⟩
    · simp only [reduces]
      rfl
    · rw [Translation.results, texts, List.map_map]
      rfl

omit permissive in
/-- A message that is one member is what its template says. -/
theorem lenient_single {member : Variant} (only : value.members = [member])
    (formats : formatter.format value = (formatter.substitute (formatter.reduced member)).map .text) :
    formatter.Lenient value ↔ ∃ spelled, formatter.substitute (formatter.reduced member) = .ok spelled ∧
      (formatter.Irreducible member → spelled = formatter.key) := by
  -- What is formatted is one text or an error.
  unfold Lenient
  rw [formats, only]
  cases formatter.substitute (formatter.reduced member) with
  | error error => simp [Except.map]
  | ok spelled => simp [Except.map, Translation.results]

/-- A message is treated leniently if each of its members is. -/
theorem Permissive.lenient_iff_members (value : Value) : formatter.Lenient value ↔ ∀ member ∈ value.members,
    ∃ spelled, formatter.substitute (formatter.reduced member) = .ok spelled ∧
      (formatter.Irreducible member → spelled = formatter.key) := by
  -- By the kinds of messages; the first two have one member.
  cases value with
  | scalar template =>
    rw [lenient_single rfl (by simp only [format, permissive.pluralize_scalar]; rfl)]
    simp [Value.members]
  | plural forms =>
    have reduces := permissive.pluralizeVariant_eq (.plural forms)
    rw [pluralizeVariant] at reduces
    rw [lenient_single rfl (by simp only [format, reduces]; rfl)]
    simp [Value.members]
  | variants members =>
    obtain ⟨set, formats, results⟩ := permissive.format_variants members
    unfold Lenient
    rw [formats]
    simp [results, Value.members, List.forall₂_map_right_iff, List.forall₂_same]

end Permissive

end Formatter

/-- A token that is written as it is, whatever the arguments. -/
def Token.Literal : Token → Prop
  | .text _ => True
  | .escaped raw => raw = []
  | .placeholder found => ∀ name, found.request ≠ .named name
  | .invalid _ _ => False

namespace Grammar

variable {grammar : Grammar}

/-- An escape that is introduced is two delimiters. -/
theorem raw_of_introduced {position : Nat} {s raw : List Char}
    (escapes : (grammar.introduced position s).1 = .escaped raw) :
    raw = grammar.placeholder ++ grammar.placeholder := by
  -- Only two delimiters in a row introduce an escape.
  simp only [introduced, placeholderOf] at escapes
  split at escapes
  · exact (Token.escaped.inj escapes).symm
  · split at escapes
    · cases escapes
    · split at escapes <;> cases escapes

/-- An escape in a template is two delimiters. -/
theorem raw_of_escaped {s raw : List Char} (member : .escaped raw ∈ grammar.tokenize s) :
    raw = grammar.placeholder ++ grammar.placeholder := by
  have inText (before : List Char) : .escaped raw ∉ textToken before := by
    unfold textToken
    split <;> simp
  unfold tokenize at member
  split at member
  · next nonempty =>
    generalize 0 = position at member
    -- The induction follows the scan from one delimiter to the next.
    fun_induction grammar.tokensFrom nonempty position s with
    | case1 position s absent => exact absurd member (inText s)
    | case2 position s before after cut start token covered introduced ih =>
      simp only [List.mem_append, List.mem_cons, inText, false_or] at member
      rcases member with rfl | later
      · exact raw_of_introduced (congrArg Prod.fst introduced)
      · exact ih later
  · next empty =>
    -- Around every character stand empty delimiters.
    have none : grammar.placeholder = [] := not_not.1 empty
    rw [none]
    simpa [or_iff_left_of_imp And.right] using member

end Grammar

namespace Formatter

variable {formatter : Formatter} {value : Value}

/-- Nothing is written for a literal token but itself. -/
theorem written_of_literal {token : Token} (member : token ∈ formatter.grammar.tokenize formatter.key.toList)
    (literal : token.Literal) : formatter.written token = token.source := by
  -- By the kinds of tokens: an escape is literal only without a text, a placeholder only as a call.
  cases token with
  | text source => rfl
  | invalid raw position => rfl
  | escaped raw =>
    obtain rfl : raw = [] := literal
    exact (List.append_eq_nil_iff.1 (Grammar.raw_of_escaped member).symm).1
  | placeholder found =>
    cases requested : found.request with
    | call name arguments => simp only [written, requested, Token.source]
    | named name => exact absurd requested (literal name)

/-- Without arguments nothing is written for a token that is longer than the token. -/
theorem length_written_le (bare : formatter.arguments = .empty) {token : Token}
    (member : token ∈ formatter.grammar.tokenize formatter.key.toList) :
    (formatter.written token).length ≤ token.source.length := by
  -- By the kinds of tokens: an escape is halved, and a name is written as nothing or as it is.
  cases token with
  | text source => exact le_refl _
  | invalid raw position => exact le_refl _
  | escaped raw =>
    rw [Token.source, Grammar.raw_of_escaped member, List.length_append]
    exact Nat.le_add_right _ _
  | placeholder found =>
    cases requested : found.request with
    | call name arguments => simp only [written, requested, Token.source, Nat.le_refl]
    | named name => simp [written, requested, bare, Token.source]

/-- A key that says itself without arguments holds no escape, since an escape is written shorter than it is. -/
theorem Echoes.raw_eq_nil (echoes : formatter.Echoes) (bare : formatter.arguments = .empty) {raw : List Char}
    (member : .escaped raw ∈ formatter.grammar.tokenize formatter.key.toList) : raw = [] := by
  by_contra nonempty
  have delimited := Grammar.raw_of_escaped member
  have shorter : (formatter.written (.escaped raw)).length < (Token.escaped raw).source.length := by
    have := List.length_pos_iff.2 nonempty
    simp only [written, Token.source, delimited, List.length_append] at this ⊢
    omega
  -- No token is written longer than it is, so that the key would be written shorter than it is.
  have lengths := congrArg List.length (echoes.2.trans (formatter.grammar.tokenize_sources formatter.key.toList).symm)
  rw [List.length_flatMap, List.length_flatMap] at lengths
  exact absurd lengths (List.sum_lt_sum _ _ (fun _ found => length_written_le bare found) ⟨_, member, shorter⟩).ne

/-- A key that says itself is at least as long as what is written for each of its tokens. -/
theorem Echoes.length_written_le (echoes : formatter.Echoes) {token : Token}
    (member : token ∈ formatter.grammar.tokenize formatter.key.toList) :
    (formatter.written token).length ≤ formatter.key.toList.length := by
  -- What is written for the token is a part of what is written for all of them.
  have whole := echoes.2
  rw [List.flatMap_def] at whole
  rw [← whole]
  exact (List.sublist_flatten_of_mem (List.mem_map_of_mem member)).length_le

/-- The key says itself whatever the arguments exactly if all its tokens are literal. -/
theorem forall_echoes_iff (formatter : Formatter) : (∀ arguments, Echoes { formatter with arguments }) ↔
    ∀ token ∈ formatter.grammar.tokenize formatter.key.toList, token.Literal := by
  have sources := formatter.grammar.tokenize_sources formatter.key.toList
  constructor
  · intro echoes token member
    cases token with
    | text source => trivial
    | invalid raw position => exact (echoes .empty).1 _ member
    | escaped raw => exact (echoes .empty).raw_eq_nil rfl member
    | placeholder found =>
      intro name requested
      -- A value longer than the key does not leave the key as it is.
      have fits := (echoes (Dict.empty.insert (String.ofList name) (.text (formatter.key ++ "x")))).length_written_le
        member
      simp [written, requested, Dict.get?_insert, Argument.display] at fits
  · intro literal arguments
    refine ⟨fun token member => ?_, ?_⟩
    · have isLiteral := literal token member
      cases token with
      | invalid raw position => exact isLiteral
      | _ => trivial
    · conv => rhs; rw [← sources]
      exact List.flatMap_congr fun token member =>
        show written { formatter with arguments } token = token.source from
          written_of_literal member (literal token member)

/-- A member that can be reduced is reduced to one of the message's templates. -/
theorem reduced_mem_templates {member : Variant} (found : member ∈ value.members)
    (reducible : ¬ formatter.Irreducible member) : formatter.reduced member ∈ value.templates := by
  have own : formatter.reduced member ∈ member.templates := by
    cases member with
    | text template => exact List.mem_singleton_self _
    | plural forms =>
      obtain ⟨template, selected⟩ := Option.ne_none_iff_exists'.1 (mt irreducible_plural_iff.2 reducible)
      obtain ⟨count, _, holds⟩ := Option.bind_eq_some_iff.1 selected
      simp only [reduced, selected, Option.getD_some]
      exact Forms.mem_templates.2 ⟨_, holds⟩
  -- The templates of a message are those of its members.
  cases value with
  | scalar template =>
    obtain rfl := List.mem_singleton.1 found
    exact own
  | plural forms =>
    obtain rfl := List.mem_singleton.1 found
    exact own
  | variants members => exact List.mem_flatMap.2 ⟨member, found, own⟩

/-- With everything missing passed over, a message whose templates pass the check is formatted without a failure, and
gives the key in the stead of what cannot be reduced, exactly if there is no such member or the key, read as a
template, says itself; and it does so whatever the arguments exactly if it holds no placeholder of an argument and no
delimiter but in calls. -/
theorem lenient_iff (permissive : formatter.Permissive) (checked : value.Checked formatter.grammar) :
    (formatter.Lenient value ↔ ((∃ member ∈ value.members, formatter.Irreducible member) → formatter.Echoes)) ∧
      ((∀ arguments, Echoes { formatter with arguments }) ↔
        ∀ token ∈ formatter.grammar.tokenize formatter.key.toList, token.Literal) := by
  refine ⟨?_, formatter.forall_echoes_iff⟩
  rw [permissive.lenient_iff_members, ← permissive.substitute_key_iff]
  -- All that can go wrong is the key in place of a member that cannot be reduced.
  constructor
  · intro lenient irreducibles
    obtain ⟨member, found, irreducible⟩ := irreducibles
    obtain ⟨spelled, gives, isKey⟩ := lenient member found
    rwa [formatter.reduced_of_irreducible irreducible, isKey irreducible] at gives
  · intro echoes member found
    by_cases irreducible : formatter.Irreducible member
    · refine ⟨formatter.key, ?_, fun _ => rfl⟩
      rw [reduced_of_irreducible irreducible]
      exact echoes ⟨member, found, irreducible⟩
    · rw [permissive.substitute_eq, checked _ (reduced_mem_templates found irreducible)]
      exact ⟨_, rfl, fun contra => absurd contra irreducible⟩

/-- A formatter with the default settings, and nothing else but a key. -/
def bare (key : String) : Formatter :=
  { key, locale := "en", arguments := .empty, settings := {}, grammar := .standard, functions := .empty,
    handlers := {} }

/-- The default settings pass over everything that is missing. -/
theorem permissive_bare (key : String) : (bare key).Permissive :=
  ⟨rfl, rfl, rfl, rfl, fun _ => rfl⟩

/-- A list with plural forms that are used without a count says the key for them, which holds no delimiter. -/
theorem lenient_iff_mails :
    (bare "inbox.mails").Permissive ∧
      (Value.variants [.text "%count mails", .plural { one := some "a mail" }]).Checked .standard ∧
      (bare "inbox.mails").Lenient (.variants [.text "%count mails", .plural { one := some "a mail" }]) ∧
      ∀ arguments, Echoes { bare "inbox.mails" with arguments } := by
  have checked : (Value.variants [.text "%count mails", .plural { one := some "a mail" }]).Checked .standard := by
    decide +kernel
  have result := lenient_iff (permissive_bare "inbox.mails") checked
  -- The key is one text.
  have echoes := result.2.2 fun token member => by
    obtain rfl : token = .text "inbox.mails".toList := by
      revert token
      decide +kernel
    trivial
  exact ⟨permissive_bare _, checked, result.1.2 fun _ => echoes .empty, echoes⟩

/-- A key with a percent sign fails as a template, though nothing else does and nothing else is missing. -/
theorem format_percent_eq_error :
    (bare "100%").Permissive ∧ (Value.plural { zero := some "none" }).Checked .standard ∧
      (bare "100%").Irreducible (.plural { zero := some "none" }) ∧
      (bare "100%").format (.plural { zero := some "none" }) = .error (.invalidTemplate "100%" 3) := by
  -- The forms have no template for what is not counted, and the key in their place fails as a template.
  refine ⟨permissive_bare _, by decide +kernel, ?_, ?_⟩
  · intro count given
    cases given
  · have fails : (bare "100%").substitute "100%" = .error (.invalidTemplate "100%" 3) := by decide +kernel
    have reduces : (bare "100%").pluralize (.plural { zero := some "none" }) = .ok "100%" := by decide +kernel
    simp only [format, reduces, Except.bind, fails, Except.map]

end Formatter

end Phrasebook
