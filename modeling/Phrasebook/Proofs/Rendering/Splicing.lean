import Phrasebook.Proofs.Catalogue.References
import Phrasebook.Proofs.Template.Seam

/-! What expanded templates say: the same as the template before, put together token by token with the
texts of the expanded templates it refers to, exactly if no name is continued where they meet. -/

namespace Phrasebook

open Grammar (standard)

/-- An error without the template that it names. -/
def Error.anonymous : Error → Error
  | .missingArgument key name _ => .missingArgument key name ""
  | .functionNotFound name locale _ => .functionNotFound name locale ""
  | .argumentIndex name index _ => .argumentIndex name index ""
  | .invalidTemplate _ position => .invalidTemplate "" position
  | error => error

/-- Two results are the same text, or the same error but for the template it names. -/
def Agree (first second : Except Error String) : Prop :=
  first.mapError Error.anonymous = second.mapError Error.anonymous

namespace Agree

variable {first second third : Except Error String}

/-- A result agrees with itself. -/
theorem refl (result : Except Error String) : Agree result result :=
  rfl

/-- Agreement goes both ways. -/
theorem symm (agree : Agree first second) : Agree second first :=
  Eq.symm agree

/-- Agreement goes on from one to the next. -/
theorem trans (agree : Agree first second) (next : Agree second third) : Agree first third :=
  Eq.trans agree next

/-- Texts agree if they are the same. -/
theorem ok_iff {text other : String} : Agree (.ok text) (.ok other) ↔ text = other := by
  simp [Agree, Except.mapError]

end Agree

/-- One text behind another one, or the first error. -/
def joined (first second : Except Error String) : Except Error String :=
  first.bind fun front => second.map (front ++ ·)

/-- Texts that agree one by one agree when they are joined. -/
theorem Agree.joined {a b c d : Except Error String} (front : Agree a b) (back : Agree c d) :
    Agree (Phrasebook.joined a c) (Phrasebook.joined b d) := by
  -- The first error decides, and without one the texts are the same.
  cases a <;> cases b <;> cases c <;> cases d <;>
    simp_all [Agree, Phrasebook.joined, Except.mapError, Except.bind, Except.map]

namespace Formatter

variable {formatter : Formatter} {tokens : List Token}

/-- The text of tokens, with the template that errors name. -/
def text (formatter : Formatter) (named : String) (tokens : List Token) : Except Error String :=
  (tokens.mapM (formatter.tokenText named)).map String.join

/-- The texts of items one after the other are joined. -/
theorem mapM_join {α : Type} (f : α → Except Error String) (item : α) (rest : List α) :
    ((item :: rest).mapM f).map String.join = joined (f item) ((rest.mapM f).map String.join) := by
  -- The first error ends both.
  rw [List.mapM_cons]
  cases f item with
  | error e => rfl
  | ok front =>
    cases rest.mapM f with
    | error e => rfl
    | ok others => exact congrArg Except.ok String.join_cons

/-- No token gives no text. -/
theorem text_nil (formatter : Formatter) (named : String) : formatter.text named [] = .ok "" :=
  rfl

/-- The text of a token stands in front of the text of the others. -/
theorem text_cons (formatter : Formatter) (named : String) (token : Token) (rest : List Token) :
    formatter.text named (token :: rest) = joined (formatter.tokenText named token) (formatter.text named rest) :=
  mapM_join _ token rest

/-- The text of tokens one behind the other. -/
theorem text_append (formatter : Formatter) (named : String) (tokens others : List Token) :
    formatter.text named (tokens ++ others) =
      joined (formatter.text named tokens) (formatter.text named others) := by
  -- Joining is associative: the first error decides, however the rest is grouped.
  induction tokens with
  | nil =>
    rw [text_nil, List.nil_append]
    cases formatter.text named others <;> simp [joined, Except.bind, Except.map]
  | cons token rest ih =>
    rw [List.cons_append, text_cons, text_cons, ih]
    cases formatter.tokenText named token with
    | error e => rfl
    | ok front =>
      cases formatter.text named rest with
      | error e => rfl
      | ok middle => cases formatter.text named others <;> simp [joined, Except.bind, Except.map, String.append_assoc]

/-- The parts of a token have its text. -/
theorem text_parts (formatter : Formatter) (named : String) {token : Token} (valid : token.Valid) :
    formatter.text named token.parts = formatter.tokenText named token := by
  cases token with
  | text source =>
    -- Text is cut into its characters, and each stands for itself.
    induction source with
    | nil => rfl
    | cons c rest ih =>
      have one : formatter.text named (Token.text (c :: rest)).parts =
          joined (.ok (String.ofList [c])) (formatter.text named (Token.text rest).parts) :=
        text_cons formatter named (.text [c]) _
      rw [one, ih trivial]
      simp [joined, tokenText, Except.bind, Except.map]
  | escaped raw => simp [Token.parts, text_cons, text_nil, joined, tokenText, Except.bind, Except.map]
  | placeholder found =>
    have one : formatter.text named (Token.placeholder found).parts =
        joined (formatter.tokenText named (.placeholder found)) (.ok "") :=
      text_cons formatter named _ []
    rw [one]
    cases formatter.tokenText named (.placeholder found) <;> simp [joined, Except.bind, Except.map]
  | invalid raw position => exact valid.elim

/-- The parts of tokens have their text. -/
theorem text_flatMap_parts (formatter : Formatter) (named : String) (valid : ∀ token ∈ tokens, token.Valid) :
    formatter.text named (tokens.flatMap Token.parts) = formatter.text named tokens := by
  -- Token by token; the parts of one have its text.
  induction tokens with
  | nil => rfl
  | cons token rest ih =>
    rw [List.flatMap_cons, text_append, text_cons, text_parts formatter named (valid token (by simp)),
      ih fun other member => valid other (by simp [member])]

/-- The text of a template that passes the check is that of its parts. -/
theorem substitute_eq_text {template : String} (checked : formatter.grammar.check template = .ok ()) :
    formatter.substitute template = formatter.text template (formatter.grammar.parts template.toList) := by
  -- Positions count only for tokens that the check refuses.
  rw [Grammar.parts, text_flatMap_parts formatter template ((Grammar.check_eq_ok_iff _ _).1 checked)]
  rfl

/-- A formatter of the default delimiters that leaves placeholders without a value as they are written, and
whose handler for them, if any, does not look at the template. -/
structure Impartial (formatter : Formatter) : Prop where
  default : formatter.grammar = standard
  lenient : formatter.settings.onMissingPlaceholder = .ignore
  blind : ∀ handle, formatter.handlers.placeholder = some handle →
    ∀ key locale template other body, handle key locale template body = handle key locale other body

/-- Impartial formatters say the same for a token of any template, except for errors that name it. -/
theorem Impartial.agree_tokenText (impartial : formatter.Impartial) (named other : String) {token : Token}
    (valid : token.Valid) : Agree (formatter.tokenText named token) (formatter.tokenText other token) := by
  -- The template matters only where a value is missing, and there the placeholder is written as it is.
  have missing (found : Placeholder) (error same : Error) (like : error.anonymous = same.anonymous) :
      Agree (formatter.missing named found error) (formatter.missing other found same) := by
    unfold missing
    cases chosen : formatter.handlers.placeholder with
    | some handle => exact congrArg Except.ok (impartial.blind handle chosen _ _ named other _)
    | none => simp [Policy.choose, impartial.lenient, Agree.refl]
  cases token with
  | text source => exact .refl _
  | escaped raw => exact .refl _
  | invalid raw position => exact valid.elim
  | placeholder found =>
    cases requested : found.request with
    | named chars =>
      simp only [tokenText, replacement, requested]
      cases formatter.arguments.get? (String.ofList chars) with
      | some argument => exact .refl _
      | none => exact missing found _ _ rfl
    | call chars arguments =>
      simp only [tokenText, replacement, requested]
      cases formatter.functions.lookup? (String.ofList chars) formatter.locale with
      | none => exact missing found _ _ rfl
      | some function =>
        -- A position that is not there is an error that names the template.
        simp only [pick]
        split <;> simp [*, Agree, Except.mapError, Error.anonymous]

/-- Impartial formatters say the same for tokens of any template. -/
theorem Impartial.agree_text (impartial : formatter.Impartial) (named other : String)
    (valid : ∀ token ∈ tokens, token.Valid) :
    Agree (formatter.text named tokens) (formatter.text other tokens) := by
  -- Token by token, with the agreement on one of them.
  induction tokens with
  | nil => exact .refl _
  | cons token rest ih =>
    rw [text_cons, text_cons]
    exact (impartial.agree_tokenText named other (valid token (by simp))).joined
      (ih fun item member => valid item (by simp [member]))

/-- The text of a reference: what is said for the template that it means. -/
def referenceText (formatter : Formatter) (meaning : Reference → Option String) (reference : Reference) :
    Except Error String :=
  match meaning reference with
  | some template => formatter.substitute template
  | none => .error (.invalidReference reference.target formatter.key none)

/-- A template put together token by token, with the text of what it means in the stead of every
reference. -/
def splice (formatter : Formatter) (meaning : Reference → Option String) (template : String) :
    Except Error String :=
  ((formatter.grammar.tokenize template.toList).mapM fun token =>
    match formatter.grammar.tokenReference? token with
    | some reference => formatter.referenceText meaning reference
    | none => formatter.tokenText template token).map String.join

end Formatter

namespace Grammar

/-- The parts of a token, or of the template that it refers to. -/
def splicedToken (grammar : Grammar) (meaning : Reference → Option String) (token : Token) : List Token :=
  match grammar.tokenReference? token with
  | some reference => grammar.parts ((meaning reference).getD "").toList
  | none => token.parts

/-- The parts of a template, with those of the templates it refers to in the stead of its references. -/
def spliced (grammar : Grammar) (meaning : Reference → Option String) (template : String) : List Token :=
  (grammar.tokenize template.toList).flatMap (grammar.splicedToken meaning)

end Grammar

section Replaced

variable {meaning : Reference → Option String} {template expanded : String}

namespace Grammar

/-- What is written for the spliced parts is the expanded template. -/
theorem spliced_sources {grammar : Grammar}
    (replaced : grammar.Replaced (fun reference text => meaning reference = some text) template expanded) :
    (grammar.spliced meaning template).flatMap Token.source = expanded.toList := by
  -- Both are made of one piece for each token of the template.
  obtain ⟨pieces, fits, rfl⟩ := replaced
  rw [String.toList_join, spliced]
  generalize grammar.tokenize template.toList = tokens at fits
  induction fits with
  | nil => rfl
  | @cons token piece tokens pieces fits _ ih =>
    rw [List.flatMap_cons, List.flatMap_append, List.flatMap_cons, ih]
    unfold Piece at fits
    unfold splicedToken
    cases found : grammar.tokenReference? token with
    | some reference =>
      simp only [found] at fits
      simp [fits, parts_sources]
    | none =>
      simp only [found] at fits
      simp [fits]

variable (checked : standard.check template = .ok ())
  (settled : ∀ reference ∈ standard.references template, standard.Settled ((meaning reference).getD "").toList)
include checked settled

/-- The spliced parts are inert, and written in one of the five ways. -/
theorem spliced_inert {part : Token} (member : part ∈ standard.spliced meaning template) :
    standard.Inert part ∧ Written part := by
  -- A part comes from a text that is put in, or from a token that stays.
  obtain ⟨token, inside, member⟩ := List.mem_flatMap.1 member
  unfold splicedToken at member
  cases found : standard.tokenReference? token with
  | some reference =>
    simp only [found] at member
    have inert := settled reference (List.mem_filterMap.2 ⟨token, inside, found⟩) part member
    exact ⟨inert, written_of_mem_parts member inert⟩
  | none =>
    simp only [found] at member
    have inert := (inert_iff_parts standard token).1
      ⟨(check_eq_ok_iff standard template).1 checked token inside, found⟩ part member
    exact ⟨inert, written_of_mem_parts (List.mem_flatMap.2 ⟨token, inside, member⟩) inert⟩

end Grammar

namespace Formatter

variable {formatter : Formatter}

/-- The text of the spliced parts agrees with the template put together token by token. -/
theorem Impartial.agree_splice (impartial : formatter.Impartial) (named : String)
    (checked : standard.check template = .ok ())
    (settled : ∀ reference ∈ standard.references template,
      ∃ text, meaning reference = some text ∧ standard.Settled text.toList) :
    Agree (formatter.text named (standard.spliced meaning template)) (formatter.splice meaning template) := by
  -- Token by token both have the same text, up to the template that an error names.
  rw [splice, impartial.default, Grammar.spliced]
  have valid := (Grammar.check_eq_ok_iff standard template).1 checked
  rw [Grammar.references] at settled
  -- The induction is on the tokens of the template.
  generalize standard.tokenize template.toList = tokens at valid settled
  induction tokens with
  | nil => exact .refl _
  | cons token rest ih =>
    have behind := ((List.sublist_cons_self token rest).filterMap standard.tokenReference?).subset
    have others := ih (fun other member => valid other (by simp [member])) fun reference member =>
      settled reference (behind member)
    rw [List.flatMap_cons, text_append, mapM_join]
    refine Agree.joined ?_ others
    unfold Grammar.splicedToken
    cases found : standard.tokenReference? token with
    | none =>
      simp only
      rw [text_parts formatter named (valid token (by simp))]
      exact impartial.agree_tokenText named template (valid token (by simp))
    | some reference =>
      -- The template that is meant passes the check, so its text is that of its parts.
      obtain ⟨text, means, inert⟩ := settled reference (by simp [found])
      have passes := ((Grammar.settled_iff standard text).1 inert).1
      simp only [referenceText, means, Option.getD_some]
      rw [substitute_eq_text (impartial.default ▸ passes), impartial.default]
      exact impartial.agree_text named text fun part member => (inert part member).1

/-- A formatter that has a value for one name and nothing else. -/
def probe (w : List Char) : Formatter :=
  { key := "", locale := "", arguments := Dict.empty.insert (String.ofList w) (.text "x")
    settings := { onMissingPlaceholder := .ignore }, grammar := standard, functions := .empty, handlers := {} }

/-- The probe is impartial: it has no handler, and leaves what it has no value for as it is. -/
theorem probe_impartial (w : List Char) : (probe w).Impartial where
  -- Delimiters and policy are as they are written, and there is no handler.
  default := rfl
  lenient := rfl
  blind _ absurd := by simp [probe] at absurd

/-- The probe writes its value for its name, and any other placeholder as it is. -/
theorem probe_placeholder (w : List Char) (named : String) (found : Placeholder) :
    (probe w).tokenText named (.placeholder found) =
      .ok (if found.request = .named w then "x" else String.ofList found.raw) := by
  -- It knows no functions, and leaves what it has no value for.
  have noFunction (name : String) : Functions.empty.lookup? name "" = none := rfl
  cases requested : found.request with
  | named chars =>
    by_cases same : chars = w
    · simp [tokenText, replacement, requested, probe, same, Argument.display]
    · have different : String.ofList chars ≠ String.ofList w :=
        fun eq => same (by simpa using congrArg String.toList eq)
      simp [tokenText, replacement, requested, probe, same, different, missing, Policy.choose]
  | call chars arguments =>
    simp [tokenText, replacement, requested, probe, noFunction, missing, Policy.choose]

/-- The probe has a text for all tokens that stand for something. -/
theorem exists_probe_text (w : List Char) (named : String) {tokens : List Token}
    (valid : ∀ token ∈ tokens, token.Valid) : ∃ text, (probe w).text named tokens = .ok text := by
  induction tokens with
  | nil => exact ⟨"", rfl⟩
  | cons token rest ih =>
    obtain ⟨behind, found⟩ := ih fun other member => valid other (by simp [member])
    have isValid : token.Valid := valid token (by simp)
    obtain ⟨front, here⟩ : ∃ text, (probe w).tokenText named token = .ok text := by
      -- Only a delimiter that introduces nothing has no text, and there is none.
      cases token with
      | text source => exact ⟨_, rfl⟩
      | escaped raw => exact ⟨_, rfl⟩
      | invalid raw position => exact isValid.elim
      | placeholder found => exact ⟨_, probe_placeholder w named found⟩
    exact ⟨front ++ behind, by rw [text_cons, here, found]; rfl⟩

/-- The probe tells tokens with a name that goes on from those without. -/
theorem probe_tells (w : List Char) (named : String) {before after behind : List Token} {other : Token}
    (word : Grammar.Word w) (continued : Grammar.Continued w other)
    (valid : ∀ token ∈ before ++ Grammar.bareToken w :: after, token.Valid)
    (validBehind : ∀ token ∈ behind, token.Valid) :
    ¬ Agree ((probe w).text named (before ++ other :: behind))
      ((probe w).text named (before ++ Grammar.bareToken w :: after)) := by
  obtain ⟨front, here⟩ := exists_probe_text w named fun token member => valid token (List.mem_append_left _ member)
  obtain ⟨rest, left⟩ := exists_probe_text w named fun token member =>
    valid token (List.mem_append_right _ (List.mem_cons_of_mem _ member))
  obtain ⟨others, right⟩ := exists_probe_text w named validBehind
  -- The name gives its value, and the placeholder that it becomes is left as it is written.
  have name : (probe w).tokenText named (Grammar.bareToken w) = .ok "x" := by
    rw [Grammar.bareToken, Grammar.placeholderOf, probe_placeholder]
    simp [Grammar.requestOf_word word]
  obtain ⟨raw, becomes⟩ : ∃ raw, (probe w).tokenText named other = .ok (String.ofList ('%' :: raw)) := by
    cases continued with
    | @longer longer isWord different =>
      refine ⟨longer, ?_⟩
      rw [Grammar.bareToken, Grammar.placeholderOf, probe_placeholder]
      simp [Grammar.requestOf_word isWord, different]
    | @called longer args isWord =>
      refine ⟨longer ++ '(' :: (args ++ [')']), ?_⟩
      rw [Grammar.callToken, Grammar.placeholderOf, probe_placeholder]
      simp [Grammar.requestOf_call isWord]
  simp only [text_append, text_cons, here, name, becomes, left, right]
  intro agree
  -- Behind what stands in front of both, one text goes on with the value and the other with a delimiter.
  have same := congrArg String.toList (Agree.ok_iff.1 agree)
  simp at same

end Formatter

/-- An expanded template says the same as the template before, put together token by token with what is
said for the expanded templates it refers to, for all impartial formatters exactly if no name is
continued by what is written behind it. -/
theorem Formatter.agree_substitute_iff (checked : standard.check template = .ok ())
    (replaced : standard.Replaced (fun reference text => meaning reference = some text) template expanded)
    (settled : ∀ reference ∈ standard.references template,
      ∃ text, meaning reference = some text ∧ standard.Settled text.toList) :
    (∀ formatter : Formatter, formatter.Impartial →
      Agree (formatter.substitute expanded) (formatter.splice meaning template)) ↔
    Grammar.Apart (standard.spliced meaning template) := by
  have parts (part : Token) (member : part ∈ standard.spliced meaning template) :
      standard.Inert part ∧ Grammar.Written part := by
    refine Grammar.spliced_inert checked (fun reference found => ?_) member
    obtain ⟨text, means, inert⟩ := settled reference found
    simpa [means] using inert
  have sources := Grammar.spliced_sources replaced
  have inert : ∀ part ∈ standard.parts expanded.toList, standard.Inert part := by
    rw [← sources]
    exact Grammar.settled_written (fun part member => (parts part member).2) fun part member => (parts part member).1
  have passes : standard.check expanded = .ok () := ((Grammar.settled_iff standard expanded).1 inert).1
  constructor
  · intro agree
    -- If a name went on, the probe for it would tell the two apart.
    by_contra glued
    obtain ⟨before, w, after, other, behind, split, word, continued, reads, settledBehind⟩ :=
      Grammar.exists_seam (fun part member => (parts part member).2) (fun part member => (parts part member).1) glued
    rw [sources] at reads
    have same := (agree (probe w) (probe_impartial w)).trans
      ((probe_impartial w).agree_splice expanded checked settled).symm
    rw [substitute_eq_text passes, show (probe w).grammar = standard from rfl, reads, split] at same
    refine probe_tells w expanded word continued (fun token member => ?_) (fun token member => ?_) same
    · exact (parts token (split ▸ member)).1.1
    · exact (settledBehind token member).1
  · intro apart formatter impartial
    -- Reading the expanded template gives back the spliced parts.
    have reads := Grammar.parts_of_apart (fun part member => (parts part member).2) apart
    rw [sources] at reads
    have same := impartial.agree_splice expanded checked settled
    rwa [← reads, ← impartial.default, ← substitute_eq_text (impartial.default ▸ passes)] at same

end Replaced

end Phrasebook
