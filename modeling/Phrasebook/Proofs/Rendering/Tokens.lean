import Phrasebook.Proofs.Template.Positions
import Phrasebook.Proofs.Traversal
import Phrasebook.Rendering.Formatter

/-! What becomes of the tokens of a template, and which of them fail. Main statement: the text of a template is made of
what becomes of its tokens, in their order, unless one of them fails, and then the error is that of the leftmost one. -/

namespace Phrasebook

/-- The position among the arguments of a call that a value points at: a flag at the first or second one, and a whole
number at its own. Nothing else points anywhere. -/
inductive Argument.PointsAt : Argument → Nat → Prop where
  | first : PointsAt (.flag false) 0
  | second : PointsAt (.flag true) 1
  | whole (position : Nat) : PointsAt (.whole position) position

/-- A value that points at none of the arguments of a call. -/
def Argument.Unusable (picked : Argument) (arguments : List (List Char)) : Prop :=
  ∀ position, picked.PointsAt position → arguments.length ≤ position

/-- The position that a value points at, if there is one. -/
def Argument.position? : Argument → Option Nat
  | .flag value => some (if value then 1 else 0)
  | .whole n => if 0 ≤ n then some n.toNat else none
  | _ => none

/-- A value points at its position and at no other one. -/
theorem Argument.position?_eq_some_iff {picked : Argument} {position : Nat} :
    picked.position? = some position ↔ picked.PointsAt position := by
  constructor
  · intro points
    cases picked with
    | flag value => cases value <;> obtain rfl := Option.some.inj points <;> constructor
    | whole n =>
      -- A position is not negative.
      rw [position?] at points
      split at points
      · next natural =>
        obtain rfl := Option.some.inj points
        have counted := PointsAt.whole n.toNat
        rwa [Int.toNat_of_nonneg natural] at counted
      · cases points
    | real x => cases points
    | text value => cases points
  · rintro (_ | _ | position)
    · rfl
    · rfl
    · rw [position?, if_pos (Int.natCast_nonneg position), Int.toNat_natCast]

/-- A value points at one of some arguments, or it is of no use for them. -/
theorem Argument.exists_pointsAt_or_unusable (picked : Argument) (arguments : List (List Char)) :
    (∃ position chosen, picked.PointsAt position ∧ arguments[position]? = some chosen) ∨ picked.Unusable arguments := by
  -- Either some position that it points at is one of the arguments, or none is.
  by_cases usable : ∃ position, picked.PointsAt position ∧ position < arguments.length
  · obtain ⟨position, points, less⟩ := usable
    exact .inl ⟨position, _, points, List.getElem?_eq_getElem less⟩
  · refine .inr fun position points => ?_
    exact Nat.le_of_not_lt fun less => usable ⟨position, points, less⟩

namespace Formatter

variable {formatter : Formatter} {template text : String} {token : Token} {found : Placeholder} {error : Error}

/-- What is done about placeholders without a value. -/
def placeholderPolicy (formatter : Formatter) : Policy (String → String → String → String → String) :=
  .choose formatter.handlers.placeholder formatter.settings.onMissingPlaceholder

/-- A placeholder without a value, and the error that tells so: an argument is not there, or a function. -/
inductive Lacks (formatter : Formatter) (template : String) (found : Placeholder) : Error → Prop where
  | argument {name : List Char} (request : found.request = .named name)
    (absent : formatter.arguments.get? (String.ofList name) = none) :
    Lacks formatter template found (.missingArgument formatter.key (String.ofList name) template)
  | function {name : List Char} {arguments : List (List Char)} (request : found.request = .call name arguments)
    (absent : formatter.functions.lookup? (String.ofList name) formatter.locale = none) :
    Lacks formatter template found (.functionNotFound (String.ofList name) formatter.locale template)

/-- The text in the stead of a token. What is put in is not read again. -/
inductive Becomes (formatter : Formatter) (template : String) : Token → String → Prop where
  | text {source : List Char} : Becomes formatter template (.text source) (String.ofList source)
  | escaped {raw : List Char} :
    Becomes formatter template (.escaped raw) (String.ofList formatter.grammar.placeholder)
  | argument {found : Placeholder} {name : List Char} {argument : Argument} (request : found.request = .named name)
    (held : formatter.arguments.get? (String.ofList name) = some argument) :
    Becomes formatter template (.placeholder found) argument.display
  | picked {found : Placeholder} {name chosen : List Char} {arguments : List (List Char)} {function : Function}
    {position : Nat} (request : found.request = .call name arguments)
    (known : formatter.functions.lookup? (String.ofList name) formatter.locale = some function)
    (points : (function formatter.arguments).PointsAt position) (there : arguments[position]? = some chosen) :
    Becomes formatter template (.placeholder found) (String.ofList chosen)
  | handled {found : Placeholder} {error : Error} {handle : String → String → String → String → String}
    (lacks : formatter.Lacks template found error) (policy : formatter.placeholderPolicy = .handler handle) :
    Becomes formatter template (.placeholder found)
      (handle formatter.key formatter.locale template (String.ofList found.body))
  | kept {found : Placeholder} {error : Error} (lacks : formatter.Lacks template found error)
    (policy : formatter.placeholderPolicy = .ignore) :
    Becomes formatter template (.placeholder found) (String.ofList found.raw)

/-- A token that has no text, and the error that tells so: a delimiter introduces nothing, a value is missing and the
policy does not stand for that, or a function points at no argument, whatever the policy. -/
inductive Fails (formatter : Formatter) (template : String) : Token → Error → Prop where
  | invalid {raw : List Char} {position : Nat} :
    Fails formatter template (.invalid raw position) (.invalidTemplate template position)
  | missing {found : Placeholder} {error : Error} (lacks : formatter.Lacks template found error)
    (policy : formatter.placeholderPolicy = .error) : Fails formatter template (.placeholder found) error
  | unusable {found : Placeholder} {name : List Char} {arguments : List (List Char)} {function : Function}
    (request : found.request = .call name arguments)
    (known : formatter.functions.lookup? (String.ofList name) formatter.locale = some function)
    (nowhere : (function formatter.arguments).Unusable arguments) :
    Fails formatter template (.placeholder found)
      (.argumentIndex (String.ofList name) (function formatter.arguments).display template)

/-- What a token gives is what becomes of it, or the error with which it fails. -/
def Gives (formatter : Formatter) (template : String) (token : Token) : Except Error String → Prop
  | .ok text => formatter.Becomes template token text
  | .error error => formatter.Fails template token error

section Picking

variable {name : String} {arguments : List (List Char)} {picked : Argument}

/-- A function gives the argument at the position of its value. -/
theorem pick_eq (name : String) (arguments : List (List Char)) (picked : Argument) (template : String) :
    pick name arguments picked template =
      match picked.position?.bind fun position => arguments[position]? with
      | some argument => .ok (String.ofList argument)
      | none => .error (.argumentIndex name picked.display template) :=
  rfl

/-- A function gives the argument that it points at. -/
theorem pick_of_pointsAt {position : Nat} {chosen : List Char} (points : picked.PointsAt position)
    (there : arguments[position]? = some chosen) :
    pick name arguments picked template = .ok (String.ofList chosen) := by
  rw [pick_eq, Argument.position?_eq_some_iff.2 points, Option.bind_some, there]

/-- A function that points at no argument fails. -/
theorem pick_of_unusable (nowhere : picked.Unusable arguments) :
    pick name arguments picked template = .error (.argumentIndex name picked.display template) := by
  have absent : (picked.position?.bind fun position => arguments[position]?) = none := by
    -- Where it points there is no argument any more.
    cases points : picked.position? with
    | none => rfl
    | some position => exact List.getElem?_eq_none (nowhere position (Argument.position?_eq_some_iff.1 points))
  rw [pick_eq, absent]

end Picking

/-- A placeholder without a value gives what the policy has for it. -/
theorem missing_gives (lacks : formatter.Lacks template found error) :
    formatter.Gives template (.placeholder found) (formatter.missing template found error) := by
  -- One case for each policy.
  unfold missing
  split
  · next policy => exact .missing lacks policy
  · next handle policy => exact .handled lacks policy
  · next policy => exact .kept lacks policy

/-- A token gives a text or fails. -/
theorem tokenText_gives (formatter : Formatter) (template : String) (token : Token) :
    formatter.Gives template token (formatter.tokenText template token) := by
  cases token with
  | text source => exact .text
  | escaped raw => exact .escaped
  | invalid raw position => exact .invalid
  | placeholder found =>
    -- A placeholder is looked up among the arguments or the functions, and if it is not there the policy decides.
    change formatter.Gives template (.placeholder found) (formatter.replacement template found)
    unfold replacement
    split
    · next name request =>
      simp only
      split
      · next argument held => exact .argument request held
      · next absent => exact missing_gives (.argument request absent)
    · next name arguments request =>
      simp only
      split
      · next function known =>
        rcases (function formatter.arguments).exists_pointsAt_or_unusable arguments with
          ⟨position, chosen, points, there⟩ | nowhere
        · rw [pick_of_pointsAt points there]
          exact .picked request known points there
        · rw [pick_of_unusable nowhere]
          exact .unusable request known nowhere
      · next absent => exact missing_gives (.function request absent)

/-- The policy decides about a placeholder without a value. -/
theorem replacement_of_lacks (lacks : formatter.Lacks template found error) :
    formatter.replacement template found = formatter.missing template found error := by
  -- An argument is missing, or a function is.
  cases lacks with
  | argument request absent => simp only [replacement, request, absent]
  | function request absent => simp only [replacement, request, absent]

/-- The text of a token is what becomes of it. -/
theorem tokenText_eq_ok_iff :
    formatter.tokenText template token = .ok text ↔ formatter.Becomes template token text := by
  constructor
  · intro gives
    have made := formatter.tokenText_gives template token
    rwa [gives] at made
  · -- Each way to become a text is one path through the lookup.
    intro becomes
    cases becomes with
    | text => rfl
    | escaped => rfl
    | argument request held => simp only [tokenText, replacement, request, held]
    | picked request known points there =>
      simp only [tokenText, replacement, request, known, pick_of_pointsAt points there]
    | handled lacks policy =>
      rw [tokenText, replacement_of_lacks lacks, missing, ← placeholderPolicy, policy]
    | kept lacks policy =>
      rw [tokenText, replacement_of_lacks lacks, missing, ← placeholderPolicy, policy]

/-- The error of a token is the one with which it fails. -/
theorem tokenText_eq_error_iff :
    formatter.tokenText template token = .error error ↔ formatter.Fails template token error := by
  -- What is made of a token is a text or the error with which it fails; each way to fail gives its own.
  constructor
  · intro gives
    have made := formatter.tokenText_gives template token
    rwa [gives] at made
  · intro fails
    cases fails with
    | invalid => rfl
    | missing lacks policy =>
      rw [tokenText, replacement_of_lacks lacks, Formatter.missing, ← placeholderPolicy, policy]
    | unusable request known nowhere =>
      simp only [tokenText, replacement, request, known, pick_of_unusable nowhere]

/-- A token has a text exactly if it does not fail. -/
theorem exists_becomes_iff (formatter : Formatter) (template : String) (token : Token) :
    (∃ text, formatter.Becomes template token text) ↔ ∀ error, ¬ formatter.Fails template token error := by
  simp only [← tokenText_eq_ok_iff, ← tokenText_eq_error_iff]
  cases formatter.tokenText template token <;> simp

section Substitution

variable {position : Nat}

/-- The text of a template is what becomes of its tokens, one after the other. -/
theorem substitute_eq_ok_iff : formatter.substitute template = .ok text ↔
    ∃ texts, List.Forall₂ (formatter.Becomes template) (formatter.grammar.tokenize template.toList) texts ∧
      text = String.join texts := by
  simp only [substitute, Traversal.map_eq_ok_iff, Traversal.mapM_eq_ok_iff, tokenText_eq_ok_iff, @eq_comm _ text]

/-- The error of a template is that of its leftmost token that fails. -/
theorem substitute_eq_error_iff : formatter.substitute template = .error error ↔
    ∃ before token after, formatter.grammar.tokenize template.toList = before ++ token :: after ∧
      (∀ earlier ∈ before, ∀ other, ¬ formatter.Fails template earlier other) ∧
      formatter.Fails template token error := by
  simp only [substitute, Traversal.map_eq_error_iff, Traversal.mapM_eq_error_iff, tokenText_eq_ok_iff,
    tokenText_eq_error_iff, exists_becomes_iff]

/-- A template has a text exactly if none of its tokens fails. -/
theorem exists_substitute_iff (formatter : Formatter) (template : String) :
    (∃ text, formatter.substitute template = .ok text) ↔
      ∀ token ∈ formatter.grammar.tokenize template.toList, ∀ error, ¬ formatter.Fails template token error := by
  -- The texts of the tokens are joined, and each token has a text or fails.
  simp only [← exists_becomes_iff, ← tokenText_eq_ok_iff, ← Traversal.exists_mapM_eq_ok_iff, substitute,
    Traversal.map_eq_ok_iff]
  constructor
  · rintro ⟨text, texts, gives, -⟩
    exact ⟨texts, gives⟩
  · rintro ⟨texts, gives⟩
    exact ⟨_, texts, gives, rfl⟩

/-- Among the tokens that stand for something only placeholders fail. -/
theorem Fails.exists_placeholder (fails : formatter.Fails template token error) (valid : token.Valid) :
    ∃ found, token = .placeholder found := by
  -- A delimiter that introduces nothing is the only other token that fails.
  cases fails with
  | invalid => exact valid.elim
  | missing lacks policy => exact ⟨_, rfl⟩
  | unusable request known nowhere => exact ⟨_, rfl⟩

/-- Only a delimiter that introduces nothing fails with an error that says so, at the position that it names. -/
theorem Fails.eq_invalid {named : String} (fails : formatter.Fails template token (.invalidTemplate named position)) :
    (∃ raw, token = .invalid raw position) ∧ named = template := by
  -- The errors of placeholders are others.
  cases fails with
  | invalid => exact ⟨⟨_, rfl⟩, rfl⟩
  | missing lacks policy => cases lacks

/-- A template is reported as invalid where the check reports it, if no placeholder before that place fails. -/
theorem substitute_eq_invalid_iff {named : String} :
    formatter.substitute template = .error (.invalidTemplate named position) ↔
      formatter.grammar.check template = .error (.invalidTemplate named position) ∧
        ∀ start found, formatter.grammar.At template start (.placeholder found) → start < position →
          ∀ error, ¬ formatter.Fails template (.placeholder found) error := by
  -- Both say that a delimiter that introduces nothing follows tokens that do not fail.
  rw [substitute_eq_error_iff, Grammar.check_eq_error_iff]
  constructor
  · rintro ⟨before, token, after, whole, earlier, fails⟩
    obtain ⟨⟨raw, rfl⟩, rfl⟩ := fails.eq_invalid
    refine ⟨⟨before, raw, position, after, whole, fun token member => ?_, rfl⟩, fun start found stands less => ?_⟩
    · -- A token that is invalid fails.
      cases token with
      | invalid raw other => exact absurd .invalid (earlier _ member _)
      | _ => trivial
    · exact earlier _ ((Grammar.exists_at_lt_iff whole).1 ⟨start, stands, less⟩)
  · rintro ⟨⟨before, raw, other, after, whole, valid, same⟩, passes⟩
    cases same
    refine ⟨before, _, after, whole, fun token member error fails => ?_, .invalid⟩
    -- A token before the delimiter that fails would be a placeholder that starts before it.
    obtain ⟨found, rfl⟩ := fails.exists_placeholder (valid token member)
    obtain ⟨start, stands, less⟩ := (Grammar.exists_at_lt_iff whole).2 member
    exact passes start found stands less error fails

/-- The text of a template is made of what becomes of its tokens, in their order, and what is put in is not read again.
There is one exactly if no token fails; otherwise the error is that of the leftmost token that does. A template is
reported as invalid where the check says so, and only then; and a function that points at no argument fails whatever
the settings and the handlers are. -/
theorem substitute_leftmost (formatter : Formatter) (template : String) :
    (∀ text, formatter.substitute template = .ok text ↔
      ∃ texts, List.Forall₂ (formatter.Becomes template) (formatter.grammar.tokenize template.toList) texts ∧
        text = String.join texts) ∧
    ((∃ text, formatter.substitute template = .ok text) ↔
      ∀ token ∈ formatter.grammar.tokenize template.toList, ∀ error, ¬ formatter.Fails template token error) ∧
    (∀ error, formatter.substitute template = .error error ↔
      ∃ before token after, formatter.grammar.tokenize template.toList = before ++ token :: after ∧
        (∀ earlier ∈ before, ∀ other, ¬ formatter.Fails template earlier other) ∧
        formatter.Fails template token error) ∧
    (∀ named position, formatter.substitute template = .error (.invalidTemplate named position) ↔
      formatter.grammar.check template = .error (.invalidTemplate named position) ∧
        ∀ start found, formatter.grammar.At template start (.placeholder found) → start < position →
          ∀ error, ¬ formatter.Fails template (.placeholder found) error) ∧
    (formatter.grammar.check template = .ok () → ∀ named position,
      formatter.substitute template ≠ .error (.invalidTemplate named position)) ∧
    (∀ found name arguments function, found.request = .call name arguments →
      formatter.functions.lookup? (String.ofList name) formatter.locale = some function →
      (function formatter.arguments).Unusable arguments →
      ∀ settings handlers, ({ formatter with settings, handlers } : Formatter).tokenText template (.placeholder found) =
        .error (.argumentIndex (String.ofList name) (function formatter.arguments).display template)) := by
  refine ⟨fun text => substitute_eq_ok_iff, exists_substitute_iff formatter template,
    fun error => substitute_eq_error_iff, fun named position => substitute_eq_invalid_iff, ?_, ?_⟩
  -- A template that passes the check has no delimiter to report.
  · intro passes named position fails
    rw [substitute_eq_invalid_iff, passes] at fails
    cases fails.1
  -- Neither the settings nor the handlers are asked when a function points nowhere.
  · intro found name arguments function request known nowhere settings handlers
    exact tokenText_eq_error_iff.2 (.unusable request known nowhere)

/-- Someone who is greeted by a text that looks like a template, and a function that points at the third argument. -/
def greeter : Formatter :=
  { key := "greeting", locale := "en", arguments := Dict.empty.insert "name" (.text "%lost"), settings := {}
    grammar := .ofSettings {}, functions := Functions.empty.register "pick" (fun _ => .whole 2) none, handlers := {} }

/-- The text that is put in is left alone, and the call in front of an invalid delimiter is the one that fails. -/
theorem substitute_leftmost_greeter :
    greeter.substitute "Hello %name" = .ok "Hello %lost" ∧
    greeter.grammar.check "%pick(a|b) %" = .error (.invalidTemplate "%pick(a|b) %" 11) ∧
    greeter.substitute "%pick(a|b) %" = .error (.argumentIndex "pick" "2" "%pick(a|b) %") := by
  have greeting : greeter.grammar.tokenize "Hello %name".toList =
      [.text "Hello ".toList, .placeholder ⟨"%name".toList, "name".toList, false, .named "name".toList⟩] := by
    decide +kernel
  have choice : greeter.grammar.tokenize "%pick(a|b) %".toList =
      [.placeholder ⟨"%pick(a|b)".toList, "pick(a|b)".toList, false, .call "pick".toList [['a'], ['b']]⟩,
        .text [' '], .invalid ['%'] 11] := by
    decide +kernel
  have known : greeter.functions.lookup? "pick" greeter.locale = some fun _ => .whole 2 := rfl
  -- The call points at a third argument, and there are two.
  have nowhere : (Argument.whole 2).Unusable [['a'], ['b']] := by
    intro position points
    obtain rfl := Option.some.inj (Argument.position?_eq_some_iff.2 points)
    decide
  refine ⟨((substitute_leftmost greeter _).1 _).2 ⟨["Hello ", (Argument.text "%lost").display], ?_, by decide⟩, ?_,
    ((substitute_leftmost greeter _).2.2.1 _).2 ⟨[], _, _, choice, nofun, ?_⟩⟩
  · rw [greeting]
    exact .cons .text (.cons (.argument rfl rfl) .nil)
  · rw [Grammar.check, Grammar.invalidPosition?, choice]
    rfl
  · exact .unusable rfl known nowhere

end Substitution

end Formatter

end Phrasebook
