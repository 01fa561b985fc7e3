import Phrasebook.Rendering.Plural
import Phrasebook.Template.Lexer

/-! Putting a message together: plural forms are reduced by the count, then placeholders are replaced. -/

namespace Phrasebook

/-- Everything that the text of a message depends on besides its value. -/
structure Formatter where
  key : String
  locale : String
  arguments : Arguments
  settings : Settings
  grammar : Grammar
  functions : Functions
  handlers : Handlers

namespace Formatter

/-- The count among the arguments, if it is a whole number. -/
def count? (formatter : Formatter) : Option Int :=
  (formatter.arguments.get? countName).bind Argument.whole?

/-- The selection of plural forms for the message. -/
def selector (formatter : Formatter) : Selector :=
  { key := formatter.key
    locale := formatter.locale
    fewThreshold := formatter.settings.fewThreshold
    policy := .choose formatter.handlers.plural formatter.settings.onMissingPlural }

/-- The template a message is reduced to. -/
def pluralize (formatter : Formatter) (value : Value) : Except Error String :=
  match formatter.count?, value with
  | some count, _ => formatter.selector.resolve value count
  | none, .scalar template => .ok template
  | none, _ => formatter.selector.resolveWithoutCount value

/-- The template a member is reduced to. A text is its own template, whatever the count. -/
def pluralizeVariant (formatter : Formatter) : Variant → Except Error String
  | .text template => .ok template
  | .plural forms => formatter.pluralize (.plural forms)

/-- The argument that a function points at: a flag stands for the first or second one, a whole number
for a position. -/
def pick (name : String) (arguments : List (List Char)) (picked : Argument) (template : String) :
    Except Error String :=
  let index : Option Nat := match picked with
    | .flag value => some (if value then 1 else 0)
    | .whole n => if 0 ≤ n then some n.toNat else none
    | _ => none
  match index.bind fun i => arguments[i]? with
  | some argument => .ok (String.ofList argument)
  | none => .error (.argumentIndex name picked.display template)

/-- The text in the stead of a placeholder that has no value, as the policy decides. -/
def missing (formatter : Formatter) (template : String) (found : Placeholder) (error : Error) :
    Except Error String :=
  match Policy.choose formatter.handlers.placeholder formatter.settings.onMissingPlaceholder with
  | .error => .error error
  | .handler handle => .ok (handle formatter.key formatter.locale template (String.ofList found.body))
  | .ignore => .ok (String.ofList found.raw)

/-- The text in the stead of a placeholder. -/
def replacement (formatter : Formatter) (template : String) (found : Placeholder) : Except Error String :=
  match found.request with
  | .named chars =>
    let name := String.ofList chars
    match formatter.arguments.get? name with
    | some argument => .ok argument.display
    | none => formatter.missing template found (.missingArgument formatter.key name template)
  | .call chars arguments =>
    let name := String.ofList chars
    match formatter.functions.lookup? name formatter.locale with
    | some function => pick name arguments (function formatter.arguments) template
    | none => formatter.missing template found (.functionNotFound name formatter.locale template)

/-- The text in the stead of a token. -/
def tokenText (formatter : Formatter) (template : String) : Token → Except Error String
  | .text source => .ok (String.ofList source)
  | .escaped _ => .ok (String.ofList formatter.grammar.placeholder)
  | .invalid _ position => .error (.invalidTemplate template position)
  | .placeholder found => formatter.replacement template found

/-- A template with every token replaced, or the error of the first one that cannot be. -/
def substitute (formatter : Formatter) (template : String) : Except Error String :=
  ((formatter.grammar.tokenize template.toList).mapM (formatter.tokenText template)).map String.join

/-- The text of a member. -/
def formatVariant (formatter : Formatter) (member : Variant) : Except Error String :=
  (formatter.pluralizeVariant member).bind formatter.substitute

end Formatter

/-- The first delimiter of a template that introduces nothing is an error. -/
def Grammar.check (grammar : Grammar) (template : String) : Except Error Unit :=
  match grammar.invalidPosition? template.toList with
  | some position => .error (.invalidTemplate template position)
  | none => .ok ()

end Phrasebook
