import Phrasebook.Error
import Phrasebook.Rendering.Hooks

/-! Reducing a message to one template by a count. -/

namespace Phrasebook

/-- The message a template is selected for. -/
structure Selector where
  key : String
  locale : String
  fewThreshold : Nat
  policy : Policy (String → String → Value → Option Int → String)

namespace Selector

/-- The template a count selects among plural forms. -/
def tryForms (selector : Selector) (forms : Forms) (count : Int) : Except Error String :=
  let category := Category.select count selector.fewThreshold forms
  match forms.get? category with
  | some template => .ok template
  | none => .error (.categoryMissing selector.key category)

/-- The template a count selects, whatever the policy; only plural forms are selected from. -/
def tryResolve (selector : Selector) (value : Value) (count : Int) : Except Error String :=
  match value with
  | .plural forms => selector.tryForms forms count
  | _ => .error (.pluralMismatch selector.key)

/-- The template a count selects. If there is none the policy decides; ignoring gives a single template
as it is, and the key in all other cases. -/
def resolve (selector : Selector) (value : Value) (count : Int) : Except Error String :=
  match selector.tryResolve value count with
  | .ok template => .ok template
  | .error error =>
    match selector.policy with
    | .error => .error error
    | .handler handle => .ok (handle selector.key selector.locale value (some count))
    | .ignore =>
      match error, value with
      | .pluralMismatch _, .scalar template => .ok template
      | _, _ => .ok selector.key

/-- The template for plural forms that are used without a count, as the policy decides; ignoring gives
the key. -/
def resolveWithoutCount (selector : Selector) (value : Value) : Except Error String :=
  match selector.policy with
  | .error => .error (.missingCount selector.key)
  | .handler handle => .ok (handle selector.key selector.locale value none)
  | .ignore => .ok selector.key

end Selector

end Phrasebook
