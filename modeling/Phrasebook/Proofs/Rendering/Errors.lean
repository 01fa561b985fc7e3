import Phrasebook.Rendering.Variants

/-! The errors that putting a message together can report. They are about its forms, its templates and what is put into
these; none is about a message that is not stored, or about following references. -/

namespace Phrasebook

/-- An error of following references: there is nothing to put in, or it would be put into itself. -/
def Error.OfReference : Error → Prop
  | .invalidReference _ _ _ => True
  | .cyclicReference _ => True
  | _ => False

/-- An error of putting a message together. -/
def Error.OfFormatting : Error → Prop
  | .pluralMismatch _ => True
  | .categoryMissing _ _ => True
  | .missingCount _ => True
  | .missingArgument _ _ _ => True
  | .functionNotFound _ _ _ => True
  | .argumentIndex _ _ _ => True
  | .invalidTemplate _ _ => True
  | _ => False

/-- Putting a message together is not following references. -/
theorem Error.OfFormatting.not_ofReference {e : Error} (formatting : e.OfFormatting) : ¬ e.OfReference := by
  cases e <;> first | exact formatting.elim | exact id

/-- A result that is an error of putting a message together if it is one at all. -/
def Rendered {α : Type} (result : Except Error α) : Prop :=
  ∀ error, result = .error error → error.OfFormatting

namespace Rendered

variable {α β : Type} {result : Except Error α}

/-- What succeeds is rendered. -/
theorem ok (x : α) : Rendered (.ok x : Except Error α) :=
  fun _ same => nomatch same

/-- So is what fails with an error of formatting. -/
theorem error {e : Error} (formatting : e.OfFormatting) : Rendered (.error e : Except Error α) :=
  fun _ same => Except.error.inj same ▸ formatting

/-- One step after another is rendered if both are. -/
theorem bind {next : α → Except Error β} (first : Rendered result) (others : ∀ x, Rendered (next x)) :
    Rendered (result.bind next) := by
  -- The error is that of the first step, or of the second.
  cases result with
  | ok x => exact others x
  | error e => exact fun error same => first error (by simpa [Except.bind] using same)

/-- Changing the result keeps it rendered. -/
theorem map {f : α → β} (first : Rendered result) : Rendered (result.map f) := by
  -- The error stays the same.
  cases result with
  | ok x => exact ok (f x)
  | error e => exact fun error same => first error (by simpa [Except.map] using same)

/-- Items are rendered if each is. -/
theorem mapM {f : α → Except Error β} (each : ∀ x, Rendered (f x)) (items : List α) : Rendered (items.mapM f) := by
  -- The first error is that of some item.
  induction items with
  | nil => exact ok []
  | cons item rest ih =>
    rw [List.mapM_cons]
    exact bind (each item) fun first => bind ih fun others => ok _

end Rendered

/-- Selecting a template by a count. -/
theorem Selector.resolve_rendered (selector : Selector) (value : Value) (count : Int) :
    Rendered (selector.resolve value count) := by
  -- The only errors are those of the selection itself.
  have selection : Rendered (selector.tryResolve value count) := by
    unfold tryResolve tryForms
    cases value with
    | plural forms =>
      simp only
      split
      · exact .ok _
      · exact .error trivial
    | scalar template => exact .error trivial
    | variants members => exact .error trivial
  unfold resolve
  split
  · exact .ok _
  · next e found =>
    -- The policy for missing forms gives the error as it is, or a text.
    split
    · exact .error (selection e found)
    · exact .ok _
    · split <;> exact .ok _

namespace Formatter

variable (formatter : Formatter)

/-- Selecting a template by the count among the arguments. -/
theorem pluralize_rendered (value : Value) : Rendered (formatter.pluralize value) := by
  -- A count selects a template; without one a single template is taken, and anything else is a question of the policy.
  unfold pluralize
  split
  · exact formatter.selector.resolve_rendered _ _
  · exact .ok _
  · unfold Selector.resolveWithoutCount
    split
    · exact .error trivial
    · exact .ok _
    · exact .ok _

/-- Selecting the template of a member. -/
theorem pluralizeVariant_rendered (member : Variant) : Rendered (formatter.pluralizeVariant member) := by
  -- A text needs no count, and forms are reduced as a message is.
  cases member with
  | text template => exact .ok template
  | plural forms => exact formatter.pluralize_rendered (.plural forms)

/-- What is done about a placeholder without a value. -/
theorem missing_rendered (template : String) (found : Placeholder) {e : Error} (formatting : e.OfFormatting) :
    Rendered (formatter.missing template found e) := by
  -- The error is reported, or one of two texts is written in place of the placeholder.
  unfold missing
  split
  · exact .error formatting
  · exact .ok _
  · exact .ok _

/-- Putting a token in. -/
theorem tokenText_rendered (template : String) (token : Token) : Rendered (formatter.tokenText template token) := by
  cases token with
  | text source => exact .ok _
  | escaped raw => exact .ok _
  | invalid raw position => exact .error trivial
  | placeholder found =>
    -- The errors of placeholders are about arguments and functions.
    change Rendered (formatter.replacement template found)
    unfold replacement
    split
    · simp only
      split
      · exact .ok _
      · exact formatter.missing_rendered template found trivial
    · simp only
      split
      · unfold pick
        simp only
        split
        · exact .ok _
        · exact .error trivial
      · exact formatter.missing_rendered template found trivial

/-- Putting the tokens of a template in. -/
theorem substitute_rendered (template : String) : Rendered (formatter.substitute template) :=
  (Rendered.mapM (formatter.tokenText_rendered template) _).map

/-- Formatting a message reports only errors of putting it together. -/
theorem format_rendered (value : Value) : Rendered (formatter.format value) := by
  -- A message of one template is reduced and written; variants are reduced one by one if there is a count.
  have single (value : Value) : Rendered
      (((formatter.pluralize value).bind formatter.substitute).map Translation.text) :=
    ((formatter.pluralize_rendered value).bind formatter.substitute_rendered).map
  cases value with
  | scalar template => exact single (.scalar template)
  | plural forms => exact single (.plural forms)
  | variants members =>
    unfold format
    cases formatter.count? with
    | some count => exact (Rendered.mapM (fun member => (formatter.pluralizeVariant_rendered member).map) members).map
    | none => exact .ok _

/-- Formatting a message never reports a cyclic reference. -/
theorem format_acyclic (value : Value) (chain : List String) :
    formatter.format value ≠ .error (.cyclicReference chain) :=
  formatter.format_rendered value _

end Formatter

end Phrasebook
