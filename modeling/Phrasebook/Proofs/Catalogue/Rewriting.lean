import Phrasebook.Catalogue.Expansion
import Phrasebook.Proofs.Catalogue.Outcome
import Phrasebook.Proofs.Template.Parts

/-! Messages that differ in their templates only, and what going through the templates of a message
gives. -/

namespace Phrasebook

/-- Plural forms of the same categories with related templates. -/
def Forms.Rewritten (related : String → String → Prop) (before after : Forms) : Prop :=
  ∀ category, Option.Rel related (before.get? category) (after.get? category)

/-- Members of the same shape with related templates. -/
inductive Variant.Rewritten (related : String → String → Prop) : Variant → Variant → Prop where
  | text {template result : String} (fits : related template result) :
    Rewritten related (.text template) (.text result)
  | plural {forms results : Forms} (fits : forms.Rewritten related results) :
    Rewritten related (.plural forms) (.plural results)

/-- Messages of the same shape with related templates. -/
inductive Value.Rewritten (related : String → String → Prop) : Value → Value → Prop where
  | scalar {template result : String} (fits : related template result) :
    Rewritten related (.scalar template) (.scalar result)
  | plural {forms results : Forms} (fits : forms.Rewritten related results) :
    Rewritten related (.plural forms) (.plural results)
  | variants {members results : List Variant} (fits : List.Forall₂ (Variant.Rewritten related) members results) :
    Rewritten related (.variants members) (.variants results)

section Related

variable {α β : Type} {related : α → β → Prop}

/-- Something is related only to something. -/
theorem exists_of_rel {before : Option α} {after : Option β} (fits : Option.Rel related before after) {item : α}
    (held : before = some item) : ∃ other, after = some other ∧ related item other := by
  -- Nothing is related to nothing only.
  cases fits with
  | none => cases held
  | some here => exact ⟨_, rfl, Option.some.inj held ▸ here⟩

/-- Something comes from something. -/
theorem exists_of_rel_right {before : Option α} {after : Option β} (fits : Option.Rel related before after)
    {other : β} (held : after = some other) : ∃ item, before = some item ∧ related item other := by
  -- Nothing is related to nothing only.
  cases fits with
  | none => cases held
  | some here => exact ⟨_, rfl, Option.some.inj held ▸ here⟩

/-- What is related stays so where more is. -/
theorem rel_mono {wider : α → β → Prop} (imp : ∀ item other, related item other → wider item other)
    {before : Option α} {after : Option β} (fits : Option.Rel related before after) :
    Option.Rel wider before after := by
  cases fits with
  | none => exact .none
  | some here => exact .some (imp _ _ here)

/-- There is something on both sides, or on none. -/
theorem isSome_of_rel {before : Option α} {after : Option β} (fits : Option.Rel related before after) :
    after.isSome = before.isSome := by
  cases fits <;> rfl

/-- If an item is related to one other only, so is what may be an item. -/
theorem rel_unique (functional : Relator.RightUnique related) {before : Option α} {after other : Option β}
    (first : Option.Rel related before after) (second : Option.Rel related before other) : after = other := by
  -- Both are there if the first one is, and are what it is related to.
  cases first with
  | none => cases second with | none => rfl
  | some one => cases second with | some two => rw [functional one two]

/-- Every item of the second of two related lists is related to one of the first. -/
theorem exists_of_forall₂ {items : List α} {others : List β} (fits : List.Forall₂ related items others)
    {other : β} (member : other ∈ others) : ∃ item ∈ items, related item other := by
  -- It is the item in the same place.
  induction fits with
  | nil => cases member
  | @cons item _ _ _ here _ ih =>
    rcases List.mem_cons.1 member with rfl | member
    · exact ⟨item, by simp, here⟩
    · obtain ⟨source, inside, related⟩ := ih member
      exact ⟨source, by simp [inside], related⟩

end Related

namespace Forms

variable {related : String → String → Prop} {forms results : Forms}

/-- A template of plural forms is the one of some category. -/
theorem mem_templates {template : String} :
    template ∈ forms.templates ↔ ∃ category, forms.get? category = some template := by
  -- The templates are collected in the order of the categories, and none is left out.
  have each (category : Category) : category ∈ Category.all := by cases category <;> decide
  simp only [templates, entries, List.mem_map, List.mem_filterMap, Option.map_eq_some_iff]
  constructor
  · intro member
    obtain ⟨_, ⟨category, _, _, found, rfl⟩, rfl⟩ := member
    exact ⟨category, found⟩
  · intro held
    obtain ⟨category, found⟩ := held
    exact ⟨(category, template), ⟨category, each category, template, found, rfl⟩, rfl⟩

/-- Forms are filled from their entries. -/
theorem ofList_entries (forms : Forms) : ofList forms.entries = forms := by
  -- Each of the four places holds a template or does not.
  obtain ⟨_ | _, _ | _, _ | _, _ | _⟩ := forms <;> rfl

/-- Forms filled from entries with related templates have related templates. -/
theorem rewritten_ofList {entries others : List (Category × String)}
    (fits : List.Forall₂ (fun a b => a.1 = b.1 ∧ related a.2 b.2) entries others) :
    (ofList entries).Rewritten related (ofList others) := by
  -- The induction goes along the entries, with forms filled so far that are related already.
  have general (before after : Forms) (soFar : before.Rewritten related after) :
      (entries.foldl (fun forms entry => forms.insert entry.1 entry.2) before).Rewritten related
        (others.foldl (fun forms entry => forms.insert entry.1 entry.2) after) := by
    induction fits generalizing before after with
    | nil => exact soFar
    | cons entry _ ih =>
      refine ih _ _ fun category => ?_
      rw [get?_insert, get?_insert, entry.1]
      split
      · exact .some entry.2
      · exact soFar category
  exact general {} {} fun category => by cases category <;> exact .none

/-- Related forms have as many templates, which are related in their order. -/
theorem Rewritten.forall₂_templates (fits : forms.Rewritten related results) :
    List.Forall₂ related forms.templates results.templates := by
  simp only [templates, entries]
  -- Category by category both forms hold a template or neither does.
  induction Category.all with
  | nil => exact .nil
  | cons category others ih =>
    have here := fits category
    generalize before : forms.get? category = template at here
    generalize after : results.get? category = result at here
    cases here with
    | none => simpa [before, after] using ih
    | some related => simpa [before, after, related] using ih

/-- Forms are related to themselves if their templates are. -/
theorem rewritten_self (fits : ∀ template ∈ forms.templates, related template template) :
    forms.Rewritten related forms := by
  -- A category holds one of the templates, or nothing.
  intro category
  cases held : forms.get? category with
  | none => exact .none
  | some template => exact .some (fits template (mem_templates.2 ⟨category, held⟩))

/-- Related templates that are determined by the first ones determine the forms. -/
theorem Rewritten.unique {others : Forms}
    (functional : Relator.RightUnique related)
    (first : forms.Rewritten related results) (second : forms.Rewritten related others) :
    results = others := by
  -- Forms are the same if they hold the same in every category.
  exact ext_get? fun category => rel_unique functional (first category) (second category)

/-- Forms whose templates are related are so where more templates are. -/
theorem Rewritten.mono {wider : String → String → Prop} (imp : ∀ one two, related one two → wider one two)
    (fits : forms.Rewritten related results) : forms.Rewritten wider results :=
  fun category => rel_mono imp (fits category)

end Forms

namespace Variant

variable {related : String → String → Prop} {member result other : Variant}

/-- Related members have as many templates, which are related in their order. -/
theorem Rewritten.forall₂_templates (fits : member.Rewritten related result) :
    List.Forall₂ related member.templates result.templates := by
  -- A text is a single template.
  cases fits with
  | text fits => exact .cons fits .nil
  | plural fits => exact fits.forall₂_templates

/-- A member is related to itself if its templates are. -/
theorem rewritten_self (fits : ∀ template ∈ member.templates, related template template) :
    member.Rewritten related member := by
  -- A member is one template, or forms.
  cases member with
  | text template => exact .text (fits template (by simp [templates]))
  | plural forms => exact .plural (Forms.rewritten_self fits)

/-- Related templates that are determined by the first ones determine the member. -/
theorem Rewritten.unique (functional : Relator.RightUnique related)
    (first : member.Rewritten related result) (second : member.Rewritten related other) :
    result = other := by
  -- A text is rewritten as a text, and forms as forms.
  cases first with
  | text one => cases second with | text other => rw [functional one other]
  | plural one => cases second with | plural other => rw [one.unique functional other]

/-- Members whose templates are related are so where more templates are. -/
theorem Rewritten.mono {wider : String → String → Prop} (imp : ∀ one two, related one two → wider one two)
    (fits : member.Rewritten related result) : member.Rewritten wider result := by
  cases fits with
  | text fits => exact .text (imp _ _ fits)
  | plural fits => exact .plural (fits.mono imp)

end Variant

namespace Value

variable {related : String → String → Prop} {value result other : Value}

/-- Related messages have as many templates, which are related in their order. -/
theorem Rewritten.forall₂_templates (fits : value.Rewritten related result) :
    List.Forall₂ related value.templates result.templates := by
  cases fits with
  | scalar fits => exact .cons fits .nil
  | plural fits => exact fits.forall₂_templates
  | variants fits =>
    -- The templates of the members stand one after the other.
    induction fits with
    | nil => exact .nil
    | cons first _ ih =>
      simp only [templates, List.flatMap_cons] at ih ⊢
      exact List.rel_append first.forall₂_templates ih

/-- A message is related to itself if its templates are. -/
theorem rewritten_self (fits : ∀ template ∈ value.templates, related template template) :
    value.Rewritten related value := by
  -- The templates of a member are among those of the message.
  cases value with
  | scalar template => exact .scalar (fits template (by simp [templates]))
  | plural forms => exact .plural (Forms.rewritten_self fits)
  | variants members =>
    refine .variants (List.forall₂_same.2 fun member inside => Variant.rewritten_self fun template found => ?_)
    exact fits template (List.mem_flatMap.2 ⟨member, inside, found⟩)

/-- Messages whose templates are related are so where more templates are. -/
theorem Rewritten.mono {wider : String → String → Prop} (imp : ∀ one two, related one two → wider one two)
    (fits : value.Rewritten related result) : value.Rewritten wider result := by
  cases fits with
  | scalar fits => exact .scalar (imp _ _ fits)
  | plural fits => exact .plural (fits.mono imp)
  | variants fits => exact .variants (fits.imp fun _ _ member => member.mono imp)

/-- Related templates that are determined by the first ones determine the message. -/
theorem Rewritten.unique (functional : Relator.RightUnique related)
    (first : value.Rewritten related result) (second : value.Rewritten related other) :
    result = other := by
  -- Both results have the shape of the message, so they can differ in their templates only.
  cases first with
  | scalar one => cases second with | scalar other => rw [functional one other]
  | plural one => cases second with | plural other => rw [one.unique functional other]
  | variants one =>
    cases second with
    | variants other =>
      have members : Relator.RightUnique (Variant.Rewritten related) := fun _ _ _ =>
        Variant.Rewritten.unique functional
      rw [List.right_unique_forall₂' members one other]

end Value

namespace Lookup.Meets

variable {σ δ : Type} {library : Library σ} {change : String → Lookup σ String} {parts : String → List δ}
  {holds : List δ → Library σ → Prop} {related : String → String → Prop}
  {fails : Error → Library σ → Prop} {rest : List δ}

/-- Going through the templates of forms, with an invariant that depends on the parts that are left. -/
theorem mapForms {forms : Forms}
    (next : ∀ template rest left, holds (parts template ++ rest) left →
      Meets (change template) left (fun result after => related template result ∧ holds rest after) fails)
    (start : holds (forms.templates.flatMap parts ++ rest) library) :
    Meets (forms.mapTemplatesM change) library
      (fun results left => forms.Rewritten related results ∧ holds rest left) fails := by
  have entries : holds (forms.entries.flatMap (fun entry => parts entry.2) ++ rest) library := by
    simpa [Forms.templates, List.flatMap_map] using start
  -- An entry keeps its category.
  have each (entry : Category × String) (more : List δ) (left : Library σ)
      (holding : holds (parts entry.2 ++ more) left) :
      Meets (do return (entry.1, ← change entry.2)) left
        (fun answer after => (entry.1 = answer.1 ∧ related entry.2 answer.2) ∧ holds more after) fails := by
    refine bind (mono (next entry.2 more left holding) ?_ fun _ _ => id)
    exact fun result after both => pure ⟨⟨rfl, both.1⟩, both.2⟩
  refine bind (mono (mapM each entries) ?_ fun _ _ => id)
  intro results left ends
  obtain ⟨fits, holds⟩ := ends
  refine pure ⟨?_, holds⟩
  -- The forms are filled again from the entries that were changed.
  simpa only [Forms.ofList_entries] using Forms.rewritten_ofList fits

/-- Going through the templates of a member. -/
theorem mapVariant {member : Variant}
    (next : ∀ template rest left, holds (parts template ++ rest) left →
      Meets (change template) left (fun result after => related template result ∧ holds rest after) fails)
    (start : holds (member.templates.flatMap parts ++ rest) library) :
    Meets (member.mapTemplatesM change) library
      (fun result left => member.Rewritten related result ∧ holds rest left) fails := by
  -- A member is one template, or forms, whose templates are gone through one by one.
  cases member with
  | text template =>
    refine bind (mono (next template rest library (by simpa [Variant.templates] using start)) ?_ fun _ _ => id)
    exact fun result after both => pure ⟨.text both.1, both.2⟩
  | plural forms =>
    refine bind (mono (mapForms next start) ?_ fun _ _ => id)
    exact fun results after both => pure ⟨.plural both.1, both.2⟩

/-- Going through the templates of a message. -/
theorem mapTemplates {value : Value}
    (next : ∀ template rest left, holds (parts template ++ rest) left →
      Meets (change template) left (fun result after => related template result ∧ holds rest after) fails)
    (start : holds (value.templates.flatMap parts ++ rest) library) :
    Meets (value.mapTemplatesM change) library
      (fun result left => value.Rewritten related result ∧ holds rest left) fails := by
  cases value with
  | scalar template =>
    refine bind (mono (next template rest library (by simpa [Value.templates] using start)) ?_ fun _ _ => id)
    exact fun result after both => pure ⟨.scalar both.1, both.2⟩
  | plural forms =>
    refine bind (mono (mapForms next start) ?_ fun _ _ => id)
    exact fun results after both => pure ⟨.plural both.1, both.2⟩
  | variants members =>
    -- The members are gone through one after the other, each with its own templates.
    rw [Value.templates, List.flatMap_assoc] at start
    refine bind (mono (mapM (fun member more left => mapVariant next) start) ?_ fun _ _ => id)
    exact fun results after both => pure ⟨.variants both.1, both.2⟩

end Lookup.Meets

end Phrasebook
