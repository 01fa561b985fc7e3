import Phrasebook.Proofs.Resource.Leaves

/-! Messages written as data. The reader of messages gives back what was written, and so does the reader of resources,
unless it takes plural forms for a namespace because there are not two of them. -/

namespace Phrasebook

namespace Forms

variable {forms : Forms} {category : Category}

/-- The templates with their categories, in the order of the names of the categories. -/
def byName (forms : Forms) : List (Category × String) :=
  [Category.few, .many, .one, .zero].filterMap fun category =>
    (forms.get? category).map fun template => (category, template)

/-- The members of the object that plural forms are written as. -/
def members (forms : Forms) : List (String × Json) :=
  forms.byName.map fun entry => (entry.1.name, .text entry.2)

/-- Plural forms are written as the object of their members. -/
theorem toJson_eq (forms : Forms) : forms.toJson = .object forms.members := by
  have few_many : "few" < "many" := by decide
  have few_one : "few" < "one" := by decide
  have few_zero : "few" < "zero" := by decide
  have many_one : "many" < "one" := by decide
  have many_zero : "many" < "zero" := by decide
  have one_zero : "one" < "zero" := by decide
  -- Each of the four places holds a template or does not.
  obtain ⟨_ | _, _ | _, _ | _, _ | _⟩ := forms <;>
    simp [toJson, Json.ofDict, entries, Category.all, get?, Dict.ofList, Dict.insert, Dict.put, Dict.empty,
      Category.name, members, byName, few_many, few_one, few_zero, many_one, many_zero, one_zero, not_lt_of_gt]

/-- Forms are filled from their templates in the order of the names. -/
theorem ofList_byName (forms : Forms) : ofList forms.byName = forms := by
  -- Each of the four places holds a template or does not.
  obtain ⟨_ | _, _ | _, _ | _, _ | _⟩ := forms <;> rfl

/-- A member names a category and holds its template. -/
theorem mem_members_iff {name : String} {value : Json} : (name, value) ∈ forms.members ↔
    ∃ category template, forms.get? category = some template ∧ name = category.name ∧ value = .text template := by
  -- The members are gone through by the names of the categories, of which none is left out.
  have complete (category : Category) : category ∈ [Category.few, .many, .one, .zero] := by cases category <;> decide
  simp only [members, byName, List.mem_map, List.mem_filterMap, Option.map_eq_some_iff, Prod.mk.injEq]
  constructor
  · rintro ⟨_, ⟨category, -, template, held, rfl⟩, rfl, rfl⟩
    exact ⟨category, template, held, rfl, rfl⟩
  · rintro ⟨category, template, held, rfl, rfl⟩
    exact ⟨_, ⟨category, complete category, template, held, rfl⟩, rfl, rfl⟩

/-- The object that plural forms are written as is in order. -/
theorem ordered_members (forms : Forms) : (Json.object forms.members).Ordered := by
  -- What is written is a dictionary from names, and a dictionary is in order.
  have spelled : forms.members =
      (Dict.ofList (forms.entries.map fun entry => (entry.1.name, Json.text entry.2))).entries :=
    Json.object.inj (forms.toJson_eq.symm)
  refine .object ?_ ?_
  · rw [spelled]
    exact Dict.ordered_ofList _
  · rintro ⟨name, value⟩ member
    obtain ⟨category, template, -, -, rfl⟩ := mem_members_iff.1 member
    exact .text

/-- The template of a category is found under its name. -/
theorem member?_members (forms : Forms) (category : Category) :
    Json.member? forms.members category.name = (forms.get? category).map Json.text := by
  -- Different categories have different names, so that the name tells the template.
  refine Option.ext fun value => ?_
  rw [Json.member?_eq_some_iff forms.ordered_members, mem_members_iff, Option.map_eq_some_iff]
  constructor
  · rintro ⟨other, template, held, same, rfl⟩
    exact ⟨template, Category.name_injective same ▸ held, rfl⟩
  · rintro ⟨template, held, rfl⟩
    exact ⟨category, template, held, rfl, rfl⟩

/-- Plural forms are read back from their members. -/
theorem ofMembers?_members (forms : Forms) : ofMembers? forms.members = some forms := by
  rw [ofMembers?, members, Traversal.mapM_of_leftInverse _ fun entry => ?_, Option.map_some, ofList_byName]
  -- A member has the name of a category, and holds a text.
  simp only [Category.ofName?_name]

end Forms

/-- A member of a list of variants is read back. -/
theorem Variant.ofJson?_toJson (member : Variant) : ofJson? member.toJson = some member := by
  -- A member is a text, or an object of forms.
  cases member with
  | text template => rfl
  | plural forms => rw [toJson, Forms.toJson_eq, ofJson?, forms.ofMembers?_members, Option.map_some]

/-- A message is read back. -/
theorem Value.ofJson?_toJson (value : Value) : ofJson? value.toJson = some value := by
  -- By the kinds of messages: a text, an object of forms, an array of members.
  cases value with
  | scalar template => rfl
  | plural forms => rw [toJson, Forms.toJson_eq, ofJson?, forms.ofMembers?_members, Option.map_some]
  | variants members =>
    rw [toJson, ofJson?, Traversal.mapM_of_leftInverse _ Variant.ofJson?_toJson, Option.map_some]

namespace Resource

variable {delimiter space key : String} {forms : Forms}

/-- Plural forms come of the members that they are written as. -/
theorem forms_members (key : String) (forms : Forms) : Resource.forms key forms.members = .ok forms := by
  have yields := forms_yields key forms.ordered_members
  cases result : Resource.forms key forms.members with
  | ok made =>
    -- Under each category the same template is found.
    have isForms := (yields.of_ok result).1
    refine congrArg _ (Forms.ext_get? fun category => ?_)
    rw [isForms category, forms.member?_members]
    cases forms.get? category <;> rfl
  | error error =>
    -- No member would be faulty.
    obtain ⟨⟨category, value, held, unspelled⟩, -⟩ := yields.of_error result
    rw [forms.member?_members, Option.map_eq_some_iff] at held
    obtain ⟨template, -, rfl⟩ := held
    cases unspelled

/-- Written plural forms are taken for what they are if there are two of them. -/
theorem isPlural_members (forms : Forms) : isPlural forms.members = true ↔ 2 ≤ forms.size := by
  -- Both count the categories that have a template.
  rw [isPlural, decide_eq_true_eq, Forms.size, Forms.entries, List.length_filterMap_eq_countP,
    ← List.countP_eq_length_filter]
  simp only [Forms.member?_members, Option.isSome_map]

/-- The messages of an object with one member are those of the member. -/
theorem entries_singleton (value : Json) :
    entries delimiter space [(key, value)] = entriesAt delimiter (Key.join space key delimiter) value := by
  -- There is nothing behind the one member.
  rw [entries, entries]
  cases entriesAt delimiter (Key.join space key delimiter) value with
  | error error => rfl
  | ok found => exact congrArg Except.ok (List.append_nil found)

/-- An object of texts holds one template for each of them. -/
theorem entries_texts (delimiter space : String) (texts : List (String × String)) :
    entries delimiter space (texts.map fun entry => (entry.1, .text entry.2)) =
      .ok (texts.map fun entry => (Key.join space entry.1 delimiter, .scalar entry.2)) := by
  -- Every text gives one message, in front of those of the others.
  induction texts with
  | nil => rfl
  | cons entry rest ih =>
    exact entries_cons_eq_ok_iff.2 ⟨[(Key.join space entry.1 delimiter, .scalar entry.2)], _, rfl, ih, rfl⟩

/-- Written plural forms are the message they were if there are two of them. -/
theorem entriesAt_plural (enough : 2 ≤ forms.size) :
    entriesAt delimiter key forms.toJson = .ok [(key, .plural forms)] := by
  rw [Forms.toJson_eq, entriesAt, if_pos ((isPlural_members forms).2 enough), forms_members]
  rfl

/-- Written plural forms of which there are not two are a namespace of templates. -/
theorem entriesAt_sparse (few : forms.size < 2) : entriesAt delimiter space forms.toJson =
    .ok (forms.byName.map fun entry => (Key.join space entry.1.name delimiter, .scalar entry.2)) := by
  rw [Forms.toJson_eq, entriesAt, if_neg fun plural => absurd ((isPlural_members forms).1 plural) (not_le_of_gt few)]
  -- What is left are the members, each of which is a text.
  have texts := entries_texts delimiter space (forms.byName.map fun entry => (entry.1.name, entry.2))
  rwa [List.map_map, List.map_map] at texts

/-- A written member is the variant it was. -/
theorem variant_toJson (key : String) (member : Variant) : variant key member.toJson = .ok member := by
  -- A member is a text, or forms, which are read back.
  cases member with
  | text template => rfl
  | plural forms =>
    rw [Variant.toJson, Forms.toJson_eq, variant, forms_members]
    rfl

/-- Written variants are the message they were. -/
theorem entriesAt_variants (members : List Variant) :
    entriesAt delimiter key (Value.variants members).toJson = .ok [(key, .variants members)] := by
  -- Every member is read back, and all of them make one message.
  have each : (members.map Variant.toJson).mapM (variant key) = .ok members :=
    Traversal.mapM_eq_ok_iff.2 (List.forall₂_map_left_iff.2 (List.forall₂_same.2 fun member _ =>
      variant_toJson key member))
  rw [Value.toJson, entriesAt, each]
  rfl

/-- Both readers give back a message that was written: the reader of messages always, and the reader of resources the
message under its key exactly if it is not of fewer than two plural forms. -/
theorem readers_agree (value : Value) : Value.ofJson? value.toJson = some value ∧ ∀ delimiter space key : String,
    entries delimiter space [(key, value.toJson)] = .ok [(Key.join space key delimiter, value)] ↔
      ¬ ∃ forms, value = .plural forms ∧ forms.size < 2 := by
  refine ⟨value.ofJson?_toJson, fun delimiter space key => ?_⟩
  rw [entries_singleton]
  cases value with
  | scalar template => exact iff_of_true rfl fun ⟨_, shape, _⟩ => nomatch shape
  | variants members => exact iff_of_true (entriesAt_variants members) fun ⟨_, shape, _⟩ => nomatch shape
  | plural forms =>
    simp only [Value.toJson, Value.plural.injEq, exists_eq_left', not_lt]
    constructor
    · intro gives
      by_contra few
      -- All messages of the namespace are templates.
      rw [entriesAt_sparse (not_le.1 few), Except.ok.injEq, List.map_eq_singleton_iff] at gives
      obtain ⟨entry, -, same⟩ := gives
      cases (Prod.mk.inj same).2
    · exact entriesAt_plural

end Resource

end Phrasebook
