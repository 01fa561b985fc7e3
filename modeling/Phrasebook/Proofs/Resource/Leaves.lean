import Mathlib.Data.Finset.Card
import Mathlib.Data.List.Nodup
import Phrasebook.Proofs.Json.Ordered
import Phrasebook.Proofs.Resource.Entries
import Phrasebook.Proofs.Traversal

/-! The messages of an object are those of its leaves: one for each of them, in the order of the paths of names that
lead to them. Something is wrong exactly if a leaf holds a value that no template can be made of. -/

namespace Phrasebook

namespace Json

/-- An object that names at least two categories. -/
def Plural (members : List (String × Json)) : Prop :=
  ∃ first second : Category, first ≠ second ∧ (member? members first.name).isSome ∧
    (member? members second.name).isSome

/-- Data that makes one message: a plain value, an array, or an object that is plural. -/
def IsLeaf : Json → Prop
  | .null => False
  | .object members => Plural members
  | _ => True

/-- The leaves of an object, each with the path of names that leads to it. Objects that are not plural are passed
through on the way. -/
inductive Leaf : List (String × Json) → List String → Json → Prop where
  | here {members : List (String × Json)} {name : String} {value : Json} (held : member? members name = some value)
    (isLeaf : value.IsLeaf) : Leaf members [name] value
  | through {members inner : List (String × Json)} {name : String} {path : List String} {value : Json}
    (held : member? members name = some (.object inner)) (single : ¬ Plural inner) (leaf : Leaf inner path value) :
    Leaf members (name :: path) value

/-- The template that a plain value is: a text, a number or a flag. Other data is none. -/
def spelled? : Json → Option String
  | .text template => some template
  | .number value => some value.render
  | .bool flag => some (if flag then "true" else "false")
  | _ => none

/-- Plural forms that are the members of an object that name categories, and no others. -/
def IsForms (members : List (String × Json)) (forms : Forms) : Prop :=
  ∀ category, forms.get? category = (member? members category.name).bind spelled?

/-- A variant that is an item of an array. -/
inductive IsVariant : Json → Variant → Prop where
  | text {value : Json} {template : String} (spells : value.spelled? = some template) :
    IsVariant value (.text template)
  | plural {members : List (String × Json)} {forms : Forms} (isForms : IsForms members forms) :
    IsVariant (.object members) (.plural forms)

/-- A message that is a leaf, in its shape. -/
inductive IsMessage : Json → Value → Prop where
  | scalar {value : Json} {template : String} (spells : value.spelled? = some template) :
    IsMessage value (.scalar template)
  | plural {members : List (String × Json)} {forms : Forms} (isForms : IsForms members forms) :
    IsMessage (.object members) (.plural forms)
  | variants {items : List Json} {variants : List Variant} (each : List.Forall₂ IsVariant items variants) :
    IsMessage (.array items) (.variants variants)

/-- An object in which a member that names a category is no plain value. -/
def FaultyForms (members : List (String × Json)) : Prop :=
  ∃ category value, member? members (Category.name category) = some value ∧ value.spelled? = none

/-- An item of an array that is neither a plain value nor an object with plain forms. -/
def FaultyItem : Json → Prop
  | .object members => FaultyForms members
  | item => item.spelled? = none

/-- Data of which no message can be made. -/
def Faulty : Json → Prop
  | .object members => FaultyForms members
  | .array items => ∃ item ∈ items, item.FaultyItem
  | value => value.spelled? = none

end Json

namespace Resource

open Json (Leaf)

variable {delimiter space key : String} {members : List (String × Json)} {path : List String} {value leaf : Json}
variable {found : List (String × Value)}

section Listing

mutual

/-- The leaves of data, from the front. -/
def leavesOf : Json → List (List String × Json)
  | .object members => if isPlural members then [([], .object members)] else leaves members
  | .null => []
  | value => [([], value)]

/-- The leaves of an object, from the front: those of each member, with its name before them. -/
def leaves : List (String × Json) → List (List String × Json)
  | [] => []
  | (name, value) :: rest => (leavesOf value).map (fun leaf => (name :: leaf.1, leaf.2)) ++ leaves rest

end

/-- An object is plural if it names two categories. -/
theorem isPlural_iff : isPlural members = true ↔ Json.Plural members := by
  have complete : ∀ category : Category, category ∈ Category.all := by
    intro category
    cases category <;> decide
  have distinct : (Category.all.filter fun category => (Json.member? members category.name).isSome).Nodup := by
    refine List.Nodup.filter _ ?_
    decide
  -- No category is listed twice, so that two of them in the list are two different ones.
  rw [isPlural, decide_eq_true_eq, ← List.toFinset_card_of_nodup distinct]
  refine Finset.one_lt_card.trans ?_
  simp only [List.mem_toFinset, List.mem_filter, complete, true_and]
  constructor
  · rintro ⟨first, heldFirst, second, heldSecond, apart⟩
    exact ⟨first, second, apart, heldFirst, heldSecond⟩
  · rintro ⟨first, second, apart, heldFirst, heldSecond⟩
    exact ⟨first, heldFirst, second, heldSecond, apart⟩

/-- A leaf of an object is a member of it, or a leaf of a member that is passed through. -/
theorem leaf_iff (ordered : (Json.object members).Ordered) : Leaf members path leaf ↔
    ∃ member ∈ members, ∃ rest, path = member.1 :: rest ∧ (rest = [] ∧ leaf = member.2 ∧ member.2.IsLeaf ∨
      ∃ inner, member.2 = .object inner ∧ ¬ Json.Plural inner ∧ Leaf inner rest leaf) := by
  -- In an object in order the members are those that are found by their names.
  constructor
  · intro isLeaf
    cases isLeaf with
    | here held isLeaf => exact ⟨_, Json.mem_of_member? held, [], rfl, .inl ⟨rfl, rfl, isLeaf⟩⟩
    | through held single later => exact ⟨_, Json.mem_of_member? held, _, rfl, .inr ⟨_, rfl, single, later⟩⟩
  · rintro ⟨⟨name, value⟩, member, rest, rfl, ⟨rfl, rfl, isLeaf⟩ | ⟨inner, rfl, single, later⟩⟩
    · exact .here ((Json.member?_eq_some_iff ordered).2 member) isLeaf
    · exact .through ((Json.member?_eq_some_iff ordered).2 member) single later

mutual

/-- The leaves of data that are listed: itself, or those of an object that is passed through. -/
theorem mem_leavesOf_iff (value : Json) (ordered : value.Ordered) (path : List String) (leaf : Json) :
    (path, leaf) ∈ leavesOf value ↔ path = [] ∧ leaf = value ∧ value.IsLeaf ∨
      ∃ inner, value = .object inner ∧ ¬ Json.Plural inner ∧ Leaf inner path leaf := by
  -- Anything but an object is a leaf; so is an object of plural forms, and any other is passed through.
  cases value with
  | null => simp [leavesOf, Json.IsLeaf]
  | bool flag => simp [leavesOf, Json.IsLeaf]
  | number value => simp [leavesOf, Json.IsLeaf]
  | text value => simp [leavesOf, Json.IsLeaf]
  | array items => simp [leavesOf, Json.IsLeaf]
  | object inner =>
    rw [leavesOf]
    by_cases plural : Json.Plural inner
    · simp [isPlural_iff.2 plural, plural, Json.IsLeaf]
    · rw [if_neg (mt isPlural_iff.1 plural), mem_leaves_iff inner ordered path leaf]
      simp [plural, Json.IsLeaf]

/-- The leaves of an object that are listed are its leaves. -/
theorem mem_leaves_iff (members : List (String × Json)) (ordered : (Json.object members).Ordered) (path : List String)
    (leaf : Json) : (path, leaf) ∈ leaves members ↔ Leaf members path leaf := by
  cases members with
  | nil =>
    rw [leaf_iff ordered]
    simp [leaves]
  | cons member rest =>
    obtain ⟨name, value⟩ := member
    have here : value.Ordered := ordered.of_mem (List.mem_cons_self)
    have later := mem_leaves_iff rest ordered.tail path leaf
    rw [leaf_iff ordered.tail] at later
    -- A leaf is one of the first member, or of those behind it.
    rw [leaf_iff ordered, leaves, List.mem_append, later]
    simp only [List.mem_map, List.exists_mem_cons_iff, Prod.mk.injEq, Prod.exists]
    refine or_congr ?_ Iff.rfl
    constructor
    · rintro ⟨front, _, inside, rfl, rfl⟩
      exact ⟨front, rfl, (mem_leavesOf_iff value here front _).1 inside⟩
    · rintro ⟨front, rfl, inside⟩
      exact ⟨front, _, (mem_leavesOf_iff value here front _).2 inside, rfl, rfl⟩

end

mutual

/-- The paths of the leaves of data increase. -/
theorem leavesOf_increasing (value : Json) (ordered : value.Ordered) :
    (leavesOf value).Pairwise fun a b => a.1 < b.1 := by
  -- One leaf is in order, and the leaves of an object are so by the order of its names.
  cases value with
  | null => exact .nil
  | bool flag => exact List.pairwise_singleton _ _
  | number value => exact List.pairwise_singleton _ _
  | text value => exact List.pairwise_singleton _ _
  | array items => exact List.pairwise_singleton _ _
  | object inner =>
    rw [leavesOf]
    split
    · exact List.pairwise_singleton _ _
    · exact leaves_increasing inner ordered

/-- The paths of the leaves of an object increase: those of one member do, and the name of the next member is
greater. -/
theorem leaves_increasing (members : List (String × Json)) (ordered : (Json.object members).Ordered) :
    (leaves members).Pairwise fun a b => a.1 < b.1 := by
  cases members with
  | nil => exact .nil
  | cons member rest =>
    obtain ⟨name, value⟩ := member
    have here := leavesOf_increasing value (ordered.of_mem List.mem_cons_self)
    rw [leaves, List.pairwise_append]
    refine ⟨?_, leaves_increasing rest ordered.tail, ?_⟩
    · -- The name before the paths is the same for all of them.
      rw [List.pairwise_map]
      exact here.imp fun smaller => List.cons_lt_cons_self.2 smaller
    · -- The other paths start with greater names.
      intro first member second later
      obtain ⟨front, -, rfl⟩ := List.mem_map.1 member
      obtain ⟨other, held, more, spelled, -⟩ :=
        (leaf_iff ordered.tail).1 ((mem_leaves_iff rest ordered.tail second.1 second.2).1 later)
      rw [spelled]
      exact List.cons_lt_cons_iff.2 (.inl (ordered.lt_of_mem held))

end

end Listing

section Messages

/-- The message that data is under a key. -/
def messageAt (key : String) : Json → Except LoadError Value
  | .object members => (forms key members).map .plural
  | .array items => (items.mapM (variant key)).map .variants
  | value => (template key value).map .scalar

/-- The message that a leaf is, with its key. -/
def messageOf (delimiter space : String) (leaf : List String × Json) : Except LoadError (String × Value) :=
  (messageAt (Key.below space leaf.1 delimiter) leaf.2).map (Key.below space leaf.1 delimiter, ·)

mutual

/-- The messages of data are those of its leaves, one after the other. -/
theorem entriesAt_eq_mapM (delimiter key : String) (value : Json) :
    entriesAt delimiter key value = (leavesOf value).mapM (messageOf delimiter key) := by
  have single (value : Json) : [([], value)].mapM (messageOf delimiter key) =
      (messageAt key value).map fun message => [(key, message)] := by
    rw [List.mapM_cons, messageOf, Key.below, List.foldl_nil]
    cases messageAt key value <;> rfl
  cases value with
  | null => rfl
  | bool flag => exact (single (.bool flag)).symm
  | number value => exact (single (.number value)).symm
  | text value => exact (single (.text value)).symm
  | array items =>
    -- Both go through the items once.
    refine Eq.trans ?_ (single (.array items)).symm
    rw [entriesAt, messageAt]
    cases items.mapM (variant key) <;> rfl
  | object members =>
    rw [entriesAt, leavesOf]
    split
    · rw [single, messageAt]
      cases forms key members <;> rfl
    · exact entries_eq_mapM delimiter key members

/-- The messages of an object are those of its leaves, one after the other. -/
theorem entries_eq_mapM (delimiter space : String) (members : List (String × Json)) :
    entries delimiter space members = (leaves members).mapM (messageOf delimiter space) := by
  cases members with
  | nil => rfl
  | cons member rest =>
    obtain ⟨name, value⟩ := member
    -- The messages below a name are those of the leaves with the name before their paths.
    rw [entries, leaves, List.mapM_append, List.mapM_map, entriesAt_eq_mapM, entries_eq_mapM delimiter space rest]
    rfl

end

/-- What comes of data under a key: something that fits, if nothing in the data is faulty; otherwise an error that
names the key and a value that no template can be made of. -/
def Yields {α : Type} (key : String) (fits : α → Prop) (faulty : Prop) (result : Except LoadError α) : Prop :=
  match result with
  | .ok made => fits made ∧ ¬ faulty
  | .error error => faulty ∧ ∃ value : Json, value.spelled? = none ∧ error = .invalidData key (.unsupported value)

section Yields

variable {α β : Type} {fits : α → Prop} {suits : β → Prop} {faulty others : Prop} {result : Except LoadError α}

/-- What is made fits, and nothing is wrong then. -/
theorem Yields.of_ok {made : α} (yields : Yields key fits faulty result) (makes : result = .ok made) :
    fits made ∧ ¬ faulty := by
  rwa [makes] at yields

/-- If there is an error something is wrong, and the error names a value that no template can be made of. -/
theorem Yields.of_error {error : LoadError} (yields : Yields key fits faulty result) (fails : result = .error error) :
    faulty ∧ ∃ value : Json, value.spelled? = none ∧ error = .invalidData key (.unsupported value) := by
  rwa [fails] at yields

/-- Something else may be made of what fits. -/
theorem Yields.map {put : α → β} (yields : Yields key fits faulty result)
    (suit : ∀ made, fits made → suits (put made)) : Yields key suits faulty (result.map put) := by
  -- An error stays as it is.
  cases result with
  | ok made => exact ⟨suit made yields.1, yields.2⟩
  | error error => exact yields

/-- What comes second is wrong if the first step or the second one is. -/
theorem Yields.bind {next : α → Except LoadError β} (yields : Yields key fits faulty result)
    (later : ∀ made, fits made → Yields key suits others (next made)) :
    Yields key suits (faulty ∨ others) (result >>= next) := by
  -- The first step fails, or the second does, or neither.
  cases result with
  | error error => exact ⟨.inl yields.1, yields.2⟩
  | ok made =>
    have behind := later made yields.1
    change Yields key suits (faulty ∨ others) (next made)
    generalize next made = second at behind
    cases second with
    | error error => exact ⟨.inr behind.1, behind.2⟩
    | ok other => exact ⟨behind.1, fun wrong => wrong.elim yields.2 behind.2⟩

/-- What fits may be said in another way, and so may what is wrong. -/
theorem Yields.imp {suits : α → Prop} (yields : Yields key fits faulty result) (suit : ∀ made, fits made → suits made)
    (same : faulty ↔ others) : Yields key suits others result := by
  -- One case for each way in which the step may end.
  cases result with
  | ok made => exact ⟨suit made yields.1, mt same.2 yields.2⟩
  | error error => exact ⟨same.1 yields.1, yields.2⟩

end Yields

/-- A template comes of a plain value. -/
theorem template_yields (key : String) (value : Json) :
    Yields key (fun made => value.spelled? = some made) (value.spelled? = none) (template key value) := by
  -- By the kinds of values: texts, numbers and flags are spelled, and nothing else is.
  cases value with
  | text spelled => exact ⟨rfl, nofun⟩
  | number number => exact ⟨rfl, nofun⟩
  | bool flag => exact ⟨rfl, nofun⟩
  | null => exact ⟨rfl, _, rfl, rfl⟩
  | array items => exact ⟨rfl, _, rfl, rfl⟩
  | object members => exact ⟨rfl, _, rfl, rfl⟩

/-- A member adds the form of the category that it names, and no other. -/
theorem addForm_yields (key : String) (start : Forms) (name : String) (value : Json) :
    Yields key
      (fun made => ∀ category, made.get? category =
        if category.name = name then value.spelled? else start.get? category)
      (∃ category : Category, category.name = name ∧ value.spelled? = none) (addForm key start (name, value)) := by
  rw [addForm]
  cases named : Category.ofName? name with
  | none =>
    -- A member that names no category is passed over.
    have apart (category : Category) : category.name ≠ name := by
      rintro rfl
      rw [Category.ofName?_name] at named
      cases named
    exact ⟨fun category => (if_neg (apart category)).symm, fun ⟨category, same, _⟩ => apart category same⟩
  | some category =>
    obtain rfl := Category.name_of_ofName? named
    refine Yields.imp (Yields.map (template_yields key value) fun made spells other => ?_) (fun _ => id) ?_
    · rw [Forms.get?_insert, spells]
      exact if_congr ⟨fun same => congrArg _ same, Category.name_injective⟩ rfl rfl
    · exact ⟨fun wrong => ⟨category, rfl, wrong⟩, fun ⟨_, _, wrong⟩ => wrong⟩

/-- In an object in order the first member is faulty as a form, or the others are. -/
theorem faultyForms_cons_iff {name : String} (ordered : (Json.object ((name, value) :: members)).Ordered) :
    Json.FaultyForms ((name, value) :: members) ↔
      (∃ category : Category, category.name = name ∧ value.spelled? = none) ∨ Json.FaultyForms members := by
  -- A member of an object in order is held under its own name, first or not.
  simp only [Json.FaultyForms, Json.member?_eq_some_iff ordered, Json.member?_eq_some_iff ordered.tail,
    List.mem_cons, Prod.mk.injEq]
  constructor
  · rintro ⟨category, other, ⟨same, rfl⟩ | held, wrong⟩
    · exact .inl ⟨category, same, wrong⟩
    · exact .inr ⟨category, other, held, wrong⟩
  · rintro (⟨category, same, wrong⟩ | ⟨category, other, held, wrong⟩)
    · exact ⟨category, value, .inl ⟨same, rfl⟩, wrong⟩
    · exact ⟨category, other, .inr held, wrong⟩

/-- Plural forms come of an object: to those that are there already its members are added. -/
theorem foldlM_addForm_yields (key : String) (ordered : (Json.object members).Ordered) (start : Forms) :
    Yields key (fun made => ∀ category, made.get? category =
        match Json.member? members (Category.name category) with
        | some value => value.spelled?
        | none => start.get? category)
      (Json.FaultyForms members) (members.foldlM (addForm key) start) := by
  -- The forms grow along the members, so that those at the start stay quantified.
  induction members generalizing start with
  | nil => exact ⟨fun category => rfl, fun ⟨_, _, held, _⟩ => nomatch held⟩
  | cons member rest ih =>
    obtain ⟨name, value⟩ := member
    have member? (other : String) : Json.member? ((name, value) :: rest) other =
        if other = name then some value else Json.member? rest other := rfl
    have absent : Json.member? rest name = none :=
      Dict.find?_eq_none fun entry held => (ordered.lt_of_mem held).ne
    rw [List.foldlM_cons, faultyForms_cons_iff ordered]
    refine (addForm_yields key start name value).bind fun first adds => ?_
    refine (ih ordered.tail first).imp (fun made later category => ?_) Iff.rfl
    rw [later category, adds category, member?]
    -- No member behind the first one has its name.
    by_cases same : category.name = name
    · rw [same, absent, if_pos rfl, if_pos rfl]
    · rw [if_neg same, if_neg same]

/-- Plural forms come of an object. -/
theorem forms_yields (key : String) (ordered : (Json.object members).Ordered) :
    Yields key (Json.IsForms members) (Json.FaultyForms members) (forms key members) := by
  refine (foldlM_addForm_yields key ordered {}).imp (fun made added category => ?_) Iff.rfl
  rw [added category]
  -- There are no forms at the start.
  cases Json.member? members category.name with
  | none => cases category <;> rfl
  | some value => rfl

/-- A variant comes of an item. -/
theorem variant_yields (key : String) (ordered : value.Ordered) :
    Yields key value.IsVariant value.FaultyItem (variant key value) := by
  -- Objects are plural forms, and all other items templates.
  have plain : Yields key value.IsVariant (value.spelled? = none) ((template key value).map .text) :=
    (template_yields key value).map fun made spells => .text spells
  cases value with
  | object members => exact (forms_yields key ordered).map fun made isForms => .plural isForms
  | null => exact plain
  | bool flag => exact plain
  | number number => exact plain
  | text spelled => exact plain
  | array items => exact plain

/-- Variants come of the items of an array. -/
theorem variants_yields (key : String) {items : List Json} (ordered : (Json.array items).Ordered) :
    Yields key (List.Forall₂ Json.IsVariant items) (∃ item ∈ items, item.FaultyItem) (items.mapM (variant key)) := by
  have each : ∀ item ∈ items, Yields key item.IsVariant item.FaultyItem (variant key item) := by
    intro item member
    cases ordered with
    | array each => exact variant_yields key (each item member)
  cases result : items.mapM (variant key) with
  | ok variants =>
    refine ⟨Traversal.forall₂_of_mapM_eq_ok (fun item member made makes => ?_) result, ?_⟩
    · exact ((each item member).of_ok makes).1
    · -- Every item has given a variant, a faulty one too.
      rintro ⟨item, member, faulty⟩
      obtain ⟨made, makes⟩ := Traversal.exists_mapM_eq_ok_iff.1 ⟨variants, result⟩ item member
      exact ((each item member).of_ok makes).2 faulty
  | error error =>
    -- The error is that of some item.
    obtain ⟨before, item, after, rfl, -, fails⟩ := Traversal.mapM_eq_error_iff.1 result
    have member : item ∈ before ++ item :: after := List.mem_append_right _ List.mem_cons_self
    obtain ⟨faulty, named⟩ := (each item member).of_error fails
    exact ⟨⟨item, member, faulty⟩, named⟩

/-- A message comes of data. -/
theorem messageAt_yields (key : String) (ordered : value.Ordered) :
    Yields key value.IsMessage value.Faulty (messageAt key value) := by
  -- Objects are plural forms, arrays are variants, and anything else is a template.
  have plain : Yields key value.IsMessage (value.spelled? = none) ((template key value).map .scalar) :=
    (template_yields key value).map fun made spells => .scalar spells
  cases value with
  | object members => exact (forms_yields key ordered).map fun made isForms => .plural isForms
  | array items => exact (variants_yields key ordered).map fun made each => .variants each
  | null => exact plain
  | bool flag => exact plain
  | number number => exact plain
  | text spelled => exact plain

end Messages

section Leaves

/-- The leaves of an object in order are in order. -/
theorem ordered_of_leaf (isLeaf : Leaf members path leaf) (ordered : (Json.object members).Ordered) :
    leaf.Ordered := by
  -- The way down passes through objects in order only.
  induction isLeaf with
  | here held isLeaf => exact ordered.of_mem (Json.mem_of_member? held)
  | through held single later ih => exact ih (ordered.of_mem (Json.mem_of_member? held))

/-- A path that leads to a leaf has a name. -/
theorem ne_nil_of_leaf (isLeaf : Leaf members path leaf) : path ≠ [] := by
  cases isLeaf <;> exact List.cons_ne_nil _ _

/-- The message of a leaf stands under the key of its path. -/
theorem messageOf_eq_ok_iff {leaf : List String × Json} {entry : String × Value} :
    messageOf delimiter space leaf = .ok entry ↔ entry.1 = Key.below space leaf.1 delimiter ∧
      messageAt (Key.below space leaf.1 delimiter) leaf.2 = .ok entry.2 := by
  -- The key is told by the path, and the message by the data.
  obtain ⟨place, message⟩ := entry
  simp only [messageOf, Traversal.map_eq_ok_iff, Prod.mk.injEq]
  constructor
  · rintro ⟨made, makes, rfl, rfl⟩
    exact ⟨rfl, makes⟩
  · rintro ⟨rfl, makes⟩
    exact ⟨message, makes, rfl, rfl⟩

/-- The message that comes of a leaf. -/
theorem messageAt_yields_of_leaf (ordered : (Json.object members).Ordered) (isLeaf : Leaf members path leaf) :
    Yields (Key.below space path delimiter) leaf.IsMessage leaf.Faulty
      (messageAt (Key.below space path delimiter) leaf) :=
  messageAt_yields _ (ordered_of_leaf isLeaf ordered)

/-- An error names the key of a faulty leaf, and a value in it that no template can be made of. -/
theorem error_of_entries {error : LoadError} (ordered : (Json.object members).Ordered)
    (fails : entries delimiter space members = .error error) :
    ∃ path leaf bad, Leaf members path leaf ∧ leaf.Faulty ∧ Json.spelled? bad = none ∧
      error = .invalidData (Key.below space path delimiter) (.unsupported bad) := by
  -- The error is that of the first leaf of which no message can be made.
  rw [entries_eq_mapM] at fails
  obtain ⟨before, ⟨path, leaf⟩, after, whole, -, fails⟩ := Traversal.mapM_eq_error_iff.1 fails
  have isLeaf : Leaf members path leaf := (mem_leaves_iff members ordered path leaf).1 (by simp [whole])
  rw [messageOf, Traversal.map_eq_error_iff] at fails
  obtain ⟨faulty, bad, unspelled, named⟩ := (messageAt_yields_of_leaf ordered isLeaf).of_error fails
  exact ⟨path, leaf, bad, isLeaf, faulty, unspelled, named⟩

/-- No message comes of an object exactly if one of its leaves is faulty. -/
theorem entries_eq_error_iff (ordered : (Json.object members).Ordered) :
    (∃ error, entries delimiter space members = .error error) ↔ ∃ path leaf, Leaf members path leaf ∧ leaf.Faulty := by
  constructor
  · rintro ⟨error, fails⟩
    obtain ⟨path, leaf, -, isLeaf, faulty, -⟩ := error_of_entries ordered fails
    exact ⟨path, leaf, isLeaf, faulty⟩
  · rintro ⟨path, leaf, isLeaf, faulty⟩
    cases result : entries delimiter space members with
    | error error => exact ⟨error, rfl⟩
    | ok found =>
      -- All leaves would give a message then, and the faulty one does not.
      rw [entries_eq_mapM] at result
      obtain ⟨entry, gives⟩ := Traversal.exists_mapM_eq_ok_iff.1 ⟨found, result⟩ (path, leaf)
        ((mem_leaves_iff members ordered path leaf).2 isLeaf)
      have makes := (messageOf_eq_ok_iff.1 gives).2
      exact absurd faulty ((messageAt_yields_of_leaf ordered isLeaf).of_ok makes).2

/-- The messages of an object are those of its leaves, in their order. -/
theorem forall₂_of_entries (ordered : (Json.object members).Ordered)
    (gives : entries delimiter space members = .ok found) :
    List.Forall₂ (fun leaf entry => entry.1 = Key.below space leaf.1 delimiter ∧ leaf.2.IsMessage entry.2)
      (leaves members) found := by
  -- Leaf by leaf: the message that is made of one is a message of its data.
  rw [entries_eq_mapM] at gives
  refine Traversal.forall₂_of_mapM_eq_ok (fun ⟨path, leaf⟩ member entry makes => ?_) gives
  obtain ⟨key, message⟩ := messageOf_eq_ok_iff.1 makes
  have isLeaf : Leaf members path leaf := (mem_leaves_iff members ordered path leaf).1 member
  exact ⟨key, ((messageAt_yields_of_leaf ordered isLeaf).of_ok message).1⟩

/-- The keys of messages are those of the paths of the leaves. -/
theorem keys_of_entries (ordered : (Json.object members).Ordered)
    (gives : entries delimiter space members = .ok found) :
    found.map Prod.fst = ((leaves members).map Prod.fst).map fun path => Key.below space path delimiter := by
  -- Leaf by leaf, each message has the key of its path.
  have each := forall₂_of_entries ordered gives
  rw [List.map_map, ← List.forall₂_eq_eq_eq, List.forall₂_map_left_iff, List.forall₂_map_right_iff]
  exact each.flip.imp fun entry leaf made => made.1

/-- No two paths of leaves are the same. -/
theorem nodup_leaves (ordered : (Json.object members).Ordered) : ((leaves members).map Prod.fst).Nodup := by
  rw [List.Nodup, List.pairwise_map]
  exact (leaves_increasing members ordered).imp fun smaller => ne_of_lt smaller

/-- The messages of an object are those of its leaves. They are listed in the order of their paths, one for each leaf,
under the key of its path and in the shape of its value, unless a leaf is faulty; and if the names on the way are
segments, no two messages have the same key. -/
theorem entries_leaves (delimiter space : String) (ordered : (Json.object members).Ordered) :
    (∀ path leaf, (path, leaf) ∈ leaves members ↔ Leaf members path leaf) ∧
    (leaves members).Pairwise (fun a b => a.1 < b.1) ∧
    ((∃ error, entries delimiter space members = .error error) ↔
      ∃ path leaf, Leaf members path leaf ∧ leaf.Faulty) ∧
    ∀ found, entries delimiter space members = .ok found →
      List.Forall₂ (fun leaf entry => entry.1 = Key.below space leaf.1 delimiter ∧ leaf.2.IsMessage entry.2)
        (leaves members) found ∧
      (delimiter ≠ "" → (∀ path leaf, Leaf members path leaf → ∀ name ∈ path, Key.IsSegment delimiter name) →
        (found.map Prod.fst).Nodup) := by
  have listed := mem_leaves_iff members ordered
  refine ⟨listed, leaves_increasing members ordered, entries_eq_error_iff ordered, fun found gives => ?_⟩
  refine ⟨forall₂_of_entries ordered gives, fun some segments => ?_⟩
  rw [keys_of_entries ordered gives]
  -- The paths are different, and so are the keys that they are spelled as.
  have isLeaf : ∀ path ∈ (leaves members).map Prod.fst, ∃ leaf, Leaf members path leaf := by
    intro path member
    obtain ⟨leaf, held, rfl⟩ := List.mem_map.1 member
    exact ⟨leaf.2, (listed leaf.1 leaf.2).1 held⟩
  refine (nodup_leaves ordered).map_on ?_
  intro path member other otherMember same
  obtain ⟨leaf, first⟩ := isLeaf path member
  obtain ⟨last, second⟩ := isLeaf other otherMember
  exact Key.below_injective some (ne_nil_of_leaf first) (ne_nil_of_leaf second) (segments path leaf first)
    (segments other last second) same

/-- The data of a small file: a text and plural forms below a name, nothing, and a list. -/
def basket : List (String × Json) :=
  [("cart", .object [("items", .object [("many", .text "%count% items"), ("one", .text "one item"), ("size", .null)]),
      ("title", .text "Basket")]),
    ("note", .null),
    ("units", .array [.text "piece", .object [("few", .text "crates")]])]

/-- The names of the basket lead to three messages, of three shapes, under keys of their own. -/
theorem entries_leaves_basket :
    (Json.object basket).Ordered ∧ "." ≠ "" ∧
    (∀ path leaf, Leaf basket path leaf → ∀ name ∈ path, Key.IsSegment "." name) ∧
    entries "." "shop" basket = .ok
      [("shop.cart.items", .plural { one := some "one item", many := some "%count% items" }),
        ("shop.cart.title", .scalar "Basket"),
        ("shop.units", .variants [.text "piece", .plural { few := some "crates" }])] ∧
    ["shop.cart.items", "shop.cart.title", "shop.units"].Nodup := by
  have ordered : (Json.object basket).Ordered := Json.ordered_canonical (.object basket)
  have laws := entries_leaves "." "shop" ordered
  have segments : ∀ path leaf, Leaf basket path leaf → ∀ name ∈ path, Key.IsSegment "." name := by
    intro path leaf isLeaf
    -- The paths are computed, and their names with them.
    have paths : (leaves basket).map Prod.fst = [["cart", "items"], ["cart", "title"], ["units"]] := rfl
    have each : ∀ path ∈ (leaves basket).map Prod.fst, ∀ name ∈ path, Key.IsSegment "." name := by
      rw [paths]
      decide
    exact each path (List.mem_map_of_mem ((laws.1 path leaf).2 isLeaf))
  have gives : entries "." "shop" basket = .ok
      [("shop.cart.items", .plural { one := some "one item", many := some "%count% items" }),
        ("shop.cart.title", .scalar "Basket"),
        ("shop.units", .variants [.text "piece", .plural { few := some "crates" }])] := rfl
  exact ⟨ordered, by decide, segments, gives, ((laws.2.2.2 _ gives).2 (by decide) segments)⟩

end Leaves

end Resource

end Phrasebook
