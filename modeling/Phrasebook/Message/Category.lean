/-! The four plural categories and the templates a plural message has for them. -/

namespace Phrasebook

/-- The kinds of counts that a message can have a wording of its own for. -/
inductive Category where
  | zero
  | one
  | few
  | many
deriving DecidableEq, Repr

namespace Category

/-- All categories, in their order. -/
def all : List Category :=
  [.zero, .one, .few, .many]

/-- The name of a category, in files and in messages. -/
def name : Category → String
  | .zero => "zero"
  | .one => "one"
  | .few => "few"
  | .many => "many"

/-- The category of a name, which is spelled exactly. -/
def ofName? (name : String) : Option Category :=
  all.find? fun category => category.name = name

/-- Names tell categories apart. -/
theorem name_injective {a b : Category} (same : a.name = b.name) : a = b := by
  -- There are four names, no two of them equal.
  cases a <;> cases b <;> first | rfl | exact absurd same (by decide)

/-- Every category is found by its name. -/
@[simp] theorem ofName?_name (category : Category) : ofName? category.name = some category := by
  -- The name of each of the four is looked up in turn.
  cases category <;> decide

/-- A name that is found belongs to the category found. -/
theorem name_of_ofName? {name : String} {category : Category} (found : ofName? name = some category) :
    category.name = name := by
  -- The search only stops at a category with that name.
  simpa using List.find?_some found

end Category

/-- The templates of a plural message, at most one for each category. -/
structure Forms where
  zero : Option String := none
  one : Option String := none
  few : Option String := none
  many : Option String := none
deriving DecidableEq, Repr

namespace Forms

/-- The template of a category. -/
def get? (forms : Forms) : Category → Option String
  | .zero => forms.zero
  | .one => forms.one
  | .few => forms.few
  | .many => forms.many

/-- The forms with another template for a category. -/
def insert (forms : Forms) (category : Category) (template : String) : Forms :=
  match category with
  | .zero => { forms with zero := some template }
  | .one => { forms with one := some template }
  | .few => { forms with few := some template }
  | .many => { forms with many := some template }

/-- Whether a category has a template. -/
def contains (forms : Forms) (category : Category) : Bool :=
  (forms.get? category).isSome

/-- The categories that have a template, with it, in the order of the categories. -/
def entries (forms : Forms) : List (Category × String) :=
  Category.all.filterMap fun category => (forms.get? category).map fun template => (category, template)

/-- The number of categories with a template. -/
def size (forms : Forms) : Nat :=
  forms.entries.length

/-- Whether no category has a template. -/
def isEmpty (forms : Forms) : Bool :=
  forms.entries.isEmpty

/-- Forms filled from the front, so that the last template given for a category stays. -/
def ofList (entries : List (Category × String)) : Forms :=
  entries.foldl (fun forms entry => forms.insert entry.1 entry.2) {}

/-- A look-up after an insertion gives the new template for its category and the old one for any other. -/
@[simp] theorem get?_insert (forms : Forms) (category other : Category) (template : String) :
    (forms.insert category template).get? other =
      if other = category then some template else forms.get? other := by
  -- Each category has a place of its own.
  cases category <;> cases other <;> rfl

/-- Forms are known by what is found under each category. -/
theorem ext_get? {a b : Forms} (same : ∀ category, a.get? category = b.get? category) : a = b := by
  -- The four places are read off one by one.
  obtain ⟨_, _, _, _⟩ := a
  obtain ⟨_, _, _, _⟩ := b
  have z := same .zero
  have o := same .one
  have f := same .few
  have m := same .many
  simp_all [get?]

end Forms

/-- The category whose template a count asks for: none of its own for counts beyond the few. -/
def Category.preferred? (count few : Int) : Option Category :=
  if count = 0 then some .zero
  else if count = 1 then some .one
  else if 1 < count ∧ count ≤ few then some .few
  else none

/-- The category a count selects: the one it asks for if that has a template, and `many` otherwise. -/
def Category.select (count few : Int) (forms : Forms) : Category :=
  ((preferred? count few).filter forms.contains).getD .many

end Phrasebook
