import Phrasebook.Proofs.Catalogue.Again

/-! What an expansion without a search leaves, also when it fails: every message is the original one as a whole, or the
full one as a whole. -/

namespace Phrasebook

open Grammar (standard)

/-- The categories that have a template, in their order. -/
def Forms.categories (forms : Forms) : List Category :=
  Category.all.filter forms.contains

/-- What a member is apart from its templates. -/
inductive Variant.Shape where
  | text
  | plural (categories : List Category)
deriving DecidableEq, Repr

/-- The shape of a variant: whether it is a text, or which categories it has. -/
def Variant.shape : Variant → Shape
  | .text _ => .text
  | .plural forms => .plural forms.categories

/-- What a message is apart from its templates: its kind, the categories of its forms, and the shapes of its members. -/
inductive Value.Shape where
  | scalar
  | plural (categories : List Category)
  | variants (members : List Variant.Shape)
deriving DecidableEq, Repr

/-- The shape of a value: its kind, with the categories or the shapes of its members. -/
def Value.shape : Value → Shape
  | .scalar _ => .scalar
  | .plural forms => .plural forms.categories
  | .variants members => .variants (members.map Variant.shape)

section Shape

variable {related : String → String → Prop}

/-- Related forms are of the same categories. -/
theorem Forms.Rewritten.categories_eq {forms results : Forms} (fits : forms.Rewritten related results) :
    results.categories = forms.categories := by
  -- Of a category there is a form in both or in neither.
  unfold categories
  congr 1
  funext category
  exact isSome_of_rel (fits category)

/-- A variant keeps its shape when its templates are rewritten. -/
theorem Variant.Rewritten.shape_eq {member result : Variant} (fits : member.Rewritten related result) :
    result.shape = member.shape := by
  -- A text stays a text, and forms keep their categories.
  cases fits with
  | text _ => rfl
  | plural fits => rw [shape, fits.categories_eq, shape]

/-- Only the templates of related messages may be different. -/
theorem Value.Rewritten.shape_eq {value result : Value} (fits : value.Rewritten related result) :
    result.shape = value.shape := by
  cases fits with
  | scalar _ => rfl
  | plural fits => rw [shape, fits.categories_eq, shape]
  | @variants members results fits =>
    -- The members stand in the same places.
    have shapes : results.map Variant.shape = members.map Variant.shape := by
      induction fits with
      | nil => rfl
      | cons first _ ih => rw [List.map_cons, first.shape_eq, ih, List.map_cons]
    rw [shape, shapes, shape]

end Shape

namespace Store

variable {original store : Store} {locale key : String}

/-- The full message of a key is stored. -/
def HoldsFull (original store : Store) (locale key : String) : Prop :=
  ∃ value full, original.get? key locale = some value ∧ store.get? key locale = some full ∧
    original.Full standard locale key value full

/-- Nothing in a store is half written: of the locale some original messages are replaced by the full ones, and all
others are as they were. -/
structure Whole (original store : Store) (locale : String) : Prop where
  blends : original.Blends store locale
  elsewhere : ∀ key asked, asked ≠ locale → store.get? key asked = original.get? key asked

namespace Whole

/-- A store is whole beside itself. -/
theorem refl (original : Store) (locale : String) : Whole original original locale :=
  ⟨fun _ => .inl rfl, fun _ _ _ => rfl⟩

/-- The full message of a key is written at once. -/
theorem add {value full : Value} (whole : Whole original store locale)
    (stored : original.get? key locale = some value) (isFull : original.Full standard locale key value full) :
    Whole original (store.add key full locale) locale ∧ HoldsFull original (store.add key full locale) locale key := by
  have here : (store.add key full locale).get? key locale = some full := by
    rw [get?_add, if_pos ⟨rfl, rfl⟩]
  refine ⟨⟨fun other => ?_, fun other asked apart => ?_⟩, ⟨value, full, stored, here, isFull⟩⟩
  -- The key itself holds the full message now; others are as they were.
  · by_cases same : other = key
    · subst same
      exact .inr ⟨value, full, stored, here, isFull⟩
    · rw [get?_add, if_neg fun both => same both.1]
      exact whole.blends other
  · rw [get?_add, if_neg fun both => apart both.2]
    exact whole.elsewhere other asked apart

/-- A message without references is the full one already, whether it has been written or not. -/
theorem holdsFull {value : Value} (whole : Whole original store locale) (stored : store.get? key locale = some value)
    (plain : value.references standard = []) : HoldsFull original store locale key := by
  -- The message is the original one, or was written as a full one.
  rcases whole.blends key with same | ⟨before, full, was, is, isFull⟩
  · exact ⟨value, value, same ▸ stored, stored, full_self plain⟩
  · exact ⟨before, full, was, is, isFull⟩

end Whole

end Store

namespace Expansion

variable {original : Store} {locale : String} {settings : Settings}

/-- A step writes nothing by halves, and makes the message of a key full unless it fails. -/
def Completes (original : Store) (locale key : String) (step : Lookup Unit Unit) (library : Library Unit) : Prop :=
  step.Meets library
    (fun _ left => original.Whole left.store locale ∧ original.HoldsFull left.store locale key)
    (fun _ left => original.Whole left.store locale)

/-- Following a reference gives what it means. Wherever it fails, nothing is half written. -/
theorem offline_follow_whole {expand : String → Lookup Unit Unit} {library : Library Unit}
    (whole : original.Whole library.store locale)
    (expands : ∀ target left, original.Whole left.store locale → Completes original locale target (expand target) left)
    (inProgress : List String) (key : String) (reference : Reference) :
    ((offline settings locale).follow expand inProgress key reference).Meets library
      (fun text left => original.Means standard locale key reference text ∧ original.Whole left.store locale)
      (fun _ left => original.Whole left.store locale) := by
  refine Lookup.Meets.follow (fun target found => ?_) fun missing => ?_
  · have means : original.resolve? standard locale key reference = some target :=
      (Store.resolve?_congr whole.blends.has_eq).symm.trans found
    refine (expands target library whole).mono (fun _ left ends => ?_) fun _ _ => id
    obtain ⟨whole, value, full, was, is, isFull⟩ := ends
    -- The full message of the target is put in if it is a single template.
    refine Lookup.Meets.inline (fun text stored => ?_) (fun _ _ _ => whole) fun _ => whole
    obtain rfl := Option.some.inj (is.symm.trans stored)
    obtain ⟨template, rfl, spells⟩ := isFull.exists_template
    exact ⟨⟨target, template, means, was, spells⟩, whole⟩
  · -- The searcher brings nothing, so that the key written in the reference is still not stored.
    refine Lookup.Meets.pure (Lookup.Meets.pure ?_)
    have absent : library.store.has reference.target locale = false := Store.has_target_of_resolve? missing
    rw [show library.store.has reference.target (offline settings locale).locale = false from absent]
    exact whole

section Checked

variable (checked : original.Checked standard locale)
include checked

/-- Expanding a key writes its full message at once, when all references in it have been followed, and if one of them
cannot be followed, not at all. -/
theorem offline_expandKey_whole (fuel : Nat) (inProgress : List String) (key : String) {library : Library Unit}
    (whole : original.Whole library.store locale) :
    Completes original locale key ((offline settings locale).expandKey fuel inProgress key) library := by
  -- The induction is on the bound; what is in progress does not matter, as it has not been written yet.
  induction fuel generalizing inProgress key library with
  | zero => exact Lookup.Meets.throw whole
  | succ fuel ih =>
    refine Lookup.Meets.expandKey (fun _ => whole) (fun _ _ => whole) ?_ ?_
    · intro value _ found plain
      exact ⟨whole, whole.holdsFull found plain⟩
    · intro value _ found referring
      have stored : original.get? key locale = some value := whole.blends.get?_of_refers checked found referring
      -- Following the references writes other messages only, and each of them as a whole.
      refine (Lookup.Meets.expandValue (original.Means standard locale key)
        (fun _ left => original.Whole left.store locale) ?_ whole).mono ?_ fun _ _ => id
      · intro reference rest left whole
        exact offline_follow_whole whole (fun target left whole => ih _ target whole) _ key reference
      · intro full left ends
        exact ends.2.add stored ends.1

/-- Expanding keys leaves nothing half written, wherever it fails. -/
theorem offline_expandKeys_whole (settings : Settings) (keys : List String) :
    original.Whole (original.expandOffline settings locale keys).2.store locale := by
  -- Each key keeps the store whole, and so does passing over one.
  refine Lookup.Meets.left (Lookup.Meets.expandKeys (fun _ left => original.Whole left.store locale) ?_ ?_ ?_)
  · intro key _ left whole _
    exact (offline_expandKey_whole checked _ [] key whole).mono (fun _ _ => And.left) fun _ _ => id
  · exact fun _ _ _ whole _ => whole
  · exact .refl original locale

/-- Whether the expansion of keys without a search succeeds or fails, the same keys are stored as before, the messages
of other locales are the same, and each one of the locale is the original message, or the full one, which holds no
reference and has the shape of the original. -/
theorem offline_leaves_whole (settings : Settings) (keys : List String) :
    let left := (original.expandOffline settings locale keys).2.store
    (∀ key asked, left.has key asked = original.has key asked) ∧
      (∀ key asked, asked ≠ locale → left.get? key asked = original.get? key asked) ∧
      ∀ key value, original.get? key locale = some value →
        left.get? key locale = some value ∨
          ∃ full, left.get? key locale = some full ∧ original.Full standard locale key value full ∧
            full.references standard = [] ∧ full.shape = value.shape := by
  intro left
  have whole : original.Whole left locale := offline_expandKeys_whole checked settings keys
  refine ⟨fun key asked => ?_, whole.elsewhere, fun key value stored => ?_⟩
  · by_cases here : asked = locale
    · subst here
      exact whole.blends.has_eq key
    · rw [Store.has, whole.elsewhere key asked here, Store.has]
  · rcases whole.blends key with same | ⟨before, full, was, is, isFull⟩
    · exact .inl (same.trans stored)
    · -- The full message is settled, as the original ones pass the check.
      obtain rfl := Option.some.inj (was.symm.trans stored)
      have settled := Value.settled_iff.1 (isFull.settled checked was)
      exact .inr ⟨full, is, isFull, settled.2, isFull.shape_eq⟩

end Checked

/-- Variants of which the second one cannot be spelled out, and what the first one refers to. -/
def torn : Store :=
  ((Store.empty.add "app.hints" (.variants [.text "%{.tip}", .plural { many := some "%{.lost}" }]) "en").add "app.tip"
    (.scalar "Press %{.button}") "en").add "app.button" (.scalar "Start") "en"

/-- The templates of the torn store are checked. -/
theorem torn_checked : torn.Checked standard "en" :=
  (((Store.checked_empty standard "en").add (by decide +kernel)).add (by decide +kernel)).add (by decide +kernel)

/-- The expansion of the variants fails behind the first one. By then the message that it refers to has been replaced by
the full one, while the variants themselves are as they were. -/
theorem offline_leaves_whole_torn :
    let ended := torn.expandOffline {} "en" ["app.hints"]
    ended.1 = .error (.invalidReference "lost" "app.hints" none) ∧
      ended.2.store.get? "app.hints" "en" = torn.get? "app.hints" "en" ∧
      ended.2.store.get? "app.tip" "en" ≠ torn.get? "app.tip" "en" ∧
      ∃ full, ended.2.store.get? "app.tip" "en" = some full ∧
        torn.Full standard "en" "app.tip" (.scalar "Press %{.button}") full ∧ full.references standard = [] := by
  intro ended
  obtain ⟨-, -, each⟩ := offline_leaves_whole torn_checked {} ["app.hints"]
  have written : ended.2.store.get? "app.tip" "en" ≠ torn.get? "app.tip" "en" := by decide +kernel
  have tip : torn.get? "app.tip" "en" = some (.scalar "Press %{.button}") := by decide +kernel
  refine ⟨by decide +kernel, by decide +kernel, written, ?_⟩
  -- The tip is not the original one any more, so it is the full one.
  obtain ⟨full, is, isFull, plain, -⟩ := (each "app.tip" _ tip).resolve_left fun same => written (same.trans tip.symm)
  exact ⟨full, is, isFull, plain⟩

end Expansion

end Phrasebook
