import Phrasebook.Proofs.Rendering.Tokens
import Phrasebook.Rendering.Variants

/-! A list of variants is formatted as its members are on their own. A count reduces all members at once, and the first
of them that cannot be reduced decides about the list; without a count every member is reduced when it is asked for. -/

namespace Phrasebook.Formatter

variable {formatter : Formatter} {members : List Variant} {member : Variant} {error : Error}

/-- Formatting a member on its own: a text is the template that it is, with or without a count, and there is no plural
form to be missed in it; plural forms are formatted as the message that they make. -/
def Alone (formatter : Formatter) : Variant → Except Error String → Prop
  | .text template, result =>
    result = formatter.substitute template ∧ ∀ key, result ≠ .error (.pluralMismatch key)
  | .plural forms, result => formatter.format (.plural forms) = result.map .text

/-- Putting values into a template misses no plural form. -/
theorem substitute_ne_pluralMismatch (formatter : Formatter) (template key : String) :
    formatter.substitute template ≠ .error (.pluralMismatch key) := by
  intro fails
  -- Some token would have to fail in this way.
  obtain ⟨before, token, after, -, -, cause⟩ := substitute_eq_error_iff.1 fails
  cases cause with
  | missing lacks policy => cases lacks

/-- A member that is formatted when it is asked for is formatted on its own. -/
theorem alone_formatVariant (formatter : Formatter) (member : Variant) :
    formatter.Alone member (formatter.formatVariant member) := by
  -- A text never fails for its plural, and forms alone are a message.
  cases member with
  | text template => exact ⟨rfl, formatter.substitute_ne_pluralMismatch template⟩
  | plural forms => rfl

/-- A member that has been reduced before is formatted on its own. -/
theorem alone_of_reduced {other : Variant} (reduces : (formatter.pluralizeVariant member).map .text = .ok other) :
    formatter.Alone member (formatter.formatVariant other) := by
  obtain ⟨template, gives, rfl⟩ := Traversal.map_eq_ok_iff.1 reduces
  -- What is left is the template, and its text is that of the member.
  have same : formatter.formatVariant (.text template) = formatter.formatVariant member := by
    rw [formatVariant, formatVariant, gives]
    rfl
  rw [same]
  exact formatter.alone_formatVariant member

/-- The members of a list are reduced with the error of the first plural forms that cannot be reduced. -/
theorem reduction_eq_error_iff :
    members.mapM (fun member => (formatter.pluralizeVariant member).map Variant.text) = .error error ↔
      ∃ before forms after, members = before ++ .plural forms :: after ∧
        (∀ earlier, .plural earlier ∈ before → ∃ template, formatter.pluralize (.plural earlier) = .ok template) ∧
        formatter.pluralize (.plural forms) = .error error := by
  -- A text is always reduced, so that the member that fails is made of plural forms.
  simp only [Traversal.mapM_eq_error_iff, Traversal.map_eq_ok_iff, Traversal.map_eq_error_iff]
  constructor
  · rintro ⟨before, member, after, whole, reduce, fails⟩
    cases member with
    | text template => cases fails
    | plural forms =>
      refine ⟨before, forms, after, whole, fun earlier inside => ?_, fails⟩
      obtain ⟨-, template, gives, -⟩ := reduce _ inside
      exact ⟨template, gives⟩
  · rintro ⟨before, forms, after, whole, reduce, fails⟩
    refine ⟨before, _, after, whole, fun earlier inside => ?_, fails⟩
    cases earlier with
    | text template => exact ⟨_, template, rfl, rfl⟩
    | plural earlier =>
      obtain ⟨template, gives⟩ := reduce earlier inside
      exact ⟨_, template, gives, rfl⟩

/-- What a set of variants gives is formatted on its own, member by member. -/
theorem exists_format_variants {translation : Translation}
    (gives : formatter.format (.variants members) = .ok translation) :
    ∃ set, translation = .variants set ∧ set.formatter = formatter ∧
      List.Forall₂ (fun member other => formatter.Alone member (formatter.formatVariant other))
        members set.members := by
  rw [format] at gives
  cases counted : formatter.count? with
  | none =>
    -- The members are kept as they are.
    rw [counted] at gives
    obtain rfl := Except.ok.inj gives
    exact ⟨_, rfl, rfl, List.forall₂_same.2 fun member _ => formatter.alone_formatVariant member⟩
  | some count =>
    -- Each member is kept as the template that it was reduced to.
    rw [counted] at gives
    obtain ⟨reduced, reduces, rfl⟩ := Traversal.map_eq_ok_iff.1 gives
    exact ⟨_, rfl, rfl, Traversal.forall₂_of_mapM_eq_ok (fun member _ other => alone_of_reduced) reduces⟩

/-- Formatting a list of variants. Without a count it succeeds; with one it fails exactly if plural forms among the
members cannot be reduced, with the error of the first ones. The variants are as many as the members, and each of them
gives what its member gives on its own, however often and in whatever order they are asked for. -/
theorem format_variants_alone (formatter : Formatter) (members : List Variant) :
    (formatter.count? = none → ∃ set, formatter.format (.variants members) = .ok (.variants set)) ∧
    (formatter.count?.isSome → ∀ error, formatter.format (.variants members) = .error error ↔
      ∃ before forms after, members = before ++ .plural forms :: after ∧
        (∀ earlier, .plural earlier ∈ before → ∃ template, formatter.pluralize (.plural earlier) = .ok template) ∧
        formatter.pluralize (.plural forms) = .error error) ∧
    ∀ translation, formatter.format (.variants members) = .ok translation →
      ∃ set results, translation = .variants set ∧ set.size = members.length ∧
        List.Forall₂ formatter.Alone members results ∧
        ∀ positions : List Nat, positions.map set.get? = positions.map (results[·]?) := by
  refine ⟨fun counted => ?_, fun counted error => ?_, fun translation gives => ?_⟩
  · rw [format, counted]
    exact ⟨_, rfl⟩
  · obtain ⟨count, counts⟩ := Option.isSome_iff_exists.1 counted
    rw [format, counts, Traversal.map_eq_error_iff, reduction_eq_error_iff]
  · obtain ⟨set, rfl, rfl, each⟩ := exists_format_variants gives
    refine ⟨set, set.members.map set.formatter.formatVariant, rfl, each.length_eq.symm, ?_, fun positions => ?_⟩
    · rwa [List.forall₂_map_right_iff]
    · -- Asking for a variant reads the members only.
      refine List.map_congr_left fun position _ => ?_
      rw [List.getElem?_map, VariantSet.get?]

/-- A strict formatter of a message about a basket, for a number of things or without one. -/
def cart (count : Option Int) : Formatter :=
  { key := "basket", locale := "en"
    arguments := match count with
      | some n => Dict.empty.insert countName (.whole n)
      | none => .empty
    settings := { onMissingPlural := .error }, grammar := .ofSettings {}, functions := .empty, handlers := {} }

/-- Plural forms that have no wording for five things fail at once if there are five, and not before they are asked for
if nothing is counted. -/
theorem format_variants_alone_cart :
    (cart none).count? = none ∧
    (∃ set, (cart none).format (.variants [.text "Basket", .plural { one := some "one" }]) = .ok (.variants set)) ∧
    (cart (some 5)).count?.isSome ∧
    (cart (some 5)).format (.variants [.text "Basket", .plural { one := some "one" }]) =
      .error (.categoryMissing "basket" .many) ∧
    (cart (some 5)).format (.variants [.text "Basket", .plural { many := some "%count things" }]) =
      .ok (.variants ⟨[.text "Basket", .text "%count things"], cart (some 5)⟩) ∧
    ∃ results, List.Forall₂ (cart (some 5)).Alone
      [.text "Basket", .plural { many := some "%count things" }] results := by
  have uncounted : (cart none).count? = none := rfl
  have counted : (cart (some 5)).count?.isSome := rfl
  have gives : (cart (some 5)).format (.variants [.text "Basket", .plural { many := some "%count things" }]) =
      .ok (.variants ⟨[.text "Basket", .text "%count things"], cart (some 5)⟩) := rfl
  obtain ⟨-, results, -, -, each, -⟩ := (format_variants_alone (cart (some 5)) _).2.2 _ gives
  -- The general statement applies to both carts; that the forms fail for five is computed.
  refine ⟨uncounted, (format_variants_alone (cart none) _).1 uncounted, counted, ?_, gives, results, each⟩
  refine ((format_variants_alone (cart (some 5)) _).2.1 counted _).2 ⟨[.text "Basket"], _, [], rfl, ?_, rfl⟩
  intro earlier inside
  simp at inside

end Phrasebook.Formatter
