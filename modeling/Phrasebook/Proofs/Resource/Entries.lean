import Phrasebook.Proofs.Key.Segments
import Phrasebook.Resource.Entry

/-! Which messages the data of a namespace holds: a text under a path of names is the message of the key that the path
spells, and whether there are messages at all does not depend on the namespace. -/

namespace Phrasebook

namespace Resource

variable {delimiter space text : String} {members : List (String × Json)} {found : List (String × Value)}

/-- The text under a path of names in an object. It is not looked for in plural forms, except those that the object
itself may be taken for. -/
def textAt? : List (String × Json) → List String → Option String
  | members, [name] =>
    match Json.member? members name with
    | some (.text text) => some text
    | _ => none
  | members, name :: rest =>
    match Json.member? members name with
    | some (.object inner) => if isPlural inner then none else textAt? inner rest
    | _ => none
  | _, [] => none

/-- The messages of an object are those of its members, in their order. -/
theorem entries_cons_eq_ok_iff {name : String} {value : Json} :
    entries delimiter space ((name, value) :: members) = .ok found ↔
      ∃ here later, entriesAt delimiter (Key.join space name delimiter) value = .ok here ∧
        entries delimiter space members = .ok later ∧ found = here ++ later := by
  -- The member comes first, and an error in it or behind it is the error of all.
  rw [entries]
  cases entriesAt delimiter (Key.join space name delimiter) value with
  | error error => simp [bind, Except.bind]
  | ok here =>
    cases entries delimiter space members with
    | error error => simp [bind, Except.bind]
    | ok later => simp [bind, Except.bind, pure, Except.pure, eq_comm]

/-- The messages of a member are among those of the object. -/
theorem exists_of_member? {name : String} {value : Json} (held : Json.member? members name = some value)
    (gives : entries delimiter space members = .ok found) :
    ∃ part, entriesAt delimiter (Key.join space name delimiter) value = .ok part ∧ part ⊆ found := by
  -- Member by member: what is held under the name is the first one of that name.
  induction members generalizing found with
  | nil => cases held
  | cons member rest ih =>
    obtain ⟨other, first⟩ := member
    obtain ⟨here, later, firsts, others, rfl⟩ := entries_cons_eq_ok_iff.1 gives
    rw [Json.member?, Dict.find?] at held
    split at held
    · next same =>
      obtain rfl := Option.some.inj held
      exact ⟨here, same ▸ firsts, List.subset_append_left _ _⟩
    · obtain ⟨part, parts, inside⟩ := ih held others
      exact ⟨part, parts, List.subset_append_of_subset_right _ inside⟩

/-- A text under a path of names is the message of the key that they spell. -/
theorem mem_entries_of_textAt? {names : List String} (holds : textAt? members names = some text)
    (gives : entries delimiter space members = .ok found) :
    (names.foldl (fun space name => Key.join space name delimiter) space, .scalar text) ∈ found := by
  -- The induction goes down the path, from one object to the next.
  fun_induction textAt? members names generalizing space found with
  | case1 members name spelled held =>
    obtain rfl := Option.some.inj holds
    obtain ⟨part, parts, inside⟩ := exists_of_member? held gives
    obtain rfl := Except.ok.inj parts
    exact inside (List.mem_singleton_self _)
  | case2 => cases holds
  | case3 => cases holds
  | case4 members name rest _ inner held single ih =>
    obtain ⟨part, parts, inside⟩ := exists_of_member? held gives
    rw [entriesAt, if_neg single] at parts
    exact inside (ih holds parts)
  | case5 => cases holds
  | case6 => cases holds

section Place

variable {key : String} {value : Json}

/-- A plain value is the same template under any key. -/
theorem template_congr {result : String} (gives : template key value = .ok result) (other : String) :
    template other value = .ok result := by
  -- By the kinds of values; the key only matters to errors.
  cases value with
  | text spelled => exact gives
  | number number => exact gives
  | bool flag => exact gives
  | null => cases gives
  | array items => cases gives
  | object members => cases gives

/-- An object is the same plural forms under any key. -/
theorem forms_congr {result : Forms} (gives : forms key members = .ok result) (other : String) :
    forms other members = .ok result := by
  have form {forms after : Forms} {member : String × Json} (adds : addForm key forms member = .ok after) :
      addForm other forms member = .ok after := by
    obtain ⟨name, value⟩ := member
    unfold addForm at adds ⊢
    cases named : Category.ofName? name with
    | none => simpa [named] using adds
    | some category =>
      simp only [named] at adds ⊢
      cases templates : template key value with
      | error error => simp [templates, Except.map] at adds
      | ok spelled => simpa [templates, template_congr templates other] using adds
  unfold forms at gives ⊢
  -- The forms found so far change along the members.
  generalize ({} : Forms) = start at gives ⊢
  induction members generalizing start with
  | nil => exact gives
  | cons member rest ih =>
    rw [List.foldlM_cons] at gives ⊢
    cases adds : addForm key start member with
    | error error => simp [adds, bind, Except.bind] at gives
    | ok after =>
      rw [adds] at gives
      rw [form adds]
      exact ih after gives

/-- An item is the same variant under any key. -/
theorem variant_congr {result : Variant} (gives : variant key value = .ok result) (other : String) :
    variant other value = .ok result := by
  -- An object is a plural, and anything else a template; the key only matters to errors.
  unfold variant at gives ⊢
  split at gives
  · next members =>
    cases plural : forms key members with
    | error error => simp [plural, Except.map] at gives
    | ok found => simpa [plural, forms_congr plural other] using gives
  · next single =>
    cases plain : template key value with
    | error error => simp [plain, Except.map] at gives
    | ok found => simpa [plain, template_congr plain other] using gives

/-- The items of an array are the same variants under any key. -/
theorem variants_congr {items : List Json} {results : List Variant} (gives : items.mapM (variant key) = .ok results)
    (other : String) : items.mapM (variant other) = .ok results := by
  -- Item by item.
  induction items generalizing results with
  | nil => exact gives
  | cons item rest ih =>
    rw [List.mapM_cons] at gives ⊢
    cases first : variant key item with
    | error error => simp [first, bind, Except.bind] at gives
    | ok found =>
      cases others : rest.mapM (variant key) with
      | error error => simp [first, others, bind, Except.bind] at gives
      | ok later => simpa [first, others, variant_congr first other, ih others] using gives

end Place

/-- Whether there are messages does not depend on the namespace. -/
theorem entries_ok_congr (gives : entries delimiter space members = .ok found) (other : String) :
    ∃ others, entries delimiter other members = .ok others := by
  revert found other
  -- Along with the objects, the values under a key are looked at.
  refine entries.induct delimiter
    (fun key value => ∀ found, entriesAt delimiter key value = .ok found →
      ∀ other, ∃ others, entriesAt delimiter other value = .ok others)
    (fun space members => ∀ {found}, entries delimiter space members = .ok found →
      ∀ other, ∃ others, entries delimiter other members = .ok others) ?_ ?_ ?_ ?_ ?_ ?_ ?_ space members
  case refine_1 =>
    intro key members plural found gives other
    rw [entriesAt, if_pos plural] at gives ⊢
    cases held : forms key members with
    | error error => simp [held, Except.map] at gives
    | ok result => exact ⟨_, by rw [forms_congr held other]; rfl⟩
  case refine_2 =>
    intro key members single ih found gives other
    rw [entriesAt, if_neg single] at gives ⊢
    exact ih gives other
  case refine_3 =>
    intro key items found gives other
    rw [entriesAt] at gives ⊢
    cases held : items.mapM (variant key) with
    | error error => simp [held, Except.map] at gives
    | ok result => exact ⟨_, by rw [variants_congr held other]; rfl⟩
  case refine_4 =>
    intro key found _ other
    exact ⟨[], rfl⟩
  case refine_5 =>
    intro key value notObject notArray notNull found gives other
    rw [entriesAt.eq_4 _ _ _ notObject notArray notNull] at gives ⊢
    cases held : template key value with
    | error error => simp [held, Except.map] at gives
    | ok result => exact ⟨_, by rw [template_congr held other]; rfl⟩
  case refine_6 =>
    intro space found _ other
    exact ⟨[], rfl⟩
  case refine_7 =>
    intro space name value rest first later found gives other
    obtain ⟨here, others, firsts, rests, rfl⟩ := entries_cons_eq_ok_iff.1 gives
    obtain ⟨here', firsts'⟩ := first here firsts (Key.join other name delimiter)
    obtain ⟨others', rests'⟩ := later rests other
    exact ⟨here' ++ others', entries_cons_eq_ok_iff.2 ⟨here', others', firsts', rests', rfl⟩⟩

/-- The only message under a key has that key. -/
theorem key_of_single {α : Type} {key : String} {result : Except LoadError α} {value : α → Value}
    (gives : (result.map fun x => [(key, value x)]) = .ok found) : ∀ entry ∈ found, entry.1 = key := by
  -- An error gives no message.
  cases result with
  | error error => cases gives
  | ok x =>
    obtain rfl := Except.ok.inj gives
    exact List.forall_mem_singleton.2 rfl

/-- The messages of a namespace have keys below it. -/
theorem exists_of_mem_entries (some : space ≠ "") (gives : entries delimiter space members = .ok found) :
    ∀ entry ∈ found, ∃ rest, entry.1 = space ++ delimiter ++ rest := by
  revert found some
  -- The messages under a key have that key, or others that begin with it.
  refine entries.induct delimiter
    (fun key value => key ≠ "" → ∀ found, entriesAt delimiter key value = .ok found →
      ∀ entry ∈ found, ∃ rest, entry.1 = key ++ rest)
    (fun space members => ∀ {found}, space ≠ "" → entries delimiter space members = .ok found →
      ∀ entry ∈ found, ∃ rest, entry.1 = space ++ delimiter ++ rest) ?_ ?_ ?_ ?_ ?_ ?_ ?_ space members
  case refine_1 =>
    intro key members plural _ found gives entry member
    rw [entriesAt, if_pos plural] at gives
    exact ⟨"", by rw [key_of_single gives entry member, String.append_empty]⟩
  case refine_2 =>
    intro key members single ih some found gives entry member
    rw [entriesAt, if_neg single] at gives
    obtain ⟨rest, spelled⟩ := ih some gives entry member
    exact ⟨delimiter ++ rest, by rw [spelled, String.append_assoc]⟩
  case refine_3 =>
    intro key items _ found gives entry member
    rw [entriesAt] at gives
    exact ⟨"", by rw [key_of_single gives entry member, String.append_empty]⟩
  case refine_4 =>
    intro key _ found gives
    rw [entriesAt] at gives
    obtain rfl := Except.ok.inj gives
    exact List.forall_mem_nil _
  case refine_5 =>
    intro key value notObject notArray notNull _ found gives entry member
    rw [entriesAt.eq_4 _ _ _ notObject notArray notNull] at gives
    exact ⟨"", by rw [key_of_single gives entry member, String.append_empty]⟩
  case refine_6 =>
    intro space found _ gives
    rw [entries] at gives
    obtain rfl := Except.ok.inj gives
    exact List.forall_mem_nil _
  case refine_7 =>
    intro space name value rest first later found some gives entry member
    obtain ⟨here, others, firsts, rests, rfl⟩ := entries_cons_eq_ok_iff.1 gives
    have key : Key.join space name delimiter = space ++ delimiter ++ name := by
      rw [Key.join, if_neg (by simpa using some)]
    rcases List.mem_append.1 member with isHere | isLater
    · obtain ⟨more, spelled⟩ := first (by simp [key, some]) here firsts entry isHere
      exact ⟨name ++ more, by rw [spelled, key, String.append_assoc]⟩
    · exact later some rests entry isLater

end Resource

end Phrasebook
