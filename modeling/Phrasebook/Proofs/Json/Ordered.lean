import Phrasebook.Json.Basic
import Phrasebook.Proofs.Dict.Ordered

/-! Data whose objects are in order: the names in every object increase, so that none is there twice. Canonical data is
of that kind. -/

namespace Phrasebook

/-- A dictionary that is filled holds nothing but what was put in. -/
theorem Dict.mem_of_mem_ofList {α : Type} {entries : List (String × α)} {entry : String × α}
    (member : entry ∈ (ofList entries).entries) : entry ∈ entries := by
  -- The dictionary grows along the entries, so that what it holds before them stays quantified.
  have fills : ∀ (rest : List (String × α)) (d : Dict α),
      entry ∈ (rest.foldl (fun d other => d.insert other.1 other.2) d).entries → entry ∈ d.entries ∨ entry ∈ rest := by
    intro rest
    induction rest with
    | nil =>
      intro d member
      exact .inl member
    | cons first rest ih =>
      intro d member
      rcases ih _ member with before | later
      · -- Just now the first entry was put in.
        rcases mem_put before with rfl | held
        · exact .inr List.mem_cons_self
        · exact .inl held
      · exact .inr (List.mem_cons_of_mem _ later)
  rcases fills entries empty member with none | inside
  · cases none
  · exact inside

namespace Json

/-- Data in order: in every object the names increase. -/
inductive Ordered : Json → Prop where
  | null : Ordered .null
  | bool {flag : Bool} : Ordered (.bool flag)
  | number {value : Number} : Ordered (.number value)
  | text {value : String} : Ordered (.text value)
  | array {items : List Json} (each : ∀ item ∈ items, Ordered item) : Ordered (.array items)
  | object {members : List (String × Json)} (increasing : members.Pairwise fun a b => a.1 < b.1)
    (each : ∀ member ∈ members, Ordered member.2) : Ordered (.object members)

mutual

/-- Canonical data is in order. -/
theorem ordered_canonical (value : Json) : value.canonical.Ordered := by
  cases value with
  | null => exact .null
  | bool flag => exact .bool
  | number value => exact .number
  | text value => exact .text
  | array items => exact .array (ordered_canonicalItems items)
  | object members =>
    -- The members are put in one by one, and each of them is canonical.
    refine .object (Dict.ordered_ofList _) ?_
    intro member held
    exact ordered_canonicalMembers members member (Dict.mem_of_mem_ofList held)

/-- The items of a canonical array are in order. -/
theorem ordered_canonicalItems (items : List Json) : ∀ item ∈ canonicalItems items, item.Ordered := by
  -- Every item is put in order on its own.
  cases items with
  | nil => exact List.forall_mem_nil _
  | cons item rest => exact List.forall_mem_cons.2 ⟨ordered_canonical item, ordered_canonicalItems rest⟩

/-- The values in a canonical object are in order. -/
theorem ordered_canonicalMembers (members : List (String × Json)) :
    ∀ member ∈ canonicalMembers members, member.2.Ordered := by
  -- Every value is put in order on its own.
  cases members with
  | nil => exact List.forall_mem_nil _
  | cons member rest =>
    exact List.forall_mem_cons.2 ⟨ordered_canonical member.2, ordered_canonicalMembers rest⟩

end

variable {members : List (String × Json)} {name : String} {value : Json}

/-- What stands behind a member in an object in order is in order. -/
theorem Ordered.tail {member : String × Json} (ordered : Ordered (.object (member :: members))) :
    Ordered (.object members) := by
  -- Fewer members are as far in order as all of them.
  cases ordered with
  | object increasing each =>
    exact .object (List.pairwise_cons.1 increasing).2 fun other held => each other (List.mem_cons_of_mem _ held)

/-- What stands in an object in order is in order. -/
theorem Ordered.of_mem {member : String × Json} (ordered : Ordered (.object members)) (held : member ∈ members) :
    member.2.Ordered := by
  cases ordered with
  | object increasing each => exact each member held

/-- The names behind a member in an object in order are greater. -/
theorem Ordered.lt_of_mem {member : String × Json} (ordered : Ordered (.object ((name, value) :: members)))
    (held : member ∈ members) : name < member.1 := by
  cases ordered with
  | object increasing each => exact (List.pairwise_cons.1 increasing).1 member held

/-- The value of a name that is found stands under it. -/
theorem mem_of_member? (held : member? members name = some value) : (name, value) ∈ members :=
  Dict.mem_of_get? (d := ⟨members⟩) held

/-- In an object in order the value that stands under a name is the one that is found. -/
theorem member?_eq_some_iff (ordered : Ordered (.object members)) :
    member? members name = some value ↔ (name, value) ∈ members := by
  -- The members of an object are the entries of a dictionary.
  cases ordered with
  | object increasing each =>
    exact Dict.Ordered.get?_eq_some_iff (d := ⟨members⟩) increasing

end Json

end Phrasebook
