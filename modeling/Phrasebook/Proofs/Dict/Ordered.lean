import Mathlib.Data.List.Sort
import Mathlib.Data.String.Basic
import Phrasebook.Dict

/-! Dictionaries in the order of their keys: what is put in finds its place there, and every key has one entry. -/

namespace Phrasebook.Dict

variable {α : Type} {d : Dict α} {key : String} {value : α}

/-- An entry that is put in is the new one, or was there before. -/
theorem mem_put {entries : List (String × α)} {entry : String × α} (member : entry ∈ put key value entries) :
    entry = (key, value) ∨ entry ∈ entries := by
  -- The new entry takes the place of one with the same key, or stands before the first one with a greater key.
  induction entries with
  | nil => exact .inl (List.mem_singleton.1 member)
  | cons first rest ih =>
    obtain ⟨other, held⟩ := first
    rw [put] at member
    split at member
    · exact (List.mem_cons.1 member).imp_right (List.mem_cons_of_mem _)
    · split at member
      · exact List.mem_cons.1 member
      · rcases List.mem_cons.1 member with rfl | later
        · exact .inr List.mem_cons_self
        · exact (ih later).imp_right (List.mem_cons_of_mem _)

/-- A new entry stands behind those with smaller keys, and before all others. -/
theorem Ordered.insert (ordered : d.Ordered) (key : String) (value : α) : (d.insert key value).Ordered := by
  obtain ⟨entries⟩ := d
  unfold Ordered Dict.insert at *
  induction entries with
  | nil => exact List.pairwise_singleton _ _
  | cons first rest ih =>
    obtain ⟨other, held⟩ := first
    obtain ⟨behind, later⟩ := List.pairwise_cons.1 ordered
    simp only [put]
    -- The new entry replaces the first one, stands before it, or goes behind it.
    split
    · next same =>
      subst same
      exact List.pairwise_cons.2 ⟨behind, later⟩
    · next different =>
      split
      · next smaller =>
        refine List.pairwise_cons.2 ⟨fun entry member => ?_, ordered⟩
        rcases List.mem_cons.1 member with rfl | later
        · exact smaller
        · exact lt_trans smaller (behind entry later)
      · next larger =>
        refine List.pairwise_cons.2 ⟨fun entry member => ?_, ih later⟩
        rcases mem_put member with rfl | before
        · exact lt_of_le_of_ne (not_lt.1 larger) (Ne.symm different)
        · exact behind entry before

/-- An empty dictionary is ordered. -/
theorem ordered_empty : (empty : Dict α).Ordered :=
  List.Pairwise.nil

/-- A dictionary that is filled from the front is ordered. -/
theorem ordered_ofList (entries : List (String × α)) : (ofList entries).Ordered := by
  -- It is so when nothing has been put in, and stays so.
  have fills (d : Dict α) (ordered : d.Ordered) :
      (entries.foldl (fun d entry => d.insert entry.1 entry.2) d).Ordered := by
    induction entries generalizing d with
    | nil => exact ordered
    | cons entry rest ih => exact ih _ (ordered.insert entry.1 entry.2)
  exact fills empty ordered_empty

/-- What no entry has as its key is not found. -/
theorem find?_eq_none {entries : List (String × α)} (absent : ∀ entry ∈ entries, key ≠ entry.1) :
    find? key entries = none := by
  -- Entry by entry: none of them has the key.
  induction entries with
  | nil => rfl
  | cons entry rest ih =>
    obtain ⟨other, held⟩ := entry
    obtain ⟨here, later⟩ := List.forall_mem_cons.1 absent
    rw [find?, if_neg here]
    exact ih later

/-- What is found under a key is the value of one of the entries. -/
theorem mem_of_get? (found : d.get? key = some value) : (key, value) ∈ d.entries := by
  -- The entry that is found is the first one or one behind it.
  obtain ⟨entries⟩ := d
  unfold get? at found
  induction entries with
  | nil => cases found
  | cons entry rest ih =>
    obtain ⟨other, held⟩ := entry
    rw [find?] at found
    split at found
    · next same =>
      obtain rfl := Option.some.inj found
      exact same ▸ List.mem_cons_self
    · exact List.mem_cons_of_mem _ (ih found)

/-- In order every key has one entry, and that is the one that is found. -/
theorem Ordered.get?_eq_some_iff (ordered : d.Ordered) : d.get? key = some value ↔ (key, value) ∈ d.entries := by
  constructor
  · exact mem_of_get?
  · intro held
    obtain ⟨entries⟩ := d
    unfold Ordered at ordered
    unfold get?
    induction entries with
    | nil => cases held
    | cons first rest ih =>
      obtain ⟨other, here⟩ := first
      obtain ⟨behind, later⟩ := List.pairwise_cons.1 ordered
      rw [find?]
      rcases List.mem_cons.1 held with same | member
      · obtain ⟨rfl, rfl⟩ := Prod.mk.inj same
        exact if_pos rfl
      · -- All keys behind the first one are greater.
        have greater : other < key := behind _ member
        rw [if_neg greater.ne']
        exact ih later member

/-- Dictionaries in order are the same if the same is found in them. -/
theorem Ordered.ext {other : Dict α} (one : d.Ordered) (two : other.Ordered)
    (same : ∀ key, d.get? key = other.get? key) : d = other := by
  have irreflexive : Std.Irrefl fun a b : String × α => a.1 < b.1 := ⟨fun _ => lt_irrefl _⟩
  have antisymmetric : Std.Antisymm fun a b : String × α => a.1 < b.1 :=
    ⟨fun _ _ less greater => absurd greater (lt_asymm less)⟩
  -- The same entries in the same order are the same list.
  have entries : d.entries = other.entries := one.eq_of_mem_iff two fun entry => by
    rw [← one.get?_eq_some_iff, ← two.get?_eq_some_iff, same]
  cases d
  cases other
  exact congrArg mk entries

end Phrasebook.Dict
