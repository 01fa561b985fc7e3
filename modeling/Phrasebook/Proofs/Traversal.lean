import Mathlib.Data.List.Forall2

/-! Going through a list with a step that may fail. The answers are those of the items, in their order, and the first
item that fails decides about the rest. -/

namespace Phrasebook.Traversal

variable {α β ε : Type} {f : α → Except ε β}

/-- A step that is changed afterwards gives an answer where the step does. -/
theorem map_eq_ok_iff {γ : Type} {result : Except ε α} {put : α → γ} {y : γ} :
    result.map put = .ok y ↔ ∃ x, result = .ok x ∧ put x = y := by
  cases result <;> simp [Except.map]

/-- A step that is changed afterwards fails as the step does. -/
theorem map_eq_error_iff {γ : Type} {result : Except ε α} {put : α → γ} {error : ε} :
    result.map put = .error error ↔ result = .error error := by
  cases result <;> simp [Except.map]

/-- Going through a list gives the answers of its items. -/
theorem mapM_eq_ok_iff {items : List α} {answers : List β} :
    items.mapM f = .ok answers ↔ List.Forall₂ (fun item answer => f item = .ok answer) items answers := by
  induction items generalizing answers with
  | nil => simp [pure, Except.pure, eq_comm]
  | cons item rest ih =>
    rw [List.mapM_cons, List.forall₂_cons_left_iff]
    -- The first item answers or not, and then so do the others.
    cases first : f item with
    | error e => simp [bind, Except.bind]
    | ok answer =>
      cases others : rest.mapM f with
      | error e => simp [bind, Except.bind, ← ih, others]
      | ok more => simp [bind, Except.bind, pure, Except.pure, ← ih, others, eq_comm]

/-- The answers of a list are related to its items if that of each item is. -/
theorem forall₂_of_mapM_eq_ok {R : α → β → Prop} {items : List α} {answers : List β}
    (each : ∀ item ∈ items, ∀ answer, f item = .ok answer → R item answer) (gives : items.mapM f = .ok answers) :
    List.Forall₂ R items answers :=
  ((List.forall₂_and_left _ _).2 ⟨each, mapM_eq_ok_iff.1 gives⟩).imp fun _ answer both => both.1 answer both.2

/-- Going through a list fails with the error of an item if all items before it give an answer. -/
theorem mapM_eq_error_iff {items : List α} {error : ε} :
    items.mapM f = .error error ↔ ∃ before item after, items = before ++ item :: after ∧
      (∀ earlier ∈ before, ∃ answer, f earlier = .ok answer) ∧ f item = .error error := by
  induction items with
  | nil => simp [pure, Except.pure]
  | cons first rest ih =>
    rw [List.mapM_cons]
    cases result : f first with
    | error e =>
      -- Nothing stands before the first item, so that its error is the one.
      simp only [bind, Except.bind, Except.error.injEq]
      constructor
      · rintro rfl
        exact ⟨[], first, rest, rfl, by simp, result⟩
      · rintro ⟨before, item, after, whole, earlier, fails⟩
        cases before with
        | nil =>
          obtain ⟨rfl, rfl⟩ := List.cons.inj whole
          exact Except.error.inj (result.symm.trans fails)
        | cons other more =>
          obtain ⟨rfl, rfl⟩ := List.cons.inj whole
          obtain ⟨answer, gives⟩ := earlier first List.mem_cons_self
          cases result.symm.trans gives
    | ok answer =>
      -- The first item gives an answer, and the one that fails is among the others.
      have others : (do let answers ← rest.mapM f; pure (answer :: answers)) = .error error ↔
          rest.mapM f = .error error := by
        cases rest.mapM f <;> simp [bind, Except.bind, pure, Except.pure]
      change (do let answers ← rest.mapM f; pure (answer :: answers)) = .error error ↔ _
      rw [others, ih]
      constructor
      · rintro ⟨before, item, after, rfl, earlier, fails⟩
        refine ⟨first :: before, item, after, rfl, ?_, fails⟩
        exact List.forall_mem_cons.2 ⟨⟨answer, result⟩, earlier⟩
      · rintro ⟨before, item, after, whole, earlier, fails⟩
        cases before with
        | nil =>
          obtain ⟨rfl, rfl⟩ := List.cons.inj whole
          cases result.symm.trans fails
        | cons other more =>
          obtain ⟨rfl, rfl⟩ := List.cons.inj whole
          exact ⟨more, item, after, rfl, (List.forall_mem_cons.1 earlier).2, fails⟩

/-- Going through a list gives answers exactly if every item does. -/
theorem exists_mapM_eq_ok_iff {items : List α} :
    (∃ answers, items.mapM f = .ok answers) ↔ ∀ item ∈ items, ∃ answer, f item = .ok answer := by
  constructor
  · rintro ⟨answers, gives⟩ item member
    cases result : f item with
    | ok answer => exact ⟨answer, rfl⟩
    | error error =>
      -- The items go on from the one that fails, which has no answer to stand in its place.
      obtain ⟨before, after, rfl⟩ := List.append_of_mem member
      have each := mapM_eq_ok_iff.1 gives
      have here := List.forall₂_drop before.length each
      rw [List.drop_left, List.forall₂_cons_left_iff] at here
      obtain ⟨answer, -, answers, -, -⟩ := here
      cases result.symm.trans answers
  · intro each
    cases result : items.mapM f with
    | ok answers => exact ⟨answers, rfl⟩
    | error error =>
      obtain ⟨before, item, after, rfl, -, fails⟩ := mapM_eq_error_iff.1 result
      obtain ⟨answer, gives⟩ := each item (by simp)
      cases fails.symm.trans gives

/-- What is read from items that are written one by one. -/
theorem mapM_map_eq_some {γ : Type} (read : α → Option γ) {write : β → α} {made : β → γ}
    (each : ∀ item, read (write item) = some (made item)) (items : List β) :
    (items.map write).mapM read = some (items.map made) := by
  -- Item by item.
  induction items with
  | nil => rfl
  | cons item rest ih => simp [each, ih]

/-- Items that are written one by one are read back if each of them is. -/
theorem mapM_of_leftInverse (read : α → Option β) {write : β → α} (inverse : ∀ item, read (write item) = some item)
    (items : List β) : (items.map write).mapM read = some items :=
  (mapM_map_eq_some read inverse items).trans (congrArg some (List.map_id' items))

end Phrasebook.Traversal
