import Mathlib.Data.List.Forall2
import Phrasebook.Catalogue.Search

/-! How a step on a library ends, and rules for what holds then. -/

namespace Phrasebook.Lookup

variable {σ α β γ δ : Type}

/-- The result of a step and the library it leaves. -/
def outcome (step : Lookup σ α) (library : Library σ) : Except Error α × Library σ :=
  Id.run ((ExceptT.run step).run library)

/-- The step that ends in a given way. -/
def ofOutcome (run : Library σ → Except Error α × Library σ) : Lookup σ α :=
  ExceptT.mk fun library => pure (run library)

section Outcome

variable {library : Library σ}

/-- A step that only answers leaves the library. -/
@[simp] theorem outcome_pure (x : α) : (pure x : Lookup σ α).outcome library = (.ok x, library) :=
  rfl

/-- A step that only fails leaves the library. -/
@[simp] theorem outcome_throw (error : Error) :
    (throw error : Lookup σ α).outcome library = (.error error, library) :=
  rfl

/-- Asking for the library leaves it. -/
@[simp] theorem outcome_get : (get : Lookup σ (Library σ)).outcome library = (.ok library, library) :=
  rfl

/-- Asking for the store leaves the library. -/
@[simp] theorem outcome_store : (store : Lookup σ Store).outcome library = (.ok library.store, library) :=
  rfl

/-- A step goes on with the library that the one before leaves, unless that fails. -/
theorem outcome_bind (step : Lookup σ α) (next : α → Lookup σ β) :
    (step >>= next).outcome library =
      match step.outcome library with
      | (.ok x, left) => (next x).outcome left
      | (.error error, left) => (.error error, left) := by
  -- Both sides run the first step and look at its result.
  simp only [outcome, ExceptT.run_bind, StateT.run_bind, Id.run_bind]
  generalize (StateT.run (ExceptT.run step) library).run = first
  obtain ⟨result, left⟩ := first
  cases result <;> rfl

end Outcome

/-- How a step ends on a library: with an answer and a library that belong together, or with such an
error. -/
def Meets (step : Lookup σ α) (library : Library σ) (answers : α → Library σ → Prop)
    (fails : Error → Library σ → Prop) : Prop :=
  match step.outcome library with
  | (.ok x, left) => answers x left
  | (.error error, left) => fails error left

/-- Steps for the items of a list, one after the other, all give an answer. -/
inductive Passes (f : α → Lookup σ β) : List α → Library σ → Library σ → Prop where
  | nil {library : Library σ} : Passes f [] library library
  | cons {item : α} {rest : List α} {library left last : Library σ} {answer : β}
    (answers : (f item).outcome library = (.ok answer, left)) (others : Passes f rest left last) :
    Passes f (item :: rest) library last

/-- Of the steps for the items of a list those for the first ones give an answer, and the next one fails. -/
def StopsAt (f : α → Lookup σ β) (items : List α) (library : Library σ) (error : Error)
    (left : Library σ) : Prop :=
  ∃ before item after here, items = before ++ item :: after ∧ Passes f before library here ∧
    (f item).outcome here = (.error error, left)

/-- Another step that gives an answer may follow. -/
theorem Passes.snoc {f : α → Lookup σ β} {items : List α} {library here left : Library σ} {item : α} {answer : β}
    (passes : Passes f items library here) (answers : (f item).outcome here = (.ok answer, left)) :
    Passes f (items ++ [item]) library left := by
  -- It is put behind the last one.
  induction passes with
  | nil => exact .cons answers .nil
  | cons first _ ih => exact .cons first (ih answers)

namespace Meets

variable {library : Library σ} {answers weaker : α → Library σ → Prop} {fails other : Error → Library σ → Prop}
  {step : Lookup σ α}

/-- What holds of the answers and errors holds of the outcome. -/
theorem ok {x : α} {left : Library σ} (meets : Meets step library answers fails)
    (ends : step.outcome library = (.ok x, left)) : answers x left := by
  simpa [Meets, ends] using meets

/-- What a step is said to fail with holds of its errors. -/
theorem error {e : Error} {left : Library σ} (meets : Meets step library answers fails)
    (ends : step.outcome library = (.error e, left)) : fails e left := by
  simpa [Meets, ends] using meets

/-- What holds of every end holds of the library that is left. -/
theorem left {holds : Library σ → Prop} (meets : Meets step library (fun _ => holds) fun _ => holds) :
    holds (step.outcome library).2 := by
  -- One case for each way in which the step may end.
  unfold Meets at meets
  generalize step.outcome library = ended at meets
  obtain ⟨_ | _, left⟩ := ended <;> exact meets

/-- A step that only answers meets what holds of the answer. -/
theorem pure {x : α} (holds : answers x library) : Meets (Pure.pure x) library answers fails :=
  holds

/-- A step that only fails meets what holds of the error. -/
theorem throw {e : Error} (holds : fails e library) : Meets (MonadExcept.throw e) library answers fails :=
  holds

/-- A step and the next one: the next one starts with what the first one leaves. -/
theorem bind {next : α → Lookup σ β} {results : β → Library σ → Prop}
    (meets : Meets step library (fun x left => Meets (next x) left results fails) fails) :
    Meets (step >>= next) library results fails := by
  -- An error of the first step is one of both.
  unfold Meets at meets ⊢
  rw [outcome_bind]
  split at meets <;> exact meets

/-- What follows from what holds at the end holds at the end. -/
theorem mono (meets : Meets step library answers fails) (answer : ∀ x left, answers x left → weaker x left)
    (failure : ∀ e left, fails e left → other e left) : Meets step library weaker other := by
  -- One case for each way in which the step may end.
  unfold Meets at meets ⊢
  split at meets
  · exact answer _ _ meets
  · exact failure _ _ meets

/-- Asking for the library meets what holds of it. -/
theorem get {answers : Library σ → Library σ → Prop} (holds : answers library library) :
    Meets MonadState.get library answers fails :=
  holds

/-- A change meets what holds of the changed library. -/
theorem changed {f : Library σ → Library σ} {answers : Unit → Library σ → Prop} (holds : answers () (f library)) :
    Meets (modify f) library answers fails :=
  holds

/-- Asking for the store meets what holds of it. -/
theorem store {answers : Store → Library σ → Prop} (holds : answers library.store library) :
    Meets Lookup.store library answers fails :=
  holds

/-- Asking whether a key is stored meets what holds of the answer. -/
theorem has {key locale : String} {answers : Bool → Library σ → Prop}
    (holds : answers (library.store.has key locale) library) :
    Meets (Lookup.has key locale) library answers fails :=
  holds

/-- Storing a value meets what holds of the library with it. -/
theorem add {key locale : String} {value : Value} {answers : Unit → Library σ → Prop}
    (holds : answers () { library with store := library.store.add key value locale }) :
    Meets (Lookup.add key value locale) library answers fails :=
  holds

/-- Asking for a stored message gives it, or fails if there is none. -/
theorem stored {key locale : String} {answers : Value → Library σ → Prop}
    (found : ∀ value, library.store.get? key locale = some value → answers value library)
    (absent : library.store.get? key locale = none → fails (.notStored key locale) library) :
    Meets (Lookup.stored key locale) library answers fails := by
  -- The store is asked, and the answer is a message or nothing.
  refine bind (store ?_)
  simp only [Store.get]
  cases held : library.store.get? key locale with
  | some value => exact pure (found value held)
  | none => exact throw (absent held)

/-- Steps for the items of a list, with an invariant that depends on the items that are left. -/
theorem forM {f : β → Lookup σ PUnit} (holds : List β → Library σ → Prop) {items : List β}
    (next : ∀ item rest left, holds (item :: rest) left → Meets (f item) left (fun _ => holds rest) fails)
    (start : holds items library) : Meets (items.forM f) library (fun _ => holds []) fails := by
  -- Each step takes the first item off those that are left.
  induction items generalizing library with
  | nil => exact pure start
  | cons item rest ih => exact bind (mono (next item rest library start) (fun _ _ => ih) fun _ _ => id)

/-- A step ends as it does. -/
theorem self (step : Lookup σ α) (library : Library σ) :
    Meets step library (fun x left => step.outcome library = (.ok x, left))
      (fun e left => step.outcome library = (.error e, left)) := by
  unfold Meets
  split <;> assumption

/-- A step for the first of the items that are left gives an answer, or it is where the steps stop. -/
theorem passes {f : α → Lookup σ β} {items : List α} {item : α} {rest : List α} {left : Library σ}
    (soFar : ∃ before, items = before ++ item :: rest ∧ Passes f before library left) :
    Meets (f item) left (fun _ after => ∃ before, items = before ++ rest ∧ Passes f before library after)
      (fun e last => StopsAt f items library e last) := by
  -- An answer moves the item to those that have been dealt with; an error stops there.
  obtain ⟨before, rfl, passes⟩ := soFar
  refine mono (self (f item) left) (fun answer after ends => ?_) fun e last ends => ?_
  · exact ⟨before ++ [item], by simp, passes.snoc ends⟩
  · exact ⟨before, item, rest, left, rfl, passes, ends⟩

/-- Steps for the items of a list all pass, or stop at one of them. -/
theorem forM_passes (f : β → Lookup σ PUnit) (items : List β) (library : Library σ) :
    Meets (items.forM f) library (fun _ left => Passes f items library left)
      (fun e left => StopsAt f items library e left) := by
  -- The invariant: those before the ones that are left have passed.
  refine mono (forM (fun rest left => ∃ before, items = before ++ rest ∧ Passes f before library left)
    (fun item rest left => passes) ⟨[], rfl, .nil⟩) (fun _ left ends => ?_) fun _ _ => id
  obtain ⟨before, rfl, passes⟩ := ends
  simpa using passes

/-- When the first of the items that are left is dealt with, every item is left or has been dealt with. -/
theorem left_or {item first : β} {rest : List β} {before after : Prop} (soFar : item ∈ first :: rest ∨ before)
    (now : item = first → after) (stays : before → after) : item ∈ rest ∨ after := by
  -- The item is the first one, one behind it, or already dealt with.
  rcases soFar with here | already
  · rcases List.mem_cons.1 here with same | later
    · exact .inr (now same)
    · exact .inl later
  · exact .inr (stays already)

/-- Answers for the items of a list. Every item is made of parts, and the invariant depends on the parts
that are left, so that lists of lists can be gone through in one. -/
theorem mapM {f : β → Lookup σ γ} {parts : β → List δ} {holds : List δ → Library σ → Prop}
    {related : β → γ → Prop} {items : List β} {rest : List δ}
    (next : ∀ item rest left, holds (parts item ++ rest) left →
      Meets (f item) left (fun answer after => related item answer ∧ holds rest after) fails)
    (start : holds (items.flatMap parts ++ rest) library) :
    Meets (items.mapM f) library
      (fun results left => List.Forall₂ related items results ∧ holds rest left) fails := by
  -- Each step takes the parts of the first item off those that are left.
  induction items generalizing library with
  | nil => exact pure ⟨.nil, start⟩
  | cons item others ih =>
    rw [List.mapM_cons]
    rw [List.flatMap_cons, List.append_assoc] at start
    refine bind (mono (next item _ library start) ?_ fun _ _ => id)
    intro result left ends
    obtain ⟨fits, holds⟩ := ends
    refine bind (mono (ih holds) ?_ fun _ _ => id)
    intro results after ends
    obtain ⟨all, holds⟩ := ends
    exact pure ⟨.cons fits all, holds⟩

end Meets

end Phrasebook.Lookup
