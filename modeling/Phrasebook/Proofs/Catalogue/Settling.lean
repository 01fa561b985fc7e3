import Phrasebook.Proofs.Catalogue.Contract
import Phrasebook.Proofs.Catalogue.References

/-! Expansion settles messages: afterwards no listed message holds a reference, also when searches bring
other messages on the way, so expanding the same keys again changes nothing. -/

namespace Phrasebook

open Grammar (standard)

namespace Store

variable {store before after last : Store} {locale key : String} {path loaded : List String}

/-- The message of a key, if there is one, is settled. -/
def Clean (store : Store) (locale key : String) : Prop :=
  ∀ value, store.get? key locale = some value → value.Settled standard

/-- Nothing stored gets lost, and except for keys in progress no message loses its being settled. -/
structure Improves (locale : String) (path : List String) (before after : Store) : Prop where
  kept : ∀ key, before.has key locale = true → after.has key locale = true
  clean : ∀ key, key ∉ path → before.Clean locale key → after.Clean locale key

/-- A key without a message is clean. -/
theorem clean_of_absent (absent : store.has key locale = false) : store.Clean locale key := by
  intro value stored
  simp [has, stored] at absent

/-- Whether a key is clean depends on its message only. -/
theorem clean_congr (same : after.get? key locale = before.get? key locale) :
    after.Clean locale key ↔ before.Clean locale key := by
  simp only [Clean, same]

namespace Improves

/-- A store improves on itself. -/
theorem refl (store : Store) : Improves locale path store store :=
  ⟨fun _ => id, fun _ _ => id⟩

/-- Improvements add up. -/
theorem trans (first : Improves locale path before after) (second : Improves locale path after last) :
    Improves locale path before last :=
  ⟨fun key there => second.kept key (first.kept key there),
    fun key free clean => second.clean key free (first.clean key free clean)⟩

/-- Storing a settled message for the last key in progress ends its being in progress. -/
theorem add {value : Value} (improves : Improves locale (path ++ [key]) before after)
    (settled : value.Settled standard) : Improves locale path before (after.add key value locale) where
  kept other there := by simp [has_add, improves.kept other there]
  clean other free clean := by
    intro held stored
    -- The key itself holds the settled message now, and any other one what it held after the change.
    rw [get?_add] at stored
    by_cases same : other = key
    · rw [if_pos ⟨same, rfl⟩] at stored
      exact Option.some.inj stored ▸ settled
    · rw [if_neg fun both => same both.1] at stored
      exact improves.clean other (by simp [free, same]) clean held stored

end Improves

/-- Messages that a search brings pass the check if the promise says so. -/
theorem Brings.checked (brings : before.Brings locale (Value.Checked standard) loaded after)
    (checked : before.Checked standard locale) : after.Checked standard locale := by
  -- A message of the locale was brought by the search, or has not been changed by it.
  intro key value stored
  by_cases member : key ∈ loaded
  · exact brings.fits key member value stored
  · rw [brings.rest key member] at stored
    exact checked key value stored

end Store

namespace Expansion

variable {σ : Type} {expansion : Expansion σ} {valid : σ → Prop}

/-- A library in which expansions go well: the searcher keeps its promise, and all messages of the locale
pass the check. -/
structure Orderly (expansion : Expansion σ) (valid : σ → Prop) (library : Library σ) : Prop where
  valid : valid library.state
  checked : library.store.Checked standard expansion.locale

/-- What expanding keys comes to while others are in progress: the key is clean afterwards, and so are those
that were before, except for the ones in progress. -/
def Settles (expansion : Expansion σ) (valid : σ → Prop) (path : List String)
    (expand : String → Lookup σ Unit) : Prop :=
  ∀ key library, expansion.Orderly valid library →
    (∀ other ∈ path, library.store.has other expansion.locale = true) →
    (expand key).Meets library
      (fun _ left => expansion.Orderly valid left ∧ left.store.Clean expansion.locale key ∧
        library.store.Improves expansion.locale path left.store)
      (fun _ _ => True)

variable {expand : String → Lookup σ Unit} {path loaded : List String} {library : Library σ} {key : String}

/-- Expanding the keys that a search brought makes all clean that were before the search, except for those
in progress. -/
theorem settles_loaded {before : Store} (orderly : expansion.Orderly valid library)
    (stored : ∀ other ∈ path, before.has other expansion.locale = true)
    (brings : before.Brings expansion.locale (Value.Checked standard) loaded library.store)
    (settles : expansion.Settles valid path expand) :
    (loaded.forM fun other => if other ∈ path then pure () else expand other).Meets library
      (fun _ left => expansion.Orderly valid left ∧ before.Improves expansion.locale path left.store)
      (fun _ _ => True) := by
  -- The invariant: of the keys that were clean only those that are left to expand may not be so now.
  refine Lookup.Meets.mono (Lookup.Meets.forM (fun rest left => expansion.Orderly valid left ∧
    (∀ key, before.has key expansion.locale = true → left.store.has key expansion.locale = true) ∧
    ∀ key, key ∉ path → before.Clean expansion.locale key →
      key ∈ rest ∨ left.store.Clean expansion.locale key) ?_ ?_) ?_ fun _ _ => id
  · intro other rest left holding
    obtain ⟨orderly, kept, clean⟩ := holding
    split
    · next busy =>
      -- A key in progress is passed over, and the invariant does not speak of it.
      refine Lookup.Meets.pure ⟨orderly, kept, fun key free was => ?_⟩
      have different : key ≠ other := fun same => free (same ▸ busy)
      simpa [different] using clean key free was
    · refine (settles other left orderly fun key member => kept key (stored key member)).mono ?_ fun _ _ => id
      intro _ after ends
      obtain ⟨orderly, settled, improves⟩ := ends
      refine ⟨orderly, fun key there => improves.kept key (kept key there), fun key free was => ?_⟩
      exact Lookup.Meets.left_or (clean key free was) (fun same => same ▸ settled) (improves.clean key free)
  · -- At the start only the keys that were brought may hold references again.
    refine ⟨orderly, fun key there => brings.kept key _ there, fun key free was => ?_⟩
    by_cases member : key ∈ loaded
    · exact .inl member
    · exact .inr ((Store.clean_congr (brings.rest key member)).2 was)
  · intro _ left holding
    obtain ⟨orderly, kept, clean⟩ := holding
    exact ⟨orderly, kept, fun key free was => (clean key free was).resolve_left (by simp)⟩

section Contract

variable (default : expansion.grammar = standard)
  (contract : expansion.searcher.Contract expansion.settings expansion.locale valid (Value.Checked standard))

/-- A clean key is put in as a settled text. -/
theorem inline_settles {before : Store} {target : String} (orderly : expansion.Orderly valid library)
    (improves : before.Improves expansion.locale path library.store)
    (clean : library.store.Clean expansion.locale target) :
    (expansion.inline key target).Meets library
      (fun text left => standard.Settled text.toList ∧ expansion.Orderly valid left ∧
        before.Improves expansion.locale path left.store)
      (fun _ _ => True) := by
  refine Lookup.Meets.inline (fun text stored => ⟨?_, orderly, improves⟩) (fun _ _ _ => trivial) fun _ => trivial
  exact clean _ stored text (by simp [Value.templates])

include contract

/-- Following a reference gives a settled text. -/
theorem follow_settles {reference : Reference} (orderly : expansion.Orderly valid library)
    (stored : ∀ other ∈ path, library.store.has other expansion.locale = true)
    (settles : expansion.Settles valid path expand) :
    (expansion.follow expand path key reference).Meets library
      (fun text left => standard.Settled text.toList ∧ expansion.Orderly valid left ∧
        library.store.Improves expansion.locale path left.store)
      (fun _ _ => True) := by
  refine Lookup.Meets.follow (fun target found => ?_) fun missing => ?_
  · -- The key is clean once it has been expanded.
    refine (settles target library orderly stored).mono ?_ fun _ _ => id
    intro _ left ends
    obtain ⟨orderly, clean, improves⟩ := ends
    exact inline_settles orderly improves clean
  · -- The keys that the search brought are expanded, and the one it was for is among them if it is stored.
    refine (contract reference.target library orderly.valid).mono ?_ fun _ _ => id
    intro loaded left ends
    obtain ⟨valid, brings⟩ := ends
    refine (settles_loaded ⟨valid, brings.checked orderly.checked⟩ stored brings settles).mono ?_ fun _ _ => id
    intro _ after ends
    obtain ⟨orderly, improves⟩ := ends
    split
    · -- The key of the reference was not stored before the search, so it is not in progress.
      have absent := Store.has_target_of_resolve? missing
      have free : reference.target ∉ path := fun busy => by simp [stored _ busy] at absent
      exact inline_settles orderly improves
        (improves.clean _ free (Store.clean_of_absent absent))
    · trivial

include default

/-- Expanding a key makes it clean, whatever is in progress. -/
theorem expandKey_settles (fuel : Nat) (path : List String) :
    expansion.Settles valid path (expansion.expandKey fuel path) := by
  -- The induction is on the bound, for all keys that may be in progress by then.
  induction fuel generalizing path with
  | zero => exact fun key library _ _ => Lookup.Meets.throw trivial
  | succ fuel ih =>
    intro key library orderly stored
    refine Lookup.Meets.expandKey (fun _ => trivial) (fun _ _ => trivial) ?_ ?_
    · intro value _ found plain
      refine ⟨orderly, fun held same => ?_, .refl library.store⟩
      obtain rfl := Option.some.inj (found.symm.trans same)
      exact Value.settled_iff.2 ⟨orderly.checked key value found, default ▸ plain⟩
    · intro value _ found _
      have there : library.store.has key expansion.locale = true := by
        rw [Store.has, found]
        rfl
      have started : ∀ other ∈ path ++ [key], library.store.has other expansion.locale = true :=
        List.forall_mem_append.2 ⟨stored, List.forall_mem_singleton.2 there⟩
      -- While references are followed the key is in progress; its settled message ends that.
      refine Lookup.Meets.mono (Lookup.Meets.expandValue (fun _ text => standard.Settled text.toList)
        (fun _ left => expansion.Orderly valid left ∧
          library.store.Improves expansion.locale (path ++ [key]) left.store) ?_ ⟨orderly, .refl _⟩) ?_ fun _ _ => id
      · intro reference rest left holding
        obtain ⟨orderly, improves⟩ := holding
        refine (follow_settles contract orderly (fun other member => ?_) (ih (path ++ [key]))).mono ?_ fun _ _ => id
        · exact improves.kept other (started other member)
        · exact fun text after ends => ⟨ends.1, ends.2.1, improves.trans ends.2.2⟩
      · intro full left ends
        obtain ⟨rewritten, ⟨valid, checked⟩, improves⟩ := ends
        rw [default] at rewritten
        have settled : full.Settled standard :=
          rewritten.settled (orderly.checked key value found) fun _ _ => id
        refine ⟨⟨valid, checked.add (Value.settled_iff.1 settled).1⟩, fun held same => ?_, improves.add settled⟩
        rw [Store.get?_add, if_pos ⟨rfl, rfl⟩] at same
        exact Option.some.inj same ▸ settled

/-- A run that succeeds makes all listed keys clean. -/
theorem expandKeys_clean {keys : List String} (orderly : expansion.Orderly valid library) :
    (expansion.expandKeys keys).Meets library
      (fun _ left => ∀ key ∈ keys, left.store.Clean expansion.locale key) (fun _ _ => True) := by
  -- The invariant: a listed key is left to expand or clean, and no key is in progress in between.
  refine Lookup.Meets.mono (Lookup.Meets.expandKeys (fun rest left => expansion.Orderly valid left ∧
    ∀ key ∈ keys, key ∈ rest ∨ left.store.Clean expansion.locale key) ?_ ?_ ?_) ?_ fun _ _ => id
  · intro key rest left holding _
    obtain ⟨orderly, clean⟩ := holding
    refine (expandKey_settles default contract _ [] key left orderly (by simp)).mono ?_ fun _ _ => id
    intro _ after ends
    obtain ⟨orderly, settled, improves⟩ := ends
    refine ⟨orderly, fun other member => ?_⟩
    exact Lookup.Meets.left_or (clean other member) (fun same => same ▸ settled) (improves.clean other (by simp))
  · intro key rest left holding absent
    obtain ⟨orderly, clean⟩ := holding
    refine ⟨orderly, fun other member => ?_⟩
    exact Lookup.Meets.left_or (clean other member) (fun same => same ▸ Store.clean_of_absent absent) id
  · exact ⟨orderly, fun key member => .inl member⟩
  · exact fun _ left ends key member => (ends.2 key member).resolve_left (by simp)

end Contract

/-- Keys whose messages hold no reference are expanded without a change, and without a search. -/
theorem expandKeys_of_clean {keys : List String}
    (plain : ∀ key ∈ keys, ∀ value, library.store.get? key expansion.locale = some value →
      value.references expansion.grammar = []) :
    (expansion.expandKeys keys).outcome library = (.ok (), library) := by
  -- The searcher is asked for references only, and there are none.
  have meets : (expansion.expandKeys keys).Meets library (fun _ left => left = library) fun _ _ => False := by
    refine Lookup.Meets.mono (Lookup.Meets.expandKeys
      (fun rest left => left = library ∧ ∀ key ∈ rest, key ∈ keys) ?_ ?_ ⟨rfl, fun _ => id⟩)
      (fun _ _ => And.left) fun _ _ => id
    · intro key rest left holding there
      obtain ⟨rfl, listed⟩ := holding
      refine Lookup.Meets.expandKey (by simp) (fun _ absent => ?_) (fun value _ found _ => ?_) ?_
      · simp [Store.has, absent] at there
      · exact ⟨rfl, fun other member => listed other (by simp [member])⟩
      · exact fun value _ found referring => absurd (plain key (listed key (by simp)) value found) referring
    · exact fun key rest left holding _ => ⟨holding.1, fun other member => holding.2 other (by simp [member])⟩
  generalize ends : (expansion.expandKeys keys).outcome library = outcome at meets
  obtain ⟨_ | _, left⟩ := outcome
  · exact (meets.error ends).elim
  · rw [meets.ok ends]

/-- Expansion is idempotent: if it succeeds, no listed key holds a reference afterwards, and expanding the
same keys again, with whatever searcher, succeeds and changes nothing. -/
theorem expandKeys_idempotent (expansion : Expansion σ) (default : expansion.grammar = standard)
    (valid : σ → Prop)
    (contract : expansion.searcher.Contract expansion.settings expansion.locale valid (Value.Checked standard))
    {library left : Library σ} (start : valid library.state) (checked : library.store.Checked standard expansion.locale)
    {keys : List String} (ok : (expansion.expandKeys keys).outcome library = (.ok (), left)) :
    (∀ key ∈ keys, ∀ value, left.store.get? key expansion.locale = some value →
      value.references standard = []) ∧
    ∀ searcher : Searcher σ,
      (({ expansion with searcher } : Expansion σ).expandKeys keys).outcome left = (.ok (), left) := by
  -- A run that ends well leaves the listed keys clean.
  have clean := (expandKeys_clean default contract ⟨start, checked⟩).ok ok
  have plain (key : String) (member : key ∈ keys) (value : Value)
      (stored : left.store.get? key expansion.locale = some value) : value.references standard = [] :=
    (Value.settled_iff.1 (clean key member value stored)).2
  -- Clean keys have nothing to expand, so that no searcher is asked.
  refine ⟨plain, fun searcher => expandKeys_of_clean fun key member value stored => ?_⟩
  exact (congrArg (value.references ·) default).trans (plain key member value stored)

/-- A table with a name that refers to a description, which is brought in together with it. -/
def catalogue : Table :=
  { rows := [{ locale := "en", key := "lib.name", value := .scalar "Lexis, %{.about}" },
      { locale := "en", key := "lib.about", value := .scalar "a guide", on := some "lib.name" }]
    everything := false }

/-- The expansion of messages that are searched for in tables. -/
def tabular : Expansion Table :=
  { searcher := Table.searcher, settings := {}, grammar := standard, locale := "en" }

/-- A title that refers to a name in the table. -/
def titled : Library Table :=
  ⟨Store.empty.add "app.title" (.scalar "%{lib.name} for %name") "en", catalogue⟩

/-- The title is spelled out with what the search brings, and stays as it is when it is expanded again. -/
theorem expandKeys_idempotent_titled :
    let left := ((tabular.expandKeys ["app.title"]).outcome titled).2
    left.store.get? "app.title" "en" = some (.scalar "Lexis, a guide for %name") ∧
      ∀ searcher : Searcher Table,
        (({ tabular with searcher } : Expansion Table).expandKeys ["app.title"]).outcome left = (.ok (), left) := by
  intro left
  have ok : (tabular.expandKeys ["app.title"]).outcome titled = (.ok (), left) :=
    Prod.ext (by decide +kernel) rfl
  have checked : titled.store.Checked standard "en" := (Store.checked_empty standard "en").add (by decide +kernel)
  -- The rows that the search brings pass the check.
  have fair : catalogue.Fair (Value.Checked standard) := by
    have name : (Value.scalar "Lexis, %{.about}").Checked standard := by decide +kernel
    have about : (Value.scalar "a guide").Checked standard := by decide +kernel
    simp [catalogue, Table.Fair, name, about]
  exact ⟨by decide +kernel, (expandKeys_idempotent tabular rfl _
    (Table.searcher_contract {} "en" (Value.Checked standard)) fair checked ok).2⟩

end Expansion

end Phrasebook
