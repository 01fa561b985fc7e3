import Phrasebook.Proofs.Translator.Memo

/-! Searches that come back to files that are used up: with the default delimiters and templates that pass the check,
what such files hold is spelled out again to what is stored. -/

namespace Phrasebook

open Grammar (standard)
open Resource (Source plain forgetful)

namespace Translator

variable {t : Translator Source} {key locale : String} {library : Library Source} {found : Finding}

/-- A search that comes back to files that are used up disturbs nothing where the messages that they hold have been
expanded, whatever was stored before them. -/
theorem undisturbed_of_expanded (default : t.grammar = standard)
    (used : Resource.usedUpFor library.state key locale t.settings = true)
    (finds : Resource.finds library.state (plain t.settings) key locale = found) (readable : found.error = none)
    {before : Store} {done : String → Prop} (checked : (before.putAll found.entries locale).Checked standard locale)
    (expanded : (before.putAll found.entries locale).Expanded locale done library.store)
    (all : ∀ other ∈ found.keys, done other) (ordered : library.store.Ordered) : t.Undisturbed key locale library := by
  subst finds
  refine .idle used readable ?_
  -- The messages are put in again, and expanded without a search to what they have become before.
  have alone := Expansion.alone_eq_offline ((t.forgetting library).expansion locale) default
  simp only [alone]
  exact Expansion.offline_again _ expanded checked all ordered

/-- A key that is fetched from files that nothing was taken from is expanded with all messages of these files, if their
references can be followed. From then on no search that comes back to the same files disturbs anything once they are
used up. -/
theorem undisturbed_of_fetch (files : t.searcher = Resource.searcher) (default : t.grammar = standard)
    (tracks : library.state.Tracks t.settings) (ordered : library.store.Ordered)
    (missing : library.store.has key locale = false)
    (fresh : Resource.freshFor library.state key locale t.settings = true)
    (finds : Resource.finds library.state (plain t.settings) key locale = found) (readable : found.error = none)
    (checked : (library.store.putAll found.entries locale).Checked standard locale)
    (sound : ∀ other ∈ found.keys, (library.store.putAll found.entries locale).Sound standard locale other) :
    ∃ left, (t.fetch key locale).outcome library = (.ok (), left) ∧
      ∀ next, Resource.finds left.state (plain t.settings) next locale = found →
        Resource.usedUpFor left.state next locale t.settings = true → t.Undisturbed next locale left := by
  obtain ⟨state, searches⟩ := Resource.search_of_fresh tracks fresh
  rw [finds, Finding.answer, readable, ← files] at searches
  -- The references are followed as they are offline, and everything that is found is done then.
  have ok := (Expansion.offline_ok_iff checked t.settings found.keys).2 fun other member _ => sound other member
  have expanded := Expansion.offline_expanded checked t.settings ok
  have fetches := fetch_of_missing t missing
  rw [Lookup.outcome_bind, searches] at fetches
  refine ⟨_, fetches.trans (Expansion.expandKeys_eq_offline (t.expansion locale) default checked sound),
    fun next finds used => undisturbed_of_expanded default used finds readable checked expanded ?_ ?_⟩
  · exact fun other member => ⟨other, member, Store.has_putAll_of_mem member, .refl⟩
  · exact Expansion.ordered_expandOffline (ordered.putAll _ _) _ _ _

/-- A file for one locale, with a message that refers to another one. -/
def undivided : Source :=
  { files := .directory (.ofList [("app", .directory (.ofList
      [("foo.en.yml", .file "en:\n  a: A\n  b: '%{.a}B'\n".toUTF8)]))])
    formats := .standard }

/-- A translator for this file that remembers what has been taken from it. -/
def undividing : Translator Source :=
  let settings : Settings := { loadPath := ["/app"], memoize := true }
  { library := ⟨.empty, undivided⟩, searcher := Resource.searcher, settings, grammar := .ofSettings settings
    functions := .empty, handlers := {} }

/-- What the file holds is found by the first fetch, and a message that it does not hold is missing from then on. -/
theorem undisturbed_of_fetch_undivided :
    ∃ left, (undividing.fetch "foo.b" "en").outcome undividing.library = (.ok (), left) ∧
      left.store.get? "foo.b" "en" = some (.scalar "AB") ∧ undividing.Undisturbed "foo.c" "en" left := by
  have checked :
      (Store.empty.putAll [("foo.a", .scalar "A"), ("foo.b", .scalar "%{.a}B")] "en").Checked standard "en" :=
    ((Store.checked_empty standard "en").add (by decide +kernel)).add (by decide +kernel)
  have sound := (Expansion.offline_ok_iff checked {} ["foo.a", "foo.b"]).1 (by decide +kernel)
  have tracks : undividing.library.state.Tracks undividing.settings := fun _ _ held => by cases held
  obtain ⟨left, fetched, undisturbed⟩ := undisturbed_of_fetch (t := undividing)
    rfl (by decide +kernel) tracks .empty (by decide +kernel) (by decide +kernel)
    (show Resource.finds undivided (plain undividing.settings) "foo.b" "en" =
      { entries := [("foo.a", .scalar "A"), ("foo.b", .scalar "%{.a}B")] } by decide +kernel)
    rfl checked fun other member => sound other member (by revert other; decide +kernel)
  obtain rfl : left = ((undividing.fetch "foo.b" "en").outcome undividing.library).2 := congrArg Prod.snd fetched.symm
  exact ⟨_, fetched, by decide +kernel, undisturbed "foo.c" (by decide +kernel) (by decide +kernel)⟩

end Translator

end Phrasebook
