import Phrasebook.Proofs.Catalogue.Contract
import Phrasebook.Proofs.Catalogue.Trail
import Phrasebook.Proofs.Rendering.Errors
import Phrasebook.Translator

/-! When cyclic references are reported: the chain is a trail of keys in progress, and the references on it
form a cycle unless one of its keys was only brought along by the search for another one. -/

namespace Phrasebook

open Relation
open Grammar (standard)

namespace Expansion

variable {σ : Type}

/-- Expanding a key if it is stored. -/
def expandStored (expansion : Expansion σ) (depth : Nat) (key : String) : Lookup σ Unit := do
  if ← Lookup.has key expansion.locale then expansion.expandKey depth [] key

/-- Expanding keys is expanding each of them that is stored, with a bound for the library at the start. -/
theorem outcome_expandKeys (expansion : Expansion σ) (library : Library σ) (keys : List String) :
    (expansion.expandKeys keys).outcome library =
      (keys.forM (expansion.expandStored (expansion.depth library))).outcome library := by
  simp only [expandKeys, Lookup.outcome_bind, Lookup.outcome_get]
  rfl

/-- A reported chain of keys goes back to a trail from one of the keys that were to be expanded, which ends
in a loop. The references followed on the trail form a cycle exactly if no hop of the loop goes on with a
key that was only brought along. -/
def Explains (expansion : Expansion σ) (library : Library σ) (keys chain : List String) : Prop :=
  ∃ before key after start hops last,
    keys = before ++ key :: after ∧
      Lookup.Passes (expansion.expandStored (expansion.depth library)) before library start ∧
      expansion.Trail (expansion.depth library) [] key start hops last ∧
      chain = hops.map Hop.key ++ [last] ∧
      ∃ lead loop, hops = lead ++ loop ∧ loop.head?.map Hop.key = some last ∧
        ((∃ key, TransGen (Hop.Leads expansion.grammar expansion.locale hops) key key) ↔
          ∀ hop ∈ loop, ¬ hop.Accompanies expansion.grammar expansion.locale)

variable {expansion : Expansion σ} {library left : Library σ} {keys chain : List String}

/-- Every cyclic reference that the expansion of keys reports, and no search, is explained by a trail. -/
theorem explains_of_error (blameless : ¬ expansion.searcher.Blames expansion.settings chain)
    (fails : (expansion.expandKeys keys).outcome library = (.error (.cyclicReference chain), left)) :
    expansion.Explains library keys chain := by
  rw [outcome_expandKeys] at fails
  -- The keys before the one that fails have been expanded.
  have stops := (Lookup.Meets.forM_passes _ keys library).error fails
  obtain ⟨before, key, after, start, split, passes, ends⟩ := stops
  have expands : (expansion.expandKey (expansion.depth library) [] key).outcome start =
      (.error (.cyclicReference chain), left) := by
    have meets : (expansion.expandStored (expansion.depth library) key).Meets start (fun _ _ => True) fun e left =>
        (expansion.expandKey (expansion.depth library) [] key).outcome start = (.error e, left) := by
      refine Lookup.Meets.bind (Lookup.Meets.has ?_)
      split
      · exact (Lookup.Meets.self _ _).mono (fun _ _ _ => trivial) fun _ _ => id
      · exact Lookup.Meets.pure trivial
    exact meets.error ends
  -- The loop starts where the trail comes back to.
  obtain ⟨hops, last, trail, rfl⟩ := exists_trail blameless _ expands
  have distinct := trail.distinct .nil
  rw [List.nil_append] at distinct
  obtain ⟨hop, member, rfl⟩ := List.mem_map.1 (by simpa using trail.last_mem)
  obtain ⟨lead, part, rfl⟩ := List.append_of_mem member
  refine ⟨before, key, after, start, _, _, split, passes, trail, by simp, lead, hop :: part, rfl, rfl, ?_⟩
  rw [Hop.exists_cycle_iff distinct trail.joined]
  exact forall₂_congr fun other inside =>
    (trail.refers_iff other (List.mem_append_right lead inside)).2

end Expansion

namespace Translator

variable {σ : Type} (t : Translator σ)

/-- Looking up a message fails with a cycle only if the keys that its search brought do. -/
theorem explains_of_lookup {key locale : String} {arguments : Arguments} {library left : Library σ}
    {chain : List String} (blameless : ¬ t.searcher.Blames t.settings chain)
    (fails : (t.lookup? key locale arguments).outcome library = (.error (.cyclicReference chain), left)) :
    ∃ loaded left, (t.searcher.search key locale t.settings).outcome library = (.ok loaded, left) ∧
      (t.expansion locale).Explains left loaded chain := by
  let Explained (e : Error) : Prop := e = .cyclicReference chain → ∃ loaded left,
    (t.searcher.search key locale t.settings).outcome library = (.ok loaded, left) ∧
      (t.expansion locale).Explains left loaded chain
  -- The search itself reports no cycle, so the keys that it brought do.
  have fetches : (t.fetch key locale).Meets library (fun _ _ => True) fun e _ => Explained e := by
    refine Lookup.Meets.bind (Lookup.Meets.has ?_)
    split
    · exact Lookup.Meets.pure trivial
    · refine Lookup.Meets.bind ((Lookup.Meets.self _ library).mono (fun loaded there brings => ?_) ?_)
      · refine (Lookup.Meets.self _ there).mono (fun _ _ _ => trivial) fun e after ends same => ?_
        exact ⟨loaded, there, brings, Expansion.explains_of_error blameless (same ▸ ends)⟩
      · exact fun e _ ends same => absurd (.search (same ▸ ends)) blameless
  have meets : (t.lookup? key locale arguments).Meets library (fun _ _ => True) fun e _ => Explained e := by
    refine Lookup.Meets.bind (fetches.mono (fun _ after _ => ?_) fun _ _ => id)
    refine Lookup.Meets.bind (Lookup.Meets.store ?_)
    split
    · exact Lookup.Meets.pure trivial
    · next value _ =>
      -- The formatter reports no cycles.
      split
      · exact Lookup.Meets.pure trivial
      · next error formats =>
        exact Lookup.Meets.throw fun same =>
          absurd (same ▸ formats) ((t.formatter key locale arguments).format_acyclic value chain)
  exact meets.error fails rfl

/-- Loading all messages fails with a cycle only if the keys that were loaded for some locale do. -/
theorem explains_of_loadEverything {asked : Option String} {chain : List String}
    (blameless : ¬ t.searcher.Blames t.settings chain)
    (fails : (t.loadEverything asked).1 = .error (.cyclicReference chain)) :
    ∃ loaded left, (t.searcher.loadEverything asked t.settings).outcome t.library = (.ok loaded, left) ∧
      ∃ before locale keys after later,
        (groupByLocale loaded).entries = before ++ (locale, keys) :: after ∧
        Lookup.Passes (fun entry => (t.expansion entry.1).expandKeys entry.2) before left later ∧
        (t.expansion locale).Explains later keys chain := by
  let expand (entry : String × List String) : Lookup σ Unit := (t.expansion entry.1).expandKeys entry.2
  -- The locales before the one that fails have been expanded.
  have meets : Lookup.Meets
      (do
        let loaded ← t.searcher.loadEverything asked t.settings
        (groupByLocale loaded).entries.forM expand
        return loaded.length)
      t.library (fun _ _ => True) fun e _ => e = .cyclicReference chain →
        ∃ loaded left, (t.searcher.loadEverything asked t.settings).outcome t.library = (.ok loaded, left) ∧
          ∃ before locale keys after later,
            (groupByLocale loaded).entries = before ++ (locale, keys) :: after ∧
            Lookup.Passes expand before left later ∧ (t.expansion locale).Explains later keys chain := by
    refine Lookup.Meets.bind ((Lookup.Meets.self _ _).mono (fun loaded left loads => ?_) ?_)
    · refine Lookup.Meets.bind ((Lookup.Meets.forM_passes expand _ left).mono (fun _ _ _ => ?_) ?_)
      · exact Lookup.Meets.pure trivial
      · intro e last stops same
        obtain ⟨before, ⟨locale, keys⟩, after, later, split, passes, ends⟩ := stops
        exact ⟨loaded, left, loads, before, locale, keys, after, later, split, passes,
          Expansion.explains_of_error blameless (same ▸ ends)⟩
    · exact fun e _ ends same => absurd (.loadEverything (same ▸ ends)) blameless
  exact meets.error (Prod.ext fails rfl) rfl

/-- A cyclic reference that a translator reports, when it expands keys, looks up a message or loads all
messages, is explained by a trail unless a search reports it itself: the references on the trail form a
cycle exactly if no key of the loop was only brought along by the search for another one. -/
theorem cyclicReference_explained :
    (∀ keys locale chain, (t.expandReferences keys locale).1 = .error (.cyclicReference chain) →
      t.searcher.Blames t.settings chain ∨ (t.expansion locale).Explains t.library keys chain) ∧
    (∀ key locale arguments chain,
      ((t.lookup? key locale arguments).outcome t.library).1 = .error (.cyclicReference chain) →
      t.searcher.Blames t.settings chain ∨
        ∃ loaded left, (t.searcher.search key locale t.settings).outcome t.library = (.ok loaded, left) ∧
          (t.expansion locale).Explains left loaded chain) ∧
    (∀ asked chain, (t.loadEverything asked).1 = .error (.cyclicReference chain) →
      t.searcher.Blames t.settings chain ∨
        ∃ loaded left, (t.searcher.loadEverything asked t.settings).outcome t.library = (.ok loaded, left) ∧
          ∃ before locale keys after later,
            (groupByLocale loaded).entries = before ++ (locale, keys) :: after ∧
            Lookup.Passes (fun entry => (t.expansion entry.1).expandKeys entry.2) before left later ∧
            (t.expansion locale).Explains later keys chain) := by
  -- Each of the three calls ends with an expansion of keys, and only that reports a cycle if the searcher does not.
  refine ⟨fun keys locale chain fails => ?_, fun key locale arguments chain fails => ?_, fun asked chain fails => ?_⟩
  · exact or_iff_not_imp_left.2 fun blameless => Expansion.explains_of_error blameless (Prod.ext fails rfl)
  · exact or_iff_not_imp_left.2 fun blameless => t.explains_of_lookup blameless (Prod.ext fails rfl)
  · exact or_iff_not_imp_left.2 fun blameless => t.explains_of_loadEverything blameless fails

/-- Tables leave it to the expansion to report cyclic references. -/
theorem table_blameless (settings : Settings) (chain : List String) :
    ¬ Table.searcher.Blames settings chain := by
  intro blames
  -- A table fails with the message written in a row.
  rcases blames with @⟨key, locale, library, left, fails⟩ | @⟨locale, library, left, fails⟩
  · obtain ⟨_, same⟩ := (Table.search_takes key locale settings library).error fails
    cases same
  · obtain ⟨_, same⟩ := (Table.loadEverything_takes locale settings library).error fails
    cases same

/-- A table that brings, with the message asked for, one that refers back to the key in progress. -/
def companions : Table :=
  { rows := [{ locale := "en", key := "t", value := .scalar "T" },
      { locale := "en", key := "b", value := .scalar "%{.k}", on := some "t" }]
    everything := false }

/-- A translator with a message that refers to one in the table. -/
def accompanied : Translator Table :=
  { library := ⟨Store.empty.add "k" (.scalar "%{.t}") "en", companions⟩
    searcher := Table.searcher, settings := {}, grammar := standard, functions := .empty, handlers := {} }

/-- The cyclic reference that this translator reports is explained by a trail. -/
theorem cyclicReference_explained_accompanied :
    (accompanied.expansion "en").Explains accompanied.library ["k"] ["k", "b", "k"] := by
  -- A table reports no cycle by itself.
  have fails : (accompanied.expandReferences ["k"] "en").1 = .error (.cyclicReference ["k", "b", "k"]) := by
    decide +kernel
  exact ((cyclicReference_explained accompanied).1 _ _ _ fails).resolve_left (table_blameless {} _)

/-- The messages that are stored when its expansion fails. -/
def brought : Store :=
  ((Store.empty.add "k" (.scalar "%{.t}") "en").add "t" (.scalar "T") "en").add "b" (.scalar "%{.k}") "en"

/-- Among them only the message in progress and the one brought with the title hold a reference. -/
theorem brought_refers {key next : String} (refers : brought.Refers standard "en" key next) :
    key = "k" ∧ next = "t" ∨ key = "b" ∧ next = "k" := by
  obtain ⟨value, held, reference, member, resolved⟩ := refers
  have back : (Value.scalar "%{.k}").references standard = [.relative "k"] := by decide +kernel
  have title : (Value.scalar "T").references standard = [] := by decide +kernel
  have onward : (Value.scalar "%{.t}").references standard = [.relative "t"] := by decide +kernel
  -- The message was put in last, before that, or first.
  rw [brought, Store.get?_add, Store.get?_add, Store.get?_add] at held
  split at held
  · next same =>
    obtain ⟨rfl, -⟩ := same
    obtain rfl := Option.some.inj held
    rw [back, List.mem_singleton] at member
    have means : brought.resolve? standard "en" "b" (.relative "k") = some "k" := by decide +kernel
    exact .inr ⟨rfl, Option.some.inj ((member ▸ resolved).symm.trans means)⟩
  split at held
  · obtain rfl := Option.some.inj held
    simp [title] at member
  · obtain ⟨⟨rfl, -⟩, same⟩ := Option.ite_none_right_eq_some.1 held
    obtain rfl := Option.some.inj same
    rw [onward, List.mem_singleton] at member
    have means : brought.resolve? standard "en" "k" (.relative "t") = some "t" := by decide +kernel
    exact .inl ⟨rfl, Option.some.inj ((member ▸ resolved).symm.trans means)⟩

/-- The references among them form no cycle. -/
theorem brought_acyclic (key : String) : ¬ TransGen (brought.Refers standard "en") key key := by
  -- The number of references that can still be followed falls with each of them.
  let rank (key : String) : Nat := if key = "b" then 2 else if key = "k" then 1 else 0
  have falls (key next : String) (refers : brought.Refers standard "en" key next) : rank next < rank key := by
    rcases brought_refers refers with ⟨rfl, rfl⟩ | ⟨rfl, rfl⟩ <;> decide
  have descends (next : String) (leads : TransGen (brought.Refers standard "en") key next) :
      rank next < rank key := by
    induction leads with
    | single refers => exact falls _ _ refers
    | tail _ refers ih => exact Nat.lt_trans (falls _ _ refers) ih
  exact fun cycle => Nat.lt_irrefl _ (descends key cycle)

/-- The searcher keeps its promise, and yet a cyclic reference is reported where no references among the
messages stored and loaded form a cycle. -/
theorem accompanied_blamed :
    let final := (accompanied.expandReferences ["k"] "en").2.store
    Table.searcher.Contract {} "en" (Table.Fair fun _ => True) (fun _ => True) ∧
      companions.Fair (fun _ => True) ∧
      (accompanied.expandReferences ["k"] "en").1 = .error (.cyclicReference ["k", "b", "k"]) ∧
      ∀ key, ¬ TransGen (final.Refers standard "en") key key := by
  -- The run stores the messages that were brought, among which no references lead back.
  intro final
  have stored : final = brought := by decide +kernel
  refine ⟨Table.searcher_contract {} "en" fun _ => True, by simp [Table.Fair, companions], by decide +kernel, ?_⟩
  rw [stored]
  exact brought_acyclic

end Translator

end Phrasebook
