import Phrasebook.Proofs.Catalogue.References

/-! Two searchers in lockstep: the same steps are taken from libraries that belong together, until the first
run comes to something that excuses every difference. -/

namespace Phrasebook

/-- How two runs are compared: the errors of the first one and the states it leaves that excuse a difference,
and the states that belong together. -/
structure Comparison (σ τ : Type) where
  fails : Error → Prop
  spoilt : σ → Prop
  link : σ → τ → Prop

namespace Comparison

variable {σ τ α β : Type} (comparison : Comparison σ τ)

/-- Libraries with the same messages, and with states that belong together. -/
def Linked (library : Library σ) (other : Library τ) : Prop :=
  other.store = library.store ∧ comparison.link library.state other.state

/-- The first run has come to what excuses a difference. -/
def Excused (ended : Except Error α × Library σ) : Prop :=
  (∃ error, ended.1 = .error error ∧ comparison.fails error) ∨ comparison.spoilt ended.2.state

/-- From two libraries a step does what another one does, unless that one is excused. -/
def Follows (one : Lookup σ α) (library : Library σ) (two : Lookup τ α) (other : Library τ) : Prop :=
  comparison.Excused (one.outcome library) ∨
    ((two.outcome other).1 = (one.outcome library).1 ∧ comparison.Linked (one.outcome library).2 (two.outcome other).2)

/-- What is spoilt before a step is spoilt behind it. -/
def Keeps (one : Lookup σ α) : Prop :=
  ∀ library, comparison.spoilt library.state → comparison.spoilt (one.outcome library).2.state

/-- A step does what another one does from all libraries that belong together. -/
structure Alike (one : Lookup σ α) (two : Lookup τ α) : Prop where
  keeps : comparison.Keeps one
  follows : ∀ library other, comparison.Linked library other → comparison.Follows one library two other

variable {comparison}

section Rules

variable {library : Library σ} {other : Library τ} {one : Lookup σ α} {two : Lookup τ α}

/-- One step after another keeps what is compared if both do. -/
theorem keeps_bind {next : α → Lookup σ β} (first : comparison.Keeps one)
    (others : ∀ x, comparison.Keeps (next x)) : comparison.Keeps (one >>= next) := by
  intro library spoilt
  have left := first library spoilt
  rw [Lookup.outcome_bind]
  generalize one.outcome library = ended at left
  -- What the first step has spoilt stays so, whether it fails or the others go on.
  obtain ⟨_ | x, after⟩ := ended
  · exact left
  · exact others x after left

/-- The steps behind two that go alike go on with the same result, from libraries that belong together. -/
theorem Follows.bind {next : α → Lookup σ β} {more : α → Lookup τ β} (first : comparison.Follows one library two other)
    (keeps : ∀ x, comparison.Keeps (next x))
    (others : ∀ x left after, one.outcome library = (.ok x, left) → two.outcome other = (.ok x, after) →
      comparison.Linked left after → comparison.Follows (next x) left (more x) after) :
    comparison.Follows (one >>= next) library (two >>= more) other := by
  unfold Follows Excused at first ⊢
  rw [Lookup.outcome_bind, Lookup.outcome_bind]
  generalize ends : one.outcome library = ended at first
  generalize answers : two.outcome other = answered at first
  obtain ⟨result, left⟩ := ended
  obtain ⟨answer, after⟩ := answered
  cases result with
  | error e =>
    rcases first with excused | ⟨same, linked⟩
    · left
      simpa using excused
    · obtain rfl : answer = .error e := same
      exact .inr ⟨rfl, linked⟩
  | ok x =>
    rcases first with excused | ⟨same, linked⟩
    · -- A result excuses nothing, so the state does, and goes on to do so.
      rcases excused with ⟨_, error, _⟩ | spoilt
      · cases error
      · exact .inl (.inr (keeps x left spoilt))
    · obtain rfl : answer = .ok x := same
      exact others x left after ends answers linked

namespace Alike

/-- Two steps that give the same answer are alike. -/
theorem pure (x : α) : comparison.Alike (Pure.pure x) (Pure.pure x) where
  keeps _ := id
  follows _ _ linked := .inr ⟨rfl, linked⟩

/-- Two steps that fail with the same error are alike. -/
theorem throw (e : Error) : comparison.Alike (MonadExcept.throw e : Lookup σ α) (MonadExcept.throw e) where
  keeps _ := id
  follows _ _ linked := .inr ⟨rfl, linked⟩

/-- Steps that are alike stay so when what follows them is alike. -/
theorem bind {next : α → Lookup σ β} {more : α → Lookup τ β} (first : comparison.Alike one two)
    (others : ∀ x, comparison.Alike (next x) (more x)) : comparison.Alike (one >>= next) (two >>= more) where
  -- What is spoilt in the first step stays so, and otherwise the second step starts from linked libraries.
  keeps := keeps_bind first.keeps fun x => (others x).keeps
  follows library other linked := (first.follows library other linked).bind (fun x => (others x).keeps)
    fun x left after _ _ linked => (others x).follows left after linked

/-- Asking for the store is alike in both. -/
theorem store : comparison.Alike Lookup.store Lookup.store where
  keeps _ := id
  follows _ _ linked := .inr ⟨congrArg Except.ok linked.1, linked⟩

/-- Asking whether a key is stored is alike in both. -/
theorem has (key locale : String) : comparison.Alike (Lookup.has key locale) (Lookup.has key locale) :=
  bind store fun _ => pure _

/-- Asking for what is stored is alike in both. -/
theorem stored (key locale : String) : comparison.Alike (Lookup.stored key locale) (Lookup.stored key locale) := by
  -- The stores are the same, and so is what they hold under the key.
  refine bind store fun store => ?_
  cases store.get key locale with
  | ok value => exact pure value
  | error e => exact throw e

/-- Storing a value is alike in both. -/
theorem add (key : String) (value : Value) (locale : String) :
    comparison.Alike (Lookup.add key value locale) (Lookup.add key value locale) where
  keeps _ := id
  follows _ _ linked := .inr ⟨rfl, congrArg (Store.add · key value locale) linked.1, linked.2⟩

/-- Going through items is alike if each step is. -/
theorem forM {f : β → Lookup σ PUnit} {g : β → Lookup τ PUnit} (each : ∀ item, comparison.Alike (f item) (g item))
    (items : List β) : comparison.Alike (items.forM f) (items.forM g) := by
  -- The first item is dealt with alike, and the others by the induction.
  induction items with
  | nil => exact pure _
  | cons item rest ih => exact bind (each item) fun _ => ih

/-- Changing items is alike if each change is. -/
theorem mapM {f : β → Lookup σ α} {g : β → Lookup τ α} (each : ∀ item, comparison.Alike (f item) (g item))
    (items : List β) : comparison.Alike (items.mapM f) (items.mapM g) := by
  -- The first item is changed alike, and what follows by the induction.
  induction items with
  | nil => exact pure _
  | cons item rest ih =>
    rw [List.mapM_cons, List.mapM_cons]
    exact bind (each item) fun _ => bind ih fun _ => pure _

/-- Changing the templates of plural forms goes alike if changing every template does. -/
theorem mapForms {change : String → Lookup σ String} {alter : String → Lookup τ String}
    (each : ∀ template, comparison.Alike (change template) (alter template)) (forms : Forms) :
    comparison.Alike (forms.mapTemplatesM change) (forms.mapTemplatesM alter) :=
  bind (mapM (fun (_, template) => bind (each template) fun _ => pure _) _) fun _ => pure _

/-- Changing the templates of a variant is alike if each change is. -/
theorem mapVariant {change : String → Lookup σ String} {alter : String → Lookup τ String}
    (each : ∀ template, comparison.Alike (change template) (alter template)) (member : Variant) :
    comparison.Alike (member.mapTemplatesM change) (member.mapTemplatesM alter) := by
  -- A variant is one template, or forms.
  cases member with
  | text template => exact bind (each template) fun _ => pure _
  | plural forms => exact bind (mapForms each forms) fun _ => pure _

/-- Changing the templates of a message goes alike if changing every template does. -/
theorem mapTemplates {change : String → Lookup σ String} {alter : String → Lookup τ String}
    (each : ∀ template, comparison.Alike (change template) (alter template)) (value : Value) :
    comparison.Alike (value.mapTemplatesM change) (value.mapTemplatesM alter) := by
  -- By the kinds of messages: one template, forms, or members.
  cases value with
  | scalar template => exact bind (each template) fun _ => pure _
  | plural forms => exact bind (mapForms each forms) fun _ => pure _
  | variants members => exact bind (mapM (mapVariant each) members) fun _ => pure _

end Alike

end Rules

end Comparison

namespace Expansion

variable {σ τ : Type}

/-- Expanding what was loaded for a reference, and putting in the key written in it. -/
def settle (expansion : Expansion σ) (expand : String → Lookup σ Unit) (inProgress : List String) (key : String)
    (reference : Reference) (loaded : List String) : Lookup σ String := do
  loaded.forM fun other => if other ∈ inProgress then pure () else expand other
  if ← Lookup.has reference.target expansion.locale then expansion.inline key reference.target
  else throw (.invalidReference reference.target key none)

/-- Loading what a reference asks for if none of the keys that it may mean is stored. -/
def bring (expansion : Expansion σ) (expand : String → Lookup σ Unit) (inProgress : List String) (key : String)
    (reference : Reference) : Lookup σ String :=
  expansion.searcher.search reference.target expansion.locale expansion.settings >>=
    expansion.settle expand inProgress key reference

/-- A reference is followed to the key that it means, or else to what is loaded for it. -/
theorem follow_eq (expansion : Expansion σ) (expand : String → Lookup σ Unit) (inProgress : List String) (key : String)
    (reference : Reference) :
    expansion.follow expand inProgress key reference = (Lookup.store >>= fun store =>
      match store.resolve? expansion.grammar expansion.locale key reference with
      | some candidate => expand candidate >>= fun _ => expansion.inline key candidate
      | none => expansion.bring expand inProgress key reference) :=
  rfl

/-- Replacing the references in the message of a key by what following them gives. -/
def rewrite (expansion : Expansion σ) (follow : Reference → Lookup σ String) (key : String) : Lookup σ Unit := do
  let value ← Lookup.stored key expansion.locale
  if value.templates.any expansion.grammar.hasReference then
    let expanded ← value.mapTemplatesM (expansion.expandTemplate follow)
    Lookup.add key expanded expansion.locale

/-- A key is expanded by rewriting its message, unless it is in progress. -/
theorem expandKey_succ (expansion : Expansion σ) (fuel : Nat) (inProgress : List String) (key : String) :
    expansion.expandKey (fuel + 1) inProgress key =
      if key ∈ inProgress then throw (.cyclicReference (inProgress ++ [key]))
      else expansion.rewrite
        (expansion.follow (expansion.expandKey fuel (inProgress ++ [key])) (inProgress ++ [key]) key) key := by
  rw [expandKey]
  split <;> rfl

/-- The bound for chains of keys is taken from the library at the start. -/
theorem expandKeys_outcome (expansion : Expansion σ) (keys : List String) (library : Library σ) :
    (expansion.expandKeys keys).outcome library = (keys.forM fun key => do
      if ← Lookup.has key expansion.locale then
        expansion.expandKey (expansion.depth library) [] key).outcome library := by
  simp only [expandKeys, Lookup.outcome_bind, Lookup.outcome_get]

/-- Two expansions of the messages of a locale, of which the second one brings what the first one does where a
reference means no key that is stored. -/
structure Parallel (comparison : Comparison σ τ) (one : Expansion σ) (two : Expansion τ) : Prop where
  grammar : two.grammar = one.grammar
  locale : two.locale = one.locale
  keeps : ∀ key, comparison.Keeps (one.searcher.search key one.locale one.settings)
  brings : ∀ {expand : String → Lookup σ Unit} {enlarge : String → Lookup τ Unit},
    (∀ other, comparison.Alike (expand other) (enlarge other)) → ∀ inProgress key reference library other,
      comparison.Linked library other → library.store.resolve? one.grammar one.locale key reference = none →
      comparison.Follows (one.bring expand inProgress key reference) library
        (two.bring enlarge inProgress key reference) other

section Settle

variable {comparison : Comparison σ τ} {one : Expansion σ} {two : Expansion τ}
  {expand : String → Lookup σ Unit} {enlarge : String → Lookup τ Unit}

/-- Inlining a target is alike in both, for the same locale. -/
theorem inline_alike (locale : two.locale = one.locale) (key target : String) :
    comparison.Alike (one.inline key target) (two.inline key target) := by
  -- Only a message of one template can be put in; for all others both fail in the same way.
  unfold inline
  rw [locale]
  refine .bind (.stored target one.locale) fun value => ?_
  cases value with
  | scalar template => exact .pure template
  | plural forms => exact .throw _
  | variants members => exact .throw _

/-- A template is expanded in the same way if every reference is followed so. -/
theorem expandTemplate_alike {follow : Reference → Lookup σ String} {pursue : Reference → Lookup τ String}
    (grammar : two.grammar = one.grammar)
    (follows : ∀ reference, comparison.Alike (follow reference) (pursue reference)) (template : String) :
    comparison.Alike (one.expandTemplate follow template) (two.expandTemplate pursue template) := by
  unfold expandTemplate
  rw [grammar]
  refine .bind (.mapM (fun token => ?_) _) fun _ => .pure _
  -- A reference is followed in both, and every other token stays as it is.
  split
  · exact follows _
  · exact .pure _

/-- What is loaded for a reference is expanded, and the key put in, in the same way. -/
theorem settle_alike (locale : two.locale = one.locale)
    (expands : ∀ other, comparison.Alike (expand other) (enlarge other))
    (inProgress : List String) (key : String) (reference : Reference) (loaded : List String) :
    comparison.Alike (one.settle expand inProgress key reference loaded)
      (two.settle enlarge inProgress key reference loaded) := by
  unfold settle
  rw [locale]
  refine .bind (.forM (fun other => ?_) loaded) fun _ => .bind (.has _ _) fun there => ?_
  · -- Keys in progress are left out on both sides.
    split
    · exact .pure ()
    · exact expands other
  · cases there with
    | true => exact inline_alike locale key reference.target
    | false => exact .throw _

end Settle

namespace Parallel

variable {comparison : Comparison σ τ} {one : Expansion σ} {two : Expansion τ}

/-- Searchers that go alike bring the same for a reference. -/
theorem of_search (grammar : two.grammar = one.grammar) (locale : two.locale = one.locale)
    (searches : ∀ key, comparison.Alike (one.searcher.search key one.locale one.settings)
      (two.searcher.search key two.locale two.settings)) : Parallel comparison one two where
  grammar := grammar
  locale := locale
  keeps key := (searches key).keeps
  brings expands inProgress key reference library other linked _ :=
    (Comparison.Alike.bind (searches reference.target)
      (settle_alike locale expands inProgress key reference)).follows library other linked

variable (parallel : Parallel comparison one two)
include parallel

/-- Following a reference goes alike if the expansion of every key does. -/
theorem follow {expand : String → Lookup σ Unit} {enlarge : String → Lookup τ Unit}
    (expands : ∀ other, comparison.Alike (expand other) (enlarge other)) (inProgress : List String) (key : String)
    (reference : Reference) :
    comparison.Alike (one.follow expand inProgress key reference) (two.follow enlarge inProgress key reference) := by
  -- A reference means a stored key, which is expanded, or brings what it asks for.
  have found (candidate : String) := Comparison.Alike.bind (expands candidate) fun _ =>
    inline_alike parallel.locale key candidate
  have keeps : comparison.Keeps (one.bring expand inProgress key reference) :=
    Comparison.keeps_bind (parallel.keeps _) fun loaded =>
      (settle_alike parallel.locale expands inProgress key reference loaded).keeps
  rw [follow_eq, follow_eq, parallel.grammar, parallel.locale]
  constructor
  · refine Comparison.keeps_bind Comparison.Alike.store.keeps fun store => ?_
    split
    · exact (found _).keeps
    · exact keeps
  · intro library other linked
    -- The stores are the same, and so is the key that the reference means.
    have same : comparison.Follows Lookup.store library Lookup.store other :=
      Comparison.Alike.store.follows library other linked
    refine same.bind (fun store => ?_) fun store left after reads _ linked => ?_
    · split
      · exact (found _).keeps
      · exact keeps
    · obtain ⟨here, rfl⟩ := Prod.mk.inj reads
      obtain rfl := Except.ok.inj here
      cases resolved : library.store.resolve? one.grammar one.locale key reference with
      | some candidate => exact (found candidate).follows library after linked
      | none => exact parallel.brings expands inProgress key reference library after linked resolved

/-- Rewriting the message of a key goes alike if following every reference does. -/
theorem rewrite {follow : Reference → Lookup σ String} {pursue : Reference → Lookup τ String}
    (follows : ∀ reference, comparison.Alike (follow reference) (pursue reference)) (key : String) :
    comparison.Alike (one.rewrite follow key) (two.rewrite pursue key) := by
  have template := expandTemplate_alike parallel.grammar follows
  unfold Expansion.rewrite
  rw [parallel.locale, parallel.grammar]
  refine .bind (.stored key one.locale) fun value => ?_
  -- A message without references is left alone in both.
  split
  · exact .bind (.mapTemplates template value) fun expanded => .add key expanded one.locale
  · exact .pure ()

/-- Expanding the message of a key goes alike, whatever is in progress, also if the second run admits longer chains
while the first one is excused where its chains are too long. -/
theorem expandKey {more : Nat} (room : more = 0 ∨ ∀ key, comparison.fails (.tooDeep key)) (fuel : Nat)
    (inProgress : List String) (key : String) :
    comparison.Alike (one.expandKey fuel inProgress key) (two.expandKey (fuel + more) inProgress key) := by
  induction fuel generalizing inProgress key with
  | zero =>
    -- The first run ends here: the second one does too, or the first one is excused.
    refine ⟨fun _ => id, fun library other linked => ?_⟩
    rcases room with rfl | excused
    · exact (Comparison.Alike.throw (.tooDeep key)).follows library other linked
    · exact .inl (.inl ⟨_, rfl, excused key⟩)
  | succ fuel ih =>
    rw [Nat.succ_add, expandKey_succ, expandKey_succ]
    split
    · exact .throw _
    · exact parallel.rewrite (parallel.follow (ih _) _ key) key

/-- Expanding the messages of keys goes alike if the second run admits chains that are as long, or longer ones while
the first run is excused where its chains are too long. -/
theorem expandKeys {more : Nat} (room : more = 0 ∨ ∀ key, comparison.fails (.tooDeep key))
    (depth : ∀ library other, comparison.Linked library other → two.depth other = one.depth library + more)
    (keys : List String) : comparison.Alike (one.expandKeys keys) (two.expandKeys keys) := by
  have steps (fuel : Nat) : comparison.Alike
      (keys.forM fun key => do if ← Lookup.has key one.locale then one.expandKey fuel [] key)
      (keys.forM fun key => do if ← Lookup.has key two.locale then two.expandKey (fuel + more) [] key) := by
    rw [parallel.locale]
    refine .forM (fun key => .bind (.has key one.locale) fun there => ?_) keys
    cases there with
    | true => exact parallel.expandKey room fuel [] key
    | false => exact .pure ()
  -- The bound for the chains is taken from the libraries at the start.
  constructor
  · intro library spoilt
    have keeps := (steps (one.depth library)).keeps library spoilt
    rwa [expandKeys_outcome]
  · intro library other linked
    have follows := (steps (one.depth library)).follows library other linked
    unfold Comparison.Follows at follows ⊢
    rw [expandKeys_outcome, expandKeys_outcome, depth library other linked]
    exact follows

end Parallel

end Expansion

end Phrasebook
