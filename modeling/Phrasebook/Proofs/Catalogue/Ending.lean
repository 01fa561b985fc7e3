import Mathlib.Data.List.Nodup
import Phrasebook.Proofs.Catalogue.Contract
import Phrasebook.Proofs.Catalogue.Lockstep
import Phrasebook.Proofs.Catalogue.Settling

/-! Expansion always ends. The keys in progress are kept as a list of the state, to which a key is added when its
message is taken up and from which it is taken off again; a run that would nest more keys than a bound admits is
marked. Main statement: if all that searches store lies among finitely many keys no such mark is set for any large
enough bound, the result does not depend on the bound, the keys in progress are always different, and in the end none
is left. -/

namespace Phrasebook

/-- The state of a searcher together with the course of an expansion. -/
structure Progress (σ : Type) where
  state : σ
  /-- The keys whose messages are being expanded, in the order in which they were taken up. -/
  inProgress : List String := []
  /-- For every key that was to be expanded the keys in progress by then. -/
  chains : List (List String) := []
  /-- Whether the bound was reached. -/
  overrun : Bool := false

namespace Progress

variable {σ : Type}

/-- One more key is taken up. -/
def takeUp (progress : Progress σ) (key : String) : Progress σ :=
  { progress with inProgress := progress.inProgress ++ [key] }

/-- The key taken up last is taken off. -/
def takeOff (progress : Progress σ) : Progress σ :=
  { progress with inProgress := progress.inProgress.dropLast }

end Progress

/-- A searcher stores messages of a locale only under keys that are stored already or among some given ones. Nothing is
said of what it reports or removes. -/
def Searcher.Confined {σ : Type} (searcher : Searcher σ) (settings : Settings) (locale : String) (valid : σ → Prop)
    (found : List String) : Prop :=
  ∀ key library, valid library.state →
    (searcher.search key locale settings).Meets library
      (fun _ left => valid left.state ∧
        ∀ other, left.store.has other locale = true → library.store.has other locale = true ∨ other ∈ found)
      (fun _ _ => True)

namespace Lookup

variable {σ α β : Type}

/-- A step that leaves the course of an expansion alone. -/
def alongside (step : Lookup σ α) : Lookup (Progress σ) α :=
  ofOutcome fun library =>
    let (result, left) := step.outcome ⟨library.store, library.state.state⟩
    (result, ⟨left.store, { library.state with state := left.state }⟩)

/-- The keys in progress. -/
def inProgress : Lookup (Progress σ) (List String) :=
  return (← get).state.inProgress

/-- Noting the keys in progress when a key is to be expanded. -/
def note : Lookup (Progress σ) Unit :=
  modify fun library =>
    { library with state := { library.state with chains := library.state.chains ++ [library.state.inProgress] } }

/-- Giving up at the bound. -/
def giveUp (key : String) : Lookup (Progress σ) Unit := do
  modify fun library => { library with state := { library.state with overrun := true } }
  throw (.tooDeep key)

/-- A step with one more key in progress. The key is taken off again whether the step gives an answer or fails. -/
def during (key : String) (step : Lookup (Progress σ) α) : Lookup (Progress σ) α :=
  ofOutcome fun library =>
    let (result, left) := step.outcome { library with state := library.state.takeUp key }
    (result, { left with state := left.state.takeOff })

end Lookup

namespace Expansion

variable {σ : Type} (expansion : Expansion σ)

/-- The expansion whose searches leave the course alone. -/
def alongside : Expansion (Progress σ) where
  searcher :=
    { search := fun key locale settings => (expansion.searcher.search key locale settings).alongside
      loadEverything := fun locale settings => (expansion.searcher.loadEverything locale settings).alongside
      forget := fun progress => { progress with state := expansion.searcher.forget progress.state }
      reach := fun progress => expansion.searcher.reach progress.state }
  settings := expansion.settings
  grammar := expansion.grammar
  locale := expansion.locale

/-- The tracked expansion has the same locale. -/
theorem alongside_locale : expansion.locale = expansion.alongside.locale :=
  rfl

/-- The tracked expansion has the same grammar. -/
theorem alongside_grammar : expansion.grammar = expansion.alongside.grammar :=
  rfl

/-- Following a reference, with the keys in progress looked up whenever they are asked for. -/
def followTracked (expand : String → Lookup (Progress σ) Unit) (key : String) (reference : Reference) :
    Lookup (Progress σ) String := do
  let store ← Lookup.store
  match store.resolve? expansion.grammar expansion.locale key reference with
  | some candidate =>
    expand candidate
    expansion.alongside.inline key candidate
  | none =>
    let loaded ← (expansion.searcher.search reference.target expansion.locale expansion.settings).alongside
    loaded.forM fun other => do
      let path ← Lookup.inProgress
      if other ∈ path then pure () else expand other
    if ← Lookup.has reference.target expansion.locale then expansion.alongside.inline key reference.target
    else throw (.invalidReference reference.target key none)

/-- Expanding the message of a key, nested no deeper than a bound. -/
def expandTracked : Nat → String → Lookup (Progress σ) Unit
  | 0, key => Lookup.giveUp key
  | depth + 1, key => do
    Lookup.note
    let path ← Lookup.inProgress
    if key ∈ path then throw (.cyclicReference (path ++ [key]))
    let value ← Lookup.stored key expansion.locale
    if value.templates.any expansion.grammar.hasReference then
      let follow := expansion.followTracked (expandTracked depth) key
      let expanded ← Lookup.during key (value.mapTemplatesM (expansion.alongside.expandTemplate follow))
      Lookup.add key expanded expansion.locale

/-- Expanding the messages of those keys that are stored. -/
def expandAllTracked (depth : Nat) (keys : List String) : Lookup (Progress σ) Unit :=
  keys.forM fun key => do
    if ← Lookup.has key expansion.locale then expansion.expandTracked depth key

end Expansion

/-- A tracked run is compared with a plain one that is told the keys in progress. At the end of a step these are the
same as at its start, unless the bound was reached. -/
def restoring {σ : Type} (path : List String) : Comparison (Progress σ) σ where
  fails _ := False
  spoilt progress := progress.overrun = true
  link progress state := progress.state = state ∧ progress.inProgress = path

namespace Lookup

variable {σ α β : Type} {path : List String} {one : Lookup (Progress σ) α} {two : Lookup σ α}

/-- A step that leaves the course alone goes like the step. -/
theorem alongside_alike (path : List String) (step : Lookup σ α) : (restoring path).Alike step.alongside step where
  keeps _ spoilt := spoilt
  follows library other linked := by
    obtain ⟨stores, states, paths⟩ := linked
    obtain ⟨store, state⟩ := other
    -- Both run the step on the same messages and the same state of the searcher.
    obtain rfl : store = library.store := stores
    obtain rfl : library.state.state = state := states
    exact .inr ⟨rfl, rfl, rfl, paths⟩

/-- Noting the keys in progress changes nothing else. -/
theorem note_keeps (path : List String) : (restoring path).Keeps (note : Lookup (Progress σ) Unit) :=
  fun _ spoilt => spoilt

/-- Taking note changes nothing that is compared. -/
theorem note_alike (next : (restoring path).Alike one two) : (restoring path).Alike (note >>= fun _ => one) two where
  keeps := Comparison.keeps_bind (note_keeps path) fun _ => next.keeps
  follows _ other linked := next.follows _ other linked

/-- A step that asks for the keys in progress goes like the one that is told them. -/
theorem inProgress_alike {next : List String → Lookup (Progress σ) α}
    (keeps : ∀ other, (restoring path).Keeps (next other)) (told : (restoring path).Alike (next path) two) :
    (restoring path).Alike (inProgress >>= next) two where
  keeps := Comparison.keeps_bind (fun _ spoilt => spoilt) keeps
  follows library other linked := by
    -- Linked libraries agree on the keys in progress: they are those of the path.
    have same : library.state.inProgress = path := linked.2.2
    have asked : (inProgress >>= next).outcome library = (next library.state.inProgress).outcome library := rfl
    unfold Comparison.Follows
    rw [asked, same]
    exact told.follows library other linked

/-- A key in progress is taken off again at the end. -/
theorem during_alike {key : String} (inside : (restoring (path ++ [key])).Alike one two) :
    (restoring path).Alike (during key one) two where
  keeps _ spoilt := inside.keeps _ spoilt
  follows library other linked := by
    obtain ⟨stores, states, paths⟩ := linked
    have follows := inside.follows { library with state := library.state.takeUp key } other
      ⟨stores, states, congrArg (· ++ [key]) paths⟩
    rcases follows with (⟨error, _, fails⟩ | spoilt) | ⟨same, stores, states, paths⟩
    · exact fails.elim
    · exact .inl (.inr spoilt)
    · -- The last of the keys in progress is the one that was added.
      exact .inr ⟨same, stores, states, (congrArg List.dropLast paths).trans List.dropLast_concat⟩

end Lookup

namespace Expansion

variable {σ : Type} (expansion : Expansion σ) {expand : String → Lookup (Progress σ) Unit}
  {enlarge : String → Lookup σ Unit}

/-- Following a reference in a tracked run goes as in a plain one. -/
theorem followTracked_alike {path : List String}
    (expands : ∀ other, (restoring path).Alike (expand other) (enlarge other))
    (key : String) (reference : Reference) :
    (restoring path).Alike (expansion.followTracked expand key reference)
      (expansion.follow enlarge path key reference) := by
  have inline (target : String) :
      (restoring path).Alike (expansion.alongside.inline key target) (expansion.inline key target) :=
    inline_alike expansion.alongside_locale key target
  rw [follow_eq]
  unfold followTracked
  refine .bind .store fun store => ?_
  cases store.resolve? expansion.grammar expansion.locale key reference with
  | some candidate => exact .bind (expands candidate) fun _ => inline candidate
  | none =>
    -- The keys loaded are passed over as those of the plain run, which is told what is in progress.
    refine .bind (Lookup.alongside_alike path _) fun loaded => .bind (.forM (fun other => ?_) loaded) fun _ => ?_
    · refine Lookup.inProgress_alike (fun asked => ?_) ?_
      · split
        · exact (Comparison.Alike.pure ()).keeps
        · exact (expands other).keeps
      · split
        · exact .pure ()
        · exact expands other
    · refine .bind (.has _ _) fun there => ?_
      cases there with
      | true => exact inline reference.target
      | false => exact .throw _

/-- Expanding a key in a tracked run goes as in a plain one, with whatever larger bound that one has. -/
theorem expandTracked_alike (depth more : Nat) (path : List String) (key : String) :
    (restoring path).Alike (expansion.expandTracked depth key) (expansion.expandKey (depth + more) path key) := by
  -- The induction is on the bound, for all keys that may be in progress by then.
  induction depth generalizing path key with
  | zero => exact ⟨fun _ _ => rfl, fun _ _ _ => .inl (.inr rfl)⟩
  | succ depth ih =>
    rw [Nat.succ_add, expandKey_succ, expandTracked]
    have template := expandTemplate_alike expansion.alongside_grammar fun reference =>
      expansion.followTracked_alike (fun other => ih (path ++ [key]) other) key reference
    have rewrites : (restoring path).Alike (do
        let value ← Lookup.stored key expansion.locale
        if value.templates.any expansion.grammar.hasReference then
          let follow := expansion.followTracked (expansion.expandTracked depth) key
          let expanded ← Lookup.during key (value.mapTemplatesM (expansion.alongside.expandTemplate follow))
          Lookup.add key expanded expansion.locale)
        (expansion.rewrite
          (expansion.follow (expansion.expandKey (depth + more) (path ++ [key])) (path ++ [key]) key) key) := by
      refine .bind (.stored key expansion.locale) fun value => ?_
      split
      · refine .bind (Lookup.during_alike (.mapTemplates template value)) fun expanded => ?_
        exact .add key expanded expansion.locale
      · exact .pure ()
    refine Lookup.note_alike (Lookup.inProgress_alike (fun asked => ?_) ?_)
    · split
      · exact (Comparison.Alike.throw (.cyclicReference (asked ++ [key]))).keeps
      · exact rewrites.keeps
    · split
      · exact .throw _
      · exact rewrites

/-- Expanding keys in a tracked run goes as in a plain one, with whatever larger bound that one has. -/
theorem expandAllTracked_alike (depth more : Nat) (keys : List String) :
    (restoring []).Alike (expansion.expandAllTracked depth keys)
      (keys.forM fun key => do
        if ← Lookup.has key expansion.locale then expansion.expandKey (depth + more) [] key) := by
  -- Key by key: a key that is not stored is passed over in both, any other is expanded in both.
  refine .forM (fun key => .bind (.has key expansion.locale) fun there => ?_) keys
  cases there with
  | true => exact expansion.expandTracked_alike depth more [] key
  | false => exact .pure ()

end Expansion

namespace Lookup.Meets

variable {σ α : Type} {library : Library (Progress σ)} {fails : Error → Library (Progress σ) → Prop}

/-- Asking for what is in progress changes nothing. -/
theorem inProgress {answers : List String → Library (Progress σ) → Prop}
    (holds : answers library.state.inProgress library) : Meets Lookup.inProgress library answers fails :=
  holds

/-- Taking note adds the keys in progress to the chains. -/
theorem note {answers : Unit → Library (Progress σ) → Prop}
    (holds : answers () { library with
      state := { library.state with chains := library.state.chains ++ [library.state.inProgress] } }) :
    Meets Lookup.note library answers fails :=
  holds

/-- Only the messages and the state of the searcher are those that the step leaves. -/
theorem alongside {step : Lookup σ α} {answers : α → Library (Progress σ) → Prop}
    (meets : step.Meets ⟨library.store, library.state.state⟩
      (fun x left => answers x ⟨left.store, { library.state with state := left.state }⟩)
      (fun e left => fails e ⟨left.store, { library.state with state := left.state }⟩)) :
    Meets step.alongside library answers fails := by
  have ends : step.alongside.outcome library =
      let (result, left) := step.outcome ⟨library.store, library.state.state⟩
      (result, ⟨left.store, { library.state with state := left.state }⟩) := rfl
  unfold Meets at meets ⊢
  rw [ends]
  -- Both ends of the step are told by the end that it has alone.
  generalize step.outcome ⟨library.store, library.state.state⟩ = ended at meets
  obtain ⟨_ | _, _⟩ := ended <;> exact meets

/-- A step with one more key in progress starts with that key, and what it leaves holds without it. -/
theorem during {key : String} {step : Lookup (Progress σ) α} {answers : α → Library (Progress σ) → Prop}
    (meets : step.Meets { library with state := library.state.takeUp key }
      (fun x left => answers x { left with state := left.state.takeOff })
      (fun e left => fails e { left with state := left.state.takeOff })) :
    Meets (Lookup.during key step) library answers fails := by
  have ends : (Lookup.during key step).outcome library =
      let (result, left) := step.outcome { library with state := library.state.takeUp key }
      (result, { left with state := left.state.takeOff }) := rfl
  unfold Meets at meets ⊢
  rw [ends]
  -- Both ends of the step are told by the end that it has alone.
  generalize step.outcome { library with state := library.state.takeUp key } = ended at meets
  obtain ⟨_ | _, _⟩ := ended <;> exact meets

end Lookup.Meets

namespace Table

/-- A search in a table stores only keys of its rows. -/
theorem searcher_confined (settings : Settings) (locale : String) (rows : List TableRow) :
    searcher.Confined settings locale (fun table => table.rows = rows) (rows.map TableRow.key) := by
  -- Every key that is new comes from a row of the table, and the rows stay as they are.
  intro key library valid
  refine (Table.search_takes key locale settings library).mono (fun loaded left ends => ?_) fun _ _ _ => trivial
  obtain ⟨⟨same, takes⟩, -⟩ := ends
  refine ⟨same.trans valid, fun other there => (takes.only other locale there).imp_right fun found => ?_⟩
  obtain ⟨row, member, rfl, -⟩ := found
  exact List.mem_map_of_mem (valid ▸ member)

end Table

/-- A course in which the bound was never reached and no key was in progress twice. -/
structure Progress.Regular {σ : Type} (progress : Progress σ) : Prop where
  within : progress.overrun = false
  distinct : ∀ chain ∈ progress.chains, chain.Nodup

namespace Expansion

variable {σ : Type} {expansion : Expansion σ} {valid : σ → Prop} {limits path : List String}
  {library : Library (Progress σ)} {expand : String → Lookup (Progress σ) Unit}

/-- An expansion on its way, with some keys in progress. All keys of its locale that are stored by then are among
some known ones. -/
structure OnTrack (expansion : Expansion σ) (valid : σ → Prop) (limits path : List String)
    (library : Library (Progress σ)) : Prop where
  regular : library.state.Regular
  inProgress : library.state.inProgress = path
  valid : valid library.state.state
  known : ∀ key, library.store.has key expansion.locale = true → key ∈ limits

/-- A step that leads from track to track, and fails with a course that is regular still. -/
def Stays (expansion : Expansion σ) (valid : σ → Prop) (limits path : List String)
    (expand : String → Lookup (Progress σ) Unit) : Prop :=
  ∀ key library, expansion.OnTrack valid limits path library →
    (expand key).Meets library (fun _ left => expansion.OnTrack valid limits path left)
      (fun _ left => left.state.Regular)

/-- Inlining a target stays on track. -/
theorem inline_stays {key target : String} (onTrack : expansion.OnTrack valid limits path library) :
    (expansion.alongside.inline key target).Meets library (fun _ left => expansion.OnTrack valid limits path left)
      (fun _ left => left.state.Regular) :=
  .inline (fun _ _ => onTrack) (fun _ _ _ => onTrack.regular) fun _ => onTrack.regular

section Confined

variable {found : List String}
  (confined : expansion.searcher.Confined expansion.settings expansion.locale valid found)
  (subset : found ⊆ limits)
include confined subset

/-- A search brings only keys that are known. -/
theorem search_stays (key : String) (onTrack : expansion.OnTrack valid limits path library) :
    (expansion.searcher.search key expansion.locale expansion.settings).alongside.Meets library
      (fun _ left => expansion.OnTrack valid limits path left) (fun _ left => left.state.Regular) := by
  refine .alongside ((confined key ⟨library.store, library.state.state⟩ onTrack.valid).mono ?_ ?_)
  · intro _ left ends
    obtain ⟨isValid, kept⟩ := ends
    -- What is stored now was stored before, or is among what searches may bring.
    refine ⟨⟨onTrack.regular.within, onTrack.regular.distinct⟩, onTrack.inProgress, isValid, fun other there => ?_⟩
    rcases kept other there with before | new
    · exact onTrack.known other before
    · exact subset new
  · exact fun _ _ _ => ⟨onTrack.regular.within, onTrack.regular.distinct⟩

/-- Following a reference stays on track if expanding its target does. -/
theorem followTracked_stays {key : String} {reference : Reference}
    (onTrack : expansion.OnTrack valid limits path library) (stays : expansion.Stays valid limits path expand) :
    (expansion.followTracked expand key reference).Meets library
      (fun _ left => expansion.OnTrack valid limits path left) (fun _ left => left.state.Regular) := by
  -- What the reference means is expanded where it is stored, and searched for otherwise.
  refine .bind (.store ?_)
  cases library.store.resolve? expansion.grammar expansion.locale key reference with
  | some candidate =>
    exact .bind ((stays candidate library onTrack).mono (fun _ _ => inline_stays) fun _ _ => id)
  | none =>
    refine .bind ((search_stays confined subset reference.target onTrack).mono (fun loaded left onTrack => ?_)
      fun _ _ => id)
    refine .bind (.mono (.forM (fun _ => expansion.OnTrack valid limits path)
      (fun other rest left onTrack => ?_) onTrack) (fun _ after onTrack => .bind (.has ?_)) fun _ _ => id)
    · -- A key in progress is passed over.
      refine .bind (.inProgress ?_)
      split
      · exact .pure onTrack
      · exact stays other left onTrack
    · split
      · exact inline_stays onTrack
      · exact .throw onTrack.regular

/-- Expanding the templates of a value stays on track if expanding their targets does. -/
theorem mapTracked_stays {key : String} (onTrack : expansion.OnTrack valid limits path library)
    (stays : expansion.Stays valid limits path expand) (value : Value) :
    Lookup.Meets (value.mapTemplatesM (expansion.alongside.expandTemplate (expansion.followTracked expand key))) library
      (fun _ left => expansion.OnTrack valid limits path left) (fun _ left => left.state.Regular) := by
  -- Every reference that is followed leaves the library on track for the next one.
  refine .mono (.expandValue (fun _ _ => True) (fun _ => expansion.OnTrack valid limits path) ?_ onTrack)
    (fun _ _ => And.right) fun _ _ => id
  intro reference rest left onTrack
  exact (followTracked_stays confined subset onTrack stays).mono (fun _ _ => And.intro trivial) fun _ _ => id

/-- Expanding a key stays on track if the bound allows for all known keys that are not in progress. -/
theorem expandTracked_stays (depth : Nat) (distinct : path.Nodup) (inside : path ⊆ limits)
    (room : limits.length < depth + path.length) :
    expansion.Stays valid limits path (expansion.expandTracked depth) := by
  -- The induction is on the bound; what it takes from the bound it adds to the keys in progress.
  induction depth generalizing path with
  | zero =>
    -- There are at most as many different keys in progress as known ones, and so the bound is not reached.
    have bound := (distinct.subperm inside).length_le
    omega
  | succ depth ih =>
    intro key library onTrack
    obtain ⟨⟨within, chains⟩, rfl, isValid, known⟩ := onTrack
    have noted : ∀ chain ∈ library.state.chains ++ [library.state.inProgress], chain.Nodup :=
      List.forall_mem_append.2 ⟨chains, List.forall_mem_singleton.2 distinct⟩
    refine .bind (.note (.bind (.inProgress ?_)))
    split
    · exact .bind (.throw ⟨within, noted⟩)
    · next free =>
      refine .bind (.stored (fun value stored => ?_) fun _ => ⟨within, noted⟩)
      split
      · -- The key is stored and not in progress, so that it adds one to the different keys that are.
        have there : key ∈ limits := known key (by rw [Store.has, stored]; rfl)
        have more : (library.state.inProgress ++ [key]).Nodup :=
          distinct.append (List.nodup_singleton key) (by simpa using free)
        have stays := ih more (List.append_subset.2 ⟨inside, List.cons_subset.2 ⟨there, List.nil_subset _⟩⟩)
          (by rw [List.length_append, List.length_singleton]; omega)
        have taken : expansion.OnTrack valid limits (library.state.inProgress ++ [key]) { library with
            state := Progress.takeUp
              { library.state with chains := library.state.chains ++ [library.state.inProgress] } key } :=
          ⟨⟨within, noted⟩, rfl, isValid, known⟩
        refine .bind (.during ((mapTracked_stays confined subset taken stays value).mono ?_ ?_))
        · intro expanded left ends
          -- Back at the key: it is taken off, and the message that is put in for it is that of a known key.
          obtain ⟨⟨within, chains⟩, started, isValid, known⟩ := ends
          refine .add ⟨⟨within, chains⟩, ?_, isValid, fun other stored => ?_⟩
          · exact (congrArg List.dropLast started).trans List.dropLast_concat
          · rw [Store.has_add, Bool.or_eq_true, decide_eq_true_eq] at stored
            rcases stored with ⟨rfl, -⟩ | stored
            · exact there
            · exact known other stored
        · exact fun _ _ regular => ⟨regular.within, regular.distinct⟩
      · exact .pure ⟨⟨within, noted⟩, rfl, isValid, known⟩

/-- Expanding keys stays on track if the bound allows for all known keys. -/
theorem expandAllTracked_stays {depth : Nat} (room : limits.length < depth) (keys : List String)
    (onTrack : expansion.OnTrack valid limits [] library) :
    (expansion.expandAllTracked depth keys).Meets library (fun _ left => expansion.OnTrack valid limits [] left)
      (fun _ left => left.state.Regular) := by
  -- Before each key nothing is in progress, so that there is room for all known keys.
  refine .forM (fun _ => expansion.OnTrack valid limits []) (fun key rest left onTrack => .bind (.has ?_)) onTrack
  split
  · exact expandTracked_stays confined subset depth List.nodup_nil (List.nil_subset _) room key left onTrack
  · exact .pure onTrack

end Confined

/-- Expanding the messages of those keys that are stored, nested no deeper than a bound. -/
def expandAll (expansion : Expansion σ) (depth : Nat) (keys : List String) : Lookup σ Unit :=
  keys.forM fun key => do
    if ← Lookup.has key expansion.locale then expansion.expandKey depth [] key

/-- A tracked run with a large enough bound is regular, takes off all keys that it took up, and does what a plain run
with any larger bound does. -/
theorem expandAllTracked_eq {found : List String} {library : Library σ}
    (confined : expansion.searcher.Confined expansion.settings expansion.locale valid found)
    (start : valid library.state) {depth : Nat} (room : library.store.size + found.length < depth) (more : Nat)
    (keys : List String) :
    ∃ chains, (∀ chain ∈ chains, chain.Nodup) ∧
      (expansion.expandAllTracked depth keys).outcome ⟨library.store, { state := library.state }⟩ =
        let (result, left) := (expansion.expandAll (depth + more) keys).outcome library
        (result, ⟨left.store, { state := left.state, inProgress := [], chains, overrun := false }⟩) := by
  -- The known keys are those that are stored at the start and those that searches may store.
  have limited : ((library.store.messages expansion.locale).keys ++ found).length < depth := by
    have size := library.store.size_messages_le expansion.locale
    simp only [List.length_append, Dict.keys, List.length_map]
    unfold Dict.size at size
    omega
  have onTrack : expansion.OnTrack valid ((library.store.messages expansion.locale).keys ++ found) []
      ⟨library.store, { state := library.state }⟩ := by
    refine ⟨⟨rfl, List.forall_mem_nil _⟩, rfl, start, fun key there => List.mem_append_left _ ?_⟩
    obtain ⟨value, stored⟩ := Option.isSome_iff_exists.1 there
    exact List.mem_map.2 ⟨(key, value), Dict.mem_of_get? stored, rfl⟩
  have regular : ((expansion.expandAllTracked depth keys).outcome
      ⟨library.store, { state := library.state }⟩).2.state.Regular :=
    Lookup.Meets.left ((expandAllTracked_stays confined (List.subset_append_right _ _) limited keys onTrack).mono
      (fun _ _ => OnTrack.regular) fun _ _ => id)
  -- As the bound was not reached, the tracked run went like the plain one.
  have follows := (expansion.expandAllTracked_alike depth more keys).follows ⟨library.store, { state := library.state }⟩
    library ⟨rfl, rfl, rfl⟩
  unfold Comparison.Follows at follows
  change _ ∨ (((expansion.expandAll (depth + more) keys).outcome library).1 = _ ∧
    Comparison.Linked _ _ ((expansion.expandAll (depth + more) keys).outcome library).2) at follows
  generalize (expansion.expandAllTracked depth keys).outcome ⟨library.store, { state := library.state }⟩ = tracked
    at regular follows
  generalize (expansion.expandAll (depth + more) keys).outcome library = plain at follows
  obtain ⟨result, ⟨store, progress⟩⟩ := tracked
  obtain ⟨answer, left⟩ := plain
  rcases follows with (⟨error, _, fails⟩ | spoilt) | ⟨rfl, rfl, states, paths⟩
  · exact fails.elim
  · exact absurd (regular.within.symm.trans spoilt) (by decide)
  · obtain ⟨state, path, chains, overrun⟩ := progress
    obtain rfl : state = left.state := states
    obtain rfl : path = [] := paths
    obtain rfl : overrun = false := regular.within
    exact ⟨chains, regular.distinct, rfl⟩

/-- Expansion always ends: if searches store keys of the locale only among finitely many ones, there is one end to
which every run with a large enough bound comes. The bound is not reached, the keys in progress are different whenever
one is to be expanded, and at the end none is left. It is the end of the expansion if the searcher's reach counts those
keys. -/
theorem expandKeys_ends (expansion : Expansion σ) (valid : σ → Prop) (found : List String)
    (confined : expansion.searcher.Confined expansion.settings expansion.locale valid found)
    (library : Library σ) (start : valid library.state) (keys : List String) :
    ∃ result left,
      (∀ depth, library.store.size + found.length < depth → ∃ chains, (∀ chain ∈ chains, chain.Nodup) ∧
        (expansion.expandAllTracked depth keys).outcome ⟨library.store, { state := library.state }⟩ =
          (result, ⟨left.store, { state := left.state, inProgress := [], chains, overrun := false }⟩)) ∧
      (found.length ≤ expansion.searcher.reach library.state →
        (expansion.expandKeys keys).outcome library = (result, left)) := by
  -- The end is that of the plain run with the least bound that is large enough.
  obtain ⟨bound, least⟩ : ∃ bound, bound = library.store.size + found.length + 1 := ⟨_, rfl⟩
  generalize ended : (expansion.expandAll bound keys).outcome library = plain
  obtain ⟨result, left⟩ := plain
  have same (more : Nat) : (expansion.expandAll (bound + more) keys).outcome library = (result, left) := by
    -- The tracked run with that bound goes like the plain one, and like the one with a larger bound.
    have room : library.store.size + found.length < bound := by omega
    obtain ⟨_, -, one⟩ := expandAllTracked_eq confined start room 0 keys
    obtain ⟨_, -, two⟩ := expandAllTracked_eq confined start room more keys
    rw [Nat.add_zero, ended] at one
    rw [one] at two
    generalize (expansion.expandAll (bound + more) keys).outcome library = other at two ⊢
    obtain ⟨answer, ⟨store, state⟩⟩ := other
    obtain ⟨⟩ := two
    rfl
  refine ⟨result, left, fun depth room => ?_, fun counted => ?_⟩
  · obtain ⟨more, rfl⟩ := Nat.exists_eq_add_of_le (show bound ≤ depth by omega)
    obtain ⟨chains, distinct, tracked⟩ := expandAllTracked_eq confined start room 0 keys
    rw [Nat.add_zero, same] at tracked
    exact ⟨chains, distinct, tracked⟩
  · have enough : bound ≤ expansion.depth library := by
      unfold depth
      omega
    obtain ⟨more, larger⟩ := Nat.exists_eq_add_of_le enough
    rw [expandKeys_outcome, ← same more, ← larger]
    rfl

/-- A title refers to a name, and what the name refers to leads back to both. -/
def entangled : Library Table :=
  ⟨Store.empty.add "app.title" (.scalar "%{lib.name}") "en",
    { rows := [{ locale := "en", key := "lib.name", value := .scalar "see %{app.about}" },
        { locale := "en", key := "app.about", value := .scalar "%{.title}, %{lib.name}" }]
      everything := false }⟩

/-- References through three messages lead back to the first one; that is found out with three keys in progress. -/
theorem expandKeys_ends_entangled :
    ((∀ depth, entangled.store.size + 2 < depth → ∃ chains, (∀ chain ∈ chains, chain.Nodup) ∧
        (tabular.expandAllTracked depth ["app.title"]).outcome ⟨entangled.store, { state := entangled.state }⟩ =
          (.error (.cyclicReference ["app.title", "lib.name", "app.about", "app.title"]),
            ⟨((tabular.expandKeys ["app.title"]).outcome entangled).2.store,
              { state := ((tabular.expandKeys ["app.title"]).outcome entangled).2.state, inProgress := [], chains
                overrun := false }⟩)) ∧
      2 ≤ tabular.searcher.reach entangled.state) := by
  have confined := Table.searcher_confined tabular.settings tabular.locale entangled.state.rows
  obtain ⟨result, left, ends, expands⟩ := expandKeys_ends tabular _ _ confined entangled rfl ["app.title"]
  -- A table tells truly how far it reaches: as far as it has rows.
  have reaches : (entangled.state.rows.map TableRow.key).length ≤ tabular.searcher.reach entangled.state :=
    Nat.le_of_eq (List.length_map _)
  have failed : ((tabular.expandKeys ["app.title"]).outcome entangled).1 =
      .error (.cyclicReference ["app.title", "lib.name", "app.about", "app.title"]) := by decide +kernel
  rw [expands reaches] at failed ⊢
  obtain rfl : result = _ := failed
  exact ⟨ends, reaches⟩

end Expansion

end Phrasebook
