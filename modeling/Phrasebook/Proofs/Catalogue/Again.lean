import Phrasebook.Proofs.Catalogue.Steady

/-! Expanding again what has been expanded before: where all references mean stored messages no search is needed,
and putting the messages in again brings nothing new. -/

namespace Phrasebook

open Relation
open Grammar (standard)

namespace Expansion

variable {σ : Type}

/-- The same expansion without a searcher. -/
def alone (expansion : Expansion σ) : Expansion Unit :=
  { searcher := .none, settings := expansion.settings, grammar := expansion.grammar, locale := expansion.locale }

/-- An expansion with a searcher is compared with the one without until that one fails. -/
def untilFailure (state : σ) : Comparison Unit σ where
  fails _ := True
  spoilt _ := False
  link _ other := other = state

/-- Without a searcher an expansion fails as soon as it would have to search. -/
theorem alone_parallel (expansion : Expansion σ) (state : σ) :
    Parallel (untilFailure state) expansion.alone expansion where
  grammar := rfl
  locale := rfl
  keeps _ _ := id
  brings {expand} _ _ inProgress key reference library _ _ missing := by
    have absent : library.store.has reference.target expansion.locale = false := Store.has_target_of_resolve? missing
    -- The one that goes alone finds nothing stored and has nobody to ask.
    have fails : (expansion.alone.bring expand inProgress key reference).outcome library =
        (.error (.invalidReference reference.target key none), library) := by
      change (if library.store.has reference.target expansion.locale = true
        then expansion.alone.inline key reference.target else throw _ : Lookup Unit String).outcome library = _
      rw [absent]
      rfl
    exact .inl (.inl ⟨_, congrArg Prod.fst fails, trivial⟩)

/-- An expansion that succeeds without a searcher goes the same way with one. -/
theorem expandKeys_of_alone (expansion : Expansion σ) (library : Library σ) {keys : List String} {store : Store}
    (ok : (expansion.alone.expandKeys keys).outcome ⟨library.store, ()⟩ = (.ok (), ⟨store, ()⟩)) :
    (expansion.expandKeys keys).outcome library = (.ok (), ⟨store, library.state⟩) := by
  -- Without a searcher chains may only be shorter.
  have depth (one : Library Unit) (two : Library σ) (linked : (untilFailure library.state).Linked one two) :
      expansion.depth two = expansion.alone.depth one + expansion.searcher.reach library.state := by
    obtain ⟨stores, states⟩ : two.store = one.store ∧ two.state = library.state := linked
    simp only [Expansion.depth, stores, states, alone, Searcher.none]
    omega
  have linked : (untilFailure library.state).Linked ⟨library.store, ()⟩ library := ⟨rfl, rfl⟩
  have parallel := alone_parallel expansion library.state
  have follows := (parallel.expandKeys (.inr fun _ => trivial) depth keys).follows _ _ linked
  unfold Comparison.Follows at follows
  rw [ok] at follows
  rcases follows with (⟨error, failed, _⟩ | spoilt) | ⟨same, store, state⟩
  · cases failed
  · exact spoilt.elim
  · generalize (expansion.expandKeys keys).outcome library = ended at same store state
    obtain ⟨result, after⟩ := ended
    obtain rfl : result = .ok () := same
    cases after
    cases store
    cases state
    rfl

/-- What every search and every message put in for the locale preserves, an expansion preserves. -/
theorem expandKeys_preserves {expansion : Expansion σ} (holds : Library σ → Prop)
    (search : ∀ key library, holds library →
      (expansion.searcher.search key expansion.locale expansion.settings).Meets library (fun _ => holds) fun _ => holds)
    (add : ∀ key value library, holds library →
      holds { library with store := library.store.add key value expansion.locale })
    (keys : List String) {library : Library σ} (start : holds library) :
    (expansion.expandKeys keys).Meets library (fun _ => holds) fun _ => holds := by
  -- The induction is on the bound for the chains; every part of an expansion goes by its own rule.
  have expands (fuel : Nat) (path : List String) (key : String) (library : Library σ) (start : holds library) :
      (expansion.expandKey fuel path key).Meets library (fun _ => holds) fun _ => holds := by
    induction fuel generalizing path key library with
    | zero => exact Lookup.Meets.throw start
    | succ fuel ih =>
      refine Lookup.Meets.expandKey (fun _ => start) (fun _ _ => start) (fun _ _ _ _ => start) fun value _ _ _ => ?_
      refine (Lookup.Meets.expandValue (fun _ _ => True) (fun _ => holds) ?_ start).mono
        (fun full left ends => add key full left ends.2) fun _ _ => id
      intro reference _ left here
      have inline (target : String) (left : Library σ) (here : holds left) :
          (expansion.inline key target).Meets left (fun _ after => True ∧ holds after) fun _ => holds :=
        Lookup.Meets.inline (fun _ _ => ⟨trivial, here⟩) (fun _ _ _ => here) fun _ => here
      refine Lookup.Meets.follow (fun candidate _ => ?_) fun _ => ?_
      · exact (ih _ candidate left here).mono (fun _ after => inline candidate after) fun _ _ => id
      · -- The reference means no stored key: what the search brings is expanded first.
        refine (search reference.target left here).mono (fun loaded after there => ?_) fun _ _ => id
        refine (Lookup.Meets.forM (fun _ => holds) (fun other _ next started => ?_) there).mono
          (fun _ last ends => ?_) fun _ _ => id
        · split
          · exact Lookup.Meets.pure started
          · exact ih _ other next started
        · split
          · exact inline reference.target last ends
          · exact ends
  exact Lookup.Meets.expandKeys (fun _ => holds) (fun key _ left here _ => expands _ [] key left here)
    (fun _ _ _ here _ => here) start

end Expansion

namespace Store

variable {original store : Store} {locale key target : String}

/-- A store in which some messages of another one are replaced by the full ones. -/
def Blends (original store : Store) (locale : String) : Prop :=
  ∀ key, store.get? key locale = original.get? key locale ∨
    ∃ value full, original.get? key locale = some value ∧ store.get? key locale = some full ∧
      original.Full standard locale key value full

namespace Blends

/-- The same keys are stored. -/
theorem has_eq (blends : Blends original store locale) (key : String) :
    store.has key locale = original.has key locale := by
  -- Every key has its message of before, or the full one of a message of before.
  rcases blends key with same | ⟨value, full, before, after, _⟩
  · rw [has, has, same]
  · rw [has, has, before, after]
    rfl

variable (checked : original.Checked standard locale)
include checked

/-- The messages still pass the check. -/
theorem stays_checked (blends : Blends original store locale) : store.Checked standard locale := by
  intro key held stored
  rcases blends key with same | ⟨value, full, before, after, isFull⟩
  · exact checked key held (same ▸ stored)
  -- Full messages have no references, so that there is nothing to check but the templates.
  · obtain rfl := Option.some.inj (after.symm.trans stored)
    exact (Value.settled_iff.1 (isFull.settled checked before)).1

/-- A message with references is the one that was there before. -/
theorem get?_of_refers (blends : Blends original store locale) {value : Value}
    (stored : store.get? key locale = some value)
    (referring : value.references standard ≠ []) : original.get? key locale = some value := by
  -- A full message has no references.
  rcases blends key with same | ⟨_, full, before, after, isFull⟩
  · exact same ▸ stored
  · obtain rfl := Option.some.inj (after.symm.trans stored)
    exact absurd (Value.settled_iff.1 (isFull.settled checked before)).2 referring

/-- A key refers only to what it referred to before. -/
theorem refers (blends : Blends original store locale) (refers : store.Refers standard locale key target) :
    original.Refers standard locale key target := by
  -- A message with references is one of before, and the same keys are there to be meant.
  obtain ⟨value, stored, reference, member, means⟩ := refers
  have before := blends.get?_of_refers checked stored (List.ne_nil_of_mem member)
  exact ⟨value, before, reference, member, (resolve?_congr blends.has_eq).symm.trans means⟩

/-- Sound keys stay sound. -/
theorem sound (blends : Blends original store locale) (sound : original.Sound standard locale key) :
    store.Sound standard locale key := by
  intro other reaches
  have before : ReflTransGen (original.Refers standard locale) key other :=
    ReflTransGen.mono (fun _ _ refers => blends.refers checked refers) _ _ reaches
  obtain ⟨resolves, acyclic⟩ := sound other before
  constructor
  · intro value stored reference member
    have held := blends.get?_of_refers checked stored (List.ne_nil_of_mem member)
    obtain ⟨target, template, means, scalar⟩ := resolves value held reference member
    -- The full message of a single template is one as well.
    rcases blends target with same | ⟨_, full, was, is, isFull⟩
    · exact ⟨target, template, (resolve?_congr blends.has_eq).trans means, same.trans scalar⟩
    · obtain rfl := Option.some.inj (was.symm.trans scalar)
      cases isFull with
      | scalar replaced => exact ⟨target, _, (resolve?_congr blends.has_eq).trans means, is⟩
  · intro cycle
    exact acyclic (TransGen.mono (fun _ _ refers => blends.refers checked refers) _ _ cycle)

/-- Tokens have the same full text. -/
theorem spells (blends : Blends original store locale) {tokens : List Token} {text : List Char}
    (spells : original.Spells standard locale key tokens text) : store.Spells standard locale key tokens text := by
  induction spells with
  | nil => exact .nil
  | kept plain _ ih => exact .kept plain ih
  | @followed _ target _ _ _ _ _ _ isReference means scalar inside _ inner ih =>
    have meansNow := (resolve?_congr blends.has_eq).trans means
    rcases blends target with same | ⟨_, full, was, is, isFull⟩
    · exact .followed isReference meansNow (same.trans scalar) inner ih
    · obtain rfl := Option.some.inj (was.symm.trans scalar)
      have plain := (Value.settled_iff.1 (isFull.settled checked was)).2
      cases isFull with
      | @scalar _ result replaced =>
        -- The full text holds no references, so that it is spelled as it stands.
        have plain : standard.references result = [] := by simpa [Value.references, Value.templates] using plain
        have itself : store.Spells standard locale target (standard.tokenize result.toList) result.toList :=
          replaced_means_iff.1 (Grammar.replaced_self plain)
        rw [← (replaced_means_iff.1 replaced).unique inside]
        exact .followed isReference meansNow is itself ih

/-- Messages have the same full ones. -/
theorem full (blends : Blends original store locale) {value full : Value}
    (isFull : original.Full standard locale key value full) : store.Full standard locale key value full := by
  -- Template by template the full text is the same.
  refine Value.Rewritten.mono (fun template text replaced => ?_) isFull
  exact replaced_means_iff.2 (blends.spells checked (replaced_means_iff.1 replaced))

end Blends

/-- Messages that are put in for a second time replace what became of them, and the others stay full. -/
theorem Blends.putAll {entries : List (String × Value)} {before : Store}
    (blends : Blends (before.putAll entries locale) store locale) {again : Store}
    (same : ∀ key, again.get? key locale = store.get? key locale) :
    Blends (before.putAll entries locale) (again.putAll entries locale) locale := by
  intro key
  have was := blends key
  rw [get?_putAll before, if_pos rfl] at was ⊢
  rw [get?_putAll again, if_pos rfl, same]
  cases last : lastOf? entries key with
  | some value => exact .inl rfl
  | none =>
    -- The key is not put in: what became of it before is still there.
    simpa [last] using was

/-- A store in the course of an expansion is a blend of the original messages and their full ones. -/
theorem Expanded.blends {done : String → Prop} (expanded : Expanded original locale done store) :
    Blends original store locale := by
  intro key
  by_cases is : done key
  -- A key that is done holds the full message of what it held before, and something only if it did before.
  · have full := expanded.full key is
    cases before : original.get? key locale with
    | none =>
      rw [before] at full
      cases after : store.get? key locale with
      | none => exact .inl rfl
      | some held => rw [after] at full; cases full
    | some value =>
      obtain ⟨held, stored, isFull⟩ := expanded.exists_full is before
      exact .inr ⟨value, held, rfl, stored, isFull⟩
  · exact .inl (expanded.rest key locale fun both => is both.1)

end Store

namespace Expansion

variable {σ : Type}

/-- With the default delimiters an expansion without a searcher is the one offline. -/
theorem alone_eq_offline (expansion : Expansion σ) (default : expansion.grammar = standard) :
    expansion.alone = offline expansion.settings expansion.locale := by
  rw [Expansion.alone, default, offline]

/-- Sound keys are expanded as they are offline. -/
theorem expandKeys_eq_offline (expansion : Expansion σ) (default : expansion.grammar = standard) {keys : List String}
    {library : Library σ} (checked : library.store.Checked standard expansion.locale)
    (sound : ∀ key ∈ keys, library.store.Sound standard expansion.locale key) :
    (expansion.expandKeys keys).outcome library =
      (.ok (), ⟨(library.store.expandOffline expansion.settings expansion.locale keys).2.store, library.state⟩) := by
  -- Sound keys need no search: without a searcher the expansion is the one offline, which succeeds.
  have ok := (offline_ok_iff checked expansion.settings keys).2 fun key member _ => sound key member
  refine expandKeys_of_alone expansion library ?_
  rw [alone_eq_offline expansion default]
  exact Prod.ext ok rfl

/-- Sound keys are expanded without a search, and no other locale is touched. -/
theorem expandKeys_sound (expansion : Expansion σ) (default : expansion.grammar = standard) {keys : List String}
    {library : Library σ} (checked : library.store.Checked standard expansion.locale)
    (sound : ∀ key ∈ keys, library.store.Sound standard expansion.locale key) :
    ∃ store, (expansion.expandKeys keys).outcome library = (.ok (), ⟨store, library.state⟩) ∧
      library.store.Blends store expansion.locale ∧
      ∀ key asked, asked ≠ expansion.locale → store.get? key asked = library.store.get? key asked := by
  have ok := (offline_ok_iff checked expansion.settings keys).2 fun key member _ => sound key member
  have expanded := offline_expanded checked expansion.settings ok
  exact ⟨_, expandKeys_eq_offline expansion default checked sound, expanded.blends, fun key asked other =>
    expanded.rest key asked fun both => other both.2⟩

/-- Messages that are expanded offline stay in their order. -/
theorem ordered_expandOffline {original : Store} (ordered : original.Ordered) (settings : Settings) (locale : String)
    (keys : List String) : (original.expandOffline settings locale keys).2.store.Ordered := by
  -- Nothing is brought, and what is put in finds its place.
  have stays : ((offline settings locale).expandKeys keys).Meets ⟨original, ()⟩ (fun _ left => left.store.Ordered)
      fun _ left => left.store.Ordered :=
    expandKeys_preserves (fun library => library.store.Ordered) (fun _ _ start => Lookup.Meets.pure start)
      (fun key value _ start => start.add key value locale) keys ordered
  exact Lookup.Meets.left stays

end Expansion

namespace Store

variable {before store : Store} {entries : List (String × Value)} {locale : String} {done : String → Prop}

/-- A store in which messages have been expanded is what becomes of it when they are put in again. -/
theorem Expanded.again (expanded : Expanded (before.putAll entries locale) locale done store)
    (checked : (before.putAll entries locale).Checked standard locale)
    (all : ∀ key ∈ entries.map Prod.fst, done key) :
    Expanded (store.putAll entries locale) locale
      (fun other => ∃ key ∈ entries.map Prod.fst, (store.putAll entries locale).has key locale = true ∧
        ReflTransGen ((store.putAll entries locale).Refers standard locale) key other) store := by
  have blends : Blends (before.putAll entries locale) (store.putAll entries locale) locale :=
    expanded.blends.putAll fun _ => rfl
  refine ⟨fun other reached => ?_, fun other asked apart => ?_, fun other target reached refers => ?_⟩
  · obtain ⟨key, member, -, reaches⟩ := reached
    have is : done other := expanded.done_of_reaches (all key member)
      (ReflTransGen.mono (fun _ _ refers => blends.refers checked refers) _ _ reaches)
    have was := expanded.full other is
    by_cases inside : other ∈ entries.map Prod.fst
    · -- A message that is put in again has the same full one as before.
      rw [get?_putAll_of_mem store before inside]
      exact rel_mono (fun _ _ isFull => blends.full checked isFull) was
    · -- Any other message is full, and has nothing left to expand.
      rw [get?_putAll_of_not_mem inside]
      cases held : store.get? other locale with
      | none => exact .none
      | some value =>
        rw [held] at was
        obtain ⟨original, stored, isFull⟩ := exists_of_rel_right was rfl
        exact .some (full_self (Value.settled_iff.1 (isFull.settled checked stored)).2)
  · by_cases here : asked = locale
    · subst here
      -- A message that is put in is reached from itself.
      refine (get?_putAll_of_not_mem fun inside => apart ?_).symm
      exact ⟨⟨other, inside, has_putAll_of_mem inside, .refl⟩, rfl⟩
    · rw [get?_putAll, if_neg here]
  · obtain ⟨key, member, there, reaches⟩ := reached
    exact ⟨key, member, there, reaches.tail refers⟩

end Store

namespace Expansion

variable {before store : Store} {entries : List (String × Value)} {locale : String} {done : String → Prop}

/-- Where messages have been expanded, putting them in again and expanding them again gives the store that was there. -/
theorem offline_again (settings : Settings)
    (expanded : Store.Expanded (before.putAll entries locale) locale done store)
    (checked : (before.putAll entries locale).Checked standard locale)
    (all : ∀ key ∈ entries.map Prod.fst, done key) (ordered : store.Ordered) :
    (store.putAll entries locale).expandOffline settings locale (entries.map Prod.fst) = (.ok (), ⟨store, ()⟩) := by
  have blends : (before.putAll entries locale).Blends (store.putAll entries locale) locale :=
    expanded.blends.putAll fun _ => rfl
  have sound : ∀ key ∈ entries.map Prod.fst, (before.putAll entries locale).Sound standard locale key := by
    intro key member
    -- The key is stored, and its full message is a witness.
    obtain ⟨value, stored⟩ := Option.isSome_iff_exists.1 (Store.has_putAll_of_mem member)
    obtain ⟨_, _, isFull⟩ := expanded.exists_full (all key member) stored
    exact isFull.sound stored
  have ok := (offline_ok_iff (blends.stays_checked checked) settings (entries.map Prod.fst)).2
    fun key member _ => blends.sound checked (sound key member)
  -- The messages are those of the store, since what is done determines them.
  have same := (offline_expanded (blends.stays_checked checked) settings ok).get?_unique (expanded.again checked all)
  cases entries with
  | nil => rfl
  | cons entry rest =>
    have member : entry.1 ∈ (entry :: rest).map Prod.fst := List.mem_cons_self
    have known : store.locales.contains locale = true :=
      Store.contains_of_has ((expanded.has_eq entry.1).trans (Store.has_putAll_of_mem member))
    -- Nothing but messages for the locale has been put in.
    have arranged : ((offline settings locale).expandKeys ((entry :: rest).map Prod.fst)).Meets
        ⟨store.putAll (entry :: rest) locale, ()⟩ (fun _ left => left.store.Arranged store)
        fun _ left => left.store.Arranged store :=
      expandKeys_preserves (fun library => library.store.Arranged store) (fun _ _ start => Lookup.Meets.pure start)
        (fun key value _ start => start.add known key value) _ (Store.Arranged.putAll ⟨ordered, fun _ => rfl⟩ known _)
    have left := arranged.ok (Prod.ext ok rfl)
    exact Prod.ext ok (congrArg (Library.mk · ()) (left.ordered.ext ordered left.known same))

end Expansion

end Phrasebook
