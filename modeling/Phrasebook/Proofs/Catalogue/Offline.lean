import Mathlib.Data.List.Nodup
import Phrasebook.Proofs.Catalogue.Full
import Phrasebook.Proofs.Catalogue.Stored

/-! Expansion without a search: it succeeds exactly for sound keys, and stores their full messages,
whatever the order of the keys. -/

namespace Phrasebook

open Relation
open Grammar (standard)

/-- The expansion of stored messages with the default delimiters and without a search. -/
def Expansion.offline (settings : Settings) (locale : String) : Expansion Unit :=
  { searcher := .none, settings, grammar := standard, locale }

/-- Offline the standard grammar is used. -/
@[simp] theorem Expansion.offline_grammar (settings : Settings) (locale : String) :
    (offline settings locale).grammar = standard :=
  rfl

/-- Offline the locale is the one that is given. -/
@[simp] theorem Expansion.offline_locale (settings : Settings) (locale : String) :
    (offline settings locale).locale = locale :=
  rfl

/-- How the expansion of keys without a search ends on a store. -/
def Store.expandOffline (original : Store) (settings : Settings) (locale : String) (keys : List String) :
    Except Error Unit × Library Unit :=
  ((Expansion.offline settings locale).expandKeys keys).outcome ⟨original, ()⟩

namespace Store

variable {original store : Store} {locale key : String} {done : String → Prop}

/-- A store in the course of an expansion: the messages of the keys that are done are full, all others are
as they were, and what a key refers to is done before it. -/
structure Expanded (original : Store) (locale : String) (done : String → Prop) (store : Store) : Prop where
  full : ∀ key, done key →
    Option.Rel (original.Full standard locale key) (original.get? key locale) (store.get? key locale)
  rest : ∀ key asked, ¬ (done key ∧ asked = locale) → store.get? key asked = original.get? key asked
  closed : ∀ key target, done key → original.Refers standard locale key target → done target

/-- Before the expansion nothing is done. -/
theorem expanded_start (original : Store) (locale : String) :
    Expanded original locale (fun _ => False) original :=
  ⟨fun _ absurd => absurd.elim, fun _ _ _ => rfl, fun _ _ absurd => absurd.elim⟩

namespace Expanded

/-- The same keys are stored as before. -/
theorem has_eq (expanded : Expanded original locale done store) (key : String) :
    store.has key locale = original.has key locale := by
  -- A full message is there where the original one is; other keys are as they were.
  by_cases is : done key
  · exact isSome_of_rel (expanded.full key is)
  · rw [has, has, expanded.rest key locale fun both => is both.1]

/-- References mean the same as before. -/
theorem resolve?_eq (expanded : Expanded original locale done store) (reference : Reference) :
    store.resolve? standard locale key reference = original.resolve? standard locale key reference :=
  resolve?_congr expanded.has_eq

/-- Everything that can be reached from what is done is done. -/
theorem done_of_reaches (expanded : Expanded original locale done store) {other : String} (is : done key)
    (reaches : ReflTransGen (original.Refers standard locale) key other) : done other := by
  -- What a key refers to is done before it, step by step.
  induction reaches with
  | refl => exact is
  | tail _ refers ih => exact expanded.closed _ _ ih refers

/-- What is done may be described in other words. -/
theorem congr {same : String → Prop} (expanded : Expanded original locale done store)
    (iff : ∀ key, done key ↔ same key) : Expanded original locale same store := by
  obtain rfl : done = same := funext fun key => propext (iff key)
  exact expanded

/-- A stored message that is done has its full message in the store. -/
theorem exists_full {value : Value} (expanded : Expanded original locale done store) (is : done key)
    (stored : original.get? key locale = some value) :
    ∃ full, store.get? key locale = some full ∧ original.Full standard locale key value full := by
  exact exists_of_rel (expanded.full key is) stored

/-- What is done determines all messages. -/
theorem get?_unique {other : Store} (expanded : Expanded original locale done store)
    (same : Expanded original locale done other) (key asked : String) :
    store.get? key asked = other.get? key asked := by
  by_cases is : done key ∧ asked = locale
  · obtain ⟨is, rfl⟩ := is
    have functional : Relator.RightUnique (original.Full standard asked key) := fun _ _ _ => Full.unique
    exact rel_unique functional (expanded.full key is) (same.full key is)
  · -- Neither store has changed the message.
    rw [expanded.rest key asked is, same.rest key asked is]

/-- The stored message of a key is the full one if it is done, and the original one if it is not. -/
theorem get?_eq (expanded : Expanded original locale done store) {value : Value}
    (stored : store.get? key locale = some value) :
    ∃ before, original.get? key locale = some before ∧
      (original.Full standard locale key before value ∨ ¬ done key ∧ value = before) := by
  -- A key that is done holds a full message, and any other key what it held before.
  by_cases is : done key
  · obtain ⟨before, held, isFull⟩ := exists_of_rel_right (expanded.full key is) stored
    exact ⟨before, held, .inl isFull⟩
  · rw [expanded.rest key locale fun both => is both.1] at stored
    exact ⟨value, stored, .inr ⟨is, rfl⟩⟩

/-- A key is done, with all that can be reached from it, when its full message is stored and all it refers
to is done. -/
theorem finish {reached : String → Prop} {value full : Value} {after : Store}
    (expanded : Expanded original locale reached store)
    (stored : original.get? key locale = some value) (isFull : original.Full standard locale key value full)
    (targets : ∀ target, original.Refers standard locale key target → reached target)
    (above : ∀ other, done other → reached other)
    (below : ∀ other, reached other → done other ∨ ReflTransGen (original.Refers standard locale) key other)
    (put : ∀ other asked, after.get? other asked =
      if other = key ∧ asked = locale then some full else store.get? other asked) :
    Expanded original locale
      (fun other => done other ∨ ReflTransGen (original.Refers standard locale) key other) after := by
  have iff (other : String) : other = key ∨ reached other ↔
      done other ∨ ReflTransGen (original.Refers standard locale) key other := by
    constructor
    · intro either
      rcases either with rfl | is
      · exact .inr .refl
      · exact below other is
    · intro either
      rcases either with is | reaches
      · exact .inr (above other is)
      · -- What is reached from the key is reached from one that it refers to.
        rcases ReflTransGen.cases_head reaches with rfl | ⟨target, refers, reaches⟩
        · exact .inl rfl
        · exact .inr (expanded.done_of_reaches (targets target refers) reaches)
  -- What is done is the key and what has been reached, which is the same said otherwise.
  suffices described : Expanded original locale (fun other => other = key ∨ reached other) after from
    described.congr iff
  refine ⟨?_, ?_, ?_⟩
  · intro other is
    rw [put]
    by_cases same : other = key
    · subst same
      simp only [stored, and_self, if_true]
      exact .some isFull
    · simp only [same, false_and, if_false]
      exact expanded.full other (is.resolve_left same)
  · intro other asked isNot
    rw [put, if_neg fun both => isNot ⟨.inl both.1, both.2⟩]
    exact expanded.rest other asked fun both => isNot ⟨.inr both.1, both.2⟩
  · intro other target either refers
    rcases either with rfl | is
    · exact .inr (targets target refers)
    · exact .inr (expanded.closed other target is refers)

/-- A key whose message holds no references is done already, or by being left alone. -/
theorem of_plain {value : Value} (expanded : Expanded original locale done store)
    (stored : store.get? key locale = some value) (plain : value.references standard = []) :
    Expanded original locale
      (fun other => done other ∨ ReflTransGen (original.Refers standard locale) key other) store := by
  by_cases is : done key
  · exact expanded.congr fun other => ⟨.inl, fun either => either.elim id (expanded.done_of_reaches is)⟩
  · -- It has its original message, which is full already.
    have held := stored
    rw [expanded.rest key locale fun both => is both.1] at held
    refine expanded.finish held (full_self plain) ?_ (fun _ => id) (fun _ => .inl) fun other asked => ?_
    · intro target refers
      obtain ⟨_, same, reference, member, _⟩ := refers
      obtain rfl := Option.some.inj (held.symm.trans same)
      simp [plain] at member
    · split
      · next both => rw [both.1, both.2, stored]
      · rfl

/-- A key whose message holds references is not done, and has its original message, if all original
messages pass the check. -/
theorem of_referring {value : Value}
    (checked : original.Checked standard locale) (expanded : Expanded original locale done store)
    (stored : store.get? key locale = some value) (referring : value.references standard ≠ []) :
    ¬ done key ∧ original.get? key locale = some value := by
  -- Full messages are settled.
  obtain ⟨before, held, isFull | ⟨isNot, rfl⟩⟩ := expanded.get?_eq stored
  · exact absurd (Value.settled_iff.1 (isFull.settled checked held)).2 referring
  · exact ⟨isNot, held⟩

end Expanded

/-- A store while the references in the message of a key are followed: all but those left are done. -/
structure Following (original : Store) (locale key : String) (value : Value) (done reached : String → Prop)
    (rest : List Reference) (store : Store) : Prop where
  expanded : Expanded original locale reached store
  above : ∀ other, done other → reached other
  below : ∀ other, reached other → done other ∨ ReflTransGen (original.Refers standard locale) key other
  left : ∀ reference ∈ rest, reference ∈ value.references standard
  targets : ∀ reference ∈ value.references standard, ∀ target,
    original.resolve? standard locale key reference = some target → reference ∈ rest ∨ reached target

/-- When the key that the next reference means is done, so is the reference. -/
theorem Following.next {value : Value} {reached : String → Prop} {reference : Reference} {rest : List Reference}
    {target : String} {after : Store}
    (following : Following original locale key value done reached (reference :: rest) store)
    (expanded : Expanded original locale
      (fun other => reached other ∨ ReflTransGen (original.Refers standard locale) target other) after)
    (refers : original.Refers standard locale key target)
    (means : original.resolve? standard locale key reference = some target) :
    Following original locale key value done
      (fun other => reached other ∨ ReflTransGen (original.Refers standard locale) target other) rest after where
  expanded := expanded
  above other is := .inl (following.above other is)
  below other is := is.elim (following.below other) fun reaches => .inr (reaches.head refers)
  left other member := following.left other (by simp [member])
  -- The reference that was first is done now, or the other one was among the rest.
  targets other member found same := by
    refine Lookup.Meets.left_or (following.targets other member found same) ?_ .inl
    rintro rfl
    exact .inr (Option.some.inj (means.symm.trans same) ▸ .refl)

/-- A store while keys are expanded one after the other: all but those left are done, and nothing else than
what is reached from them. -/
structure Listed (original : Store) (locale : String) (keys : List String) (done : String → Prop)
    (rest : List String) (store : Store) : Prop where
  expanded : Expanded original locale done store
  below : ∀ other, done other → ∃ key ∈ keys, original.has key locale = true ∧
    ReflTransGen (original.Refers standard locale) key other
  left : ∀ key ∈ rest, key ∈ keys
  targets : ∀ key ∈ keys, original.has key locale = true → key ∈ rest ∨ done key

namespace Listed

variable {keys rest : List String}

/-- When the next key is done, one fewer is left. -/
theorem next {after : Store} (listed : Listed original locale keys done (key :: rest) store)
    (expanded : Expanded original locale
      (fun other => done other ∨ ReflTransGen (original.Refers standard locale) key other) after)
    (stored : original.has key locale = true) :
    Listed original locale keys
      (fun other => done other ∨ ReflTransGen (original.Refers standard locale) key other) rest after where
  expanded := expanded
  below other is := is.elim (listed.below other) fun reaches => ⟨key, listed.left key (by simp), stored, reaches⟩
  left other member := listed.left other (by simp [member])
  -- The key that was first is done now, or the other one was among the rest.
  targets other member there := by
    refine Lookup.Meets.left_or (listed.targets other member there) ?_ .inl
    rintro rfl
    exact .inr .refl

/-- A key that is not stored needs no expansion. -/
theorem skip (listed : Listed original locale keys done (key :: rest) store)
    (missing : original.has key locale = false) : Listed original locale keys done rest store where
  expanded := listed.expanded
  below := listed.below
  left other member := listed.left other (by simp [member])
  -- The key that was first is not stored, so that nothing is to be done for it.
  targets other member there := by
    refine Lookup.Meets.left_or (listed.targets other member there) ?_ id
    rintro rfl
    simp [there] at missing

/-- In the end exactly what is reached from the keys is done. -/
theorem finish (listed : Listed original locale keys done [] store) :
    Expanded original locale (fun other => ∃ key ∈ keys, original.has key locale = true ∧
      ReflTransGen (original.Refers standard locale) key other) store := by
  -- Every listed key that is stored is done by now, with all that can be reached from it.
  refine listed.expanded.congr fun other => ⟨listed.below other, ?_⟩
  intro reached
  obtain ⟨key, member, there, reaches⟩ := reached
  have is : done key := (listed.targets key member there).resolve_left (by simp)
  exact listed.expanded.done_of_reaches is reaches

end Listed

end Store

namespace Expansion

variable {original : Store} {locale : String} {settings : Settings}

/-- Following a reference gives the full text of what it means, and makes that done. It fails only if the
key is not sound. -/
theorem offline_follow {expand : String → Lookup Unit Unit} {inProgress : List String} {key : String}
    {value : Value} {library : Library Unit} {done reached : String → Prop} {reference : Reference}
    {rest : List Reference} (held : original.get? key locale = some value)
    (following : original.Following locale key value done reached (reference :: rest) library.store)
    (expands : ∀ target, original.Refers standard locale key target →
      (expand target).Meets library
        (fun _ left => original.Expanded locale
          (fun other => reached other ∨ ReflTransGen (original.Refers standard locale) target other) left.store)
        (fun _ _ => ¬ original.Sound standard locale target)) :
    ((offline settings locale).follow expand inProgress key reference).Meets library
      (fun text left => original.Means standard locale key reference text ∧
        ∃ reached, original.Following locale key value done reached rest left.store)
      (fun _ _ => ¬ original.Sound standard locale key) := by
  have member : reference ∈ value.references standard := following.left reference (by simp)
  refine Lookup.Meets.follow ?_ ?_
  · intro target found
    have means : original.resolve? standard locale key reference = some target :=
      (following.expanded.resolve?_eq reference).symm.trans found
    have refers : original.Refers standard locale key target := ⟨value, held, reference, member, means⟩
    refine (expands target refers).mono (fun _ left expanded => ?_) fun _ _ unsound sound =>
      unsound (sound.of_refers refers)
    have full := expanded.full target (.inr .refl)
    refine Lookup.Meets.inline ?_ ?_ ?_
    · intro text stored
      obtain ⟨before, original, isFull⟩ := exists_of_rel_right full stored
      obtain ⟨template, rfl, spells⟩ := isFull.exists_template
      exact ⟨⟨target, template, means, original, spells⟩, _, following.next expanded refers means⟩
    · intro other stored nonscalar sound
      -- The original message is not a single template either.
      obtain ⟨_, template, same, scalar⟩ := (sound key .refl).1 value held reference member
      obtain rfl := Option.some.inj (means.symm.trans same)
      obtain ⟨before, original, isFull⟩ := exists_of_rel_right full stored
      obtain rfl := Option.some.inj (scalar.symm.trans original)
      cases isFull
      cases nonscalar
    · intro absent
      -- The key is stored, so its full message is.
      obtain ⟨before, original⟩ := Option.isSome_iff_exists.1 (Store.has_of_resolve? means)
      obtain ⟨after, stored, _⟩ := exists_of_rel full original
      cases absent.symm.trans stored
  · intro missing
    -- The searcher brings nothing, so the key written in the reference is still not stored.
    refine Lookup.Meets.pure (Lookup.Meets.pure ?_)
    have absent : library.store.has reference.target locale = false := Store.has_target_of_resolve? missing
    rw [show (library.store.has reference.target (offline settings locale).locale) = false from absent]
    intro sound
    obtain ⟨_, _, same, _⟩ := (sound key .refl).1 value held reference member
    simp only [offline_grammar, offline_locale] at missing
    rw [← following.expanded.resolve?_eq reference, missing] at same
    cases same

section Checked

variable (checked : original.Checked standard locale)
include checked

/-- Expanding a key makes it done, with all that can be reached from it. It fails only if the key is not
sound. The keys in progress lead to the key, and are too few to exhaust the bound. -/
theorem offline_expandKey (fuel : Nat) {inProgress : List String} {key : String} {library : Library Unit}
    {done : String → Prop} (expanded : original.Expanded locale done library.store)
    (path : ∀ other ∈ inProgress, TransGen (original.Refers standard locale) other key)
    (distinct : inProgress.Nodup) (stored : ∀ other ∈ inProgress, original.has other locale = true)
    (room : original.size < fuel + inProgress.length) (there : original.has key locale = true) :
    ((offline settings locale).expandKey fuel inProgress key).Meets library
      (fun _ left => original.Expanded locale
        (fun other => done other ∨ ReflTransGen (original.Refers standard locale) key other) left.store)
      (fun _ _ => ¬ original.Sound standard locale key) := by
  -- The induction is on the bound, for all paths of keys in progress.
  induction fuel generalizing inProgress key library done with
  | zero =>
    -- More different keys would be in progress than are stored.
    have bound := Store.length_le_size distinct stored
    omega
  | succ fuel ih =>
    refine Lookup.Meets.expandKey ?_ ?_ ?_ ?_
    · -- A key in progress that is met again closes a cycle of references.
      exact fun cycle sound => (sound key .refl).2 (path key cycle)
    · intro _ absent
      have same : library.store.has key locale = true := (expanded.has_eq key).trans there
      rw [Store.has, show library.store.get? key locale = none from absent] at same
      cases same
    · intro value _ found plain
      exact expanded.of_plain found plain
    · intro value new found referring
      obtain ⟨-, held⟩ := Store.Expanded.of_referring checked expanded found referring
      have start : original.Following locale key value done done (value.references standard) library.store :=
        ⟨expanded, fun _ => id, fun _ => .inl, fun _ => id, fun reference member _ _ => .inl member⟩
      refine Lookup.Meets.mono (Lookup.Meets.expandValue (original.Means standard locale key)
        (fun rest left => ∃ reached, original.Following locale key value done reached rest left.store)
        ?_ ⟨done, start⟩) ?_ fun _ _ => id
      · intro reference rest left holding
        obtain ⟨reached, following⟩ := holding
        -- The path leads on to every key that this one refers to.
        refine offline_follow held following fun target refers => ih following.expanded ?_ ?_ ?_ ?_ ?_
        · have onward : ∀ other ∈ inProgress, TransGen (original.Refers standard locale) other target :=
            fun other before => (path other before).tail refers
          exact List.forall_mem_append.2 ⟨onward, List.forall_mem_singleton.2 (.single refers)⟩
        · exact List.concat_eq_append ▸ distinct.concat new
        · exact List.forall_mem_append.2 ⟨stored, List.forall_mem_singleton.2 there⟩
        · rw [List.length_append, List.length_singleton]
          omega
        · obtain ⟨_, _, _, _, means⟩ := refers
          exact Store.has_of_resolve? means
      · -- With all references followed the full message is stored.
        intro full left ends
        obtain ⟨isFull, reached, following⟩ := ends
        refine following.expanded.finish held isFull ?_ following.above following.below ?_
        · intro target refers
          obtain ⟨_, same, reference, member, means⟩ := refers
          obtain rfl := Option.some.inj (held.symm.trans same)
          simpa using following.targets reference member target means
        · exact fun other asked => left.store.get?_add key other full locale asked

/-- Expanding keys makes those that are stored done, with all that can be reached from them. It fails only
if one of them is not sound. -/
theorem offline_expandKeys (settings : Settings) (keys : List String) :
    ((offline settings locale).expandKeys keys).Meets ⟨original, ()⟩
      (fun _ left => original.Expanded locale
        (fun other => ∃ key ∈ keys, original.has key locale = true ∧
          ReflTransGen (original.Refers standard locale) key other) left.store)
      (fun _ _ => ∃ key ∈ keys, original.has key locale = true ∧ ¬ original.Sound standard locale key) := by
  refine Lookup.Meets.mono (Lookup.Meets.expandKeys
    (fun rest left => ∃ done, original.Listed locale keys done rest left.store) ?_ ?_ ?_) ?_ fun _ _ => id
  · intro key rest left holding there
    obtain ⟨done, listed⟩ := holding
    -- Nothing is in progress yet, so the bound leaves room for all stored keys.
    have stored : original.has key locale = true := (listed.expanded.has_eq key).symm.trans there
    refine Lookup.Meets.mono (offline_expandKey checked _ listed.expanded (by simp) (by simp) (by simp) ?_ stored)
      (fun _ after expanded => ?_) fun _ _ unsound => ?_
    · simp [depth, offline, Searcher.none]
    · exact ⟨_, listed.next expanded stored⟩
    · exact ⟨key, listed.left key (by simp), stored, unsound⟩
  · intro key rest left holding absent
    obtain ⟨done, listed⟩ := holding
    have missing : original.has key locale = false := (listed.expanded.has_eq key).symm.trans absent
    exact ⟨done, listed.skip missing⟩
  · refine ⟨_, original.expanded_start locale, ?_, fun _ => id, fun key member _ => .inl member⟩
    exact fun _ absurd => absurd.elim
  · intro _ left holding
    obtain ⟨done, listed⟩ := holding
    exact listed.finish

/-- A run that succeeds leaves a store in which the keys, and all that can be reached from them, are done. -/
theorem offline_expanded (settings : Settings) {keys : List String}
    (ok : (original.expandOffline settings locale keys).1 = .ok ()) :
    original.Expanded locale
      (fun other => ∃ key ∈ keys, original.has key locale = true ∧
        ReflTransGen (original.Refers standard locale) key other)
      (original.expandOffline settings locale keys).2.store := by
  have meets := offline_expandKeys checked settings keys
  exact meets.ok (Prod.ext ok rfl)

/-- A run succeeds exactly if all listed keys that are stored are sound. -/
theorem offline_ok_iff (settings : Settings) (keys : List String) :
    (original.expandOffline settings locale keys).1 = .ok () ↔
      ∀ key ∈ keys, original.has key locale = true → original.Sound standard locale key := by
  constructor
  · intro ok key member there
    -- The full message of the key is a witness.
    obtain ⟨value, stored⟩ := Option.isSome_iff_exists.1 there
    obtain ⟨_, _, isFull⟩ := (offline_expanded checked settings ok).exists_full ⟨key, member, there, .refl⟩ stored
    exact isFull.sound stored
  · intro sound
    cases result : (original.expandOffline settings locale keys).1 with
    | ok => rfl
    | error e =>
      have meets := offline_expandKeys checked settings keys
      obtain ⟨key, member, there, unsound⟩ := meets.error (Prod.ext result rfl)
      exact absurd (sound key member there) unsound

/-- Expansion without a search succeeds exactly if all listed keys that are stored are sound. Then each of
them holds its full message, and neither the success nor any message depends on the order or the
repetition of the keys. -/
theorem offline_expandKeys_correct (settings : Settings) (keys : List String) :
    ((original.expandOffline settings locale keys).1 = .ok () ↔
      ∀ key ∈ keys, original.has key locale = true → original.Sound standard locale key) ∧
    ((original.expandOffline settings locale keys).1 = .ok () →
      ∀ key ∈ keys, ∀ value, original.get? key locale = some value →
        ∃ full, (original.expandOffline settings locale keys).2.store.get? key locale = some full ∧
          original.Full standard locale key value full) ∧
    ∀ others, (∀ key, original.has key locale = true → (key ∈ others ↔ key ∈ keys)) →
      ((original.expandOffline settings locale others).1 = .ok () ↔
        (original.expandOffline settings locale keys).1 = .ok ()) ∧
      ((original.expandOffline settings locale keys).1 = .ok () → ∀ key asked,
        (original.expandOffline settings locale others).2.store.get? key asked =
          (original.expandOffline settings locale keys).2.store.get? key asked) := by
  refine ⟨offline_ok_iff checked settings keys, fun ok key member value stored => ?_, fun others same => ?_⟩
  · have there : original.has key locale = true := by simp [Store.has, stored]
    exact (offline_expanded checked settings ok).exists_full ⟨key, member, there, .refl⟩ stored
  · -- Both lists name the same stored keys, and those alone count.
    have success : (original.expandOffline settings locale others).1 = .ok () ↔
        (original.expandOffline settings locale keys).1 = .ok () := by
      rw [offline_ok_iff checked settings others, offline_ok_iff checked settings keys]
      exact ⟨fun sound key member there => sound key ((same key there).2 member) there,
        fun sound key member there => sound key ((same key there).1 member) there⟩
    refine ⟨success, fun ok key asked => ?_⟩
    have expanded := offline_expanded checked settings (success.2 ok)
    refine (expanded.congr fun other => ?_).get?_unique (offline_expanded checked settings ok) key asked
    constructor
    · intro reached
      obtain ⟨key, member, there, reaches⟩ := reached
      exact ⟨key, (same key there).1 member, there, reaches⟩
    · intro reached
      obtain ⟨key, member, there, reaches⟩ := reached
      exact ⟨key, (same key there).2 member, there, reaches⟩

end Checked

/-- A greeting that refers to a title beside it. -/
def welcome : Store :=
  (Store.empty.add "app.title" (.scalar "Lexis") "en").add "app.greeting"
    (.scalar "Welcome to %{.title}, %name!") "en"

/-- The templates of the greeting and the title pass the check. -/
theorem welcome_checked : welcome.Checked standard "en" :=
  ((Store.checked_empty standard "en").add (by decide +kernel)).add (by decide +kernel)

/-- The greeting is sound, as its expansion succeeds, and it is spelled out however often it is listed. -/
theorem offline_expandKeys_correct_welcome :
    welcome.Sound standard "en" "app.greeting" ∧
      (welcome.expandOffline {} "en" ["app.greeting", "app.title", "app.greeting"]).2.store.get?
        "app.greeting" "en" = some (.scalar "Welcome to Lexis, %name!") := by
  obtain ⟨success, -, orderFree⟩ := offline_expandKeys_correct welcome_checked {} ["app.greeting", "app.title"]
  -- A key that is listed twice is no other key.
  have same (key : String) (_ : welcome.has key "en" = true) :
      key ∈ ["app.greeting", "app.title", "app.greeting"] ↔ key ∈ ["app.greeting", "app.title"] := by
    simp
    tauto
  have ok : (welcome.expandOffline {} "en" ["app.greeting", "app.title"]).1 = .ok () := by
    decide +kernel
  have text : (welcome.expandOffline {} "en" ["app.greeting", "app.title"]).2.store.get? "app.greeting" "en" =
      some (.scalar "Welcome to Lexis, %name!") := by
    decide +kernel
  have there : welcome.has "app.greeting" "en" = true := by decide +kernel
  exact ⟨success.1 ok "app.greeting" (by simp) there, ((orderFree _ same).2 ok _ _).trans text⟩

end Expansion

end Phrasebook
