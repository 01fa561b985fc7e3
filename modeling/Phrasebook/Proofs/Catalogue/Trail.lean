import Mathlib.Data.List.Nodup
import Mathlib.Logic.Relation
import Phrasebook.Proofs.Catalogue.References

/-! The trail behind a cyclic reference that is reported: the keys in progress, each with the reference
that was followed when the error came up. -/

namespace Phrasebook

open Relation

/-- A searcher may report a cyclic reference itself, instead of leaving that to the expansion. -/
inductive Searcher.Blames {σ : Type} (searcher : Searcher σ) (settings : Settings) (chain : List String) : Prop where
  | search {key locale : String} {library left : Library σ}
    (fails : (searcher.search key locale settings).outcome library = (.error (.cyclicReference chain), left))
  | loadEverything {locale : Option String} {library left : Library σ}
    (fails : (searcher.loadEverything locale settings).outcome library = (.error (.cyclicReference chain), left))

/-- A key in progress with its message, the reference in it that is followed, the messages stored when that
is done, and the key that is expanded then. -/
structure Hop where
  key : String
  value : Value
  reference : Reference
  store : Store
  next : String

namespace Hop

/-- The key expanded next is the one that the reference means: the first one stored of those it may mean, or
the one it is written with if a search has to bring it. -/
def Refers (hop : Hop) (grammar : Grammar) (locale : String) : Prop :=
  hop.store.resolve? grammar locale hop.key hop.reference = some hop.next ∨
    hop.store.resolve? grammar locale hop.key hop.reference = none ∧ hop.next = hop.reference.target

/-- The key expanded next is another one that the search for the reference brought besides. -/
def Accompanies (hop : Hop) (grammar : Grammar) (locale : String) : Prop :=
  hop.store.resolve? grammar locale hop.key hop.reference = none ∧ hop.next ≠ hop.reference.target

/-- The key with which hops to a last key start. -/
def first (last : String) : List Hop → String
  | [] => last
  | hop :: _ => hop.key

/-- Every hop leads to the key of the one behind it, and the last one to the last key. -/
def Joined (last : String) : List Hop → Prop
  | [] => True
  | hop :: rest => hop.next = first last rest ∧ Joined last rest

/-- A key refers to another one on a trail. -/
def Leads (grammar : Grammar) (locale : String) (hops : List Hop) (key next : String) : Prop :=
  ∃ hop ∈ hops, hop.key = key ∧ hop.next = next ∧ hop.Refers grammar locale

section Cycles

variable {grammar : Grammar} {locale last : String} {hops part : List Hop}

/-- If all hops of a part of a trail follow references, its first key leads to its last one. -/
theorem reaches_of_refers (inside : ∀ hop ∈ part, hop ∈ hops) (joined : Joined last part)
    (refers : ∀ hop ∈ part, hop.Refers grammar locale) :
    ReflTransGen (Leads grammar locale hops) (first last part) last := by
  -- Every hop is a step, and the next one starts where it leads to.
  induction part with
  | nil => exact .refl
  | cons hop rest ih =>
    have step : Leads grammar locale hops hop.key hop.next :=
      ⟨hop, inside hop (by simp), rfl, rfl, refers hop (by simp)⟩
    have onward := ih (fun other member => inside other (by simp [member])) joined.2 fun other member =>
      refers other (by simp [member])
    exact .head (joined.1 ▸ step) onward

/-- On a trail of different keys only one hop starts at each of them. So from a key on a cycle of references
all hops up to the last key follow references, and the last key is on the cycle too. -/
theorem refers_of_cycle (distinct : (hops.map Hop.key).Nodup) (inside : ∀ hop ∈ part, hop ∈ hops)
    (joined : Joined last part)
    (cycle : TransGen (Leads grammar locale hops) (first last part) (first last part)) :
    (∀ hop ∈ part, hop.Refers grammar locale) ∧ TransGen (Leads grammar locale hops) last last := by
  induction part with
  | nil => exact ⟨by simp, cycle⟩
  | cons hop rest ih =>
    -- The cycle leaves the key by a hop that starts there, which can only be this one.
    obtain ⟨next, ⟨other, member, same, leads, refers⟩, back⟩ := TransGen.head'_iff.1 cycle
    obtain rfl : other = hop := List.inj_on_of_nodup_map distinct member (inside hop (by simp)) same
    have onCycle : TransGen (Leads grammar locale hops) (first last rest) (first last rest) := by
      rw [← joined.1, leads]
      exact TransGen.tail' back ⟨other, member, same, leads, refers⟩
    obtain ⟨others, closes⟩ := ih (fun later found => inside later (by simp [found])) joined.2 onCycle
    exact ⟨by simpa using ⟨refers, others⟩, closes⟩

/-- The references followed on a trail of different keys that comes back to one of them form a cycle exactly
if all hops from that key on follow references. -/
theorem exists_cycle_iff {lead : List Hop} {hop : Hop} (distinct : ((lead ++ hop :: part).map Hop.key).Nodup)
    (joined : Joined hop.key (lead ++ hop :: part)) :
    (∃ key, TransGen (Leads grammar locale (lead ++ hop :: part)) key key) ↔
      ∀ other ∈ hop :: part, other.Refers grammar locale := by
  have suffix {back : List Hop} {front : List Hop} (joined : Joined hop.key (front ++ back)) :
      Joined hop.key back := by
    induction front with
    | nil => exact joined
    | cons _ _ ih => exact ih joined.2
  constructor
  · intro closes
    obtain ⟨key, cycle⟩ := closes
    -- The cycle passes through the key that the trail comes back to.
    obtain ⟨next, ⟨start, member, rfl, _⟩, _⟩ := TransGen.head'_iff.1 cycle
    obtain ⟨front, back, split⟩ := List.append_of_mem member
    have inside : ∀ other ∈ start :: back, other ∈ lead ++ hop :: part := by
      rw [split]
      exact fun other => List.mem_append_right front
    have closes : TransGen (Leads grammar locale (lead ++ hop :: part)) hop.key hop.key :=
      (refers_of_cycle distinct inside (suffix (split ▸ joined)) cycle).2
    exact (refers_of_cycle distinct (fun other => List.mem_append_right lead) (suffix joined) closes).1
  · intro refers
    -- From the key all hops lead on, and the last one comes back to it.
    have inside : ∀ other ∈ part, other ∈ lead ++ hop :: part := fun other member => by simp [member]
    have onward := reaches_of_refers inside (suffix joined).2 fun other member => refers other (by simp [member])
    have step : Leads grammar locale (lead ++ hop :: part) hop.key hop.next :=
      ⟨hop, by simp, rfl, rfl, refers hop (by simp)⟩
    exact ⟨hop.key, TransGen.head' ((suffix joined).1 ▸ step) onward⟩

end Cycles

end Hop

namespace Expansion

variable {σ : Type} (expansion : Expansion σ)

/-- From following a reference the expansion goes on with a key: with the one that the reference means, or,
if none of those is stored, with one that a search brings, after those brought before it. -/
inductive Onward (expand : String → Lookup σ Unit) (path : List String) (key : String) (reference : Reference) :
    Library σ → String → Library σ → Prop where
  | stored {here : Library σ} {next : String}
    (resolved : here.store.resolve? expansion.grammar expansion.locale key reference = some next) :
    Onward expand path key reference here next here
  | loaded {here there later : Library σ} {loaded before after : List String} {next : String}
    (missing : here.store.resolve? expansion.grammar expansion.locale key reference = none)
    (brings : (expansion.searcher.search reference.target expansion.locale expansion.settings).outcome here =
      (.ok loaded, there))
    (split : loaded = before ++ next :: after)
    (passes : Lookup.Passes (fun other => if other ∈ path then pure () else expand other) before there later)
    (free : next ∉ path) :
    Onward expand path key reference here next later

/-- The trail from a key that is expanded to one that is in progress already: in each message on it the
references before the one followed have been replaced. -/
inductive Trail : Nat → List String → String → Library σ → List Hop → String → Prop where
  | again {fuel : Nat} {path : List String} {key : String} {library : Library σ} (busy : key ∈ path) :
    Trail (fuel + 1) path key library [] key
  | hop {fuel : Nat} {path : List String} {key next last : String} {library here later : Library σ} {value : Value}
    {before after : List Reference} {reference : Reference} {hops : List Hop} (free : key ∉ path)
    (stored : library.store.get? key expansion.locale = some value)
    (split : value.references expansion.grammar = before ++ reference :: after)
    (passes : Lookup.Passes
      (expansion.follow (expansion.expandKey fuel (path ++ [key])) (path ++ [key]) key) before library here)
    (onward : expansion.Onward (expansion.expandKey fuel (path ++ [key])) (path ++ [key]) key reference
      here next later)
    (rest : Trail fuel (path ++ [key]) next later hops last) :
    Trail (fuel + 1) path key library (⟨key, value, reference, here.store, next⟩ :: hops) last

variable {expansion} {path : List String} {key last : String} {library left : Library σ} {chain : List String}

/-- If following a reference fails with a cycle, it does so at the key with which the expansion goes on. -/
theorem exists_onward {expand : String → Lookup σ Unit} {reference : Reference}
    (blameless : ¬ expansion.searcher.Blames expansion.settings chain)
    (fails : (expansion.follow expand path key reference).outcome library = (.error (.cyclicReference chain), left)) :
    ∃ next later, expansion.Onward expand path key reference library next later ∧
      (expand next).outcome later = (.error (.cyclicReference chain), left) := by
  -- Putting in a message may fail, but not with a cycle.
  have noInline (target : String) (here : Library σ) : (expansion.inline key target).Meets here (fun _ _ => True)
      (fun e _ => e ≠ .cyclicReference chain) :=
    Lookup.Meets.inline (fun _ _ => trivial) (fun _ _ _ => by simp) fun _ => by simp
  have meets : (expansion.follow expand path key reference).Meets library (fun _ _ => True)
      (fun e left => e = .cyclicReference chain → ∃ next later,
        expansion.Onward expand path key reference library next later ∧
          (expand next).outcome later = (.error e, left)) := by
    refine Lookup.Meets.follow (fun candidate resolved => ?_) fun missing => ?_
    · refine (Lookup.Meets.self _ _).mono (fun _ left _ => ?_) fun e left ends _ => ?_
      · exact (noInline candidate left).mono (fun _ _ => id) fun e _ different same => absurd same different
      · exact ⟨candidate, library, .stored resolved, ends⟩
    · -- One of the keys that were brought fails, as the search does not.
      refine (Lookup.Meets.self _ _).mono (fun loaded there brings => ?_) fun e left ends same => ?_
      · refine (Lookup.Meets.forM_passes _ loaded there).mono (fun _ after _ => ?_) fun e left stops same => ?_
        · split
          · exact (noInline _ after).mono (fun _ _ => id) fun e _ different same => absurd same different
          · simp
        · obtain ⟨before, next, after, later, split, passes, ends⟩ := stops
          -- A key in progress is skipped, which does not fail.
          by_cases busy : next ∈ path
          · simp [if_pos busy] at ends
          · simp only [if_neg busy] at ends
            exact ⟨next, later, .loaded missing brings split passes busy, ends⟩
      · exact absurd (.search (same ▸ ends)) blameless
  exact meets.error fails rfl

/-- Behind every cyclic reference that expanding a key reports there is a trail: its keys, behind those in
progress, are the chain that is reported. -/
theorem exists_trail (blameless : ¬ expansion.searcher.Blames expansion.settings chain) (fuel : Nat)
    (fails : (expansion.expandKey fuel path key).outcome library = (.error (.cyclicReference chain), left)) :
    ∃ hops last, expansion.Trail fuel path key library hops last ∧ chain = path ++ hops.map Hop.key ++ [last] := by
  -- Each key in progress adds a hop in front of the trail from the key with which it goes on.
  induction fuel generalizing path key library left with
  | zero => simp [expandKey] at fails
  | succ fuel ih =>
    have meets : (expansion.expandKey (fuel + 1) path key).Meets library (fun _ _ => True)
        (fun e left => e = .cyclicReference chain → ∃ hops last,
          expansion.Trail (fuel + 1) path key library hops last ∧ chain = path ++ hops.map Hop.key ++ [last]) := by
      refine Lookup.Meets.expandKey (fun busy same => ?_) (fun _ _ => by simp) (fun _ _ _ _ => trivial) ?_
      · exact ⟨[], key, .again busy, by simpa using same.symm⟩
      · intro value free stored _
        refine Lookup.Meets.mono (Lookup.Meets.expandValue (fun _ _ => True)
          (fun rest left => ∃ before, value.references expansion.grammar = before ++ rest ∧
            Lookup.Passes (expansion.follow (expansion.expandKey fuel (path ++ [key])) (path ++ [key]) key)
              before library left)
          (fun reference rest left soFar => (Lookup.Meets.passes soFar).mono (fun _ _ => .intro trivial) fun _ _ => id)
          ⟨[], rfl, .nil⟩) (fun _ _ _ => trivial) fun e left stops same => ?_
        obtain ⟨before, reference, after, here, split, passes, ends⟩ := stops
        obtain ⟨next, later, onward, ends⟩ := exists_onward blameless (same ▸ ends)
        obtain ⟨hops, last, trail, rfl⟩ := ih ends
        exact ⟨_, last, .hop free stored split passes onward trail, by simp⟩
    exact meets.error fails rfl

namespace Trail

variable {fuel : Nat} {hops : List Hop}

/-- A trail starts at the key that is expanded. -/
theorem first_eq (trail : expansion.Trail fuel path key library hops last) : Hop.first last hops = key := by
  cases trail <;> rfl

/-- The hops of a trail are joined. -/
theorem joined (trail : expansion.Trail fuel path key library hops last) : Hop.Joined last hops := by
  -- Hop by hop: the target of one is the key of the next.
  induction trail with
  | again _ => trivial
  | hop _ _ _ _ _ rest ih => exact ⟨rest.first_eq.symm, ih⟩

/-- A trail ends at a key that is in progress by then. -/
theorem last_mem (trail : expansion.Trail fuel path key library hops last) :
    last ∈ path ++ hops.map Hop.key := by
  -- Every hop puts its key on the path.
  induction trail with
  | again busy => simpa using busy
  | hop _ _ _ _ _ _ ih => simpa using ih

/-- The keys of a trail are different from each other, and from those in progress before. -/
theorem distinct (trail : expansion.Trail fuel path key library hops last) (distinct : path.Nodup) :
    (path ++ hops.map Hop.key).Nodup := by
  -- A key in progress is not expanded again.
  induction trail with
  | again _ => simpa using distinct
  | @hop _ path key _ _ _ _ _ _ _ _ _ _ free _ _ _ _ _ ih =>
    have longer : (path ++ [key]).Nodup := List.concat_eq_append ▸ distinct.concat free
    simpa using ih longer

/-- Every hop of a trail either follows its reference, or goes on with a key that a search brought besides;
the reference stands in the message of its key. -/
theorem refers_iff (trail : expansion.Trail fuel path key library hops last) :
    ∀ hop ∈ hops, hop.reference ∈ hop.value.references expansion.grammar ∧
      (hop.Refers expansion.grammar expansion.locale ↔ ¬ hop.Accompanies expansion.grammar expansion.locale) := by
  induction trail with
  | again _ => simp
  | hop _ _ split _ onward _ ih =>
    refine List.forall_mem_cons.2 ⟨⟨by simp [split], ?_⟩, ih⟩
    unfold Hop.Refers Hop.Accompanies
    -- Of a search the key that it was for counts as the one referred to, and any other one does not.
    cases onward with
    | stored resolved => simp [resolved]
    | loaded missing => simp [missing]

end Trail

end Expansion

end Phrasebook
