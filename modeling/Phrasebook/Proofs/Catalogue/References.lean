import Phrasebook.Proofs.Catalogue.Rewriting
import Phrasebook.Proofs.Template.Splice

/-! The references between stored messages, and rules for the steps that replace them. -/

namespace Phrasebook

namespace Grammar

variable {grammar : Grammar}

/-- What may stand in the stead of a token: a text that its reference means, or what is written. -/
def Piece (grammar : Grammar) (means : Reference → String → Prop) (token : Token) (piece : String) : Prop :=
  match grammar.tokenReference? token with
  | some reference => means reference piece
  | none => piece = String.ofList token.source

/-- A template with every reference replaced by a text that it means, and all else kept as written. -/
def Replaced (grammar : Grammar) (means : Reference → String → Prop) (template result : String) : Prop :=
  ∃ pieces, List.Forall₂ (grammar.Piece means) (grammar.tokenize template.toList) pieces ∧
    result = String.join pieces

/-- What is written for the tokens of a template, one after the other, is the template. -/
theorem join_sources (grammar : Grammar) (template : String) :
    String.join ((grammar.tokenize template.toList).map fun token => String.ofList token.source) = template := by
  rw [← String.toList_inj, String.toList_join, List.flatMap_map]
  simpa using grammar.tokenize_sources template.toList

/-- A template without references stays as it is. -/
theorem replaced_self {means : Reference → String → Prop} {template : String}
    (settled : grammar.references template = []) : grammar.Replaced means template template := by
  -- Without references every token stays, and the sources of all tokens are the template.
  refine ⟨_, ?_, (grammar.join_sources template).symm⟩
  rw [List.forall₂_map_right_iff, List.forall₂_same]
  intro token member
  simp [Piece, List.filterMap_eq_nil_iff.1 settled token member]

/-- A template without references is replaced by nothing but itself. -/
theorem Replaced.eq_self {means : Reference → String → Prop} {template result : String}
    (replaced : grammar.Replaced means template result) (settled : grammar.references template = []) :
    result = template := by
  obtain ⟨pieces, fits, rfl⟩ := replaced
  -- Every piece is what is written for its token.
  have written : (grammar.tokenize template.toList).map (fun token => String.ofList token.source) = pieces := by
    rw [← List.forall₂_eq_eq_eq, List.forall₂_map_left_iff]
    refine ((List.forall₂_and_left _ _).2 ⟨List.filterMap_eq_nil_iff.1 settled, fits⟩).imp fun token piece both => ?_
    have here := both.2
    rw [Piece, both.1] at here
    exact here.symm
  rw [← written, join_sources]

/-- Every reference of a template has been replaced by some text. -/
theorem Replaced.exists_text {means : Reference → String → Prop} {template result : String}
    (replaced : grammar.Replaced means template result) :
    ∀ reference ∈ grammar.references template, ∃ text, means reference text := by
  -- The piece in the place of the token is one.
  obtain ⟨pieces, fits, -⟩ := replaced
  intro reference member
  obtain ⟨token, inside, found⟩ := List.mem_filterMap.1 member
  obtain ⟨piece, _, fits⟩ := exists_of_forall₂ fits.flip inside
  change grammar.Piece means token piece at fits
  rw [Piece, found] at fits
  exact ⟨piece, fits⟩

/-- References may be said to mean other texts if they mean those they are replaced by. -/
theorem Replaced.mono {means other : Reference → String → Prop} {template result : String}
    (replaced : grammar.Replaced means template result)
    (imp : ∀ reference ∈ grammar.references template, ∀ text, means reference text → other reference text) :
    grammar.Replaced other template result := by
  obtain ⟨pieces, fits, whole⟩ := replaced
  refine ⟨pieces, ?_, whole⟩
  clear whole
  rw [references] at imp
  generalize grammar.tokenize template.toList = tokens at fits imp
  -- The induction goes along the tokens and their pieces.
  induction fits with
  | nil => exact .nil
  | @cons token piece others _ here _ ih =>
    have behind := ((List.sublist_cons_self token others).filterMap grammar.tokenReference?).subset
    refine .cons ?_ (ih fun reference member => imp reference (behind member))
    unfold Piece at here ⊢
    cases found : grammar.tokenReference? token with
    | none => simpa only [found] using here
    | some reference =>
      simp only [found] at here ⊢
      exact imp reference (by simp [found]) piece here

/-- A template that passes the check is settled once its references are replaced by settled texts. -/
theorem Replaced.settled {means : Reference → String → Prop} {template result : String}
    (replaced : standard.Replaced means template result) (checked : standard.check template = .ok ())
    (texts : ∀ reference text, means reference text → standard.Settled text.toList) :
    standard.Settled result.toList := by
  -- Every piece is settled, and so are all of them together.
  obtain ⟨pieces, fits, rfl⟩ := replaced
  rw [String.toList_join, List.flatMap_def]
  refine settled_flatten fun piece member => ?_
  obtain ⟨text, inside, rfl⟩ := List.mem_map.1 member
  obtain ⟨token, found, fits⟩ := exists_of_forall₂ fits inside
  unfold Piece at fits
  split at fits
  · exact texts _ _ fits
  · next plain =>
    subst fits
    simpa using settled_source_of_check checked found plain

/-- The key written in a reference is one of those it may mean. -/
theorem target_mem_candidates (key : String) (reference : Reference) :
    reference.target ∈ grammar.candidates key reference := by
  cases reference with
  | absolute target => simp [candidates, Reference.target]
  | relative target =>
    -- It is what the root namespace gives, which is tried last.
    have root : 0 < (Key.segments key grammar.spaceText).length := by
      simp only [Key.segments, List.length_map, Text.splitOn]
      split
      · rw [Text.cutAt]
        split <;> simp
      · simp
    simp only [candidates, Reference.target, List.mem_map, List.mem_reverse, List.mem_range]
    exact ⟨0, root, by simp [Key.ofSegments, Key.join]⟩

end Grammar

namespace Value

/-- The references in the templates of a message, in their order. -/
def references (grammar : Grammar) (value : Value) : List Reference :=
  value.templates.flatMap grammar.references

/-- Whether all templates of a message pass the check. -/
def Checked (grammar : Grammar) (value : Value) : Prop :=
  ∀ template ∈ value.templates, grammar.check template = .ok ()

instance (grammar : Grammar) (value : Value) : Decidable (value.Checked grammar) :=
  inferInstanceAs (Decidable (∀ template ∈ value.templates, grammar.check template = .ok ()))

/-- Whether all templates of a message pass the check and hold no reference. -/
def Settled (grammar : Grammar) (value : Value) : Prop :=
  ∀ template ∈ value.templates, grammar.Settled template.toList

variable {grammar : Grammar} {value : Value}

/-- A message holds a reference if one of its templates does. -/
theorem any_hasReference (grammar : Grammar) (value : Value) :
    value.templates.any grammar.hasReference = !(value.references grammar).isEmpty := by
  -- The first template with a reference decides both.
  simp only [references]
  induction value.templates with
  | nil => rfl
  | cons template rest ih =>
    cases found : grammar.references template <;> simp [ih, Grammar.hasReference_eq, found]

/-- The settled messages are those that pass the check and hold no reference. -/
theorem settled_iff : value.Settled grammar ↔ value.Checked grammar ∧ value.references grammar = [] := by
  simp only [Settled, Checked, references, List.flatMap_eq_nil_iff, Grammar.settled_iff, imp_and, forall_and]

/-- A message that passes the check is settled once its references are replaced by settled texts. -/
theorem Rewritten.settled {means : Reference → String → Prop} {result : Value}
    (rewritten : value.Rewritten (Grammar.standard.Replaced means) result) (checked : value.Checked .standard)
    (texts : ∀ reference text, means reference text → Grammar.standard.Settled text.toList) :
    result.Settled .standard := by
  -- Every template of the result comes from one of the message.
  intro text member
  obtain ⟨template, inside, replaced⟩ := exists_of_forall₂ rewritten.forall₂_templates member
  exact replaced.settled (checked template inside) texts

end Value

namespace Store

variable {store : Store} {grammar : Grammar} {locale key target : String} {reference : Reference}

/-- Whether all messages of a locale pass the check. -/
def Checked (store : Store) (grammar : Grammar) (locale : String) : Prop :=
  ∀ key value, store.get? key locale = some value → value.Checked grammar

/-- The store without messages passes the check. -/
theorem checked_empty (grammar : Grammar) (locale : String) : empty.Checked grammar locale := by
  intro key value absurd
  cases absurd

/-- A store passes the check when a message that does is put in. -/
theorem Checked.add {value : Value} (checked : store.Checked grammar locale) (passes : value.Checked grammar) :
    (store.add key value locale).Checked grammar locale := by
  -- A message of the new store is the one put in, or was there before.
  intro other held stored
  rw [get?_add] at stored
  split at stored
  · exact Option.some.inj stored ▸ passes
  · exact checked other held stored

/-- The first stored key among those that a reference found under a key may mean. -/
def resolve? (store : Store) (grammar : Grammar) (locale key : String) (reference : Reference) :
    Option String :=
  (grammar.candidates key reference).find? (store.has · locale)

/-- A key refers to another one: a reference in its message means that one. -/
def Refers (store : Store) (grammar : Grammar) (locale key target : String) : Prop :=
  ∃ value, store.get? key locale = some value ∧
    ∃ reference ∈ value.references grammar, store.resolve? grammar locale key reference = some target

/-- A key that a reference means is stored. -/
theorem has_of_resolve? (found : store.resolve? grammar locale key reference = some target) :
    store.has target locale = true := by
  -- Being stored is what the search looks for.
  simpa using List.find?_some found

/-- A reference without a meaning is written with a key that is not stored. -/
theorem has_target_of_resolve? (missing : store.resolve? grammar locale key reference = none) :
    store.has reference.target locale = false := by
  -- The key is one of those it may mean, and none of them is stored.
  have absent := List.find?_eq_none.1 missing _ (grammar.target_mem_candidates key reference)
  simpa using absent

/-- What references mean depends only on which keys are stored. -/
theorem resolve?_congr {other : Store} (same : ∀ key, other.has key locale = store.has key locale) :
    other.resolve? grammar locale key reference = store.resolve? grammar locale key reference := by
  simp only [resolve?, same]

end Store

namespace Lookup.Meets

variable {σ : Type} {library : Library σ} {expansion : Expansion σ} {fails : Error → Library σ → Prop}

section Templates

variable {follow : Reference → Lookup σ String} (means : Reference → String → Prop)
  (holds : List Reference → Library σ → Prop)

/-- Following the references of a template, with an invariant that depends on the references left. -/
theorem expandTemplate {template : String} {rest : List Reference}
    (next : ∀ reference rest left, holds (reference :: rest) left →
      Meets (follow reference) left (fun text after => means reference text ∧ holds rest after) fails)
    (start : holds (expansion.grammar.references template ++ rest) library) :
    Meets (expansion.expandTemplate follow template) library
      (fun result left => expansion.grammar.Replaced means template result ∧ holds rest left) fails := by
  rw [Grammar.references, List.filterMap_eq_flatMap_toList] at start
  -- A token is a single reference or none.
  have each (token : Token) (more : List Reference) (left : Library σ)
      (holding : holds ((expansion.grammar.tokenReference? token).toList ++ more) left) :
      Meets (match expansion.grammar.tokenReference? token with
          | some reference => follow reference
          | none => return String.ofList token.source) left
        (fun piece after => expansion.grammar.Piece means token piece ∧ holds more after) fails := by
    unfold Grammar.Piece
    cases found : expansion.grammar.tokenReference? token with
    | some reference => exact next reference more left (by simpa [found] using holding)
    | none => exact pure ⟨rfl, by simpa [found] using holding⟩
  refine bind (mono (mapM each start) ?_ fun _ _ => id)
  exact fun pieces left both => pure ⟨⟨pieces, both.1, rfl⟩, both.2⟩

/-- Following the references of a message. -/
theorem expandValue {value : Value}
    (next : ∀ reference rest left, holds (reference :: rest) left →
      Meets (follow reference) left (fun text after => means reference text ∧ holds rest after) fails)
    (start : holds (value.references expansion.grammar) library) :
    Meets (value.mapTemplatesM (expansion.expandTemplate follow)) library
      (fun result left => value.Rewritten (expansion.grammar.Replaced means) result ∧ holds [] left)
      fails := by
  refine mapTemplates (fun template rest left holding => expandTemplate means holds next holding) ?_
  simpa [Value.references] using start

end Templates

/-- Putting in a message: it has to be stored and to be a single template. -/
theorem inline {key target : String} {answers : String → Library σ → Prop}
    (scalar : ∀ template, library.store.get? target expansion.locale = some (.scalar template) →
      answers template library)
    (other : ∀ value, library.store.get? target expansion.locale = some value → value.scalar? = none →
      fails (.invalidReference target key (some value.kind)) library)
    (absent : library.store.get? target expansion.locale = none →
      fails (.notStored target expansion.locale) library) :
    Meets (expansion.inline key target) library answers fails := by
  -- What is stored is one template, or something that cannot be put in.
  refine bind (stored (fun value found => ?_) absent)
  cases value with
  | scalar template => exact pure (scalar template found)
  | plural forms => exact throw (other _ found rfl)
  | variants members => exact throw (other _ found rfl)

/-- Following a reference: the key that it means is expanded and put in, or else the one that the search
for it brings. -/
theorem follow {expand : String → Lookup σ Unit} {inProgress : List String} {key : String}
    {reference : Reference} {answers : String → Library σ → Prop}
    (found : ∀ candidate,
      library.store.resolve? expansion.grammar expansion.locale key reference = some candidate →
      Meets (expand candidate) library
        (fun _ left => Meets (expansion.inline key candidate) left answers fails) fails)
    (missing : library.store.resolve? expansion.grammar expansion.locale key reference = none →
      Meets (expansion.searcher.search reference.target expansion.locale expansion.settings) library
        (fun loaded left =>
          Meets (loaded.forM fun other => if other ∈ inProgress then Pure.pure () else expand other) left
            (fun _ after =>
              if after.store.has reference.target expansion.locale then
                Meets (expansion.inline key reference.target) after answers fails
              else fails (.invalidReference reference.target key none) after) fails) fails) :
    Meets (expansion.follow expand inProgress key reference) library answers fails := by
  refine bind (store ?_)
  simp only [Store.resolve?] at found missing
  -- The search is asked only if none of the keys is stored.
  cases resolved : (expansion.grammar.candidates key reference).find? (library.store.has · expansion.locale) with
  | some candidate => exact bind (found candidate resolved)
  | none =>
    refine bind (mono (missing resolved) (fun loaded left goesOn => ?_) fun _ _ => id)
    refine bind (mono goesOn (fun _ after ends => ?_) fun _ _ => id)
    refine bind (has ?_)
    split at ends
    · next there => rw [there]; exact ends
    · next absent => rw [Bool.not_eq_true] at absent; rw [absent]; exact throw ends

/-- Expanding a key: it must not be in progress and has to be stored; a message without references is
left alone, and in any other one they are followed before it is stored again. -/
theorem expandKey {fuel : Nat} {inProgress : List String} {key : String} {answers : Unit → Library σ → Prop}
    (cyclic : key ∈ inProgress → fails (.cyclicReference (inProgress ++ [key])) library)
    (absent : key ∉ inProgress → library.store.get? key expansion.locale = none →
      fails (.notStored key expansion.locale) library)
    (plain : ∀ value, key ∉ inProgress → library.store.get? key expansion.locale = some value →
      value.references expansion.grammar = [] → answers () library)
    (started : ∀ value, key ∉ inProgress → library.store.get? key expansion.locale = some value →
      value.references expansion.grammar ≠ [] →
      Meets (value.mapTemplatesM (expansion.expandTemplate
          (expansion.follow (expansion.expandKey fuel (inProgress ++ [key])) (inProgress ++ [key]) key)))
        library
        (fun full left =>
          answers () { left with store := left.store.add key full expansion.locale }) fails) :
    Meets (expansion.expandKey (fuel + 1) inProgress key) library answers fails := by
  rw [Expansion.expandKey]
  -- The step checks for a cycle before anything else, also when the key is not stored.
  by_cases cycle : key ∈ inProgress
  · simp only [if_pos cycle]
    exact bind (throw (cyclic cycle))
  · simp only [if_neg cycle]
    refine bind (stored (fun value found => ?_) (absent cycle))
    simp only [Value.any_hasReference]
    split
    · next some =>
      have referring : value.references expansion.grammar ≠ [] := by simpa using some
      exact bind (mono (started value cycle found referring) (fun full left ends => add ends) fun _ _ => id)
    · next none => exact pure (plain value cycle found (by simpa using none))

/-- Expanding keys one after the other, with an invariant that depends on the keys that are left. -/
theorem expandKeys {keys : List String} (holds : List String → Library σ → Prop)
    (next : ∀ key rest left, holds (key :: rest) left → left.store.has key expansion.locale = true →
      Meets (expansion.expandKey (expansion.depth library) [] key) left (fun _ => holds rest) fails)
    (skip : ∀ key rest left, holds (key :: rest) left → left.store.has key expansion.locale = false →
      holds rest left)
    (start : holds keys library) : Meets (expansion.expandKeys keys) library (fun _ => holds []) fails := by
  -- The bound is read off the library at the start, and is the same for all keys.
  refine bind (get (forM holds (fun key rest left holding => bind (has ?_)) start))
  cases there : left.store.has key expansion.locale with
  | true => exact next key rest left holding there
  | false => exact pure (skip key rest left holding there)

end Lookup.Meets

end Phrasebook
