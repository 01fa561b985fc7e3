import Mathlib.Logic.Relation
import Phrasebook.Proofs.Catalogue.References
import Phrasebook.Proofs.Template.Splice

/-! The full text of stored messages: every reference is replaced by the full text of the message it
means. Messages that have one are those from which only references to single templates, and no cycle of
them, can be reached. -/

namespace Phrasebook.Store

open Relation

/-- The text that tokens found under a key stand for in full, with references replaced by the full text of
the templates they mean. -/
inductive Spells (store : Store) (grammar : Grammar) (locale : String) :
    String → List Token → List Char → Prop where
  | nil {key : String} : Spells store grammar locale key [] []
  | kept {key : String} {token : Token} {rest : List Token} {text : List Char}
    (plain : grammar.tokenReference? token = none) (others : Spells store grammar locale key rest text) :
    Spells store grammar locale key (token :: rest) (token.source ++ text)
  | followed {key target template : String} {token : Token} {rest : List Token} {reference : Reference}
    {inner text : List Char} (isReference : grammar.tokenReference? token = some reference)
    (means : store.resolve? grammar locale key reference = some target)
    (scalar : store.get? target locale = some (.scalar template))
    (inside : Spells store grammar locale target (grammar.tokenize template.toList) inner)
    (others : Spells store grammar locale key rest text) :
    Spells store grammar locale key (token :: rest) (inner ++ text)

/-- A reference found under a key means the full text of the single template it refers to. -/
def Means (store : Store) (grammar : Grammar) (locale key : String) (reference : Reference) (text : String) :
    Prop :=
  ∃ target template, store.resolve? grammar locale key reference = some target ∧
    store.get? target locale = some (.scalar template) ∧
    store.Spells grammar locale target (grammar.tokenize template.toList) text.toList

/-- A message with every reference in its templates replaced by what it means. -/
def Full (store : Store) (grammar : Grammar) (locale key : String) (value full : Value) : Prop :=
  value.Rewritten (grammar.Replaced (store.Means grammar locale key)) full

/-- Every reference in the message of a key means a stored message that is a single template. -/
def Resolves (store : Store) (grammar : Grammar) (locale key : String) : Prop :=
  ∀ value, store.get? key locale = some value → ∀ reference ∈ value.references grammar,
    ∃ target template, store.resolve? grammar locale key reference = some target ∧
      store.get? target locale = some (.scalar template)

/-- From a key only references that mean single templates, and no cycle of references, can be reached. -/
def Sound (store : Store) (grammar : Grammar) (locale key : String) : Prop :=
  ∀ other, ReflTransGen (store.Refers grammar locale) key other →
    store.Resolves grammar locale other ∧ ¬ TransGen (store.Refers grammar locale) other other

variable {store : Store} {grammar : Grammar} {locale key target : String} {value full : Value}

/-- The full text of tokens is made of one piece for each of them. -/
theorem spells_iff {tokens : List Token} {text : List Char} :
    store.Spells grammar locale key tokens text ↔
      ∃ pieces, List.Forall₂ (grammar.Piece (store.Means grammar locale key)) tokens pieces ∧
        text = pieces.flatMap String.toList := by
  constructor
  · intro spells
    -- Each rule of the full text adds the piece of the first token.
    induction spells with
    | nil => exact ⟨[], .nil, rfl⟩
    | @kept key token _ _ plain _ ih =>
      obtain ⟨pieces, fits, rfl⟩ := ih
      exact ⟨String.ofList token.source :: pieces, .cons (by simp [Grammar.Piece, plain]) fits, by simp⟩
    | @followed key target template token _ reference inner _ isReference means scalar inside _ _ ih =>
      obtain ⟨pieces, fits, rfl⟩ := ih
      refine ⟨String.ofList inner :: pieces, .cons ?_ fits, by simp⟩
      simp only [Grammar.Piece, isReference]
      exact ⟨target, template, means, scalar, by simpa using inside⟩
  · intro replaced
    obtain ⟨pieces, fits, rfl⟩ := replaced
    -- What a piece stands for is known, so the induction goes along the tokens only.
    induction fits with
    | nil => exact .nil
    | @cons token piece _ _ fits _ ih =>
      unfold Grammar.Piece at fits
      split at fits
      · next reference isReference =>
        obtain ⟨target, template, means, scalar, inside⟩ := fits
        exact .followed isReference means scalar inside ih
      · next plain =>
        subst fits
        simpa using Spells.kept plain ih

/-- A template with its references replaced by what they mean is the full text of its tokens. -/
theorem replaced_means_iff {template text : String} :
    grammar.Replaced (store.Means grammar locale key) template text ↔
      store.Spells grammar locale key (grammar.tokenize template.toList) text.toList := by
  -- Both put the same pieces together, as a text and as characters.
  have join (pieces : List String) : text = String.join pieces ↔ text.toList = pieces.flatMap String.toList := by
    rw [← String.toList_join, String.toList_inj]
  simp only [Grammar.Replaced, spells_iff, join]

/-- A key is sound if its references mean single templates of sound keys. -/
theorem sound_of_targets (resolves : store.Resolves grammar locale key)
    (sound : ∀ target, store.Refers grammar locale key target → store.Sound grammar locale target) :
    store.Sound grammar locale key := by
  intro other reaches
  -- What is reached is the key itself, or is reached from one that it refers to.
  rcases ReflTransGen.cases_head reaches with rfl | ⟨target, refers, reaches⟩
  · refine ⟨resolves, fun cycle => ?_⟩
    -- A cycle of the key is one of the first key it refers to as well.
    obtain ⟨target, refers, back⟩ := TransGen.head'_iff.1 cycle
    exact (sound target refers target .refl).2 (TransGen.tail' back refers)
  · exact sound target refers other reaches

/-- A stored key is sound if each reference in its message means a single template of a sound key. -/
theorem sound_of_references (stored : store.get? key locale = some value)
    (each : ∀ reference ∈ value.references grammar, ∃ target template,
      store.resolve? grammar locale key reference = some target ∧
        store.get? target locale = some (.scalar template) ∧ store.Sound grammar locale target) :
    store.Sound grammar locale key := by
  refine sound_of_targets (fun other same reference member => ?_) ?_
  · obtain rfl := Option.some.inj (stored.symm.trans same)
    obtain ⟨target, template, means, scalar, -⟩ := each reference member
    exact ⟨target, template, means, scalar⟩
  · -- The key that is referred to is the one that the reference means.
    intro target refers
    obtain ⟨other, same, reference, member, refers⟩ := refers
    obtain rfl := Option.some.inj (stored.symm.trans same)
    obtain ⟨found, _, means, _, sound⟩ := each reference member
    rw [means] at refers
    exact Option.some.inj refers ▸ sound

/-- Keys that a sound key refers to are sound. -/
theorem Sound.of_refers (sound : store.Sound grammar locale key)
    (refers : store.Refers grammar locale key target) : store.Sound grammar locale target :=
  fun other reaches => sound other (reaches.head refers)

/-- References in tokens with a full text mean single templates of sound keys. -/
theorem Spells.sound {tokens : List Token} {text : List Char}
    (spells : store.Spells grammar locale key tokens text) :
    ∀ reference ∈ tokens.filterMap grammar.tokenReference?,
      ∃ target template, store.resolve? grammar locale key reference = some target ∧
        store.get? target locale = some (.scalar template) ∧ store.Sound grammar locale target := by
  -- The induction goes into the templates that are referred to, and along the tokens of each.
  induction spells with
  | nil => simp
  | kept plain _ ih => simpa [plain] using ih
  | @followed key target template _ _ reference _ _ isReference means scalar _ _ inner ih =>
    -- The message that is referred to is a single template, so its references are those inside.
    have references : (Value.scalar template).references grammar =
        (grammar.tokenize template.toList).filterMap grammar.tokenReference? := by
      simp [Value.references, Value.templates, Grammar.references]
    have sound : store.Sound grammar locale target := sound_of_references scalar (references ▸ inner)
    simp only [List.filterMap_cons, isReference, List.mem_cons, forall_eq_or_imp]
    exact ⟨⟨target, template, means, scalar, sound⟩, ih⟩

/-- A key whose message has a full text is sound. -/
theorem Full.sound (stored : store.get? key locale = some value)
    (isFull : store.Full grammar locale key value full) : store.Sound grammar locale key := by
  refine sound_of_references stored fun reference member => ?_
  -- The reference stands in one of the templates, and that one has a full text.
  obtain ⟨template, inside, found⟩ := List.mem_flatMap.1 member
  obtain ⟨text, _, spells⟩ := exists_of_forall₂ isFull.forall₂_templates.flip inside
  exact (replaced_means_iff.1 spells).sound reference found

/-- Tokens have at most one full text. -/
theorem Spells.unique {tokens : List Token} {text other : List Char}
    (first : store.Spells grammar locale key tokens text)
    (second : store.Spells grammar locale key tokens other) : text = other := by
  -- The token decides which of the rules applies, and the store what a reference means.
  induction first generalizing other with
  | nil => cases second; rfl
  | kept plain _ ih =>
    cases second with
    | kept _ others => rw [ih others]
    | followed isReference => simp [plain] at isReference
  | followed isReference means scalar _ _ inner ih =>
    cases second with
    | kept plain => simp [isReference] at plain
    | followed isSame meansSame scalarSame inside others =>
      obtain rfl := Option.some.inj (isReference.symm.trans isSame)
      obtain rfl := Option.some.inj (means.symm.trans meansSame)
      obtain ⟨rfl⟩ := Option.some.inj (scalar.symm.trans scalarSame)
      rw [inner inside, ih others]

/-- A message has at most one full one. -/
theorem Full.unique {other : Value} (first : store.Full grammar locale key value full)
    (second : store.Full grammar locale key value other) : full = other := by
  -- Templates have at most one full text, and the messages have the same shape.
  have functional : Relator.RightUnique (grammar.Replaced (store.Means grammar locale key)) := by
    intro template a b one two
    exact String.toList_inj.1 ((replaced_means_iff.1 one).unique (replaced_means_iff.1 two))
  exact Value.Rewritten.unique functional first second

/-- A message without references is full. -/
theorem full_self (plain : value.references grammar = []) :
    store.Full grammar locale key value value :=
  Value.rewritten_self fun template member =>
    Grammar.replaced_self (List.flatMap_eq_nil_iff.1 plain template member)

/-- A full message that is a single template comes from one. -/
theorem Full.exists_template {text : String} (isFull : store.Full grammar locale key value (.scalar text)) :
    ∃ template, value = .scalar template ∧
      store.Spells grammar locale key (grammar.tokenize template.toList) text.toList := by
  cases isFull with
  | @scalar template _ replaced => exact ⟨template, rfl, replaced_means_iff.1 replaced⟩

section Standard

open Grammar (standard)

variable (checked : store.Checked standard locale)
include checked

/-- The full text of tokens is settled if what is written for all but the references is, and if the stored
messages pass the check. -/
theorem Spells.settled {tokens : List Token} {text : List Char}
    (spells : store.Spells standard locale key tokens text)
    (kept : ∀ token ∈ tokens, standard.tokenReference? token = none → standard.Settled token.source) :
    standard.Settled text := by
  -- No reference arises where the text of a reference meets what is written beside it.
  induction spells with
  | nil => exact Grammar.settled_nil
  | kept plain _ ih =>
    exact (kept _ (by simp) plain).append (ih fun token member => kept token (by simp [member]))
  | @followed _ target template _ _ _ _ _ _ _ scalar _ _ inner ih =>
    refine (inner fun token member plain => ?_).append (ih fun token member => kept token (by simp [member]))
    exact Grammar.settled_source_of_check (checked target _ scalar template (by simp [Value.templates])) member plain

/-- What a reference means is settled if the stored messages pass the check. -/
theorem Means.settled {reference : Reference} {text : String}
    (means : store.Means standard locale key reference text) : standard.Settled text.toList := by
  -- What is spelled out of checked tokens without references is settled.
  obtain ⟨target, template, -, scalar, spells⟩ := means
  refine spells.settled checked fun token member plain => ?_
  exact Grammar.settled_source_of_check (checked target _ scalar template (by simp [Value.templates])) member plain

/-- The full message of a stored one is settled if the stored messages pass the check. -/
theorem Full.settled (stored : store.get? key locale = some value)
    (isFull : store.Full standard locale key value full) : full.Settled standard :=
  Value.Rewritten.settled isFull (checked key value stored) fun _ _ means => means.settled checked

end Standard

end Phrasebook.Store
