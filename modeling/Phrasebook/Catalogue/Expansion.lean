import Phrasebook.Catalogue.Search
import Phrasebook.Template.Lexer
import Phrasebook.Template.Reference

/-! Replacing references to other messages by their templates, once and for all, in the stored messages. -/

namespace Phrasebook

/-- The templates of plural forms, in the order of their categories. -/
def Forms.templates (forms : Forms) : List String :=
  forms.entries.map Prod.snd

/-- The templates of a member. -/
def Variant.templates : Variant → List String
  | .text template => [template]
  | .plural forms => forms.templates

/-- The templates of a message, in their order. -/
def Value.templates : Value → List String
  | .scalar template => [template]
  | .plural forms => forms.templates
  | .variants members => members.flatMap Variant.templates

section Traversal

variable {m : Type → Type} [Monad m]

/-- Changing every template of plural forms, in the order of their categories. -/
def Forms.mapTemplatesM (change : String → m String) (forms : Forms) : m Forms := do
  let entries ← forms.entries.mapM fun (category, template) => return (category, ← change template)
  return .ofList entries

/-- Changing every template of a member. -/
def Variant.mapTemplatesM (change : String → m String) : Variant → m Variant
  | .text template => return .text (← change template)
  | .plural forms => return .plural (← forms.mapTemplatesM change)

/-- Changing every template of a message, in their order. -/
def Value.mapTemplatesM (change : String → m String) : Value → m Value
  | .scalar template => return .scalar (← change template)
  | .plural forms => return .plural (← forms.mapTemplatesM change)
  | .variants members => return .variants (← members.mapM fun member => member.mapTemplatesM change)

end Traversal

namespace Grammar

/-- The reference that a token is. -/
def tokenReference? (grammar : Grammar) : Token → Option Reference
  | .placeholder found => grammar.reference? found
  | _ => none

/-- Whether a template holds a reference. -/
def hasReference (grammar : Grammar) (template : String) : Bool :=
  (grammar.tokenize template.toList).any fun token => (grammar.tokenReference? token).isSome

end Grammar

/-- What stays the same while the messages of a locale are expanded. -/
structure Expansion (σ : Type) where
  searcher : Searcher σ
  settings : Settings
  grammar : Grammar
  locale : String

namespace Expansion

variable {σ : Type}

/-- A template with every reference replaced by what following it gives; all else stays as written. -/
def expandTemplate (expansion : Expansion σ) (follow : Reference → Lookup σ String) (template : String) :
    Lookup σ String := do
  let pieces ← (expansion.grammar.tokenize template.toList).mapM fun token =>
    match expansion.grammar.tokenReference? token with
    | some reference => follow reference
    | none => return String.ofList token.source
  return String.join pieces

/-- The template of a message referred to under a key; plural forms and variants have none of their
own. -/
def inline (expansion : Expansion σ) (key target : String) : Lookup σ String := do
  let value ← Lookup.stored target expansion.locale
  match value.scalar? with
  | some template => return template
  | none => throw (.invalidReference target key (some value.kind))

/-- The template that a reference found under a key stands for. Of the keys it may mean the first one
stored counts, and is expanded before. If none is stored the searcher is asked for the key written in
the reference, and all keys it loads are expanded, except for those already being expanded. -/
def follow (expansion : Expansion σ) (expand : String → Lookup σ Unit) (inProgress : List String)
    (key : String) (reference : Reference) : Lookup σ String := do
  let store ← Lookup.store
  match (expansion.grammar.candidates key reference).find? (store.has · expansion.locale) with
  | some candidate =>
    expand candidate
    expansion.inline key candidate
  | none =>
    let target := reference.target
    let loaded ← expansion.searcher.search target expansion.locale expansion.settings
    loaded.forM fun other => if other ∈ inProgress then pure () else expand other
    if ← Lookup.has target expansion.locale then expansion.inline key target
    else throw (.invalidReference target key none)

/-- Expanding the message of a key, with the keys in progress in the order in which they were started,
and a bound for how many more may be. -/
def expandKey (expansion : Expansion σ) : Nat → List String → String → Lookup σ Unit
  | 0, _, key => throw (.tooDeep key)
  | fuel + 1, inProgress, key => do
    if key ∈ inProgress then throw (.cyclicReference (inProgress ++ [key]))
    let value ← Lookup.stored key expansion.locale
    if value.templates.any expansion.grammar.hasReference then
      let path := inProgress ++ [key]
      let follow := expansion.follow (expansion.expandKey fuel path) path key
      let expanded ← value.mapTemplatesM (expansion.expandTemplate follow)
      Lookup.add key expanded expansion.locale

/-- A bound for the length of a chain of different keys: those stored, those a search can add, and one
that closes a cycle. -/
def depth (expansion : Expansion σ) (library : Library σ) : Nat :=
  library.store.size + expansion.searcher.reach library.state + 1

/-- Expanding the messages of those keys that are stored. -/
def expandKeys (expansion : Expansion σ) (keys : List String) : Lookup σ Unit := do
  let library ← get
  keys.forM fun key => do
    if ← Lookup.has key expansion.locale then
      expansion.expandKey (expansion.depth library) [] key

end Expansion

end Phrasebook
