import Phrasebook.Key
import Phrasebook.Template.Token

/-! Placeholders that stand for another message of the same locale. -/

namespace Phrasebook

/-- A reference to another message: by a key that is looked up in the namespaces around, from the
innermost one outward, or by a full key. -/
inductive Reference where
  | relative (target : String)
  | absolute (target : String)
deriving DecidableEq, Repr

/-- The key written in a reference. -/
def Reference.target : Reference → String
  | .relative target => target
  | .absolute target => target

namespace Grammar

/-- The delimiter between the segments of keys. -/
def spaceText (grammar : Grammar) : String :=
  String.ofList grammar.space

/-- The reference that a placeholder is: a name behind delimiters is relative, and a name in braces
with delimiters inside is absolute. Other names are those of arguments, and calls are never references. -/
def reference? (grammar : Grammar) (placeholder : Placeholder) : Option Reference :=
  match placeholder.request with
  | .call _ _ => none
  | .named name =>
    match Key.stripLeading? (String.ofList name) grammar.spaceText with
    | some target => some (.relative target)
    | none =>
      if placeholder.braced ∧ (Text.breakOn? grammar.space name).isSome then
        some (.absolute (String.ofList name))
      else none

/-- The keys that a reference found under a key may mean, in the order in which they are tried. -/
def candidates (grammar : Grammar) (key : String) : Reference → List String
  | .absolute target => [target]
  | .relative target =>
    let path := Key.segments key grammar.spaceText
    (List.range path.length).reverse.map fun depth =>
      Key.join (Key.ofSegments (path.take depth) grammar.spaceText) target grammar.spaceText

end Grammar

end Phrasebook
