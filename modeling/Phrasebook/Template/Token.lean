import Phrasebook.Template.Grammar
import Phrasebook.Text.Split

/-! The tokens of a template. -/

namespace Phrasebook

/-- What a placeholder asks for: the value of a name, or the choice a function makes among arguments. -/
inductive Request where
  | named (name : List Char)
  | call (name : List Char) (arguments : List (List Char))
deriving DecidableEq, Repr

/-- A placeholder as it stands in a template. -/
structure Placeholder where
  /-- All of it, with the delimiter in front. -/
  raw : List Char
  /-- What stands behind the delimiter, without braces. -/
  body : List Char
  braced : Bool
  request : Request
deriving DecidableEq, Repr

/-- A piece of a template. -/
inductive Token where
  | text (source : List Char)
  /-- Two delimiters, which stand for one. -/
  | escaped (raw : List Char)
  | placeholder (found : Placeholder)
  /-- A delimiter that introduces nothing, and the number of bytes before it. -/
  | invalid (raw : List Char) (position : Nat)
deriving DecidableEq, Repr

/-- The part of the template that a token covers. -/
def Token.source : Token → List Char
  | .text source => source
  | .escaped raw => raw
  | .placeholder found => found.raw
  | .invalid raw _ => raw

/-- What the body of a placeholder asks for: a call from the first parenthesis on, and a name without
one. -/
def Grammar.requestOf (grammar : Grammar) (body : List Char) : Request :=
  match Text.breakOn? ['('] body with
  | none => .named body
  | some (name, rest) =>
    let inside := if rest.getLast? = some ')' then rest.dropLast else rest
    .call name (Text.splitOn grammar.argument inside)

end Phrasebook
