import Phrasebook.Template.Token
import Phrasebook.Unicode.Class

/-! Cutting a template into tokens. A placeholder is found where the grammar of names first leads to one,
a longer reading being preferred to a shorter one at every step. -/

namespace Phrasebook.Grammar

variable {α : Type}

/-- Whether a character may stand between the parentheses of a call. -/
def isCallChar (c : Char) : Bool :=
  c != '(' && c != ')' && c != '\x7b' && c != '\x7d'

/-- What follows the parentheses of a call at the front of a text. -/
def call? : List Char → Option (List Char)
  | '(' :: rest =>
    match rest.dropWhile isCallChar with
    | ')' :: after => some after
    | _ => none
  | _ => none

/-- Reading on behind the first character of a name. The word may go on, a delimiter and another word
may follow, or the name ends here; the first of these that leads to the goal is taken. -/
def insideName (space : List Char) (goal : List Char → Option α) (s : List Char) : Option α :=
  (match s with
    | c :: rest => if Unicode.isWord c then insideName space goal rest else none
    | [] => none) <|>
  (if space.isEmpty then none
    else match _found : Text.stripPrefix? space s with
      | some (c :: rest) => if Unicode.isWord c then insideName space goal rest else none
      | _ => none) <|>
  goal s
termination_by s.length
decreasing_by
  · simp
  · -- The delimiter and the first character of the next word are behind.
    have parts := Text.length_of_stripPrefix? _found
    simp only [List.length_cons] at parts
    omega

/-- Reading a name, which starts with a word character. -/
def name? (space : List Char) (goal : List Char → Option α) : List Char → Option α
  | c :: rest => if Unicode.isWord c then insideName space goal rest else none
  | [] => none

/-- Reading a name behind any number of delimiters, as many of them as possible. -/
def dotted? (space : List Char) (goal : List Char → Option α) (s : List Char) : Option α :=
  (if _nonempty : space ≠ [] then
    match _found : Text.stripPrefix? space s with
    | some rest => dotted? space goal rest
    | none => none
  else none) <|>
  name? space goal s
termination_by s.length
decreasing_by
  have parts := Text.length_of_stripPrefix? _found
  have positive := List.length_pos_iff.2 _nonempty
  omega

/-- The parentheses of a call may follow or not; following is preferred. -/
def withCall (goal : List Char → Option α) (s : List Char) : Option α :=
  (call? s).bind goal <|> goal s

/-- What follows the closing brace that ends a placeholder. -/
def closing? : List Char → Option (List Char)
  | '\x7d' :: rest => some rest
  | _ => none

/-- The number of characters that a placeholder in braces covers behind its opening brace. -/
def bracedLength? (grammar : Grammar) (s : List Char) : Option Nat :=
  (dotted? grammar.space (withCall closing?) s).map fun rest => s.length - rest.length

/-- What follows a placeholder without braces: a name behind at least one delimiter, or else a single
word with or without a call. -/
def unbraced? (grammar : Grammar) (s : List Char) : Option (List Char) :=
  (Text.stripPrefix? grammar.space s).bind (dotted? grammar.space some) <|>
  name? [] (withCall some) s

/-- The number of characters that a placeholder without braces covers behind its delimiter. -/
def unbracedLength? (grammar : Grammar) (s : List Char) : Option Nat :=
  (unbraced? grammar s).map fun rest => s.length - rest.length

/-- A placeholder with the given body. -/
def placeholderOf (grammar : Grammar) (raw body : List Char) (braced : Bool) : Token :=
  .placeholder { raw, body, braced, request := grammar.requestOf body }

/-- The token that a delimiter introduces, and the number of characters it covers behind the delimiter:
a second delimiter, or else a placeholder in braces, or else one without, or else nothing. -/
def introduced (grammar : Grammar) (position : Nat) (s : List Char) : Token × Nat :=
  match Text.stripPrefix? grammar.placeholder s with
  | some _ => (.escaped (grammar.placeholder ++ grammar.placeholder), grammar.placeholder.length)
  | none =>
    let braced := match s with
      | '\x7b' :: inside => bracedLength? grammar inside
      | _ => none
    match braced with
    | some n =>
      (placeholderOf grammar (grammar.placeholder ++ s.take (n + 1)) ((s.take n).drop 1) true, n + 1)
    | none =>
      match unbracedLength? grammar s with
      | some n => (placeholderOf grammar (grammar.placeholder ++ s.take n) (s.take n) false, n)
      | none => (.invalid grammar.placeholder position, 0)

/-- The number of bytes of a text. -/
def byteLength : List Char → Nat
  | [] => 0
  | c :: rest => c.utf8Size + byteLength rest

/-- A text token, unless there is no text. -/
def textToken (s : List Char) : List Token :=
  if s.isEmpty then [] else [.text s]

/-- The tokens of a text that a number of bytes precedes, for a delimiter that is not empty. -/
def tokensFrom (grammar : Grammar) (nonempty : grammar.placeholder ≠ []) (position : Nat) (s : List Char) :
    List Token :=
  match _cut : Text.breakOn? grammar.placeholder s with
  | none => textToken s
  | some (before, after) =>
    let start := position + byteLength before
    let (token, covered) := introduced grammar start after
    textToken before ++ token ::
      tokensFrom grammar nonempty (start + byteLength token.source) (after.drop covered)
termination_by s.length
decreasing_by
  -- The delimiter is behind, whatever it introduces.
  have parts := congrArg List.length (Text.eq_of_breakOn? _cut)
  have positive := List.length_pos_iff.2 nonempty
  simp only [List.length_append, List.length_drop] at parts ⊢
  omega

/-- The tokens of a template. An empty delimiter stands, twice over, around every character. -/
def tokenize (grammar : Grammar) (template : List Char) : List Token :=
  if nonempty : grammar.placeholder ≠ [] then tokensFrom grammar nonempty 0 template
  else .escaped [] :: template.flatMap fun c => [.text [c], .escaped []]

/-- The position of the first delimiter that introduces nothing. -/
def invalidPosition? (grammar : Grammar) (template : List Char) : Option Nat :=
  (grammar.tokenize template).findSome? fun
    | .invalid _ position => some position
    | _ => none

end Phrasebook.Grammar
