import Phrasebook.Text.Split
import Phrasebook.Text.Quoted

/-! Templates of file names: literal text with fields in braces. Braces of the text are written twice. -/

namespace Phrasebook.Filename

/-- What a field of a file name stands for. -/
inductive Field where
  | space
  | locale
  | format
deriving DecidableEq, Repr

namespace Field

/-- All fields, in their order. -/
def all : List Field :=
  [.space, .locale, .format]

/-- The name of a field inside braces. -/
def name : Field → String
  | .space => "namespace"
  | .locale => "locale"
  | .format => "format"

/-- The field of a name, which is spelled exactly. -/
def ofName? (name : String) : Option Field :=
  all.find? fun field => field.name = name

end Field

/-- A piece of a template. -/
inductive Piece where
  | literal (text : List Char)
  | field (field : Field)
deriving DecidableEq, Repr

/-- Why a text is no template. -/
inductive TemplateError where
  | unclosedField (template : String)
  | straySingleBrace (template : String)
  | conversion
  | unknownField (name : String)
deriving DecidableEq, Repr

/-- The description of an error. -/
def TemplateError.message : TemplateError → String
  | .unclosedField template => "unclosed field in filename format " ++ Text.quoted template
  | .straySingleBrace template => "single '\x7d' in filename format " ++ Text.quoted template
  | .conversion => "Can't apply format spec or conversion in filename format"
  | .unknownField name => "Unknown placeholder in filename format: '" ++ name ++ "'"

/-- Pieces with one more literal character in front, which joins a literal already there. -/
def pushChar (c : Char) : List Piece → List Piece
  | .literal text :: rest => .literal (c :: text) :: rest
  | pieces => .literal [c] :: pieces

/-- The field between two braces. What would format or convert a value is refused before the name is
looked up. -/
def fieldOf (inside : List Char) : Except TemplateError Field :=
  if '!' ∈ inside ∨ ':' ∈ inside then .error .conversion
  else match Field.ofName? (String.ofList inside) with
    | some field => .ok field
    | none => .error (.unknownField (String.ofList inside))

/-- The pieces of a text that belongs to the given template, read from the left. -/
def pieces (template : String) : List Char → Except TemplateError (List Piece)
  | [] => .ok []
  | '\x7b' :: '\x7b' :: rest => (pieces template rest).map (pushChar '\x7b')
  | '\x7d' :: '\x7d' :: rest => (pieces template rest).map (pushChar '\x7d')
  | '\x7b' :: rest =>
    match _cut : Text.breakOn? ['\x7d'] rest with
    | none => .error (.unclosedField template)
    | some (inside, after) =>
      (fieldOf inside).bind fun field => (pieces template after).map (.field field :: ·)
  | '\x7d' :: _ => .error (.straySingleBrace template)
  | c :: rest => (pieces template rest).map (pushChar c)
termination_by s => s.length
decreasing_by
  all_goals simp only [List.length_cons]
  · omega
  · omega
  · -- What follows a field is shorter than the text behind its opening brace.
    have parts := congrArg List.length (Text.eq_of_breakOn? _cut)
    simp only [List.length_append] at parts
    omega
  · omega

/-- A template that was read: its text and its pieces. -/
structure Format where
  template : String
  pieces : List Piece
deriving DecidableEq, Repr

/-- Reading a template. -/
def compile (template : String) : Except TemplateError Format :=
  (pieces template template.toList).map fun pieces => { template, pieces }

namespace Format

/-- Whether a field occurs in the template. -/
def has (format : Format) (field : Field) : Bool :=
  format.pieces.contains (.field field)

/-- The file name that the template gives for the values of its fields. -/
def render (format : Format) (space locale extension : String) : String :=
  String.ofList (format.pieces.flatMap fun
    | .literal text => text
    | .field .space => space.toList
    | .field .locale => locale.toList
    | .field .format => extension.toList)

end Format

end Phrasebook.Filename
