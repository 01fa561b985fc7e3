import Mathlib.Data.List.Basic
import Phrasebook.Filename.Template
import Phrasebook.Proofs.Text.Split
import Phrasebook.Proofs.Traversal

/-! Templates of file names as they are written: the braces of a literal twice, those of a field once. Reading a
template gives the pieces that it is the writing of, and a text that is no such writing is at fault where the pieces
before it end. -/

namespace Phrasebook.Filename

/-- A character of a literal as it is written: a brace twice, any other one once. -/
def doubled (c : Char) : List Char :=
  if c = '\x7b' ∨ c = '\x7d' then [c, c] else [c]

/-- A piece as it is written. -/
def Piece.print : Piece → List Char
  | .literal text => text.flatMap doubled
  | .field value => '\x7b' :: (value.name.toList ++ ['\x7d'])

/-- Pieces as they are written, one behind the other. -/
def print (found : List Piece) : List Char :=
  found.flatMap Piece.print

/-- Pieces of which no literal is empty and no two literals are neighbours. -/
inductive Tidy : List Piece → Prop where
  | nil : Tidy []
  | field {rest : List Piece} (field : Field) (tidy : Tidy rest) : Tidy (.field field :: rest)
  | literal {text : List Char} {rest : List Piece} (filled : text ≠ [])
    (alone : ∀ other, rest.head? ≠ some (.literal other)) (tidy : Tidy rest) : Tidy (.literal text :: rest)

/-- What is wrong with the rest of a template behind the pieces that can be read. -/
inductive Fault (template : String) : List Char → TemplateError → Prop where
  | unclosed {rest : List Char} (single : rest.head? ≠ some '\x7b') (endless : '\x7d' ∉ rest) :
    Fault template ('\x7b' :: rest) (.unclosedField template)
  | conversion {inside rest : List Char} (single : inside.head? ≠ some '\x7b') (closed : '\x7d' ∉ inside)
    (marked : '!' ∈ inside ∨ ':' ∈ inside) : Fault template ('\x7b' :: (inside ++ '\x7d' :: rest)) .conversion
  | unknown {inside rest : List Char} (single : inside.head? ≠ some '\x7b') (closed : '\x7d' ∉ inside)
    (unmarked : ¬ ('!' ∈ inside ∨ ':' ∈ inside)) (nameless : ∀ field : Field, field.name.toList ≠ inside) :
    Fault template ('\x7b' :: (inside ++ '\x7d' :: rest)) (.unknownField (String.ofList inside))
  | stray {rest : List Char} (single : rest.head? ≠ some '\x7d') :
    Fault template ('\x7d' :: rest) (.straySingleBrace template)

variable {template : String} {s rest inside : List Char} {found front : List Piece} {c : Char} {error : TemplateError}

section Fields

/-- A name between braces is that of the field, and of no other. -/
theorem fieldOf_eq_ok_iff {field : Field} : fieldOf inside = .ok field ↔ inside = field.name.toList := by
  constructor
  · intro found
    rw [fieldOf] at found
    split at found
    · cases found
    · cases named : Field.ofName? (String.ofList inside) with
      | none =>
        rw [named] at found
        cases found
      | some other =>
        rw [named] at found
        obtain rfl := Except.ok.inj found
        -- The search only stops at a field with that name.
        have same : other.name = String.ofList inside := by simpa using List.find?_some named
        rw [same, String.toList_ofList]
  · rintro rfl
    cases field <;> decide +kernel

/-- What no field is called is refused, and so is what would format or convert a value. -/
theorem fieldOf_eq_error_iff : fieldOf inside = .error error ↔
    ('!' ∈ inside ∨ ':' ∈ inside) ∧ error = .conversion ∨
      ¬ ('!' ∈ inside ∨ ':' ∈ inside) ∧ (∀ field : Field, field.name.toList ≠ inside) ∧
        error = .unknownField (String.ofList inside) := by
  cases result : fieldOf inside with
  | ok field =>
    -- The name of a field has neither of the two marks.
    have same := fieldOf_eq_ok_iff.1 result
    have unmarked : ¬ ('!' ∈ field.name.toList ∨ ':' ∈ field.name.toList) := by cases field <;> decide +kernel
    simp only [reduceCtorEq, false_iff]
    rintro (⟨marked, -⟩ | ⟨-, nameless, -⟩)
    · exact unmarked (same ▸ marked)
    · exact nameless field same.symm
  | error other =>
    have nameless (field : Field) : field.name.toList ≠ inside := by
      intro same
      rw [fieldOf_eq_ok_iff.2 same.symm] at result
      cases result
    rw [fieldOf] at result
    split at result
    · next marked =>
      cases result
      simp [marked, eq_comm]
    · next unmarked =>
      split at result
      · cases result
      · cases result
        simp [unmarked, nameless, eq_comm]

end Fields

section Reading

/-- A written character of a literal is read as that character. -/
theorem pieces_doubled (template : String) (c : Char) (s : List Char) :
    pieces template (doubled c ++ s) = (pieces template s).map (pushChar c) := by
  -- A brace is written twice and read as an escape; any other character stands for itself.
  rw [doubled]
  split
  · next brace =>
    rcases brace with rfl | rfl
    · rw [List.cons_append, List.cons_append, List.nil_append, pieces]
    · rw [List.cons_append, List.cons_append, List.nil_append, pieces]
  · next plain =>
    obtain ⟨opening, closing⟩ := not_or.1 plain
    rw [List.singleton_append, pieces]
    · exact fun _ same _ => opening same
    · exact fun _ same _ => closing same
    · exact opening
    · exact closing

/-- Between braces stands the name of a field. -/
theorem pieces_braced (template : String) (single : inside.head? ≠ some '\x7b') (closed : '\x7d' ∉ inside)
    (s : List Char) : pieces template ('\x7b' :: (inside ++ '\x7d' :: s)) =
      (fieldOf inside).bind fun field => (pieces template s).map (.field field :: ·) := by
  have cut : Text.breakOn? ['\x7d'] (inside ++ '\x7d' :: s) = some (inside, s) := Text.breakOn?_eq_some closed
  -- What stands behind the opening brace does not make an escape of it.
  have noEscape (more : List Char) : inside ++ '\x7d' :: s ≠ '\x7b' :: more := by
    intro same
    cases inside with
    | nil => cases same
    | cons first others =>
      obtain ⟨rfl, -⟩ := List.cons.inj same
      exact single rfl
  rw [pieces.eq_4 template _ noEscape]
  split
  · next absent =>
    rw [cut] at absent
    cases absent
  · next before after found =>
    rw [cut] at found
    obtain ⟨rfl, rfl⟩ := Prod.mk.inj (Option.some.inj found)
    rfl

/-- The name of a field has nothing of a brace. -/
theorem name_braceless (field : Field) :
    field.name.toList.head? ≠ some '\x7b' ∧ '\x7d' ∉ field.name.toList := by
  cases field <;> decide +kernel

/-- A piece put in front of others, where a literal joins one that is there already. -/
def attach : Piece → List Piece → List Piece
  | .literal text, rest => text.foldr pushChar rest
  | .field field, rest => .field field :: rest

/-- A written piece is read as that piece in front of what follows. -/
theorem pieces_print_cons (template : String) (piece : Piece) (s : List Char) :
    pieces template (piece.print ++ s) = (pieces template s).map (attach piece) := by
  cases piece with
  | literal text =>
    -- The characters are read one by one.
    induction text with
    | nil =>
      have nothing : (Piece.literal []).print ++ s = s := rfl
      rw [nothing]
      cases pieces template s <;> rfl
    | cons c more ih =>
      rw [Piece.print] at ih
      rw [Piece.print, List.flatMap_cons, List.append_assoc, pieces_doubled, ih]
      cases pieces template s <;> rfl
  | field field =>
    obtain ⟨single, closed⟩ := name_braceless field
    rw [Piece.print, List.cons_append, List.append_assoc, List.singleton_append, pieces_braced template single closed,
      fieldOf_eq_ok_iff.2 rfl]
    rfl

/-- Written pieces are read as those pieces in front of what follows. -/
theorem pieces_print_append (template : String) (front : List Piece) (s : List Char) :
    pieces template (print front ++ s) = (pieces template s).map (front.foldr attach ·) := by
  -- By the pieces that are written, each of which is read in front of the others.
  induction front with
  | nil =>
    have nothing : print [] ++ s = s := rfl
    rw [nothing]
    cases pieces template s <;> rfl
  | cons piece rest ih =>
    rw [print, List.flatMap_cons, List.append_assoc, pieces_print_cons, ← print, ih]
    cases pieces template s <;> rfl

end Reading

section Pieces

/-- The characters of a literal make it up if no other literal follows. -/
theorem foldr_pushChar {text : List Char} (filled : text ≠ []) (alone : ∀ other, found.head? ≠ some (.literal other)) :
    text.foldr pushChar found = .literal text :: found := by
  induction text with
  | nil => exact absurd rfl filled
  | cons c more ih =>
    rw [List.foldr_cons]
    cases more with
    | nil =>
      -- The last character stands in front of a field, or at the end.
      match found, alone with
      | [], _ => rfl
      | .field field :: rest, _ => rfl
      | .literal other :: rest, alone => exact absurd rfl (alone other)
    | cons next others =>
      rw [ih (List.cons_ne_nil next others), pushChar]

/-- Tidy pieces are put together without joining any of them. -/
theorem Tidy.foldr_attach (tidy : Tidy found) : found.foldr attach [] = found := by
  -- Neighbouring literals would be joined, but tidy pieces have none.
  induction tidy with
  | nil => rfl
  | field field tidy ih => rw [List.foldr_cons, ih, attach]
  | literal filled alone tidy ih => rw [List.foldr_cons, ih, attach, foldr_pushChar filled alone]

/-- Pieces stay tidy with one more literal character in front of them. -/
theorem Tidy.pushChar (tidy : Tidy found) (c : Char) : Tidy (pushChar c found) := by
  -- The character makes a literal of its own, or joins the one that comes first.
  cases tidy with
  | nil => exact .literal (List.cons_ne_nil c []) (by simp) .nil
  | field field tidy => exact .literal (List.cons_ne_nil c []) (by simp) (.field field tidy)
  | literal filled alone tidy => exact .literal (List.cons_ne_nil c _) alone tidy

/-- One more literal character is written in front of the others. -/
theorem print_pushChar (c : Char) (found : List Piece) : print (pushChar c found) = doubled c ++ print found := by
  -- The character makes a literal of its own, or joins the one that comes first.
  match found with
  | [] => simp [Filename.pushChar, print, Piece.print]
  | .field field :: rest => simp [Filename.pushChar, print, Piece.print]
  | .literal text :: rest => simp [Filename.pushChar, print, Piece.print]

end Pieces

section Faults

/-- Tidy pieces are read from their writing. -/
theorem Tidy.pieces_print (template : String) (tidy : Tidy found) : pieces template (print found) = .ok found := by
  have reads := pieces_print_append template found []
  rwa [List.append_nil, pieces, Except.map, tidy.foldr_attach] at reads

/-- What is at fault is refused. -/
theorem Fault.pieces_eq (fault : Fault template s error) : pieces template s = .error error := by
  -- One case for each fault: no closing brace, a conversion, an unknown name, a stray closing brace.
  cases fault with
  | unclosed single endless =>
    rw [pieces.eq_4 template _ fun more same => single (by rw [same]; rfl)]
    split
    · rfl
    · next cut =>
      rw [Text.breakOn?_eq_none endless] at cut
      cases cut
  | conversion single closed marked =>
    rw [pieces_braced template single closed, fieldOf_eq_error_iff.2 (.inl ⟨marked, rfl⟩)]
    rfl
  | unknown single closed unmarked nameless =>
    rw [pieces_braced template single closed, fieldOf_eq_error_iff.2 (.inr ⟨unmarked, nameless, rfl⟩)]
    rfl
  | stray single => exact pieces.eq_5 template _ fun more same => single (by rw [same]; rfl)

/-- A text is the writing of tidy pieces, or some pieces are written and what follows them is at fault. -/
def Explained (template : String) (s : List Char) : Prop :=
  (∃ found, Tidy found ∧ s = print found) ∨
    ∃ front rest error, s = print front ++ rest ∧ Fault template rest error

/-- A written character of a literal may stand before a text. -/
theorem Explained.doubled (explained : Explained template s) (c : Char) : Explained template (doubled c ++ s) := by
  -- The character goes before the pieces, whether all of them are read or those in front of a fault.
  rcases explained with ⟨found, tidy, rfl⟩ | ⟨front, rest, error, rfl, fault⟩
  · exact .inl ⟨_, tidy.pushChar c, (print_pushChar c found).symm⟩
  · refine .inr ⟨pushChar c front, rest, error, ?_, fault⟩
    rw [print_pushChar, List.append_assoc]

/-- A written field may stand before a text. -/
theorem Explained.field (explained : Explained template s) (field : Field) :
    Explained template ((Piece.field field).print ++ s) := by
  -- The field goes before the pieces, whether all of them are read or those in front of a fault.
  rcases explained with ⟨found, tidy, rfl⟩ | ⟨front, rest, error, rfl, fault⟩
  · exact .inl ⟨_, .field field tidy, rfl⟩
  · refine .inr ⟨.field field :: front, rest, error, ?_, fault⟩
    rw [print, print, List.flatMap_cons, List.append_assoc]

/-- A fault at the front explains a text. -/
theorem Fault.explained (fault : Fault template s error) : Explained template s :=
  .inr ⟨[], s, error, rfl, fault⟩

/-- Every text is explained. -/
theorem explained (template : String) (s : List Char) : Explained template s := by
  have head {x : Char} {rest : List Char} (single : ∀ more, rest = x :: more → False) : rest.head? ≠ some x := by
    intro first
    obtain ⟨more, same⟩ := List.head?_eq_some_iff.1 first
    exact single more same
  -- The induction follows the reading from the left.
  induction s using pieces.induct with
  | case1 => exact .inl ⟨[], .nil, rfl⟩
  | case2 rest ih => exact ih.doubled '\x7b'
  | case3 rest ih => exact ih.doubled '\x7d'
  | case4 rest single absent =>
    have endless : '\x7d' ∉ rest := by
      intro inside
      obtain ⟨before, after, rfl⟩ := List.append_of_mem inside
      exact Text.breakOn?_eq_none_iff.1 absent ⟨before, after, by simp⟩
    exact (Fault.unclosed (head single) endless).explained
  | case5 rest single inside after cut ih =>
    have whole : rest = inside ++ '\x7d' :: after := by simpa using Text.eq_of_breakOn? cut
    have closed : '\x7d' ∉ inside := by
      intro member
      obtain ⟨before, others, rfl⟩ := List.append_of_mem member
      -- The text is cut at the first brace.
      simpa using Text.endsFirst_of_breakOn? cut before (others ++ ['\x7d']) (by simp)
    have unescaped : inside.head? ≠ some '\x7b' := by
      intro first
      obtain ⟨more, rfl⟩ := List.head?_eq_some_iff.1 first
      exact single _ whole
    subst whole
    cases named : fieldOf inside with
    | ok field =>
      obtain rfl := fieldOf_eq_ok_iff.1 named
      have before := ih.field field
      rwa [Piece.print, List.cons_append, List.append_assoc, List.singleton_append] at before
    | error error =>
      rcases fieldOf_eq_error_iff.1 named with ⟨marked, -⟩ | ⟨unmarked, nameless, -⟩
      · exact (Fault.conversion unescaped closed marked).explained
      · exact (Fault.unknown unescaped closed unmarked nameless).explained
  | case6 rest single => exact (Fault.stray (head single)).explained
  | case7 c rest _ _ opening closing ih =>
    have plain : Filename.doubled c = [c] := if_neg (not_or.2 ⟨opening, closing⟩)
    have before := ih.doubled c
    rwa [plain] at before

end Faults

/-- A text is read exactly if it is the writing of tidy pieces, and then as these. -/
theorem pieces_eq_ok_iff : pieces template s = .ok found ↔ Tidy found ∧ s = print found := by
  -- Every text is explained: by tidy pieces, or by a fault, for which it would be refused.
  constructor
  · intro reads
    rcases explained template s with ⟨other, tidy, rfl⟩ | ⟨front, rest, error, rfl, fault⟩
    · rw [tidy.pieces_print] at reads
      obtain rfl := Except.ok.inj reads
      exact ⟨tidy, rfl⟩
    · rw [pieces_print_append, fault.pieces_eq] at reads
      cases reads
  · rintro ⟨tidy, rfl⟩
    exact tidy.pieces_print template

/-- A text is refused exactly if what follows some written pieces is at fault, and then for that fault. -/
theorem pieces_eq_error_iff : pieces template s = .error error ↔
    ∃ front rest, s = print front ++ rest ∧ Fault template rest error := by
  -- Every text is explained: by a fault, or by tidy pieces, as which it would be read.
  constructor
  · intro fails
    rcases explained template s with ⟨found, tidy, rfl⟩ | ⟨front, rest, other, rfl, fault⟩
    · rw [tidy.pieces_print] at fails
      cases fails
    · rw [pieces_print_append, fault.pieces_eq] at fails
      obtain rfl := Except.error.inj fails
      exact ⟨front, rest, rfl, fault⟩
  · rintro ⟨front, rest, rfl, fault⟩
    rw [pieces_print_append, fault.pieces_eq]
    rfl

/-- A template is read exactly if it is the writing of tidy pieces. -/
theorem pieces_toList_eq_ok_iff : pieces template template.toList = .ok found ↔
    Tidy found ∧ template = .ofList (print found) := by
  rw [pieces_eq_ok_iff, ← String.toList_inj, String.toList_ofList]

/-- A compiled template is its text with the tidy pieces that it is the writing of. -/
theorem compile_eq_ok_iff {format : Format} : compile template = .ok format ↔
    format.template = template ∧ Tidy format.pieces ∧ template = .ofList (print format.pieces) := by
  -- Compiling adds nothing to reading the pieces but the text itself.
  rw [compile, Traversal.map_eq_ok_iff]
  constructor
  · rintro ⟨found, reads, rfl⟩
    exact ⟨rfl, pieces_toList_eq_ok_iff.1 reads⟩
  · rintro ⟨rfl, written⟩
    exact ⟨format.pieces, pieces_toList_eq_ok_iff.2 written, rfl⟩

/-- Templates are read exactly, and reading can be undone. A template is read if and only if it is the writing of tidy
pieces, and what is read is these pieces; any other text is refused, for a fault behind the pieces that can be read. A
compiled template is known by its pieces, as it is by its text. -/
theorem compile_reversible (template : String) :
    (∀ found, pieces template template.toList = .ok found ↔ Tidy found ∧ template = .ofList (print found)) ∧
    (∀ error, pieces template template.toList = .error error ↔
      ∃ front rest, template.toList = print front ++ rest ∧ Fault template rest error) ∧
    (∀ format, compile template = .ok format ↔
      format.template = template ∧ Tidy format.pieces ∧ template = .ofList (print format.pieces)) ∧
    ∀ other first second, compile template = .ok first → compile other = .ok second →
      (first = second ↔ first.pieces = second.pieces) ∧ (first = second ↔ template = other) := by
  refine ⟨fun found => pieces_toList_eq_ok_iff, fun error => pieces_eq_error_iff, fun format => compile_eq_ok_iff, ?_⟩
  intro other first second compiles compilesOther
  obtain ⟨text, -, written⟩ := compile_eq_ok_iff.1 compiles
  obtain ⟨otherText, -, otherWritten⟩ := compile_eq_ok_iff.1 compilesOther
  -- The same pieces are written in the same way, and the same text is read as the same pieces.
  have ofPieces (same : first.pieces = second.pieces) : template = other := by
    rw [written, otherWritten, same]
  have ofText (same : template = other) : first = second :=
    Except.ok.inj (compiles.symm.trans (same ▸ compilesOther))
  constructor
  · exact ⟨congrArg Format.pieces, fun same => ofText (ofPieces same)⟩
  · refine ⟨fun same => ?_, ofText⟩
    rw [← text, ← otherText, same]

/-- A locale in written braces and one without them make different templates. -/
theorem compile_reversible_nested :
    compile "\x7b\x7b\x7blocale\x7d\x7d\x7d" =
      .ok ⟨"\x7b\x7b\x7blocale\x7d\x7d\x7d", [.literal ['\x7b'], .field .locale, .literal ['\x7d']]⟩ ∧
    compile "\x7blocale\x7d" = .ok ⟨"\x7blocale\x7d", [.field .locale]⟩ ∧
    (⟨"\x7b\x7b\x7blocale\x7d\x7d\x7d", [.literal ['\x7b'], .field .locale, .literal ['\x7d']]⟩ : Format) ≠
      ⟨"\x7blocale\x7d", [.field .locale]⟩ := by
  -- Both texts are compiled; that the templates differ is told by their texts.
  have compiles : compile "\x7b\x7b\x7blocale\x7d\x7d\x7d" =
      .ok ⟨"\x7b\x7b\x7blocale\x7d\x7d\x7d", [.literal ['\x7b'], .field .locale, .literal ['\x7d']]⟩ := by
    decide +kernel
  have compilesBare : compile "\x7blocale\x7d" = .ok ⟨"\x7blocale\x7d", [.field .locale]⟩ := by decide +kernel
  refine ⟨compiles, compilesBare, fun same => ?_⟩
  have pieces := ((compile_reversible _).2.2.2 _ _ _ compiles compilesBare).1.1 same
  exact absurd pieces (by decide)

end Phrasebook.Filename
