import Mathlib.Data.List.TakeWhile
import Mathlib.Logic.Function.Basic
import Phrasebook.Filename.Match

/-! Reading the values of fields from a file name undoes rendering it, for templates in which the values are kept apart:
behind a field a character that is none of words comes before the next one. A value then ends where it has to, however
many word characters the literals around it have. -/

namespace Phrasebook.Filename

/-- A text of word characters, of which there is at least one. -/
def Spelled (text : String) : Prop :=
  text ≠ "" ∧ ∀ c ∈ text.toList, Unicode.isWord c = true

instance (text : String) : Decidable (Spelled text) :=
  decidable_of_iff (text ≠ "" ∧ text.toList.all Unicode.isWord = true) (and_congr_right fun _ => List.all_eq_true)

/-- The fields of a template, in their order. -/
def fieldsOf (found : List Piece) : List Field :=
  found.filterMap fun
    | .literal _ => none
    | .field field => some field

/-- Pieces that have a character that is none of words before their first field, if they have a field. -/
def Parted : List Piece → Prop
  | [] => True
  | .literal text :: rest => (∃ c ∈ text, Unicode.isWord c = false) ∨ Parted rest
  | .field _ :: _ => False

/-- Pieces in which any two neighbouring fields have a character between them that is none of words. -/
def Divided : List Piece → Prop
  | [] => True
  | .literal _ :: rest => Divided rest
  | .field _ :: rest => Parted rest ∧ Divided rest

/-- Pieces with values in the places of the fields. -/
def filled (value : Field → List Char) (found : List Piece) : List Char :=
  found.flatMap fun
    | .literal text => text
    | .field field => value field

/-- Values that a field can have: word characters, of which there is at least one. -/
def Worded (value : Field → List Char) : Prop :=
  ∀ field, value field ≠ [] ∧ ∀ c ∈ value field, Unicode.isWord c = true

variable {value other : Field → List Char} {found rest : List Piece} {s run : List Char} {field : Field}
variable {values later : List (Field × List Char)}

/-- Values that a field can have are spelled in word characters. -/
theorem Worded.spelled (worded : Worded value) (field : Field) : Spelled (.ofList (value field)) :=
  ⟨by simpa using (worded field).1, by simpa using (worded field).2⟩

section Filling

/-- A literal stands for itself. -/
@[simp] theorem filled_literal (text : List Char) : filled value (.literal text :: rest) = text ++ filled value rest :=
  rfl

/-- A field stands for its value. -/
@[simp] theorem filled_field : filled value (.field field :: rest) = value field ++ filled value rest :=
  rfl

/-- A literal has no field. -/
@[simp] theorem fieldsOf_literal (text : List Char) : fieldsOf (.literal text :: rest) = fieldsOf rest :=
  rfl

/-- A field comes before those behind it. -/
@[simp] theorem fieldsOf_field : fieldsOf (.field field :: rest) = field :: fieldsOf rest :=
  rfl

/-- The fields are those that occur among the pieces. -/
theorem mem_fieldsOf : field ∈ fieldsOf found ↔ .field field ∈ found := by
  -- Piece by piece.
  induction found with
  | nil => simp [fieldsOf]
  | cons piece rest ih => cases piece <;> simp [ih]

/-- What is filled depends on the values of the fields that occur. -/
theorem filled_congr (same : ∀ field ∈ fieldsOf found, value field = other field) :
    filled value found = filled other found := by
  -- Piece by piece: literals do not depend on the values, and a field only on its own.
  induction found with
  | nil => rfl
  | cons piece rest ih =>
    cases piece with
    | literal text => rw [filled_literal, filled_literal, ih same]
    | field field =>
      obtain ⟨here, later⟩ := List.forall_mem_cons.1 same
      rw [filled_field, filled_field, here, ih later]

/-- Where the next field is parted from it, a run of word characters in front of pieces is the same for all values of
the fields. -/
theorem Parted.run_eq {run others : List Char} (parted : Parted found) (words : ∀ c ∈ run, Unicode.isWord c = true)
    (otherWords : ∀ c ∈ others, Unicode.isWord c = true)
    (same : run ++ filled value found = others ++ filled other found) : run = others := by
  -- The runs grow by the literals that consist of word characters, up to one that does not, or to the end.
  induction found generalizing run others with
  | nil => simpa [filled] using same
  | cons piece rest ih =>
    cases piece with
    | field field => exact parted.elim
    | literal text =>
      rw [filled_literal, filled_literal] at same
      by_cases plain : ∀ c ∈ text, Unicode.isWord c = true
      · have later : Parted rest := by
          refine parted.resolve_left ?_
          rintro ⟨c, inside, none⟩
          rw [plain c inside] at none
          cases none
        rw [← List.append_assoc, ← List.append_assoc] at same
        refine List.append_cancel_right (ih later ?_ ?_ same)
        · exact List.forall_mem_append.2 ⟨words, plain⟩
        · exact List.forall_mem_append.2 ⟨otherWords, plain⟩
      · -- In both texts the word characters at the front end within the literal.
        have stops (after : List Char) : (text ++ after).takeWhile Unicode.isWord = text.takeWhile Unicode.isWord := by
          rw [List.takeWhile_append, if_neg]
          intro whole
          exact plain (List.takeWhile_eq_self_iff.1 ((List.takeWhile_prefix _).eq_of_length whole))
        have fronts := congrArg (List.takeWhile Unicode.isWord) same
        rw [List.takeWhile_append_of_pos words, List.takeWhile_append_of_pos otherWords, stops, stops] at fronts
        exact List.append_cancel_right fronts

/-- The values that are filled in can be told from the result if they are kept apart. -/
theorem Divided.values_eq (divided : Divided found) (worded : Worded value) (otherWorded : Worded other)
    (same : filled value found = filled other found) : ∀ field ∈ fieldsOf found, value field = other field := by
  induction found with
  | nil => simp [fieldsOf]
  | cons piece rest ih =>
    cases piece with
    | literal text =>
      rw [filled_literal, filled_literal] at same
      exact ih divided (List.append_cancel_left same)
    | field field =>
      obtain ⟨parted, later⟩ := divided
      rw [filled_field, filled_field] at same
      -- What keeps the first field apart ends its value at the same place in both.
      have here := parted.run_eq (worded field).2 (otherWorded field).2 same
      rw [here] at same
      exact List.forall_mem_cons.2 ⟨here, ih later (List.append_cancel_left same)⟩

end Filling

section Reading

/-- The value of a field is a run of word characters in front of what the rest of the template matches. -/
theorem exists_of_fieldValues?_field (found : fieldValues? (.field field :: rest) s = some values) :
    ∃ run after later, run ≠ [] ∧ (∀ c ∈ run, Unicode.isWord c = true) ∧ s = run ++ after ∧
      fieldValues? rest after = some later ∧ values = (field, run) :: later := by
  rw [fieldValues?] at found
  obtain ⟨before, member, tried⟩ := List.exists_of_findSome?_eq_some found
  obtain ⟨later, matched, rfl⟩ := Option.map_eq_some_iff.1 tried
  have within : before + 1 ≤ (s.takeWhile Unicode.isWord).length := Nat.succ_le_of_lt (by simpa using member)
  -- The run that is taken is a beginning of the longest one, so that it has word characters only.
  have front : s.take (before + 1) = (s.takeWhile Unicode.isWord).take (before + 1) := by
    conv => lhs; rw [← List.takeWhile_append_dropWhile (p := Unicode.isWord) (l := s),
      List.take_append_of_le_length within]
  refine ⟨_, _, later, ?_, ?_, (List.take_append_drop (before + 1) s).symm, matched, rfl⟩
  · rw [front]
    have : 0 < (s.takeWhile Unicode.isWord).length := by omega
    simpa [List.take_eq_nil_iff] using List.length_pos_iff.1 this
  · intro c member
    rw [front] at member
    exact List.all_eq_true.1 List.all_takeWhile c (List.mem_of_mem_take member)

/-- A literal stands in front of what the rest of the template matches. -/
theorem fieldValues?_literal {text : List Char} :
    fieldValues? (.literal text :: rest) s = some values ↔ ∃ after, s = text ++ after ∧
      fieldValues? rest after = some values := by
  simp [fieldValues?, Option.bind_eq_some_iff, Text.stripPrefix?_eq_some_iff]

/-- A text that a template is filled to matches it. -/
theorem exists_fieldValues?_filled (worded : Worded value) (found : List Piece) :
    ∃ values, fieldValues? found (filled value found) = some values := by
  induction found with
  | nil => exact ⟨[], rfl⟩
  | cons piece rest ih =>
    obtain ⟨later, matched⟩ := ih
    cases piece with
    | literal text => exact ⟨later, fieldValues?_literal.2 ⟨_, rfl, matched⟩⟩
    | field field =>
      -- The value itself is among the beginnings that are tried.
      obtain ⟨nonempty, words⟩ := worded field
      obtain ⟨before, length⟩ : ∃ before, (value field).length = before + 1 :=
        Nat.exists_eq_succ_of_ne_zero (mt List.length_eq_zero_iff.1 nonempty)
      rw [← Option.isSome_iff_exists, fieldValues?, List.findSome?_isSome_iff]
      refine ⟨before, ?_, ?_⟩
      · rw [filled_field, List.takeWhile_append_of_pos words, List.mem_reverse, List.mem_range, List.length_append]
        omega
      · rw [filled_field, ← length, List.drop_left, matched]
        rfl

/-- A text that matches is filled with the values that are read from it, each of which stands for one field. -/
theorem exists_of_fieldValues? (once : (fieldsOf found).Nodup) (matched : fieldValues? found s = some values) :
    ∃ value, Worded value ∧ s = filled value found ∧
      values = (fieldsOf found).map fun field => (field, value field) := by
  induction found generalizing s values with
  | nil =>
    rw [fieldValues?] at matched
    split at matched
    · next empty =>
      obtain rfl := Option.some.inj matched
      have word : Unicode.isWord 'x' = true := by decide +kernel
      refine ⟨fun _ => ['x'], fun field => ⟨List.cons_ne_nil _ _, ?_⟩, by simpa [filled] using empty, rfl⟩
      simpa using word
    · cases matched
  | cons piece rest ih =>
    cases piece with
    | literal text =>
      obtain ⟨after, rfl, later⟩ := fieldValues?_literal.1 matched
      obtain ⟨value, worded, rfl, rfl⟩ := ih once later
      exact ⟨value, worded, rfl, rfl⟩
    | field field =>
      obtain ⟨run, after, more, nonempty, words, rfl, later, rfl⟩ := exists_of_fieldValues?_field matched
      obtain ⟨fresh, others⟩ := List.nodup_cons.1 once
      obtain ⟨value, worded, rfl, rfl⟩ := ih others later
      -- The fields behind this one are different from it, so that they keep their values.
      have kept : ∀ other ∈ fieldsOf rest, Function.update value field run other = value other := by
        intro other inside
        exact Function.update_of_ne (ne_of_mem_of_not_mem inside fresh) run value
      refine ⟨Function.update value field run, fun other => ?_, ?_, ?_⟩
      · by_cases same : other = field
        · rw [same, Function.update_self]
          exact ⟨nonempty, words⟩
        · rw [Function.update_of_ne same]
          exact worded other
      · rw [filled_field, Function.update_self, filled_congr kept]
      · rw [fieldsOf_field, List.map_cons, Function.update_self]
        refine congrArg _ (List.map_congr_left fun other inside => ?_)
        rw [kept other inside]

/-- A text matches a template that keeps the values of its fields apart if it is filled with some values, and then
these are read from it. -/
theorem fieldValues?_eq_some_iff (once : (fieldsOf found).Nodup) (divided : Divided found) :
    fieldValues? found s = some values ↔
      ∃ value, Worded value ∧ s = filled value found ∧
        values = (fieldsOf found).map fun field => (field, value field) := by
  refine ⟨exists_of_fieldValues? once, ?_⟩
  rintro ⟨value, worded, rfl, rfl⟩
  obtain ⟨values, matched⟩ := exists_fieldValues?_filled worded found
  obtain ⟨other, otherWorded, same, rfl⟩ := exists_of_fieldValues? once matched
  -- Some values are read from a filled text; since the fields are kept apart they are those that it was filled with.
  have equal := divided.values_eq worded otherWorded same
  rw [matched]
  exact congrArg some (List.map_congr_left fun field inside => by rw [equal field inside])

end Reading

section Captures

variable {format : Format} {space locale extension : String}

/-- The values of the three fields. -/
def valueOf (space locale extension : String) : Field → List Char
  | .space => space.toList
  | .locale => locale.toList
  | .format => extension.toList

/-- A rendered name is the template filled with the values. -/
theorem render_eq : format.render space locale extension =
    .ofList (filled (valueOf space locale extension) format.pieces) := by
  -- Piece by piece, with one case for each field.
  refine congrArg (fun write => String.ofList (format.pieces.flatMap write)) (funext fun piece => ?_)
  match piece with
  | .literal text => rfl
  | .field .space => rfl
  | .field .locale => rfl
  | .field .format => rfl

/-- Values that are spelled in word characters can be filled in. -/
theorem worded_valueOf (spaces : Spelled space) (locales : Spelled locale) (extensions : Spelled extension) :
    Worded (valueOf space locale extension) := by
  -- One case for each field.
  have each {text : String} (spelled : Spelled text) :
      text.toList ≠ [] ∧ ∀ c ∈ text.toList, Unicode.isWord c = true := ⟨by simpa using spelled.1, spelled.2⟩
  intro field
  cases field with
  | space => exact each spaces
  | locale => exact each locales
  | format => exact each extensions

/-- A field is found among the values exactly if it occurs. -/
theorem find?_values (value : Field → List Char) (fields : List Field) (field : Field) :
    (fields.map fun field => (field, value field)).find? (fun entry => entry.1 = field) =
      if field ∈ fields then some (field, value field) else none := by
  -- The first entry is the one of the field, or one of another field.
  induction fields with
  | nil => rfl
  | cons first rest ih =>
    rw [List.map_cons, List.find?_cons]
    by_cases here : first = field
    · simp [here]
    · simp [here, Ne.symm here, ih]

/-- A template has the fields that occur in it. -/
theorem has_iff : format.has field = true ↔ field ∈ fieldsOf format.pieces := by
  rw [Format.has, List.contains_iff_mem, mem_fieldsOf]

/-- What can be read of values: those of the fields that a template has. -/
def Format.captured (format : Format) (value : Field → List Char) : Captures :=
  { space := if format.has .space then some (.ofList (value .space)) else none
    locale := if format.has .locale then some (.ofList (value .locale)) else none
    format := if format.has .format then some (.ofList (value .format)) else none }

/-- A name matches a template that keeps the values of its fields apart if it is filled with some values, and then
these are read from it. -/
theorem captures?_eq_some_iff (once : (fieldsOf format.pieces).Nodup) (divided : Divided format.pieces) {name : String}
    {captures : Captures} : format.captures? name = some captures ↔
      ∃ value, Worded value ∧ name.toList = filled value format.pieces ∧ captures = format.captured value := by
  -- What is read of a field is its value if the template has the field, and nothing otherwise.
  have reads (value : Field → List Char) (field : Field) :
      (((fieldsOf format.pieces).map fun field => (field, value field)).find? fun entry => entry.1 = field).map
        (fun entry => String.ofList entry.2) = if format.has field then some (.ofList (value field)) else none := by
    rw [find?_values, apply_ite (Option.map _), Option.map_some, Option.map_none]
    exact if_congr has_iff.symm rfl rfl
  rw [Format.captures?, Option.map_eq_some_iff]
  constructor
  · rintro ⟨_, matched, rfl⟩
    obtain ⟨value, worded, same, rfl⟩ := (fieldValues?_eq_some_iff once divided).1 matched
    exact ⟨value, worded, same, by simp only [reads, Format.captured]⟩
  · rintro ⟨value, worded, same, rfl⟩
    refine ⟨_, (fieldValues?_eq_some_iff once divided).2 ⟨value, worded, same, rfl⟩, ?_⟩
    simp only [reads, Format.captured]

/-- Reading undoes rendering. If no field of a template occurs twice, and between neighbouring fields stands a character
that is none of words, a name matches exactly if it is rendered for three values in word characters; what is read from
it then are the values of the fields that the template has. -/
theorem captures?_iff_render (format : Format) (once : (fieldsOf format.pieces).Nodup)
    (divided : Divided format.pieces) (name : String) (captures : Captures) :
    format.captures? name = some captures ↔ ∃ space locale extension,
      Spelled space ∧ Spelled locale ∧ Spelled extension ∧ name = format.render space locale extension ∧
      captures =
        { space := if format.has .space then some space else none
          locale := if format.has .locale then some locale else none
          format := if format.has .format then some extension else none } := by
  rw [captures?_eq_some_iff once divided]
  constructor
  -- Values that match are three texts in word characters, and rendering fills the template with them.
  · rintro ⟨value, worded, same, rfl⟩
    refine ⟨_, _, _, worded.spelled .space, worded.spelled .locale, worded.spelled .format, ?_, rfl⟩
    rw [render_eq, ← String.toList_inj, same, String.toList_ofList]
    refine filled_congr fun field _ => ?_
    cases field <;> rw [valueOf, String.toList_ofList]
  -- Three texts in word characters are values that the template can be filled with.
  · rintro ⟨space, locale, extension, spaces, locales, extensions, same, rfl⟩
    refine ⟨_, worded_valueOf spaces locales extensions, ?_, ?_⟩
    · rw [same, render_eq, String.toList_ofList]
    · simp only [Format.captured, valueOf, String.ofList_toList]

/-- A literal of word characters beside the fields, and a value that ends as it begins. -/
theorem captures?_iff_render_versioned :
    (fieldsOf [.field .space, .literal ['_', 'v', '-'], .field .locale]).Nodup ∧
    Divided [.field .space, .literal ['_', 'v', '-'], .field .locale] ∧
    Format.captures? ⟨"\x7bnamespace\x7d_v-\x7blocale\x7d", [.field .space, .literal ['_', 'v', '-'], .field .locale]⟩
      "app_v_v-en" = some { space := some "app_v", locale := some "en", format := none } := by
  -- The hyphen of the literal ends the first value, which may hold underscores itself.
  have once : (fieldsOf [.field .space, .literal ['_', 'v', '-'], .field .locale]).Nodup := by decide
  have divided : Divided [.field .space, .literal ['_', 'v', '-'], .field .locale] :=
    ⟨.inl ⟨'-', by decide, by decide +kernel⟩, trivial, trivial⟩
  refine ⟨once, divided, (captures?_iff_render _ once divided _ _).2
    ⟨"app_v", "en", "yml", ?_, ?_, ?_, rfl, rfl⟩⟩ <;> decide +kernel

end Captures

end Phrasebook.Filename
