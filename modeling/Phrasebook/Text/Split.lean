/-! Cutting text at a delimiter: the first occurrence, the last one, all of them, or those in front. -/

namespace Phrasebook.Text

/-- What follows the given beginning, if the text starts with it. -/
def stripPrefix? : List Char → List Char → Option (List Char)
  | [], s => some s
  | _ :: _, [] => none
  | d :: ds, c :: cs => if d = c then stripPrefix? ds cs else none

/-- The beginning is found exactly where the text is that beginning and something more. -/
theorem stripPrefix?_eq_some_iff {d s rest : List Char} :
    stripPrefix? d s = some rest ↔ s = d ++ rest := by
  -- Both sides compare the two lists character by character.
  fun_induction stripPrefix? d s with
  | case1 => exact ⟨fun h => (Option.some.inj h), fun h => congrArg some h⟩
  | case2 => simp
  | case3 ds cs c ih => simp [ih]
  | case4 d ds c cs different => simp [Ne.symm different]

/-- A text that starts with the given beginning is longer than the rest by as much. -/
theorem length_of_stripPrefix? {d s rest : List Char} (found : stripPrefix? d s = some rest) :
    s.length = d.length + rest.length := by
  -- The text is the beginning followed by the rest.
  rw [stripPrefix?_eq_some_iff.1 found, List.length_append]

/-- The text before and after the first occurrence of the delimiter. -/
def breakOn? (d : List Char) : List Char → Option (List Char × List Char)
  | [] => if d.isEmpty then some ([], []) else none
  | c :: cs =>
    match stripPrefix? d (c :: cs) with
    | some rest => some ([], rest)
    | none => (breakOn? d cs).map fun (before, after) => (c :: before, after)

/-- A cut text is its two parts with the delimiter between them. -/
theorem eq_of_breakOn? {d s before after : List Char} (cut : breakOn? d s = some (before, after)) :
    s = before ++ d ++ after := by
  -- Each character skipped before the occurrence stands at the head of the first part.
  induction s generalizing before after with
  | nil =>
    simp only [breakOn?] at cut
    split at cut <;> simp_all
  | cons c cs ih =>
    simp only [breakOn?] at cut
    split at cut
    · next rest found =>
      obtain ⟨rfl, rfl⟩ := Prod.mk.inj (Option.some.inj cut)
      simpa using stripPrefix?_eq_some_iff.1 found
    · obtain ⟨⟨front, back⟩, inner, pair⟩ := Option.map_eq_some_iff.1 cut
      obtain ⟨rfl, rfl⟩ := Prod.mk.inj pair
      rw [ih inner]
      simp

/-- The text before and after the last occurrence of the delimiter. -/
def breakOnLast? (d : List Char) : List Char → Option (List Char × List Char)
  | [] => if d.isEmpty then some ([], []) else none
  | c :: cs =>
    match breakOnLast? d cs with
    | some (before, after) => some (c :: before, after)
    | none => (stripPrefix? d (c :: cs)).map fun after => ([], after)

/-- The pieces between the occurrences of a delimiter that is not empty, read from the left. -/
def cutAt (d : List Char) (nonempty : d ≠ []) (s : List Char) : List (List Char) :=
  match _cut : breakOn? d s with
  | none => [s]
  | some (before, after) => before :: cutAt d nonempty after
termination_by s.length
decreasing_by
  -- The delimiter itself is dropped together with the piece before it.
  have parts := congrArg List.length (eq_of_breakOn? _cut)
  have positive := List.length_pos_iff.2 nonempty
  simp only [List.length_append] at parts
  omega

/-- The pieces between the occurrences of the delimiter. An empty delimiter occurs before, between
and after all characters. -/
def splitOn (d s : List Char) : List (List Char) :=
  if nonempty : d ≠ [] then cutAt d nonempty s else [] :: s.map (fun c => [c]) ++ [[]]

/-- The text without the repetitions of the delimiter in front of it; an empty delimiter is left alone. -/
def dropRepeats (d s : List Char) : List Char :=
  if _nonempty : d ≠ [] then
    match _found : stripPrefix? d s with
    | some rest => dropRepeats d rest
    | none => s
  else s
termination_by s.length
decreasing_by
  -- Every repetition dropped is as long as the delimiter, which is not empty.
  have parts := length_of_stripPrefix? _found
  have positive := List.length_pos_iff.2 _nonempty
  omega

end Phrasebook.Text
