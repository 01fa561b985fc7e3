import Phrasebook.Text.Split

/-! Cutting text at a delimiter: of one character, or of any length. What is written for each character of a text. -/

namespace Phrasebook.Text

section Char

variable {d : Char} {s before after : List Char}

/-- A text without the delimiter is not cut. -/
theorem breakOn?_eq_none (absent : d ∉ s) : breakOn? [d] s = none := by
  -- The delimiter is found at none of the characters.
  induction s with
  | nil => rfl
  | cons c rest ih =>
    simp only [List.mem_cons, not_or] at absent
    simp [breakOn?, stripPrefix?, absent.1, ih absent.2]

/-- A text is cut at the first delimiter. -/
theorem breakOn?_eq_some (absent : d ∉ before) :
    breakOn? [d] (before ++ d :: after) = some (before, after) := by
  -- The characters before it are skipped one by one.
  induction before with
  | nil => simp [breakOn?, stripPrefix?]
  | cons c rest ih =>
    simp only [List.mem_cons, not_or] at absent
    simp [breakOn?, stripPrefix?, absent.1, ih absent.2]

/-- The first character of a kind cuts a text in one way only. -/
theorem append_cons_inj {p : Char → Bool} {x y : Char} {a b rest other : List Char}
    (same : a ++ x :: rest = b ++ y :: other) (left : ∀ c ∈ a, p c = true) (right : ∀ c ∈ b, p c = true)
    (first : p x = false) (second : p y = false) : a = b ∧ x = y ∧ rest = other := by
  -- What stands before the first character of the other kind is the longest run of this kind, in both.
  have front := congrArg (List.takeWhile p) same
  rw [List.takeWhile_append_of_pos left, List.takeWhile_append_of_pos right,
    List.takeWhile_cons_of_neg (by simp [first]), List.takeWhile_cons_of_neg (by simp [second]),
    List.append_nil, List.append_nil] at front
  subst front
  simpa using same

/-- A beginning without the delimiter stands before it. -/
theorem exists_of_append_cons {x : Char} {a front rest : List Char} (absent : x ∉ front)
    (same : a ++ x :: after = front ++ rest) : ∃ b, a = front ++ b ∧ rest = b ++ x :: after := by
  -- Otherwise the delimiter would be the first character behind a part of the beginning.
  rcases List.append_eq_append_iff.1 same with ⟨b, whole, split⟩ | ⟨b, whole, split⟩
  · cases b with
    | nil => exact ⟨[], by simpa using whole.symm, by simpa using split.symm⟩
    | cons y more =>
      obtain ⟨rfl, -⟩ := List.cons.inj split
      simp [whole] at absent
  · exact ⟨b, whole, split⟩

end Char

section Delimiter

variable {d s before after : List Char}

/-- In a text with a delimiter put behind it the delimiter occurs at the end and nowhere before. -/
def EndsFirst (d s : List Char) : Prop :=
  ∀ before after, s ++ d = before ++ (d ++ after) → before = s

/-- No delimiter stands at the front where none can be taken off. -/
theorem stripPrefix?_eq_none_iff : stripPrefix? d s = none ↔ ¬ d <+: s := by
  -- What is taken off is the front, whatever is left behind it.
  rw [Option.eq_none_iff_forall_ne_some]
  constructor
  · rintro absent ⟨rest, whole⟩
    exact absent rest (stripPrefix?_eq_some_iff.2 whole.symm)
  · intro absent rest found
    exact absent ⟨rest, (stripPrefix?_eq_some_iff.1 found).symm⟩

/-- Nothing stands before a delimiter at the front. -/
theorem endsFirst_nil (d : List Char) : EndsFirst d [] := by
  -- The delimiter alone leaves no room for anything before it.
  intro before after same
  have lengths := congrArg List.length same
  simp only [List.nil_append, List.length_append] at lengths
  exact List.length_eq_zero_iff.1 (by omega)

/-- A text is cut in one way only where the delimiter occurs first. -/
theorem EndsFirst.eq_of_append {other more : List Char} (first : EndsFirst d before) (otherFirst : EndsFirst d other)
    (same : before ++ (d ++ after) = other ++ (d ++ more)) : before = other := by
  -- The shorter part with its delimiter would otherwise lie within the longer one with its own.
  rw [← List.append_assoc, ← List.append_assoc] at same
  rcases List.append_eq_append_iff.1 same with ⟨gap, longer, _⟩ | ⟨gap, longer, _⟩
  · exact otherFirst before gap (by rw [longer, List.append_assoc])
  · exact (first other gap (by rw [longer, List.append_assoc])).symm

/-- Where a text is cut the delimiter occurs first. -/
theorem endsFirst_of_breakOn? (cut : breakOn? d s = some (before, after)) : EndsFirst d before := by
  -- Each character skipped before the occurrence starts none.
  induction s generalizing before after with
  | nil =>
    simp only [breakOn?] at cut
    split at cut
    · next empty =>
      obtain ⟨rfl, rfl⟩ := Prod.mk.inj (Option.some.inj cut)
      exact endsFirst_nil d
    · simp at cut
  | cons c rest ih =>
    simp only [breakOn?] at cut
    split at cut
    · obtain ⟨rfl, rfl⟩ := Prod.mk.inj (Option.some.inj cut)
      exact endsFirst_nil d
    · next absent =>
      obtain ⟨⟨front, back⟩, inner, pair⟩ := Option.map_eq_some_iff.1 cut
      obtain ⟨rfl, rfl⟩ := Prod.mk.inj pair
      intro earlier later same
      cases earlier with
      | nil =>
        -- The text would start with the delimiter.
        have here : c :: rest = d ++ (later ++ back) := by
          rw [eq_of_breakOn? inner, ← List.append_assoc, ← List.nil_append (d ++ later), ← same]
          simp
        rw [stripPrefix?_eq_some_iff.2 here] at absent
        simp at absent
      | cons x more =>
        obtain ⟨rfl, tail⟩ := List.cons.inj same
        rw [ih inner more later tail]

/-- A text without the delimiter is not cut. -/
theorem breakOn?_eq_none_iff : breakOn? d s = none ↔ ¬ d <:+: s := by
  -- The delimiter stands at the front, or within the rest.
  induction s with
  | nil => cases d <;> simp [breakOn?]
  | cons c rest ih =>
    rw [breakOn?, List.infix_cons_iff, not_or, ← ih, ← stripPrefix?_eq_none_iff]
    cases stripPrefix? d (c :: rest) <;> simp

/-- A text is cut where the delimiter occurs first. -/
theorem breakOn?_append (first : EndsFirst d before) (after : List Char) :
    breakOn? d (before ++ (d ++ after)) = some (before, after) := by
  cases cut : breakOn? d (before ++ (d ++ after)) with
  -- The delimiter does occur, so that the text is cut; and an occurrence that comes first is the only such one.
  | none => exact absurd ⟨before, after, by rw [List.append_assoc]⟩ (breakOn?_eq_none_iff.1 cut)
  | some around =>
    obtain ⟨front, back⟩ := around
    have parts := eq_of_breakOn? cut
    rw [List.append_assoc] at parts
    obtain rfl := first.eq_of_append (endsFirst_of_breakOn? cut) parts
    rw [List.append_cancel_left (List.append_cancel_left parts)]

/-- A text behind which the delimiter occurs first does not hold it. -/
theorem EndsFirst.absent (nonempty : d ≠ []) (first : EndsFirst d s) : ¬ d <:+: s := by
  -- Otherwise it would occur before the one behind the text.
  rintro ⟨front, back, rfl⟩
  have lengths := congrArg List.length (first front (back ++ d) (by simp only [List.append_assoc]))
  have positive := List.length_pos_iff.2 nonempty
  simp only [List.length_append] at lengths
  omega

/-- Parts that can be told apart again once the delimiter stands between them: it occurs first behind each part
but the last one, and not at all in that one. -/
def Separates (d : List Char) : List (List Char) → Prop
  | [] => False
  | [last] => ¬ d <:+: last
  | part :: next :: more => EndsFirst d part ∧ Separates d (next :: more)

/-- A last part is separated from others if the delimiter occurs first behind each of these and not in itself. -/
theorem separates_concat_iff {parts : List (List Char)} {last : List Char} :
    Separates d (parts ++ [last]) ↔ (∀ part ∈ parts, EndsFirst d part) ∧ ¬ d <:+: last := by
  -- The induction follows the definition, which treats the last part by itself.
  induction parts with
  | nil => simp [Separates]
  | cons part rest ih =>
    obtain ⟨next, others, more⟩ : ∃ next others, rest ++ [last] = next :: others := by
      cases rest <;> simp
    rw [List.cons_append, more, Separates, ← more, ih, List.forall_mem_cons, and_assoc]

/-- Without the last one of several parts the others are separated. -/
theorem Separates.init (nonempty : d ≠ []) {parts : List (List Char)} {last : List Char}
    (separated : Separates d (parts ++ [last])) (some : parts ≠ []) : Separates d parts := by
  -- Behind the last of the others stood a delimiter, and so there is none in it.
  obtain ⟨each, _⟩ := separates_concat_iff.1 separated
  rw [← List.dropLast_concat_getLast some] at each ⊢
  exact separates_concat_iff.2 ⟨fun part member => each part (List.mem_append_left _ member),
    (each _ (List.mem_append_right _ List.mem_cons_self)).absent nonempty⟩

/-- Behind a text without any character of the delimiter the delimiter occurs first. -/
theorem endsFirst_of_disjoint (nonempty : d ≠ []) (apart : ∀ c ∈ s, c ∉ d) : EndsFirst d s := by
  intro before after same
  rcases List.append_eq_append_iff.1 same with ⟨gap, longer, rest⟩ | ⟨gap, whole, rest⟩
  · -- The delimiter is as long as itself, so that nothing is left for the gap.
    have lengths := congrArg List.length rest
    simp only [List.length_append] at lengths
    have none : gap = [] := List.length_eq_zero_iff.1 (by omega)
    rw [longer, none, List.append_nil]
  · cases gap with
    | nil => rw [whole, List.append_nil]
    | cons c more =>
      -- Otherwise the first character of the delimiter would stand in the text.
      cases delimiter : d with
      | nil => exact absurd delimiter nonempty
      | cons first others =>
        rw [delimiter] at rest
        obtain ⟨rfl, -⟩ := List.cons.inj rest
        exact absurd (by simp [delimiter]) (apart first (by simp [whole]))

/-- Before a text without any character of the delimiter only a whole delimiter makes one occur. -/
theorem not_infix_tail_append (nonempty : d ≠ []) (apart : ∀ c ∈ s, c ∉ d) : ¬ d <:+: d.tail ++ s := by
  rintro ⟨before, after, whole⟩
  have positive := List.length_pos_iff.2 nonempty
  rcases List.append_eq_append_iff.1 whole with ⟨gap, inside, _⟩ | ⟨gap, beyond, rest⟩
  · have lengths := congrArg List.length inside
    simp only [List.length_append, List.length_tail] at lengths
    omega
  · -- The delimiter would end within the text, with a character of both.
    have some : gap ≠ [] := by
      rintro rfl
      have lengths := congrArg List.length beyond
      simp only [List.length_append, List.length_tail, List.length_nil] at lengths
      omega
    have final := congrArg List.getLast? beyond
    rw [List.getLast?_append, List.getLast?_append, List.getLast?_eq_some_getLast nonempty,
      List.getLast?_eq_some_getLast some, Option.some_or, Option.some_or] at final
    exact apart (gap.getLast some) (rest ▸ List.mem_append_left _ (List.getLast_mem some))
      (Option.some.inj final ▸ List.getLast_mem nonempty)

/-- A delimiter that shares no character with some parts separates them. -/
theorem separates_of_disjoint (nonempty : d ≠ []) {parts : List (List Char)} (some : parts ≠ [])
    (apart : ∀ part ∈ parts, ∀ c ∈ part, c ∉ d) : Separates d parts := by
  induction parts with
  | nil => exact absurd rfl some
  | cons part more ih =>
    obtain ⟨here, later⟩ := List.forall_mem_cons.1 apart
    cases more with
    | nil =>
      -- The first character of the delimiter is not in the last part.
      intro inside
      obtain ⟨c, member⟩ := List.exists_mem_of_ne_nil d nonempty
      exact here c (inside.subset member) member
    | cons next others =>
      exact ⟨endsFirst_of_disjoint nonempty here, ih (List.cons_ne_nil next others) later⟩

/-- A text has a piece before its first delimiter, or is one itself. -/
theorem cutAt_ne_nil (nonempty : d ≠ []) (s : List Char) : cutAt d nonempty s ≠ [] := by
  rw [cutAt]
  split <;> exact List.cons_ne_nil _ _

/-- Pieces with the delimiter put between them again are the text that was cut. -/
theorem intercalate_cutAt (nonempty : d ≠ []) (s : List Char) : d.intercalate (cutAt d nonempty s) = s := by
  -- Along the cuts: what is before the delimiter is a piece, and what is behind it is cut on.
  fun_induction cutAt d nonempty s with
  | case1 s absent => simp
  | case2 s before after cut ih =>
    obtain ⟨next, others, pieces⟩ := List.exists_cons_of_ne_nil (cutAt_ne_nil nonempty after)
    rw [eq_of_breakOn? cut, pieces, List.intercalate_cons_cons, ← pieces, ih]

/-- The pieces of a text are separated by the delimiter at which it is cut. -/
theorem separates_cutAt (nonempty : d ≠ []) (s : List Char) : Separates d (cutAt d nonempty s) := by
  -- The induction follows the cutting from one occurrence to the next.
  fun_induction cutAt d nonempty s with
  | case1 s absent => exact breakOn?_eq_none_iff.1 absent
  | case2 s before after cut ih =>
    obtain ⟨next, others, pieces⟩ := List.exists_cons_of_ne_nil (cutAt_ne_nil nonempty after)
    rw [pieces] at ih ⊢
    exact ⟨endsFirst_of_breakOn? cut, ih⟩

/-- Cutting at the delimiter undoes writing it between parts that it separates. -/
theorem splitOn_intercalate (nonempty : d ≠ []) {parts : List (List Char)} (separated : Separates d parts) :
    splitOn d (d.intercalate parts) = parts := by
  rw [splitOn, dif_pos nonempty]
  induction parts with
  | nil => exact separated.elim
  | cons part more ih =>
    rw [cutAt]
    -- The last part has no delimiter, and every other one ends where the delimiter behind it occurs first.
    cases more with
    | nil =>
      split
      · simp
      · next cut => simp [breakOn?_eq_none_iff.2 separated] at cut
    | cons next others =>
      have cut := breakOn?_append separated.1 (d.intercalate (next :: others))
      rw [List.intercalate_cons_cons, List.append_assoc]
      split
      · next absent => simp [cut] at absent
      · next front back same =>
        rw [cut] at same
        obtain ⟨rfl, rfl⟩ := Prod.mk.inj (Option.some.inj same)
        rw [ih separated.2]

/-- A text is cut at a last delimiter exactly where there is one. -/
theorem breakOnLast?_eq_none_iff : breakOnLast? d s = none ↔ ¬ d <:+: s := by
  -- The delimiter stands within the rest, or else at the front.
  induction s with
  | nil => cases d <;> simp [breakOnLast?]
  | cons c rest ih =>
    rw [breakOnLast?, List.infix_cons_iff, not_or, ← ih, ← stripPrefix?_eq_none_iff]
    cases breakOnLast? d rest <;> simp

/-- A text is cut at a delimiter if none occurs further behind, where it may overlap that one. -/
theorem breakOnLast?_append (nonempty : d ≠ []) (last : ¬ d <:+: d.tail ++ after) (before : List Char) :
    breakOnLast? d (before ++ (d ++ after)) = some (before, after) := by
  -- The characters before the delimiter are kept one by one.
  induction before with
  | nil =>
    cases d with
    | nil => exact absurd rfl nonempty
    | cons first others =>
      have absent : breakOnLast? (first :: others) (others ++ after) = none := breakOnLast?_eq_none_iff.2 last
      have found : stripPrefix? (first :: others) (first :: (others ++ after)) = some after :=
        stripPrefix?_eq_some_iff.2 rfl
      simp [breakOnLast?, absent, found]
  | cons c rest ih => simp [breakOnLast?, ih]

/-- Where a text is cut at the last delimiter there is one, and none further behind. -/
theorem breakOnLast?_eq_some_iff (nonempty : d ≠ []) :
    breakOnLast? d s = some (before, after) ↔ s = before ++ (d ++ after) ∧ ¬ d <:+: d.tail ++ after := by
  refine ⟨fun cut => ?_, fun ⟨whole, last⟩ => whole ▸ breakOnLast?_append nonempty last before⟩
  -- A delimiter within the rest is preferred to one at the front.
  induction s generalizing before with
  | nil => simp [breakOnLast?, nonempty] at cut
  | cons c rest ih =>
    rw [breakOnLast?] at cut
    split at cut
    · next front back inner =>
      obtain ⟨rfl, rfl⟩ := Prod.mk.inj (Option.some.inj cut)
      obtain ⟨rfl, last⟩ := ih inner
      exact ⟨rfl, last⟩
    · next absent =>
      -- What is left of the text behind its first character holds no delimiter.
      obtain ⟨back, found, pair⟩ := Option.map_eq_some_iff.1 cut
      obtain ⟨rfl, rfl⟩ := Prod.mk.inj pair
      have whole := stripPrefix?_eq_some_iff.1 found
      have tail : rest = d.tail ++ back := by
        simpa [List.tail_append_of_ne_nil nonempty] using congrArg List.tail whole
      exact ⟨whole, tail ▸ breakOnLast?_eq_none_iff.1 absent⟩

end Delimiter

/-- A text is cut at the last character that is the delimiter. -/
theorem breakOnLast?_eq_some {d : Char} {after : List Char} (absent : d ∉ after) (before : List Char) :
    breakOnLast? [d] (before ++ d :: after) = some (before, after) :=
  breakOnLast?_append (List.cons_ne_nil d []) (fun inside => absent (inside.subset List.mem_cons_self)) before

/-- What stands in a joined text stands in the separator or in one of the parts. -/
theorem mem_intercalate {α : Type} {x : α} {separator : List α} {parts : List (List α)}
    (member : x ∈ separator.intercalate parts) :
    x ∈ separator ∨ ∃ part ∈ parts, x ∈ part := by
  induction parts with
  | nil => cases member
  | cons part rest ih =>
    -- Behind the last part stands no separator.
    cases rest with
    | nil => exact .inr ⟨part, List.mem_cons_self, by simpa using member⟩
    | cons next rest =>
      rw [List.intercalate_cons_cons, List.mem_append, List.mem_append] at member
      rcases member with (own | between) | later
      · exact .inr ⟨part, List.mem_cons_self, own⟩
      · exact .inl between
      · exact (ih later).imp_right fun ⟨other, inside, within⟩ => ⟨other, List.mem_cons_of_mem _ inside, within⟩

/-- A text does not get shorter if every character is written as some characters. -/
theorem length_le_flatMap {α β : Type} {write : α → List β} (some : ∀ c, write c ≠ []) (text : List α) :
    text.length ≤ (text.flatMap write).length := by
  -- Character by character, each of which is written as at least one.
  induction text with
  | nil => exact Nat.le_refl _
  | cons c rest ih =>
    have positive := List.length_pos_iff.2 (some c)
    simp only [List.flatMap_cons, List.length_append, List.length_cons]
    omega

end Phrasebook.Text
