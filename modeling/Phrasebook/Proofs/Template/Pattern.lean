import Mathlib.Data.List.Basic
import Phrasebook.Text.Split

/-! Patterns of text, and the order in which a backtracking search tries the ways to match one. The ways
that are tried are those in which the front of a text is in the language of the pattern. -/

namespace Phrasebook

/-- What a part of a pattern is remembered for. -/
inductive Capture where
  | escaped
  | braced
  | named
  | invalid
deriving DecidableEq, Repr

/-- A pattern that a part of a text may match. -/
inductive Pattern where
  /-- The empty text. -/
  | nothing
  /-- A single character of a class. -/
  | char (accepts : Char → Bool)
  | seq (first second : Pattern)
  /-- One of two, preferably the first. -/
  | prefer (first second : Pattern)
  /-- Any number of times, preferably as often as possible. -/
  | many (inner : Pattern)
  | capture (name : Capture) (inner : Pattern)

/-- A way to match a pattern at the front of a text: what has been captured, and what is left behind it. -/
structure Reading where
  captured : List (Capture × List Char)
  rest : List Char
deriving DecidableEq, Repr

namespace Reading

/-- A reading and one of what it leaves. -/
def andThen (one two : Reading) : Reading :=
  ⟨one.captured ++ two.captured, two.rest⟩

/-- What has been captured under a name. -/
def captured? (one : Reading) (name : Capture) : Option (List Char) :=
  (one.captured.find? fun entry => entry.1 = name).map Prod.snd

/-- Of two readings the second tells what is left. -/
@[simp] theorem andThen_rest (one two : Reading) : (one.andThen two).rest = two.rest :=
  rfl

/-- A reading without captures adds none. -/
@[simp] theorem mk_nil_andThen (rest : List Char) (two : Reading) : (⟨[], rest⟩ : Reading).andThen two = two :=
  rfl

end Reading

namespace Pattern

/-- A text written out. -/
def literal : List Char → Pattern
  | [] => nothing
  | c :: rest => seq (char (· == c)) (literal rest)

/-- A pattern, or nothing if it does not match. -/
def optional (pattern : Pattern) : Pattern :=
  prefer pattern nothing

/-- The readings of a step taken any number of times, those that take it more often in front. A step that
reads nothing is not repeated. -/
def repeated (step : List Char → List Reading) (s : List Char) : List Reading :=
  ((step s).flatMap fun one =>
    if _shorter : one.rest.length < s.length then (repeated step one.rest).map one.andThen else []) ++
  [⟨[], s⟩]
termination_by s.length

/-- All readings of a pattern at the front of a text, in the order in which they are preferred. -/
def readings : Pattern → List Char → List Reading
  | nothing, s => [⟨[], s⟩]
  | char _, [] => []
  | char accepts, c :: rest => if accepts c then [⟨[], rest⟩] else []
  | seq first second, s => (first.readings s).flatMap fun one => (second.readings one.rest).map one.andThen
  | prefer first second, s => first.readings s ++ second.readings s
  | many inner, s => repeated inner.readings s
  | capture name inner, s => (inner.readings s).map fun one =>
      ⟨(name, s.take (s.length - one.rest.length)) :: one.captured, one.rest⟩

/-- The preferred reading of a pattern at the front of a text. -/
def first? (pattern : Pattern) (s : List Char) : Option Reading :=
  (pattern.readings s).head?

/-- The leftmost place where a pattern matches: the text before it, and the preferred reading there. -/
def search? (pattern : Pattern) (s : List Char) : Option (List Char × Reading) :=
  match pattern.first? s with
  | some one => some ([], one)
  | none =>
    match s with
    | [] => none
    | c :: rest => (search? pattern rest).map fun (before, one) => (c :: before, one)

/-- The texts that a pattern stands for. -/
inductive Matches : Pattern → List Char → Prop where
  | nothing : Matches nothing []
  | char {accepts : Char → Bool} {c : Char} (accepted : accepts c = true) : Matches (char accepts) [c]
  | seq {first second : Pattern} {a b : List Char} (front : Matches first a) (back : Matches second b) :
    Matches (seq first second) (a ++ b)
  | first {first second : Pattern} {a : List Char} (fits : Matches first a) : Matches (prefer first second) a
  | second {first second : Pattern} {a : List Char} (fits : Matches second a) : Matches (prefer first second) a
  | done {inner : Pattern} : Matches (many inner) []
  | more {inner : Pattern} {a b : List Char} (front : Matches inner a) (others : Matches (many inner) b) :
    Matches (many inner) (a ++ b)
  | capture {name : Capture} {inner : Pattern} {a : List Char} (fits : Matches inner a) :
    Matches (capture name inner) a

section Language

variable {s : List Char}

/-- What is read by repeating a step is in the language of the repetition, if this holds of every step. -/
theorem matches_of_mem_repeated {inner : Pattern} {one : Reading}
    (step : ∀ s, ∀ one ∈ inner.readings s, ∃ read, s = read ++ one.rest ∧ Matches inner read)
    (found : one ∈ repeated inner.readings s) :
    ∃ read, s = read ++ one.rest ∧ Matches (many inner) read := by
  -- The induction is on the length of the text, which every step that is repeated makes shorter.
  induction length : s.length using Nat.strongRecOn generalizing s one with
  | ind size ih =>
    rw [repeated, List.mem_append, List.mem_flatMap] at found
    rcases found with ⟨first, member, found⟩ | found
    · split at found
      · next shorter =>
        obtain ⟨later, others, rfl⟩ := List.mem_map.1 found
        obtain ⟨front, split, fits⟩ := step s first member
        obtain ⟨back, rest, repeats⟩ := ih _ (length ▸ shorter) others rfl
        refine ⟨front ++ back, ?_, .more fits repeats⟩
        rw [split, rest, Reading.andThen_rest, List.append_assoc]
      · exact absurd found List.not_mem_nil
    · obtain rfl := List.mem_singleton.1 found
      exact ⟨[], rfl, .done⟩

/-- What is read of a text is in the language of the pattern. -/
theorem matches_of_mem_readings {pattern : Pattern} {one : Reading} (found : one ∈ pattern.readings s) :
    ∃ read, s = read ++ one.rest ∧ Matches pattern read := by
  -- Case by case along the definition of the readings.
  induction pattern generalizing s one with
  | nothing =>
    obtain rfl := List.mem_singleton.1 found
    exact ⟨[], rfl, .nothing⟩
  | char accepts =>
    cases s with
    | nil => exact absurd found List.not_mem_nil
    | cons c rest =>
      rw [readings, List.mem_ite_nil_right, List.mem_singleton] at found
      obtain ⟨accepted, rfl⟩ := found
      exact ⟨[c], rfl, .char accepted⟩
  | seq first second ihFirst ihSecond =>
    obtain ⟨before, member, found⟩ := List.mem_flatMap.1 found
    obtain ⟨after, later, rfl⟩ := List.mem_map.1 found
    obtain ⟨front, split, fits⟩ := ihFirst member
    obtain ⟨back, rest, others⟩ := ihSecond later
    refine ⟨front ++ back, ?_, .seq fits others⟩
    rw [split, rest, Reading.andThen_rest, List.append_assoc]
  | prefer first second ihFirst ihSecond =>
    rcases List.mem_append.1 found with found | found
    · obtain ⟨read, split, fits⟩ := ihFirst found
      exact ⟨read, split, .first fits⟩
    · obtain ⟨read, split, fits⟩ := ihSecond found
      exact ⟨read, split, .second fits⟩
  | many inner ih => exact matches_of_mem_repeated (fun _ _ => ih) found
  | capture name inner ih =>
    obtain ⟨inside, member, rfl⟩ := List.mem_map.1 found
    obtain ⟨read, split, fits⟩ := ih member
    exact ⟨read, split, .capture fits⟩

/-- A text in the language of a pattern is read whatever stands behind it. -/
theorem exists_reading {pattern : Pattern} {read : List Char} (fits : Matches pattern read) (rest : List Char) :
    ∃ one ∈ pattern.readings (read ++ rest), one.rest = rest := by
  -- What stands behind the first of two parts is the second one with the rest.
  induction fits generalizing rest with
  | nothing => exact ⟨_, List.mem_singleton_self _, rfl⟩
  | @char accepts c accepted => exact ⟨⟨[], rest⟩, by simp [readings, accepted], rfl⟩
  | @seq first second a b _ _ ihFirst ihSecond =>
    obtain ⟨before, member, left⟩ := ihFirst (b ++ rest)
    obtain ⟨after, later, rfl⟩ := ihSecond rest
    refine ⟨before.andThen after, List.mem_flatMap.2 ⟨before, ?_, List.mem_map.2 ⟨after, left ▸ later, rfl⟩⟩, rfl⟩
    rwa [List.append_assoc]
  | first _ ih =>
    obtain ⟨one, member, left⟩ := ih rest
    exact ⟨one, List.mem_append_left _ member, left⟩
  | second _ ih =>
    obtain ⟨one, member, left⟩ := ih rest
    exact ⟨one, List.mem_append_right _ member, left⟩
  | @done inner =>
    refine ⟨⟨[], rest⟩, ?_, rfl⟩
    rw [readings, repeated]
    exact List.mem_append_right _ (List.mem_singleton_self _)
  | @more inner a b _ _ ihFront ihOthers =>
    obtain ⟨before, member, left⟩ := ihFront (b ++ rest)
    obtain ⟨after, later, rfl⟩ := ihOthers rest
    by_cases empty : a = []
    · -- A step that reads nothing adds nothing to the others.
      exact ⟨after, by simpa [empty] using later, rfl⟩
    · refine ⟨before.andThen after, ?_, rfl⟩
      rw [readings, repeated]
      refine List.mem_append_left _ (List.mem_flatMap.2 ⟨before, by rwa [List.append_assoc], ?_⟩)
      have positive := List.length_pos_iff.2 empty
      -- A step that reads something makes the text shorter, so that it is repeated.
      rw [dif_pos (by simp only [left, List.length_append]; omega)]
      exact List.mem_map.2 ⟨after, left ▸ later, rfl⟩
  | @capture name inner a _ ih =>
    obtain ⟨one, member, left⟩ := ih rest
    exact ⟨_, List.mem_map.2 ⟨one, member, rfl⟩, left⟩

/-- What a reading leaves is no longer than the text. -/
theorem length_le_of_mem_readings {pattern : Pattern} {one : Reading} (found : one ∈ pattern.readings s) :
    one.rest.length ≤ s.length := by
  obtain ⟨read, rfl, _⟩ := matches_of_mem_readings found
  simp

/-- A text written out is in the language of its pattern. -/
theorem matches_literal (d : List Char) : Matches (literal d) d := by
  -- Character by character.
  induction d with
  | nil => exact .nothing
  | cons c rest ih => exact .seq (a := [c]) (.char (beq_self_eq_true c)) ih

/-- Characters of a class are in the language of its repetition. -/
theorem matches_many_char {accepts : Char → Bool} (accepted : ∀ c ∈ s, accepts c = true) :
    Matches (many (char accepts)) s := by
  -- Character by character.
  induction s with
  | nil => exact .done
  | cons c rest ih =>
    refine .more (a := [c]) (.char (accepted c (List.mem_cons_self ..))) (ih fun later member => ?_)
    exact accepted later (List.mem_cons_of_mem _ member)

/-- No character class of a pattern accepts the given character. -/
def Avoids (x : Char) : Pattern → Prop
  | nothing => True
  | char accepts => accepts x = false
  | seq first second => first.Avoids x ∧ second.Avoids x
  | prefer first second => first.Avoids x ∧ second.Avoids x
  | many inner => inner.Avoids x
  | capture _ inner => inner.Avoids x

/-- A character that is accepted nowhere in a pattern is in none of its texts. -/
theorem not_mem_of_matches {pattern : Pattern} {read : List Char} {x : Char} (fits : Matches pattern read)
    (avoids : pattern.Avoids x) : x ∉ read := by
  -- By how the text matches: the characters of a text are those that some class has accepted.
  induction fits with
  | nothing => simp
  | @char accepts c accepted =>
    rintro member
    obtain rfl := List.mem_singleton.1 member
    rw [Avoids, accepted] at avoids
    exact absurd avoids nofun
  | seq _ _ ihFirst ihSecond => simp [ihFirst avoids.1, ihSecond avoids.2]
  | first _ ih => exact ih avoids.1
  | second _ ih => exact ih avoids.2
  | done => simp
  | more _ _ ihFront ihOthers => simp [ihFront avoids, ihOthers avoids]
  | capture _ ih => exact ih avoids

/-- A text written out avoids the characters that are not in it. -/
theorem avoids_literal {d : List Char} {x : Char} (absent : x ∉ d) : (literal d).Avoids x := by
  -- Character by character, each of which is accepted by a class of its own only.
  induction d with
  | nil => trivial
  | cons c rest ih =>
    rw [List.mem_cons, not_or] at absent
    exact ⟨beq_eq_false_iff_ne.2 absent.1, ih absent.2⟩

end Language

section Search

variable {α β : Type} {goal other : Reading → Option α} {s : List Char} {pattern first second inner : Pattern}

/-- What the preferred one of the readings that lead to a goal gives. -/
def find? (pattern : Pattern) (goal : Reading → Option α) (s : List Char) : Option α :=
  (pattern.readings s).findSome? goal

/-- A search in lists of lists looks for the first list that holds what is searched for. -/
theorem findSome?_flatMap {γ δ : Type} (items : List γ) (parts : γ → List δ) (f : δ → Option α) :
    (items.flatMap parts).findSome? f = items.findSome? fun item => (parts item).findSome? f := by
  -- List by list: what is found in the first one ends the search.
  induction items with
  | nil => rfl
  | cons item rest ih =>
    rw [List.flatMap_cons, List.findSome?_append, ih, List.findSome?_cons]
    cases found : (parts item).findSome? f with
    | none => rfl
    | some x => rfl

/-- The preferred reading is found if any will do. -/
theorem find?_some (pattern : Pattern) (s : List Char) : pattern.find? some s = pattern.first? s := by
  unfold find? first?
  cases pattern.readings s <;> rfl

/-- What is found comes from a reading that leads to the goal. -/
theorem exists_of_find? {x : α} (found : pattern.find? goal s = some x) :
    ∃ one ∈ pattern.readings s, goal one = some x :=
  List.exists_of_findSome?_eq_some found

/-- Something is found if some reading leads to the goal. -/
theorem find?_isSome {one : Reading} (member : one ∈ pattern.readings s) (reached : (goal one).isSome) :
    (pattern.find? goal s).isSome :=
  List.findSome?_isSome_iff.2 ⟨one, member, reached⟩

/-- Goals that are reached by the same readings find the same. -/
theorem find?_congr (same : ∀ one ∈ pattern.readings s, goal one = other one) :
    pattern.find? goal s = pattern.find? other s := by
  -- Only the list of the readings counts.
  unfold find?
  generalize pattern.readings s = found at same
  induction found with
  | nil => rfl
  | cons one others ih =>
    rw [List.findSome?_cons, List.findSome?_cons, same one (List.mem_cons_self ..),
      ih fun later member => same later (List.mem_cons_of_mem _ member)]

/-- What a goal gives may be changed behind the search. -/
theorem find?_map (f : α → β) : pattern.find? (fun one => (goal one).map f) s = (pattern.find? goal s).map f :=
  List.map_findSome?.symm

/-- Nothing is read, and what is left is everything. -/
@[simp] theorem find?_nothing : nothing.find? goal s = goal ⟨[], s⟩ := by
  simp [find?, readings]

/-- At the end there is no character. -/
@[simp] theorem find?_char_nil (accepts : Char → Bool) : (char accepts).find? goal [] = none :=
  rfl

/-- A character is read if it is accepted. -/
@[simp] theorem find?_char_cons (accepts : Char → Bool) (c : Char) (rest : List Char) :
    (char accepts).find? goal (c :: rest) = if accepts c then goal ⟨[], rest⟩ else none := by
  unfold find? readings
  split <;> simp

/-- Behind every reading of the first pattern the second one is searched for the goal. -/
theorem find?_seq : (seq first second).find? goal s =
    first.find? (fun one => second.find? (fun two => goal (one.andThen two)) one.rest) s := by
  simp only [find?, readings, findSome?_flatMap, List.findSome?_map]
  rfl

/-- The second pattern is tried if the first leads nowhere. -/
theorem find?_prefer : (prefer first second).find? goal s = (first.find? goal s).or (second.find? goal s) :=
  List.findSome?_append

/-- A pattern that may be missing is tried first. -/
theorem find?_optional : (optional pattern).find? goal s = (pattern.find? goal s).or (goal ⟨[], s⟩) := by
  rw [optional, find?_prefer, find?_nothing]

/-- A capture is what the inner pattern has read. -/
theorem find?_capture (name : Capture) : (capture name inner).find? goal s =
    inner.find? (fun one => goal ⟨(name, s.take (s.length - one.rest.length)) :: one.captured, one.rest⟩) s :=
  List.findSome?_map

/-- A repetition goes on behind a step that has read something, or else ends. -/
theorem find?_many : (many inner).find? goal s =
    (inner.find? (fun one => if one.rest.length < s.length
      then (many inner).find? (fun two => goal (one.andThen two)) one.rest else none) s).or (goal ⟨[], s⟩) := by
  simp only [find?, readings]
  rw [repeated, List.findSome?_append, findSome?_flatMap]
  congr 1
  · -- Behind a step that has read something, the readings are those of the repetition.
    congr 1
    funext one
    split
    · exact List.findSome?_map
    · rfl
  · simp

/-- A text written out is read by taking it off the front. -/
theorem find?_literal (d : List Char) : (literal d).find? goal s =
    (Text.stripPrefix? d s).bind fun rest => goal ⟨[], rest⟩ := by
  -- Character by character, each of which is read or ends the attempt.
  induction d generalizing s with
  | nil => simp [literal, Text.stripPrefix?]
  | cons c more ih =>
    rw [literal, find?_seq]
    cases s with
    | nil => rfl
    | cons x rest =>
      by_cases same : c = x
      · simp [same, Text.stripPrefix?, ih]
      · simp [same, Ne.symm same, Text.stripPrefix?]

/-- Characters of a class are all read if the goal is reached at none of them. -/
theorem find?_many_char (accepts : Char → Bool) (stops : ∀ c rest, accepts c = true → goal ⟨[], c :: rest⟩ = none) :
    (many (char accepts)).find? goal s = goal ⟨[], s.dropWhile accepts⟩ := by
  -- The longest run is tried first; shorter ones would have to reach the goal in front of an accepted character.
  induction s with
  | nil => rw [find?_many]; simp
  | cons c rest ih =>
    rw [find?_many]
    by_cases accepted : accepts c = true
    · simp [accepted, ih, stops c rest]
    · simp [accepted]

end Search

end Pattern

end Phrasebook
