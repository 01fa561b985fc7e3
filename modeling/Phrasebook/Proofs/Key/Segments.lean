import Mathlib.Data.List.Induction
import Phrasebook.Key
import Phrasebook.Proofs.Text.Split

/-! The segments of keys: a key is taken apart into segments and put together from them again, all at once or name by
name below a namespace. -/

namespace Phrasebook.Key

section Spelling

variable {segments : List String} {delimiter : String}

/-- The key of some segments and one more. -/
theorem ofSegments_append (nonempty : segments ≠ []) (last : String) :
    ofSegments (segments ++ [last]) delimiter = ofSegments segments delimiter ++ delimiter ++ last := by
  -- The delimiter stands between two segments, so that the last one of the others needs a case of its own.
  induction segments with
  | nil => exact absurd rfl nonempty
  | cons segment rest ih =>
    cases rest with
    | nil => simp [ofSegments]
    | cons next others =>
      have more := congrArg String.toList (ih (List.cons_ne_nil next others))
      simp only [ofSegments, ← String.toList_inj, String.toList_append, String.toList_intercalate, List.cons_append,
        List.map_cons, List.intercalate_cons_cons] at more ⊢
      rw [more]
      simp only [List.append_assoc]

/-- The key of segments that are there is there. -/
theorem ofSegments_ne_empty (nonempty : segments ≠ []) (each : ∀ segment ∈ segments, segment ≠ "") :
    ofSegments segments delimiter ≠ "" := by
  -- The last segment alone makes it so.
  induction segments using List.reverseRecOn with
  | nil => exact absurd rfl nonempty
  | append_singleton rest last _ =>
    have some : last ≠ "" := each last (by simp)
    by_cases alone : rest = []
    · simpa [alone, ofSegments] using some
    · rw [ofSegments_append alone]
      simp [some]

/-- Names below a namespace are spelled one behind the other. -/
theorem foldl_join (nonempty : segments ≠ []) (each : ∀ segment ∈ segments, segment ≠ "") {names : List String}
    (others : ∀ name ∈ names, name ≠ "") :
    names.foldl (fun space name => join space name delimiter) (ofSegments segments delimiter) =
      ofSegments (segments ++ names) delimiter := by
  -- A namespace that is there is never the root, so each name is joined with a delimiter.
  induction names generalizing segments with
  | nil => simp
  | cons name rest ih =>
    have some : (ofSegments segments delimiter).isEmpty = false := by
      simpa using ofSegments_ne_empty nonempty each
    rw [List.foldl_cons, join, some, if_neg Bool.false_ne_true, ← ofSegments_append nonempty,
      ih (by simp) (by simpa [or_imp, forall_and] using ⟨each, others name List.mem_cons_self⟩)
        fun other member => others other (List.mem_cons_of_mem _ member), List.append_assoc, List.singleton_append]

/-- A key is taken apart into the segments that it was put together from if the delimiter separates them. -/
theorem segments_of_separates (some : delimiter ≠ "")
    (separated : Text.Separates delimiter.toList (segments.map String.toList)) :
    Key.segments (ofSegments segments delimiter) delimiter = segments := by
  -- What was joined with the delimiter is cut at it.
  rw [Key.segments, ofSegments, String.toList_intercalate, Text.splitOn_intercalate (by simpa using some) separated,
    List.map_map]
  simp [Function.comp_def]

/-- In particular it is if none of them has a character of the delimiter. -/
theorem segments_joined (some : delimiter ≠ "") (nonempty : segments ≠ [])
    (apart : ∀ segment ∈ segments, ∀ c ∈ segment.toList, c ∉ delimiter.toList) :
    Key.segments (ofSegments segments delimiter) delimiter = segments :=
  segments_of_separates some
    (Text.separates_of_disjoint (by simpa using some) (by simpa using nonempty) (by simpa using apart))

/-- A key is taken apart into the segments that it was put together from if none of them holds the delimiter. -/
theorem segments_ofSegments {d : Char} (nonempty : segments ≠ []) (plain : ∀ segment ∈ segments, d ∉ segment.toList) :
    Key.segments (ofSegments segments (.ofList [d])) (.ofList [d]) = segments := by
  -- A delimiter of one character separates what does not hold that character.
  refine segments_joined (by simp) nonempty fun segment member c inside same => ?_
  rw [String.toList_ofList, List.mem_singleton] at same
  exact plain segment member (same ▸ inside)

/-- A key is never without a segment. -/
theorem segments_ne_nil (key delimiter : String) : Key.segments key delimiter ≠ [] := by
  -- A cut leaves at least one piece, and without a delimiter every character is one.
  rw [Key.segments, Ne, List.map_eq_nil_iff, Text.splitOn]
  split
  · next nonempty => exact Text.cutAt_ne_nil nonempty key.toList
  · simp

/-- The segments of a key are separated by the delimiter. -/
theorem separates_segments (some : delimiter ≠ "") (key : String) :
    Text.Separates delimiter.toList ((Key.segments key delimiter).map String.toList) := by
  -- They are the pieces that the text of the key is cut into.
  have nonempty : delimiter.toList ≠ [] := by simpa using some
  rw [Key.segments, Text.splitOn, dif_pos nonempty, List.map_map]
  simpa [Function.comp_def] using Text.separates_cutAt nonempty key.toList

/-- A key is put together from its segments again. -/
theorem ofSegments_segments (some : delimiter ≠ "") (key : String) :
    ofSegments (Key.segments key delimiter) delimiter = key := by
  -- What was cut at a delimiter is joined with it.
  have nonempty : delimiter.toList ≠ [] := by simpa using some
  rw [← String.toList_inj, ofSegments, String.toList_intercalate, Key.segments, Text.splitOn, dif_pos nonempty,
    List.map_map]
  simpa [Function.comp_def] using Text.intercalate_cutAt nonempty key.toList

/-- Names below different namespaces make different keys. -/
theorem join_injective (some : delimiter ≠ "") {space other name : String}
    (same : join space name delimiter = join other name delimiter) : space = other := by
  have spelled (space : String) :
      join space name delimiter = (if space = "" then "" else space ++ delimiter) ++ name := by
    by_cases root : space = "" <;> simp [join, root]
  rw [spelled, spelled, String.append_left_inj] at same
  -- The root namespace adds nothing, and every other one at least the delimiter.
  by_cases root : space = "" <;> by_cases otherRoot : other = "" <;> simp_all

end Spelling

section Below

variable {delimiter space : String} {path other : List String}

/-- The key at the end of a path of names that starts at a namespace. -/
def below (space : String) (path : List String) (delimiter : String) : String :=
  path.foldl (fun space name => join space name delimiter) space

/-- A name that can be told apart from others in a key: it is not empty and shares no character with the delimiter. -/
def IsSegment (delimiter name : String) : Prop :=
  name ≠ "" ∧ ∀ c ∈ name.toList, c ∉ delimiter.toList

instance {name : String} : Decidable (IsSegment delimiter name) :=
  -- The characters of the name are gone through, not all there are.
  have _plain : Decidable (∀ c ∈ name.toList, c ∉ delimiter.toList) := List.decidableBAll _ _
  instDecidableAnd

/-- The key of a segment and more of them. -/
theorem ofSegments_cons (nonempty : path ≠ []) (first : String) :
    ofSegments (first :: path) delimiter = first ++ delimiter ++ ofSegments path delimiter := by
  -- Behind the first segment stands a delimiter, since there are others.
  cases path with
  | nil => exact absurd rfl nonempty
  | cons next rest =>
    simp only [ofSegments, ← String.toList_inj, String.toList_append, String.toList_intercalate, List.map_cons,
      List.intercalate_cons_cons]

/-- A path of names is spelled behind its namespace, and alone in the root namespace. -/
theorem below_eq (nonempty : path ≠ []) (each : ∀ name ∈ path, name ≠ "") :
    below space path delimiter = (if space = "" then "" else space ++ delimiter) ++ ofSegments path delimiter := by
  have single (name : String) : ofSegments [name] delimiter = name := by simp [ofSegments]
  by_cases root : space = ""
  · -- The first name stands alone, and the others follow it.
    cases path with
    | nil => exact absurd rfl nonempty
    | cons first rest =>
      obtain ⟨here, later⟩ := List.forall_mem_cons.1 each
      have joined : rest.foldl (fun space name => join space name delimiter) (ofSegments [first] delimiter) =
          ofSegments ([first] ++ rest) delimiter := foldl_join (List.cons_ne_nil first []) (by simpa using here) later
      rw [single] at joined
      rw [root, below, List.foldl_cons, join, if_pos (by decide), if_pos rfl, String.empty_append]
      exact joined
  · -- The namespace is a segment before all others.
    have joined : path.foldl (fun space name => join space name delimiter) (ofSegments [space] delimiter) =
        ofSegments ([space] ++ path) delimiter := foldl_join (List.cons_ne_nil space []) (by simpa using root) each
    rw [single, List.singleton_append, ofSegments_cons nonempty] at joined
    rw [if_neg root]
    exact joined

/-- Different paths of segments lead to different keys. -/
theorem below_injective (some : delimiter ≠ "") (nonempty : path ≠ []) (otherNonempty : other ≠ [])
    (each : ∀ name ∈ path, IsSegment delimiter name) (others : ∀ name ∈ other, IsSegment delimiter name)
    (same : below space path delimiter = below space other delimiter) : path = other := by
  rw [below_eq nonempty fun name member => (each name member).1,
    below_eq otherNonempty fun name member => (others name member).1] at same
  -- What is spelled behind the namespace is taken apart again.
  have spelled : ofSegments path delimiter = ofSegments other delimiter := by
    have characters := congrArg String.toList same
    simp only [String.toList_append] at characters
    exact String.toList_inj.1 (List.append_cancel_left characters)
  have segments : Key.segments (ofSegments path delimiter) delimiter =
      Key.segments (ofSegments other delimiter) delimiter := congrArg (Key.segments · delimiter) spelled
  rwa [segments_joined some nonempty fun name member => (each name member).2,
    segments_joined some otherNonempty fun name member => (others name member).2] at segments

end Below

end Phrasebook.Key
