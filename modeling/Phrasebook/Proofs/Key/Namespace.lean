import Phrasebook.Proofs.Key.Segments
import Phrasebook.Proofs.Resource.Visits
import Phrasebook.Template.Reference

/-! The namespace of a key, cut off at the last delimiter, and the segments of the key, cut off from the left. Both tell
the same namespace unless delimiters overlap at the end of the key. -/

namespace Phrasebook

namespace Text

variable {d : List Char}

/-- No beginning of a delimiter but all of it is an end of it, so that no two occurrences overlap. -/
def Unbordered (d : List Char) : Prop :=
  ∀ border, border <+: d → border <:+ d → border = [] ∨ border = d

/-- A delimiter has no border exactly if none ever overlaps one before a text that holds none. -/
theorem unbordered_iff (nonempty : d ≠ []) : Unbordered d ↔ ∀ s, ¬ d <:+: s → ¬ d <:+: d.tail ++ s := by
  have positive := List.length_pos_iff.2 nonempty
  constructor
  · rintro plain s absent ⟨before, after, whole⟩
    rw [List.append_assoc] at whole
    rcases List.append_eq_append_iff.1 whole with ⟨border, ends, begins⟩ | ⟨gap, _, within⟩
    · -- What two of them share is a border.
      have shorter : border.length < d.length := by
        have lengths := congrArg List.length ends
        simp only [List.length_append, List.length_tail] at lengths
        omega
      have isPrefix : border <+: d :=
        List.prefix_of_prefix_length_le ⟨s, begins.symm⟩ (List.prefix_append d after) (Nat.le_of_lt shorter)
      have isSuffix : border <:+ d := List.IsSuffix.trans ⟨before, ends.symm⟩ (List.tail_suffix d)
      rcases plain border isPrefix isSuffix with rfl | rfl
      · exact absent ⟨[], after, begins⟩
      · exact Nat.lt_irrefl _ shorter
    · exact absent ⟨gap, after, (List.append_assoc ..).trans within.symm⟩
  · rintro apart border ⟨back, begins⟩ ⟨front, ends⟩
    by_contra proper
    obtain ⟨some, rest⟩ := not_or.1 proper
    -- Behind the first of two that share the border the rest of the second one is too short to hold one.
    have absent : ¬ d <:+: back := by
      intro inside
      have lengths := inside.length_le
      rw [← begins, List.length_append] at lengths
      exact some (List.length_eq_zero_iff.1 (by omega))
    have there : front ≠ [] := by
      rintro rfl
      exact rest ends
    refine apart back absent ⟨front.tail, [], ?_⟩
    rw [List.append_nil, ← List.tail_append_of_ne_nil there, ← List.tail_append_of_ne_nil nonempty]
    conv_rhs => rw [← ends, List.append_assoc, begins]

end Text

namespace Key

variable {key delimiter last : String} {space : List String}

/-- The delimiter before the last segment of a key is the last one there is: none overlaps it from behind. -/
def Aligned (key delimiter : String) : Prop :=
  ∀ last ∈ (segments key delimiter).tail.getLast?, ¬ delimiter.toList <:+: delimiter.toList.tail ++ last.toList

instance : Decidable (Aligned key delimiter) :=
  inferInstanceAs (Decidable (∀ last ∈ (segments key delimiter).tail.getLast?,
    ¬ delimiter.toList <:+: delimiter.toList.tail ++ last.toList))

/-- A key is aligned if it has one segment, or if no delimiter overlaps the one before its last segment. -/
theorem aligned_iff (cut : segments key delimiter = space ++ [last]) :
    Aligned key delimiter ↔ space = [] ∨ ¬ delimiter.toList <:+: delimiter.toList.tail ++ last.toList := by
  -- A delimiter stands before the last segment unless it is the only one.
  cases space with
  | nil => simp [Aligned, cut]
  | cons first rest => simp [Aligned, cut]

/-- The last segment of a key holds no delimiter. -/
theorem absent_of_segments (some : delimiter ≠ "") (cut : segments key delimiter = space ++ [last]) :
    ¬ delimiter.toList <:+: last.toList := by
  -- What is cut from the left stops where no delimiter is left.
  have separated := separates_segments some key
  rw [cut, List.map_append] at separated
  exact (Text.separates_concat_iff.1 separated).2

/-- The segments before the last one are those of the key that they spell. -/
theorem segments_init (some : delimiter ≠ "") (cut : segments key delimiter = space ++ [last]) (below : space ≠ []) :
    segments (ofSegments space delimiter) delimiter = space := by
  -- The cuts before the last one are the first occurrences also without what follows them.
  have separated := separates_segments some key
  rw [cut, List.map_append] at separated
  exact segments_of_separates some (separated.init (by simpa using some) (by simpa using below))

/-- What stands before a delimiter in a key is its namespace exactly if no other delimiter overlaps that one from
behind. -/
theorem namespaceOf_append_iff (some : delimiter ≠ "") (front last : String) :
    namespaceOf (front ++ delimiter ++ last) delimiter = front ↔
      ¬ delimiter.toList <:+: delimiter.toList.tail ++ last.toList := by
  have nonempty : delimiter.toList ≠ [] := by simpa using some
  have spelled : (front ++ delimiter ++ last).toList = front.toList ++ (delimiter.toList ++ last.toList) := by simp
  rw [namespaceOf, spelled]
  constructor
  · intro same
    cases found : Text.breakOnLast? delimiter.toList (front.toList ++ (delimiter.toList ++ last.toList)) with
    | none => exact absurd ⟨_, _, List.append_assoc ..⟩ (Text.breakOnLast?_eq_none_iff.1 found)
    | some around =>
      -- A cut that leaves that front leaves the last segment behind it.
      obtain ⟨before, after⟩ := around
      obtain ⟨parts, final⟩ := (Text.breakOnLast?_eq_some_iff nonempty).1 found
      rw [found] at same
      have before : before = front.toList := by rw [← same, String.toList_ofList]
      rw [before] at parts
      rwa [List.append_cancel_left (List.append_cancel_left parts)]
  · intro final
    rw [Text.breakOnLast?_append nonempty final]
    exact String.ofList_toList

/-- The namespace of a key is spelled by the segments before the last one exactly if the key is aligned. -/
theorem namespaceOf_eq_iff (some : delimiter ≠ "") (key : String) :
    namespaceOf key delimiter = ofSegments (segments key delimiter).dropLast delimiter ↔ Aligned key delimiter := by
  obtain ⟨space, last, cut⟩ : ∃ space last, segments key delimiter = space ++ [last] :=
    ⟨_, _, (List.dropLast_concat_getLast (segments_ne_nil key delimiter)).symm⟩
  have whole := ofSegments_segments some key
  rw [cut] at whole
  rw [aligned_iff cut, cut, List.dropLast_concat]
  by_cases root : space = []
  · -- The key is its only segment, and there is no delimiter to cut it at.
    obtain rfl : last = key := by simpa [root, ofSegments] using whole
    rw [namespaceOf, Text.breakOnLast?_eq_none_iff.2 (absent_of_segments some cut)]
    simp [root, ofSegments]
  · rw [ofSegments_append root] at whole
    rw [← whole, namespaceOf_append_iff some]
    simp [root]

/-- All keys are aligned exactly if the delimiter has no border. -/
theorem forall_aligned_iff (some : delimiter ≠ "") :
    (∀ key, Aligned key delimiter) ↔ Text.Unbordered delimiter.toList := by
  rw [Text.unbordered_iff (by simpa using some)]
  constructor
  · -- Any text without the delimiter is the last segment of some key.
    intro aligned s absent
    have cut : segments (ofSegments ["", .ofList s] delimiter) delimiter = [""] ++ [.ofList s] :=
      segments_of_separates some ⟨Text.endsFirst_nil _, by simpa [Text.Separates] using absent⟩
    simpa using (aligned_iff cut).1 (aligned _)
  · intro apart key
    have cut := (List.dropLast_concat_getLast (segments_ne_nil key delimiter)).symm
    exact (aligned_iff cut).2 (.inr (apart _ (absent_of_segments some cut)))

/-- The first key that a relative reference may mean lies in the namespace that the segments before the last one spell.
-/
theorem head?_candidates (grammar : Grammar) (key target : String) :
    (grammar.candidates key (.relative target)).head? = some (join
      (ofSegments (segments key grammar.spaceText).dropLast grammar.spaceText) target grammar.spaceText) := by
  -- The greatest depth is tried first.
  have positive := List.length_pos_iff.2 (segments_ne_nil key grammar.spaceText)
  rw [Grammar.candidates, List.head?_map, List.head?_reverse, List.getLast?_range, if_neg (by omega), Option.map_some,
    List.dropLast_eq_take]

/-- Cutting a key at its last delimiter and cutting it from the left tell the same namespace exactly if the key is
aligned, and always exactly if the delimiter has no border. It depends on that whether the first key that a reference
may mean, and the segments that are searched for, are those of the namespace. -/
theorem namespaceOf_agrees_iff (delimiter : String) (some : delimiter ≠ "") :
    (∀ key, namespaceOf key delimiter = ofSegments (segments key delimiter).dropLast delimiter ↔
      Aligned key delimiter) ∧
    ((∀ key, namespaceOf key delimiter = ofSegments (segments key delimiter).dropLast delimiter) ↔
      Text.Unbordered delimiter.toList) ∧
    (∀ (grammar : Grammar) (key target : String), grammar.spaceText = delimiter →
      ((grammar.candidates key (.relative target)).head? = .some (join (namespaceOf key delimiter) target delimiter) ↔
        Aligned key delimiter)) ∧
    (∀ (query : Resource.Query) (key : String), query.settings.namespaceDelimiter = delimiter → query.space key ≠ [] →
      (query.space key = segments (namespaceOf key delimiter) delimiter ↔ Aligned key delimiter)) := by
  refine ⟨namespaceOf_eq_iff some, ?_, ?_, ?_⟩
  · simp only [namespaceOf_eq_iff some, forall_aligned_iff some]
  · -- A candidate tells the namespace that it lies in.
    rintro grammar key target rfl
    rw [head?_candidates, Option.some_inj, ← namespaceOf_eq_iff some, eq_comm]
    exact ⟨join_injective some, fun same => by rw [same]⟩
  · -- A namespace that is there is taken apart into the segments that spell it.
    rintro query key rfl below
    have cut := (List.dropLast_concat_getLast (segments_ne_nil key query.settings.namespaceDelimiter)).symm
    have init := segments_init some cut below
    rw [← namespaceOf_eq_iff some, Resource.Query.space]
    constructor
    · intro same
      rw [same, ofSegments_segments some]
    · intro same
      rw [same, init]

/-- A colon too many in front of a segment does no harm before the last delimiter. -/
theorem namespaceOf_agrees_iff_colons :
    "::" ≠ "" ∧ Aligned ":::a::b" "::" ∧
      namespaceOf ":::a::b" "::" = ofSegments (segments ":::a::b" "::").dropLast "::" ∧
      ofSegments (segments ":::a::b" "::").dropLast "::" = ":::a" := by
  have aligned : Aligned ":::a::b" "::" := by decide +kernel
  exact ⟨by decide, aligned, ((namespaceOf_agrees_iff "::" (by decide)).1 _).2 aligned, by decide +kernel⟩

/-- Where two delimiters overlap at the end of a key the namespace is not what the segments before the last one spell.
-/
theorem namespaceOf_overlapping :
    segments "a:::b" "::" = ["a", ":b"] ∧ namespaceOf "a:::b" "::" = "a:" ∧
      namespaceOf "a:::b" "::" ≠ ofSegments (segments "a:::b" "::").dropLast "::" := by
  decide +kernel

end Key

end Phrasebook
