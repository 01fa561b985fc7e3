import Phrasebook.Proofs.Key.Namespace
import Phrasebook.Proofs.Settings.Valid

/-! The keys that a relative reference may mean: its target in the namespaces around the key that holds the reference,
from the innermost one outward to the root. -/

namespace Phrasebook

namespace Key

variable {delimiter : String} {path : List String}

/-- Names below the root are spelled one behind the other. -/
theorem below_root (each : ∀ name ∈ path, name ≠ "") : below "" path delimiter = ofSegments path delimiter := by
  -- The root itself is the key of no segments.
  by_cases some : path = []
  · simp [some, below, ofSegments]
  · rw [below_eq some each, if_pos rfl, String.empty_append]

section Segments

variable (some : delimiter ≠ "") (each : ∀ name ∈ path, IsSegment delimiter name)
include some each

/-- A path of segments is taken apart into them. -/
theorem segments_below (nonempty : path ≠ []) : segments (below "" path delimiter) delimiter = path := by
  rw [below_root fun name member => (each name member).1]
  exact segments_joined some nonempty fun name member => (each name member).2

/-- The namespace of a path of segments is spelled by all of them but the last one. -/
theorem namespaceOf_below (nonempty : path ≠ []) :
    namespaceOf (below "" path delimiter) delimiter = below "" path.dropLast delimiter := by
  have cut := segments_below some each nonempty
  have aligned : Aligned (below "" path delimiter) delimiter := by
    -- A delimiter cannot overlap another one by characters of the last segment.
    rw [aligned_iff (cut.trans (List.dropLast_concat_getLast nonempty).symm)]
    exact .inr (Text.not_infix_tail_append (by simpa using some) (each _ (List.getLast_mem nonempty)).2)
  rw [(namespaceOf_eq_iff some _).2 aligned, cut,
    below_root fun name member => (each name (List.dropLast_subset path member)).1]

end Segments

/-- Different paths of segments are different keys, also where one of them is the root. -/
theorem below_root_injective (some : delimiter ≠ "") {other : List String}
    (each : ∀ name ∈ path, IsSegment delimiter name) (others : ∀ name ∈ other, IsSegment delimiter name)
    (same : below "" path delimiter = below "" other delimiter) : path = other := by
  -- Only the root is the empty key, and other keys are taken apart into their paths.
  have there {path : List String} (each : ∀ name ∈ path, IsSegment delimiter name) (nonempty : path ≠ []) :
      below "" path delimiter ≠ "" := by
    rw [below_root fun name member => (each name member).1]
    exact ofSegments_ne_empty nonempty fun name member => (each name member).1
  by_cases root : path = []
  · by_cases otherRoot : other = []
    · rw [root, otherRoot]
    · exact absurd (by rw [← same, root, below, List.foldl_nil]) (there others otherRoot)
  · by_cases otherRoot : other = []
    · exact absurd (by rw [same, otherRoot, below, List.foldl_nil]) (there each root)
    · exact below_injective some root otherRoot each others same

end Key

namespace Grammar

variable {grammar : Grammar} {path : List String}

section Candidates

variable (some : grammar.spaceText ≠ "") (each : ∀ name ∈ path, Key.IsSegment grammar.spaceText name)
  (nonempty : path ≠ []) (target : String)
include some each nonempty

/-- A reference found under a path of segments is looked for in the namespaces that its beginnings spell. -/
theorem candidates_below : grammar.candidates (Key.below "" path grammar.spaceText) (.relative target) =
    (List.range path.length).reverse.map fun depth =>
      Key.join (Key.below "" (path.take depth) grammar.spaceText) target grammar.spaceText := by
  -- The key is taken apart into the path, and its beginnings are spelled as the path's are.
  rw [candidates, Key.segments_below some each nonempty]
  refine List.map_congr_left fun depth _ => ?_
  rw [Key.below_root fun name member => (each name (List.mem_of_mem_take member)).1]

/-- These keys are different. -/
theorem nodup_candidates :
    (grammar.candidates (Key.below "" path grammar.spaceText) (.relative target)).Nodup := by
  rw [candidates_below some each nonempty]
  refine List.Nodup.map_on (fun depth member other otherMember same => ?_) (List.nodup_reverse.2 List.nodup_range)
  -- The key tells the namespace, and this how many segments it has.
  have begin (depth : Nat) : ∀ name ∈ path.take depth, Key.IsSegment grammar.spaceText name :=
    fun name member => each name (List.mem_of_mem_take member)
  have lengths := congrArg List.length
    (Key.below_root_injective some (begin depth) (begin other) (Key.join_injective some same))
  simp only [List.mem_reverse, List.mem_range, List.length_take] at member otherMember lengths
  omega

/-- The last of them is the target alone. -/
theorem getLast?_candidates :
    (grammar.candidates (Key.below "" path grammar.spaceText) (.relative target)).getLast? = .some target := by
  -- The smallest depth is tried last, and the root namespace adds nothing to the target.
  have positive := List.length_pos_iff.2 nonempty
  rw [candidates_below some each nonempty, List.getLast?_map, List.getLast?_reverse, List.head?_range,
    if_neg (by omega)]
  rfl

end Candidates

/-- For a delimiter that passes the check of settings, a path of segments is taken apart into them, its namespace is
the path without the last one, and a relative reference found there may mean its target in the namespaces around, one
for each number of segments from all but the last one down to none. These keys are different, and the last is the
target itself. -/
theorem candidates_outward (settings : Settings) (valid : settings.validate = .ok ()) (path : List String)
    (nonempty : path ≠ []) (each : ∀ name ∈ path, Key.IsSegment settings.namespaceDelimiter name) :
    let delimiter := settings.namespaceDelimiter
    let key := Key.below "" path delimiter
    Key.segments key delimiter = path ∧
      Key.namespaceOf key delimiter = Key.below "" path.dropLast delimiter ∧
      ∀ target,
        let candidates := (ofSettings settings).candidates key (.relative target)
        candidates = (List.range path.length).reverse.map (fun depth =>
            Key.join (Key.below "" (path.take depth) delimiter) target delimiter) ∧
          candidates.length = path.length ∧ candidates.Nodup ∧ candidates.getLast? = some target := by
  -- The delimiter passes the check, so that it is not empty; the facts on paths of segments then apply.
  have text : (ofSettings settings).spaceText = settings.namespaceDelimiter := String.ofList_toList
  have some : settings.namespaceDelimiter ≠ "" := (Settings.delimiter_of_validate valid .space).1
  refine ⟨Key.segments_below some each nonempty, Key.namespaceOf_below some each nonempty, fun target => ?_⟩
  rw [← text] at some each ⊢
  have outward := candidates_below some each nonempty target
  refine ⟨outward, ?_, nodup_candidates some each nonempty target, getLast?_candidates some each nonempty target⟩
  rw [outward, List.length_map, List.length_reverse, List.length_range]

/-- A reference in the third of three segments is looked for at three depths, also if its target has segments itself. -/
theorem candidates_outward_colons :
    let settings : Settings := { namespaceDelimiter := "::" }
    settings.validate = .ok () ∧ Key.below "" ["app", "menu.main", "exit"] "::" = "app::menu.main::exit" ∧
      Key.namespaceOf "app::menu.main::exit" "::" = "app::menu.main" ∧
      (ofSettings settings).candidates "app::menu.main::exit" (.relative "labels::close") =
        ["app::menu.main::labels::close", "app::labels::close", "labels::close"] ∧
      ["app::menu.main::labels::close", "app::labels::close", "labels::close"].Nodup := by
  intro settings
  have valid : settings.validate = .ok () := by decide +kernel
  have spelled : Key.below "" ["app", "menu.main", "exit"] "::" = "app::menu.main::exit" := by decide +kernel
  obtain ⟨-, space, tried⟩ :=
    candidates_outward settings valid ["app", "menu.main", "exit"] (by decide) (by decide +kernel)
  obtain ⟨keys, -, different, -⟩ := tried "labels::close"
  -- The keys spelled out are those of the path.
  rw [show settings.namespaceDelimiter = "::" from rfl, spelled] at space keys different
  have listed : (ofSettings settings).candidates "app::menu.main::exit" (.relative "labels::close") =
      ["app::menu.main::labels::close", "app::labels::close", "labels::close"] := by
    rw [keys]
    decide +kernel
  refine ⟨valid, spelled, ?_, listed, listed ▸ different⟩
  rw [space]
  decide +kernel

end Grammar

end Phrasebook
