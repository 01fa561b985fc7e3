import Mathlib.Data.List.Forall2
import Mathlib.Data.List.Range
import Phrasebook.Proofs.Rendering.Members

/-! Ranges of variants. Whatever its ends are, a range is brought within the list before anything is cut out of it, and
the texts are those that its positions have on their own; the first position without a text decides about an error. -/

namespace Phrasebook

namespace Bound

/-- Whether a position is in a range that starts here. -/
def starts (position : Nat) : Bound → Bool
  | .included start => start ≤ position
  | .excluded start => start < position
  | .unbounded => true

/-- Whether a position is in a range that ends here. -/
def ends (position : Nat) : Bound → Bool
  | .included stop => position ≤ stop
  | .excluded stop => position < stop
  | .unbounded => true

/-- Whether the position that an end names is one that there is. -/
def Named : Bound → Prop
  | .included position => position ≤ greatest
  | .excluded position => position ≤ greatest
  | .unbounded => True

variable {position size : Nat}

/-- No position behind another one is beyond the greatest. -/
theorem following_le (position : Nat) : following position ≤ greatest := by
  rw [following]
  split <;> omega

/-- What a range starts with is a position. -/
theorem first_le {start : Bound} (named : start.Named) : start.first ≤ greatest := by
  -- One case for each kind of bound; the position behind an excluded one is kept from running over.
  cases start with
  | included position => exact named
  | excluded position => exact following_le position
  | unbounded => exact Nat.zero_le _

/-- What is behind a range is a position if the number of all positions is one. -/
theorem behind_le (fits : size ≤ greatest) {stop : Bound} (named : stop.Named) : stop.behind size ≤ greatest := by
  -- One case for each kind of bound; the position behind an included one is kept from running over.
  cases stop with
  | included position => exact following_le position
  | excluded position => exact named
  | unbounded => exact fits

/-- A position that is not the greatest one is behind another one exactly if it is not before the next one. -/
theorem following_le_iff {start : Nat} (small : position < greatest) :
    following start ≤ position ↔ start < position := by
  rw [following]
  split <;> omega

/-- The positions of a range start at its first one. -/
theorem starts_iff (small : position < greatest) (start : Bound) :
    start.starts position = true ↔ start.first ≤ position := by
  -- One case for each kind of bound.
  cases start with
  | included start => simp [starts, first]
  | excluded start => simp [starts, first, following_le_iff small]
  | unbounded => simp [starts, first]

/-- The positions of a range end before the one behind it. -/
theorem ends_iff (small : position < greatest) (inside : position < size) (stop : Bound) :
    stop.ends position = true ↔ position < stop.behind size := by
  -- One case for each kind of bound.
  cases stop with
  | included stop =>
    have next : following stop ≤ position ↔ stop < position := following_le_iff small
    simp only [ends, behind, decide_eq_true_eq]
    omega
  | excluded stop => simp [ends, behind]
  | unbounded => simp [ends, behind, inside]

end Bound

namespace VariantSet

variable {set : VariantSet} {start stop : Bound}

/-- The positions of a range below the number of variants, in increasing order. -/
def within (set : VariantSet) (start stop : Bound) : List Nat :=
  (List.range set.size).filter fun position => start.starts position && stop.ends position

/-- The positions between two others follow each other. -/
theorem filter_range {first behind size : Nat} (ordered : first ≤ behind) (inside : behind ≤ size) :
    (List.range size).filter (fun position => first ≤ position ∧ position < behind) =
      ((List.range size).take behind).drop first := by
  have cut : ((List.range size).take behind).drop first = List.range' first (behind - first) := by
    rw [List.take_range, Nat.min_eq_left inside, List.range_eq_range', List.drop_range']
    simp
  -- The positions are those before the first one, those between, and those from the one behind on.
  have upper : List.range' first (behind - first) ++ List.range' behind (size - behind) =
      List.range' first (size - first) := by
    have parts := List.range'_append_1 (s := first) (m := behind - first) (n := size - behind)
    rw [Nat.add_sub_cancel' ordered] at parts
    rw [parts]
    congr 1
    omega
  have whole : List.range size = List.range' 0 first ++
      (List.range' first (behind - first) ++ List.range' behind (size - behind)) := by
    have parts := List.range'_append_1 (s := 0) (m := first) (n := size - first)
    rw [Nat.zero_add, Nat.add_sub_cancel' (ordered.trans inside)] at parts
    rw [upper, parts, List.range_eq_range']
  rw [cut, whole, List.filter_append, List.filter_append, List.filter_eq_nil_iff.2, List.filter_eq_self.2,
    List.filter_eq_nil_iff.2, List.nil_append, List.append_nil]
  all_goals
    intro position member
    rw [List.mem_range'_1] at member
    simp only [decide_eq_true_eq]
    omega

/-- What is cut out for a range are the members at its positions. -/
theorem exists_cutOut? (fits : set.size ≤ Bound.greatest) (start stop : Bound) :
    ∃ members, set.cutOut? start stop = some members ∧
      (set.within start stop).map set.get? = members.map fun member => some (set.formatter.formatVariant member) := by
  have inside : min start.first set.size ≤ set.size := Nat.min_le_right _ _
  -- The range that is cut out, which lies within the list.
  obtain ⟨first, firstEq⟩ : ∃ first, first = min start.first set.size := ⟨_, rfl⟩
  obtain ⟨behind, behindEq⟩ : ∃ behind, behind = max first (min (stop.behind set.size) set.size) := ⟨_, rfl⟩
  have ordered : first ≤ behind := by omega
  have bounded : behind ≤ set.size := by omega
  have cut : set.cutOut? start stop = some ((set.members.take behind).drop first) := by
    rw [cutOut?, clamp?, if_pos inside, Option.bind_some, cut?, ← firstEq, ← behindEq, if_pos ⟨ordered, bounded⟩]
  have positions : set.within start stop = ((List.range set.size).take behind).drop first := by
    rw [← filter_range ordered bounded, within]
    refine List.filter_congr fun position member => ?_
    have below : position < set.size := List.mem_range.1 member
    have small : position < Bound.greatest := by omega
    rw [Bool.eq_iff_iff, Bool.and_eq_true, Bound.starts_iff small, Bound.ends_iff small below, decide_eq_true_eq]
    omega
  refine ⟨_, cut, ?_⟩
  -- Going through all positions gives what the members give.
  have all : (List.range set.size).map set.get? =
      set.members.map fun member => some (set.formatter.formatVariant member) := by
    refine List.ext_getElem (by simp [size]) fun position _ below => ?_
    rw [List.length_map] at below
    simp [get?, below]
  rw [positions, List.map_drop, List.map_take, all, ← List.map_take, ← List.map_drop]

/-- A slice goes through what is cut out for its range. -/
theorem slice_eq {members : List Variant} (cut : set.cutOut? start stop = some members) :
    set.slice start stop = members.mapM set.formatter.formatVariant := by
  rw [slice, Option.get_of_eq_some _ cut]

/-- The positions of a range increase. -/
theorem within_increasing (set : VariantSet) (start stop : Bound) : (set.within start stop).Pairwise (· < ·) :=
  List.Pairwise.filter _ List.pairwise_lt_range

/-- A slice has texts exactly if all its positions have, and these are its texts. -/
theorem slice_eq_ok_iff (fits : set.size ≤ Bound.greatest) {texts : List String} :
    set.slice start stop = .ok texts ↔
      (set.within start stop).map set.get? = texts.map fun text => some (.ok text) := by
  -- A slice is the texts of what is cut out, one after the other.
  obtain ⟨members, cut, gives⟩ := exists_cutOut? fits start stop
  rw [slice_eq cut, gives, Traversal.mapM_eq_ok_iff, ← List.forall₂_eq_eq_eq, List.forall₂_map_left_iff,
    List.forall₂_map_right_iff]
  simp only [Option.some.injEq]

/-- A slice without texts has the error of a position in front of which all have a text. -/
theorem exists_of_slice_eq_error (fits : set.size ≤ Bound.greatest) {error : Error}
    (fails : set.slice start stop = .error error) :
    ∃ position ∈ set.within start stop, set.get? position = some (.error error) ∧
      ∀ earlier ∈ set.within start stop, earlier < position → ∃ text, set.get? earlier = some (.ok text) := by
  obtain ⟨members, cut, gives⟩ := exists_cutOut? fits start stop
  rw [slice_eq cut, Traversal.mapM_eq_error_iff] at fails
  obtain ⟨front, member, back, rfl, texts, fails⟩ := fails
  rw [List.map_append, List.map_cons, List.map_eq_append_iff] at gives
  obtain ⟨before, rest, whole, fronts, backs⟩ := gives
  obtain ⟨position, after, rfl, here, -⟩ := List.map_eq_cons_iff.1 backs
  have increasing := set.within_increasing start stop
  rw [whole, List.pairwise_append, List.pairwise_cons] at increasing
  refine ⟨position, by simp [whole], by rw [here, fails], fun earlier member less => ?_⟩
  -- What is smaller than the position stands in front of it.
  rw [whole, List.mem_append, List.mem_cons] at member
  rcases member with inFront | rfl | behind
  · have inside : set.get? earlier ∈ before.map set.get? := List.mem_map_of_mem inFront
    rw [fronts] at inside
    obtain ⟨other, held, same⟩ := List.mem_map.1 inside
    obtain ⟨text, gives⟩ := texts other held
    exact ⟨text, by rw [← same, gives]⟩
  · exact absurd less (lt_irrefl _)
  · exact absurd (increasing.2.1.1 earlier behind) (not_lt.2 less.le)

/-- A slice has no texts exactly if a position of it has none, and then the error is that of the first one. -/
theorem slice_eq_error_iff (fits : set.size ≤ Bound.greatest) {error : Error} :
    set.slice start stop = .error error ↔ ∃ position ∈ set.within start stop,
      set.get? position = some (.error error) ∧
      ∀ earlier ∈ set.within start stop, earlier < position → ∃ text, set.get? earlier = some (.ok text) := by
  refine ⟨exists_of_slice_eq_error fits, ?_⟩
  rintro ⟨position, member, fails, earlier⟩
  have unlike {text : String} (gives : set.get? position = some (.ok text)) : False := by
    rw [fails] at gives
    cases gives
  cases result : set.slice start stop with
  | ok texts =>
    -- All positions would have a text.
    have inside : set.get? position ∈ (set.within start stop).map set.get? := List.mem_map_of_mem member
    rw [(slice_eq_ok_iff fits).1 result] at inside
    obtain ⟨text, -, gives⟩ := List.mem_map.1 inside
    exact (unlike gives.symm).elim
  | error other =>
    -- Of two positions without a text neither is before the other if both are the first one.
    obtain ⟨first, firstMember, firstFails, before⟩ := exists_of_slice_eq_error fits result
    rcases lt_trichotomy first position with less | rfl | greater
    · obtain ⟨text, gives⟩ := earlier first firstMember less
      rw [firstFails] at gives
      cases gives
    · rw [firstFails] at fails
      cases fails
      rfl
    · obtain ⟨text, gives⟩ := before position member greater
      exact (unlike gives).elim

/-- Slices of variants, whatever the ends of their ranges are. Every step of a slice can be made, and none goes beyond
the greatest position. It has the texts that the positions of the range have on their own, in increasing order, if all
of them have one, and otherwise the error of the first position that has none. All variants are the slice of all
positions. -/
theorem slice_within (set : VariantSet) (fits : set.size ≤ Bound.greatest) (start stop : Bound) :
    (∃ members, set.cutOut? start stop = some members ∧
      set.slice start stop = members.mapM set.formatter.formatVariant) ∧
    (start.Named → start.first ≤ Bound.greatest) ∧ (stop.Named → stop.behind set.size ≤ Bound.greatest) ∧
    (∀ texts, set.slice start stop = .ok texts ↔
      (set.within start stop).map set.get? = texts.map fun text => some (.ok text)) ∧
    (∀ error, set.slice start stop = .error error ↔ ∃ position ∈ set.within start stop,
      set.get? position = some (.error error) ∧
      ∀ earlier ∈ set.within start stop, earlier < position → ∃ text, set.get? earlier = some (.ok text)) ∧
    set.formatAll = set.slice .unbounded .unbounded ∧ set.within .unbounded .unbounded = List.range set.size := by
  -- The parts have been proved one by one; a range without bounds holds all positions.
  obtain ⟨members, cut⟩ := Option.isSome_iff_exists.1 (set.isSome_cutOut? start stop)
  refine ⟨⟨members, cut, slice_eq cut⟩, Bound.first_le, Bound.behind_le fits, fun texts => slice_eq_ok_iff fits,
    fun error => slice_eq_error_iff fits, rfl, ?_⟩
  exact List.filter_eq_self.2 fun position _ => rfl

/-- Three variants, of which the one in the middle is no template. -/
def broken : VariantSet :=
  ⟨[.text "one", .text "%", .text "three"], .cart none⟩

/-- From behind the first variant up to the greatest position there is, the second one decides. -/
theorem slice_within_broken : broken.size ≤ Bound.greatest ∧
    (Bound.excluded 0).Named ∧ (Bound.included Bound.greatest).Named ∧
    (Bound.excluded 0).first ≤ Bound.greatest ∧ (Bound.included Bound.greatest).behind broken.size ≤ Bound.greatest ∧
    broken.within (.excluded 0) (.included Bound.greatest) = [1, 2] ∧
    broken.slice (.excluded 0) (.included Bound.greatest) = .error (.invalidTemplate "%" 0) := by
  have fits : broken.size ≤ Bound.greatest := by decide
  have start : (Bound.excluded 0).Named := Nat.zero_le _
  have stop : (Bound.included Bound.greatest).Named := le_rfl
  obtain ⟨-, first, behind, -, fails, -⟩ := slice_within broken fits (.excluded 0) (.included Bound.greatest)
  have positions : broken.within (.excluded 0) (.included Bound.greatest) = [1, 2] := by decide
  have second : broken.get? 1 = some (.error (.invalidTemplate "%" 0)) := by decide +kernel
  -- The second variant is the first of the range, and it fails.
  refine ⟨fits, start, stop, first start, behind stop, positions, (fails _).2 ⟨1, by simp [positions], second, ?_⟩⟩
  rw [positions]
  intro earlier member less
  simp at member
  omega

end VariantSet

end Phrasebook
