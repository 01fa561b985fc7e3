import Phrasebook.Rendering.Formatter

/-! The result of formatting: a text, or variants whose texts are made when they are asked for. -/

namespace Phrasebook

/-- Variants, and the formatter that makes their texts. -/
structure VariantSet where
  members : List Variant
  formatter : Formatter

/-- An end of a range of positions. -/
inductive Bound where
  | included (position : Nat)
  | excluded (position : Nat)
  | unbounded
deriving DecidableEq, Repr

namespace Bound

/-- The greatest position: positions are numbers of sixty-four bits. -/
def greatest : Nat :=
  UInt64.size - 1

/-- The position behind another one. None stands behind the greatest one, which is given itself. -/
def following (position : Nat) : Nat :=
  if position < greatest then position + 1 else greatest

/-- The first position of a range that starts here. -/
def first : Bound → Nat
  | .included position => position
  | .excluded position => following position
  | .unbounded => 0

/-- The position behind the last one of a range that ends here, of so many positions. -/
def behind (size : Nat) : Bound → Nat
  | .included position => following position
  | .excluded position => position
  | .unbounded => size

end Bound

/-- A number brought into an interval. An interval that ends before it starts has none. -/
def clamp? (low high n : Nat) : Option Nat :=
  if low ≤ high then some (max low (min n high)) else none

/-- The items from one position up to another. Positions that cross or are beyond the end have none. -/
def cut? {α : Type} (first behind : Nat) (items : List α) : Option (List α) :=
  if first ≤ behind ∧ behind ≤ items.length then some ((items.take behind).drop first) else none

namespace VariantSet

/-- The number of variants. -/
def size (set : VariantSet) : Nat :=
  set.members.length

/-- Whether there are no variants. -/
def isEmpty (set : VariantSet) : Bool :=
  set.members.isEmpty

/-- The text of the variant at a position, if there is one. -/
def get? (set : VariantSet) (position : Nat) : Option (Except Error String) :=
  set.members[position]?.map set.formatter.formatVariant

/-- The members in a range of positions, which is brought within the list first. Nothing stands for a step that
cannot be made. -/
def cutOut? (set : VariantSet) (start stop : Bound) : Option (List Variant) :=
  let first := min start.first set.size
  (clamp? first set.size (stop.behind set.size)).bind fun behind => cut? first behind set.members

/-- Every step can be made: the range is in order and within the list. -/
theorem isSome_cutOut? (set : VariantSet) (start stop : Bound) : (set.cutOut? start stop).isSome := by
  -- What the range starts with is not beyond the end, and what it is brought to lies between them.
  have inside : min start.first set.size ≤ set.size := Nat.min_le_right _ _
  rw [cutOut?, clamp?, if_pos inside, Option.bind_some, cut?, if_pos]
  · rfl
  · exact ⟨Nat.le_max_left _ _, Nat.max_le.2 ⟨inside, Nat.min_le_right _ _⟩⟩

/-- The texts of a range of variants, or the error of the first one that has none. A range that ends
before it starts is empty. -/
def slice (set : VariantSet) (start stop : Bound) : Except Error (List String) :=
  ((set.cutOut? start stop).get (set.isSome_cutOut? start stop)).mapM set.formatter.formatVariant

/-- The texts of all variants. -/
def formatAll (set : VariantSet) : Except Error (List String) :=
  set.slice .unbounded .unbounded

end VariantSet

/-- A formatted message. -/
inductive Translation where
  | text (text : String)
  | variants (set : VariantSet)

/-- Formatting a message. Variants are reduced by the count at once if there is one, and their
placeholders are replaced when they are asked for. -/
def Formatter.format (formatter : Formatter) : Value → Except Error Translation
  | .variants members =>
    match formatter.count? with
    | some _ =>
      (members.mapM fun member => (formatter.pluralizeVariant member).map Variant.text).map fun members =>
        .variants { members, formatter }
    | none => .ok (.variants { members, formatter })
  | value => ((formatter.pluralize value).bind formatter.substitute).map .text

end Phrasebook
