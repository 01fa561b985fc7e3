/-! Dictionaries from text to values, kept in increasing order of their keys. -/

namespace Phrasebook

/-- Entries under distinct keys, in increasing order of the keys' code points. -/
structure Dict (α : Type) where
  entries : List (String × α)
deriving Repr, BEq, DecidableEq

namespace Dict

variable {α β : Type}

/-- Looking a key up from the front. -/
def find? (key : String) : List (String × α) → Option α
  | [] => none
  | (other, value) :: rest => if key = other then some value else find? key rest

/-- Putting a value in the place its key has in the order, in the stead of an equal key's value. -/
def put (key : String) (value : α) : List (String × α) → List (String × α)
  | [] => [(key, value)]
  | (other, held) :: rest =>
    if key = other then (key, value) :: rest
    else if key < other then (key, value) :: (other, held) :: rest
    else (other, held) :: put key value rest

/-- The dictionary without entries. -/
def empty : Dict α :=
  ⟨[]⟩

instance : EmptyCollection (Dict α) :=
  ⟨empty⟩

/-- The value stored under a key. -/
def get? (d : Dict α) (key : String) : Option α :=
  find? key d.entries

/-- Whether a value is stored under a key. -/
def contains (d : Dict α) (key : String) : Bool :=
  (d.get? key).isSome

/-- The dictionary with a value stored under a key, replacing what was there. -/
def insert (d : Dict α) (key : String) (value : α) : Dict α :=
  ⟨put key value d.entries⟩

/-- The dictionary without a key. -/
def erase (d : Dict α) (key : String) : Dict α :=
  ⟨d.entries.filter fun entry => entry.1 ≠ key⟩

/-- The keys, in order. -/
def keys (d : Dict α) : List String :=
  d.entries.map Prod.fst

/-- The number of entries. -/
def size (d : Dict α) : Nat :=
  d.entries.length

/-- Whether there are no entries. -/
def isEmpty (d : Dict α) : Bool :=
  d.entries.isEmpty

/-- A dictionary filled from the front, so that the last value of a repeated key stays. -/
def ofList (entries : List (String × α)) : Dict α :=
  entries.foldl (fun d entry => d.insert entry.1 entry.2) empty

/-- The same keys with other values. -/
def map (f : α → β) (d : Dict α) : Dict β :=
  ⟨d.entries.map fun entry => (entry.1, f entry.2)⟩

/-- The keys stand in strictly increasing order. -/
def Ordered (d : Dict α) : Prop :=
  d.entries.Pairwise fun a b => a.1 < b.1

/-- A stored value is found at the front of the search, wherever its key went. -/
theorem find?_put (key other : String) (value : α) (entries : List (String × α)) :
    find? other (put key value entries) = if other = key then some value else find? other entries := by
  -- The new entry stands before every other entry that the search could stop at.
  induction entries with
  | nil => simp [put, find?]
  | cons entry rest ih =>
    obtain ⟨name, held⟩ := entry
    simp only [put]
    split
    · next same =>
      subst same
      by_cases asked : other = key <;> simp [find?, asked]
    · split
      · simp [find?]
      · next different _ =>
        simp only [find?, ih]
        by_cases asked : other = name
        · have : name ≠ key := fun h => different h.symm
          simp [asked, this]
        · simp [asked]

/-- A look-up after an insertion gives the new value for its key and the old one for any other. -/
@[simp] theorem get?_insert (d : Dict α) (key other : String) (value : α) :
    (d.insert key value).get? other = if other = key then some value else d.get? other := by
  -- Both sides look at the entries only.
  exact find?_put key other value d.entries

/-- The empty dictionary holds nothing. -/
@[simp] theorem get?_empty (key : String) : (empty : Dict α).get? key = none := by
  -- There is no entry to stop at.
  rfl

/-- A look-up after an erasure finds nothing under the erased key and the old value under any other. -/
@[simp] theorem get?_erase (d : Dict α) (key other : String) :
    (d.erase key).get? other = if other = key then none else d.get? other := by
  -- All entries of the erased key are gone, and the others keep their order.
  obtain ⟨entries⟩ := d
  simp only [erase, get?]
  induction entries with
  | nil => simp [find?]
  | cons entry rest ih =>
    obtain ⟨name, held⟩ := entry
    by_cases gone : name = key <;> by_cases asked : other = name <;> by_cases same : other = key <;>
      simp_all [find?]

end Dict

end Phrasebook
