import Phrasebook.Dict

/-! Data in the shape of JSON: what resource files hold once they are read. -/

namespace Phrasebook

/-- A number keeps apart whole numbers of sixty-four bits and all others. -/
inductive Number where
  | whole (n : Int)
  | real (x : Float)

/-- A tree of data. The members of an object stand in the order in which they were written, or, in
canonical data, in the order of their names. -/
inductive Json where
  | null
  | bool (flag : Bool)
  | number (value : Number)
  | text (value : String)
  | array (items : List Json)
  | object (members : List (String × Json))

namespace Json

/-- An object with one entry per key. -/
def ofDict (members : Dict Json) : Json :=
  .object members.entries

/-- The members of an object as a dictionary, in which the last one of a repeated name stays. -/
def dictOf (members : List (String × Json)) : Dict Json :=
  Dict.ofList members

mutual

/-- The same data with the members of every object in the order of their names, each name once. -/
def canonical : Json → Json
  | .null => .null
  | .bool flag => .bool flag
  | .number value => .number value
  | .text value => .text value
  | .array items => .array (canonicalItems items)
  | .object members => ofDict (Dict.ofList (canonicalMembers members))

/-- Every item in canonical form. -/
def canonicalItems : List Json → List Json
  | [] => []
  | item :: rest => item.canonical :: canonicalItems rest

/-- Every member in canonical form, still in the order in which they were written. -/
def canonicalMembers : List (String × Json) → List (String × Json)
  | [] => []
  | (name, value) :: rest => (name, value.canonical) :: canonicalMembers rest

end

/-- The value of the first member of a name. -/
def member? (members : List (String × Json)) (name : String) : Option Json :=
  Dict.find? name members

end Json

end Phrasebook
