/-! The data of TOML text, and the rules by which its tables grow. -/

namespace Phrasebook.Toml

/-- How a table came to be. -/
inductive TableKind where
  /-- A header names a table inside of it. -/
  | implied
  /-- A header names it. -/
  | stated
  /-- A key with dots leads through it. -/
  | dotted
  /-- It is written as a value. -/
  | inline
deriving DecidableEq, Repr

/-- A value. Decimals and times are told apart from all others, but not from each other. -/
inductive Value where
  | text (s : String)
  | whole (n : Int)
  | flag (b : Bool)
  | other
  | array (items : List Value)
  | table (kind : TableKind) (entries : List (String × Value))
  /-- Tables named by one header each, the last one in front. -/
  | tables (elements : List (List (String × Value)))

/-- The entries of a table, in the order in which they were written. -/
abbrev Entries := List (String × Value)

namespace Entries

/-- The value under a key. -/
def find? (entries : Entries) (key : String) : Option Value :=
  (List.find? (fun entry => entry.1 = key) entries).map Prod.snd

/-- The entries with a value put under a key, in the place of the one there. -/
def set (entries : Entries) (key : String) (value : Value) : Entries :=
  if (entries.find? key).isSome then
    entries.map fun entry => if entry.1 = key then (key, value) else entry
  else entries ++ [(key, value)]

end Entries

/-- Changing the table that a path leads to. Tables on the way are made where there are none. By a key with
dots no table is changed that a header names, and never one that is a value. Of tables that share a header the
last one is changed. -/
def descend (byDots : Bool) (change : TableKind → Entries → Option Entries) :
    List String → TableKind → Entries → Option Entries
  | [], kind, entries => change kind entries
  | key :: rest, _, entries => do
    let kind := if byDots then TableKind.dotted else .implied
    match entries.find? key with
    | none =>
      let inner ← descend byDots change rest kind []
      return entries.set key (.table kind inner)
    | some (.table .inline _) => none
    | some (.table kind inner) =>
      if byDots ∧ kind = .stated then none
      let inner ← descend byDots change rest kind inner
      return entries.set key (.table kind inner)
    | some (.tables (last :: others)) =>
      let last ← descend byDots change rest .stated last
      return entries.set key (.tables (last :: others))
    | some _ => none

/-- Putting a value under a key with dots, given by the keys before the last one and the last one. The
table it goes into is either the present one or was made by such a key, and the key is new in it. -/
def assign (path : List String) (key : String) (value : Value) : TableKind → Entries → Option Entries :=
  descend true (fun kind entries =>
    if ! path.isEmpty ∧ kind ≠ .dotted then none
    else if (entries.find? key).isSome then none
    else some (entries.set key value)) path

/-- Starting the table that a header names. It is new, or was implied only. -/
def startTable (path : List String) (key : String) (root : Entries) : Option Entries :=
  descend false (fun _ entries =>
    match entries.find? key with
    | none => some (entries.set key (.table .stated []))
    | some (.table .implied inner) => some (entries.set key (.table .stated inner))
    | some _ => none) path .stated root

/-- Starting one more of the tables that share a header. -/
def startElement (path : List String) (key : String) (root : Entries) : Option Entries :=
  descend false (fun _ entries =>
    match entries.find? key with
    | none => some (entries.set key (.tables [[]]))
    | some (.tables elements) => some (entries.set key (.tables ([] :: elements)))
    | some _ => none) path .stated root

end Phrasebook.Toml
