import Phrasebook.Catalogue.Search

/-! A searcher that finds messages in a table of rows and keeps a record of the searches. -/

namespace Phrasebook

/-- A row of a table: a message, and the key by which a search for it is asked. -/
structure TableRow where
  locale : String
  key : String
  value : Value
  /-- The key that brings the row in; its own one if there is no other. -/
  on : Option String := none
  /-- Whether the row is stored without being reported. -/
  quiet : Bool := false
  /-- A message with which the search fails at this row. -/
  fail : Option String := none

/-- A table, whether it can be loaded as a whole, and the record of searches, the last one in front. -/
structure Table where
  rows : List TableRow
  everything : Bool
  record : List String := []

namespace Table

/-- Storing rows one after the other; the answer lists the keys reported. -/
def storeRows : List TableRow → Lookup Table (List LoadedKey)
  | [] => return []
  | row :: rest =>
    match row.fail with
    | some message => throw (.load message)
    | none => do
      Lookup.add row.key row.value row.locale
      let loaded ← storeRows rest
      return if row.quiet then loaded else ⟨row.locale, row.key⟩ :: loaded

/-- Searching a table. -/
def searcher : Searcher Table where
  search key locale _ := do
    modify fun library =>
      { library with state := { library.state with record := (locale ++ ":" ++ key) :: library.state.record } }
    let rows := (← get).state.rows.filter fun row => row.locale = locale ∧ row.on.getD row.key = key
    return (← storeRows rows).map LoadedKey.key
  loadEverything locale _ := do
    let table := (← get).state
    if table.everything then
      storeRows (table.rows.filter fun row => locale.all (· = row.locale))
    else return []
  forget table := { table with record := "forget" :: table.record }
  reach table := table.rows.length

end Table

end Phrasebook
