import Phrasebook.Text.Split

/-! Paths of files: names separated by slashes. -/

namespace Phrasebook.Path

/-- A part of a path: the root in front of an absolute path, the current directory in front of a
relative one, the directory above, or a plain name. -/
inductive Component where
  | root
  | current
  | above
  | name (name : String)
deriving DecidableEq, Repr

/-- Whether a path starts at the root. -/
def isAbsolute (path : String) : Bool :=
  path.toList.head? == some '/'

/-- The texts between the slashes of a path. -/
def parts (path : String) : List String :=
  (Text.splitOn ['/'] path.toList).map String.ofList

/-- The component that a text between slashes stands for: none if it is empty or a single point. -/
def component? (part : String) : Option Component :=
  if part = "" ∨ part = "." then none
  else if part = ".." then some .above
  else some (.name part)

/-- The components of a path. -/
def components (path : String) : List Component :=
  let rest := (parts path).filterMap component?
  if isAbsolute path then .root :: rest
  else if (parts path).head? = some "." then .current :: rest
  else rest

/-- The path of an entry relative to a directory. An absolute path stays as it is. -/
def join (base path : String) : String :=
  if isAbsolute path then path
  else if base.isEmpty then path
  else if base.toList.getLast? = some '/' then base ++ path
  else base ++ "/" ++ path

/-- The last component of a path, if it is a plain name. -/
def fileName? (path : String) : Option String :=
  match (components path).getLast? with
  | some (.name name) => some name
  | _ => none

/-- The plain names among the components above the last one. -/
def parentNames (path : String) : List String :=
  (components path).dropLast.filterMap fun
    | .name name => some name
    | _ => none

/-- What follows the last point of a file name that has something before it. -/
def extensionOf? (name : String) : Option String :=
  match Text.breakOnLast? ['.'] name.toList with
  | some (before, after) => if before.isEmpty then none else some (String.ofList after)
  | none => none

/-- The extension of the file that a path leads to. -/
def extension? (path : String) : Option String :=
  (fileName? path).bind extensionOf?

/-- Paths in one text, separated by colons. -/
def splitList (text : String) : List String :=
  (Text.splitOn [':'] text.toList).map String.ofList

end Phrasebook.Path
