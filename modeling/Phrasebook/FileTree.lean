import Phrasebook.Dict
import Phrasebook.Path

/-! A tree of files as a value, and what a program sees of it through paths. The program works in the root: there its
relative paths start. -/

namespace Phrasebook

/-- Why a file could not be read or written. -/
inductive FileError where
  | notFound
  | notDirectory
  | isDirectory
  | busy
  | nameTooLong
  | zeroInName
  | notUnicode
deriving DecidableEq, Repr

/-- The description of an error. -/
def FileError.message : FileError → String
  | .notFound => "No such file or directory (os error 2)"
  | .notDirectory => "Not a directory (os error 20)"
  | .isDirectory => "Is a directory (os error 21)"
  | .busy => "Device or resource busy (os error 16)"
  | .nameTooLong => "File name too long (os error 36)"
  | .zeroInName => "file name contained an unexpected NUL byte"
  | .notUnicode => "stream did not contain valid UTF-8"

/-- A file with its bytes, or a directory with its entries. -/
inductive FileTree where
  | file (content : ByteArray)
  | directory (entries : Dict FileTree)

namespace FileTree

/-- A directory without entries. -/
def empty : FileTree :=
  .directory .empty

/-- The entry of a name in a directory. -/
def child? (tree : FileTree) (name : String) : Except FileError FileTree :=
  match tree with
  | .file _ => .error .notDirectory
  | .directory entries =>
    if 255 < name.utf8ByteSize then .error .nameTooLong
    else match entries.get? name with
      | some below => .ok below
      | none => .error .notFound

/-- The names and trees passed on the way down from the root, the last one in front. -/
abbrev Trail := List (String × FileTree)

/-- The tree that a trail has reached. -/
def Trail.place (root : FileTree) : Trail → FileTree
  | [] => root
  | (_, tree) :: _ => tree

/-- The names from the root to the end of a trail. -/
def Trail.names (trail : Trail) : List String :=
  trail.reverse.map Prod.fst

/-- Walking the parts of a path on from the end of a trail. Only a directory can be passed through; the
one above the root is the root itself. -/
def follow (root : FileTree) : Trail → List String → Except FileError Trail
  | trail, [] => .ok trail
  | trail, part :: rest =>
    match trail.place root with
    | .file _ => .error .notDirectory
    | .directory _ =>
      match Path.component? part with
      | some .above => follow root trail.tail rest
      | some (.name name) =>
        ((trail.place root).child? name).bind fun below => follow root ((name, below) :: trail) rest
      | _ => follow root trail rest

/-- The trail from the root to where a path leads. The empty part in front of the first slash of an absolute path stays
at the root, where a relative path starts as well. -/
def trail? (root : FileTree) (path : String) : Except FileError Trail :=
  if path.toList.contains '\x00' then .error .zeroInName
  else if 4096 ≤ path.utf8ByteSize then .error .nameTooLong
  else if path.isEmpty then .error .notFound
  else follow root [] (Path.parts path)

/-- What a path leads to. -/
def lookup (root : FileTree) (path : String) : Except FileError FileTree :=
  (root.trail? path).map (Trail.place root)

/-- The path without detours that leads to the same place, if there is one. -/
def canonical? (root : FileTree) (path : String) : Option String :=
  match root.trail? path with
  | .ok trail => some ("/" ++ "/".intercalate trail.names)
  | .error _ => none

/-- Whether a path leads to a file. -/
def isFile (root : FileTree) (path : String) : Bool :=
  match root.lookup path with
  | .ok (.file _) => true
  | _ => false

/-- Whether a path leads to a directory. -/
def isDirectory (root : FileTree) (path : String) : Bool :=
  match root.lookup path with
  | .ok (.directory _) => true
  | _ => false

/-- The bytes of the file a path leads to. -/
def read (root : FileTree) (path : String) : Except FileError ByteArray :=
  (root.lookup path).bind fun
    | .file content => .ok content
    | .directory _ => .error .isDirectory

/-- The text of the file a path leads to. -/
def readText (root : FileTree) (path : String) : Except FileError String :=
  (root.read path).bind fun content =>
    match String.fromUTF8? content with
    | some text => .ok text
    | none => .error .notUnicode

/-- The tree with something put under a list of names; files on the way give way to directories. -/
def put (tree : FileTree) (new : FileTree) : List String → FileTree
  | [] => new
  | name :: rest =>
    let entries : Dict FileTree := match tree with
      | .file _ => .empty
      | .directory entries => entries
    .directory (entries.insert name (((entries.get? name).getD empty).put new rest))

/-- The tree without what lies under a list of names. -/
def remove (tree : FileTree) : List String → FileTree
  | [] => empty
  | [name] =>
    match tree with
    | .file content => .file content
    | .directory entries => .directory (entries.erase name)
  | name :: rest =>
    match tree with
    | .file content => .file content
    | .directory entries =>
      match entries.get? name with
      | none => .directory entries
      | some below => .directory (entries.insert name (below.remove rest))

mutual

/-- The files of a tree, each by the names that lead to it; the entries of a directory come in the
order of their names. -/
def files : FileTree → List (List String)
  | .file _ => [[]]
  | .directory ⟨entries⟩ => filesOf entries

/-- The files of the entries of a directory. -/
def filesOf : List (String × FileTree) → List (List String)
  | [] => []
  | (name, tree) :: rest => tree.files.map (name :: ·) ++ filesOf rest

end

/-- Replacing the file that a path leads to, in a directory that exists. A directory is not
replaced, neither under its name nor as the present one or the one above, and a path with a slash at its
end does not name a file. -/
def write (root : FileTree) (path : String) (content : ByteArray) : Except FileError FileTree := do
  if path.isEmpty then throw .notFound
  let parts := if Path.isAbsolute path then (Path.parts path).tail else Path.parts path
  let named := (parts.reverse.dropWhile (· = "")).reverse
  match named.getLast? with
  | none => .error .isDirectory
  | some name =>
    let trail ← root.trail? ("/" ++ "/".intercalate named.dropLast)
    match trail.place root with
    | .file _ => .error .notDirectory
    | .directory entries =>
      if path.toList.contains '\x00' then .error .zeroInName
      else if 4096 ≤ path.utf8ByteSize then .error .nameTooLong
      else if name = "." ∨ name = ".." then .error .busy
      else match entries.get? name with
        | some (.directory _) => .error (if parts.getLast? = some "" then .notDirectory else .isDirectory)
        | _ =>
          if parts.getLast? = some "" then .error .notDirectory
          else if 255 < name.utf8ByteSize then .error .nameTooLong
          else .ok (root.put (.file content) (trail.names ++ [name]))

end FileTree

end Phrasebook
