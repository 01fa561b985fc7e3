import Mathlib.Data.String.Basic
import Phrasebook.Proofs.Dict.Ordered
import Phrasebook.Proofs.FileTree.Written
import Phrasebook.Proofs.Filename.Standard

/-! The files of a tree as they are listed: in the order of the names that lead to them, and all of those that a path
reaches. -/

namespace Phrasebook

namespace Path

/-- A name that an entry of a directory may have: there is something in it but no slash, and it leads to that entry. -/
structure IsName (name : String) : Prop where
  component : component? name = some (.name name)
  slashless : '/' ∉ name.toList

instance (name : String) : Decidable (IsName name) :=
  decidable_of_iff (component? name = some (.name name) ∧ '/' ∉ name.toList)
    ⟨fun both => ⟨both.1, both.2⟩, fun named => ⟨named.component, named.slashless⟩⟩

variable {names : List String}

/-- A name is not empty. -/
theorem IsName.ne_empty {name : String} (named : IsName name) : name ≠ "" := by
  -- An empty part of a path is passed over, and makes no component.
  rintro rfl
  have component := named.component
  simp [component?] at component

/-- The parts of a path are the names that it is joined of. -/
theorem parts_of_names (some : names ≠ []) (each : ∀ name ∈ names, IsName name) :
    parts ("/".intercalate names) = names :=
  parts_intercalate some fun name member => (each name member).slashless

/-- Names lead down from wherever they start. -/
theorem isAbsolute_of_names (some : names ≠ []) (each : ∀ name ∈ names, IsName name) :
    isAbsolute ("/".intercalate names) = false := by
  rw [Bool.eq_false_iff]
  intro absolute
  -- In front of the first slash of an absolute path stands nothing, which is no name.
  obtain ⟨rest, -, parts⟩ := parts_of_isAbsolute absolute
  rw [parts_of_names some each] at parts
  exact (each "" (by simp [parts])).ne_empty rfl

/-- The file that names lead to has the last one of them. -/
theorem fileName?_of_names {front : List String} {name : String} (each : ∀ other ∈ front ++ [name], IsName other) :
    fileName? ("/".intercalate (front ++ [name])) = some name := by
  refine fileName?_eq_some ?_ (each name (by simp)).component
  rw [parts_of_names (by simp) each, List.getLast?_concat]

end Path

namespace FileTree

/-- A tree as file systems have them, in which moreover all directories below have names of word characters. -/
inductive Worded : FileTree → Prop
  | file (content : ByteArray) : Worded (.file content)
  | directory {entries : Dict FileTree} (ordered : entries.Ordered)
      (named : ∀ entry ∈ entries.entries, Path.IsName entry.1)
      (words : ∀ entry ∈ entries.entries, entry.2.IsDirectory → Filename.Spelled entry.1)
      (below : ∀ entry ∈ entries.entries, Worded entry.2) : Worded (.directory entries)

variable {root tree : FileTree} {names : List String} {content : ByteArray}

/-- The files of some entries are those of each of them, below its name. -/
theorem mem_filesOf {entries : List (String × FileTree)} :
    names ∈ filesOf entries ↔ ∃ entry ∈ entries, ∃ rest ∈ entry.2.files, entry.1 :: rest = names := by
  -- By the entries, each of which contributes its own files.
  induction entries with
  | nil => simp [filesOf]
  | cons entry others ih =>
    obtain ⟨name, below⟩ := entry
    rw [filesOf, List.mem_append, ih, List.mem_map, List.exists_mem_cons_iff]

/-- A file that names lead to is listed by them. -/
theorem mem_files_of_reach (reached : tree.reach names = .ok (.file content)) : names ∈ tree.files := by
  -- The names are gone along downwards, from one directory to the next.
  induction names generalizing tree with
  | nil =>
    obtain rfl := Except.ok.inj reached
    simp [files]
  | cons name rest ih =>
    rw [reach] at reached
    cases child : tree.child? name with
    | error error => simp [child, Except.bind] at reached
    | ok below =>
      rw [child] at reached
      obtain ⟨⟨entries⟩, rfl, -, held⟩ := of_child?_eq_ok child
      rw [files, mem_filesOf]
      exact ⟨(name, below), Dict.mem_of_get? held, rest, ih reached, rfl⟩

/-- The names that lead to a listed file are names of entries, and those of the directories on the way are made of word
characters. -/
theorem Worded.of_mem_files (worded : tree.Worded) (member : names ∈ tree.files) :
    (∀ name ∈ names, Path.IsName name) ∧ ∀ name ∈ names.dropLast, Filename.Spelled name := by
  induction worded generalizing names with
  | file content =>
    obtain rfl := List.mem_singleton.1 (by simpa [files] using member)
    simp
  | @directory entries ordered named words below ih =>
    obtain ⟨entries⟩ := entries
    rw [files, mem_filesOf] at member
    obtain ⟨entry, inside, rest, listed, rfl⟩ := member
    obtain ⟨later, directories⟩ := ih entry inside listed
    refine ⟨List.forall_mem_cons.2 ⟨named entry inside, later⟩, ?_⟩
    cases rest with
    | nil => simp
    | cons next more =>
      -- Something lies below the entry, which is a directory therefore.
      have isDirectory : entry.2.IsDirectory := by
        cases lies : entry.2 with
        | file content => simp [lies, files] at listed
        | directory inner => exact ⟨inner, rfl⟩
      rw [List.dropLast_cons_cons]
      exact List.forall_mem_cons.2 ⟨words entry inside isDirectory, directories⟩

/-- What a path leads to in such a tree is one too. -/
theorem Worded.of_lookup {path : String} (worded : root.Worded) (place : root.lookup path = .ok tree) :
    tree.Worded := by
  unfold lookup at place
  cases leads : root.trail? path with
  | error error => simp [leads, Except.map] at place
  | ok trail =>
    obtain rfl : trail.place root = tree := by simpa [leads, Except.map] using place
    have passes := follow_leads (follow_of_trail? leads).2 trivial
    clear leads place
    -- Every tree on the trail is an entry of the one before, whatever detours the path has taken.
    induction trail with
    | nil => exact worded
    | cons entry before ih =>
      obtain ⟨name, below⟩ := entry
      obtain ⟨child, passes⟩ := passes
      obtain ⟨entries, above, -, held⟩ := of_child?_eq_ok child
      have isWorded := ih passes
      rw [above] at isWorded
      cases isWorded with
      | directory ordered named words below => exact below _ (Dict.mem_of_get? held)

/-- Files are listed in the order of the names that lead to them. -/
theorem Worded.files_sorted (worded : tree.Worded) : tree.files.Pairwise (· < ·) := by
  induction worded with
  | file content => simp [files]
  | @directory entries ordered named words below ih =>
    obtain ⟨entries⟩ := entries
    rw [files]
    clear named words below
    unfold Dict.Ordered at ordered
    -- The files of an entry stand before those of all entries behind it.
    induction entries with
    | nil => exact List.Pairwise.nil
    | cons entry others more =>
      obtain ⟨name, below⟩ := entry
      obtain ⟨behind, ordered⟩ := List.pairwise_cons.1 ordered
      rw [filesOf, List.pairwise_append, List.pairwise_map]
      refine ⟨?_, more ordered fun entry member => ih entry (List.mem_cons_of_mem _ member), ?_⟩
      · have sorted := ih (name, below) List.mem_cons_self
        exact sorted.imp fun smaller => List.cons_lt_cons_iff.2 (.inr ⟨rfl, smaller⟩)
      · intro one here other there
        obtain ⟨rest, -, rfl⟩ := List.mem_map.1 here
        obtain ⟨entry, inside, back, -, rfl⟩ := mem_filesOf.1 there
        exact List.cons_lt_cons_iff.2 (.inl (behind entry inside))

/-- A walk along names leads to what lies under them. -/
theorem reach_of_follow {trail last : Trail} (each : ∀ name ∈ names, Path.IsName name)
    (follows : follow root trail names = .ok last) : (trail.place root).reach names = .ok (last.place root) := by
  induction names generalizing trail with
  | nil =>
    obtain rfl := Except.ok.inj follows
    rfl
  | cons name rest ih =>
    obtain ⟨here, later⟩ := List.forall_mem_cons.1 each
    rw [follow] at follows
    rw [reach]
    -- Only a directory can be passed through, and a name is no step back.
    cases place : trail.place root with
    | file content => simp [place] at follows
    | directory entries =>
      simp only [place, here.component] at follows
      cases child : child? (.directory entries) name with
      | error error => simp [child, Except.bind] at follows
      | ok below =>
        rw [child] at follows
        exact ih later follows

/-- What can be followed is neither too long nor holds a zero, and its beginning is followed from the root, too. -/
theorem trail?_of_append {path rest : String} {last : Trail} (leads : root.trail? (path ++ rest) = .ok last)
    (some : path ≠ "") : root.trail? path = follow root [] (Path.parts path) := by
  unfold trail? at leads
  split at leads
  · cases leads
  next noZero =>
  split at leads
  · cases leads
  next short =>
  -- What forbids the beginning would forbid the whole path.
  have zero : ¬ path.toList.contains '\x00' = true := fun zero => noZero (by
    rw [List.contains_iff_mem] at zero ⊢
    rw [String.toList_append]
    exact List.mem_append_left _ zero)
  have long : ¬ 4096 ≤ path.utf8ByteSize := by
    rw [String.utf8ByteSize_append] at short
    omega
  rw [trail?, if_neg zero, if_neg long, if_neg (by simpa using some)]

/-- A path in a directory that can be followed leads there through the directory. -/
theorem exists_trail?_of_join {base path : String} {last : Trail} (some : base ≠ "")
    (relative : Path.isAbsolute path = false) (leads : root.trail? (Path.join base path) = .ok last) :
    ∃ trail, root.trail? base = .ok trail ∧ follow root trail (Path.parts path) = .ok last := by
  have follows := (follow_of_trail? leads).2
  rw [Path.join_relative some relative, String.append_assoc] at leads
  rw [trail?_of_append leads some]
  -- The parts of the directory come first, of which an empty one at the end is left out.
  obtain ⟨front, whole, ends, -⟩ := Path.parts_join some relative
  rw [whole, follow_append] at follows
  cases passed : follow root [] front with
  | error error => simp [passed, Except.bind] at follows
  | ok trail =>
    rw [passed] at follows
    refine ⟨trail, ?_, follows⟩
    rcases ends with same | same
    · rwa [same]
    · -- Nothing behind a last slash leads nowhere else, but only a directory can be asked for it.
      obtain ⟨part, more, isPath⟩ := List.exists_cons_of_ne_nil (Path.parts_ne_nil path)
      change follow root trail (Path.parts path) = .ok last at follows
      rw [isPath] at follows
      obtain ⟨⟨entries, place⟩, -⟩ := follow_cons follows
      rw [same, follow_append, passed]
      simp [Except.bind, follow, place, Path.component?]

/-- A file below a directory lies in the tree that the directory is. -/
theorem exists_reach_of_isFile {base : String} (directory : base ≠ "") (some : names ≠ [])
    (each : ∀ name ∈ names, Path.IsName name)
    (isFile : root.isFile (Path.join base ("/".intercalate names)) = true) :
    ∃ tree content, root.lookup base = .ok tree ∧ tree.reach names = .ok (.file content) := by
  obtain ⟨name, tree, before, leads, -⟩ := getLast?_of_isFile isFile
  obtain ⟨trail, above, follows⟩ := exists_trail?_of_join directory (Path.isAbsolute_of_names some each) leads
  rw [Path.parts_of_names some each] at follows
  -- The names are followed from where the base leads.
  have reached := reach_of_follow each follows
  cases place : Trail.place root ((name, tree) :: before) with
  | file content =>
    refine ⟨trail.place root, content, ?_, place ▸ reached⟩
    rw [lookup, above]
    rfl
  | directory entries =>
    rw [FileTree.isFile, lookup, leads] at isFile
    simp [Except.map, place] at isFile

end FileTree

end Phrasebook
