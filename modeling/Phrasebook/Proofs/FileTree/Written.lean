import Mathlib.Data.List.DropRight
import Phrasebook.Proofs.Resource.Inside

/-! What is written to a file is read from it. -/

namespace Phrasebook

namespace Path

/-- Parts without slashes are told apart again. -/
theorem parts_intercalate {names : List String} (some : names ≠ []) (plain : ∀ name ∈ names, '/' ∉ name.toList) :
    parts ("/".intercalate names) = names := by
  -- A text that is joined with slashes is cut there, and nowhere else.
  have separated : Text.Separates ['/'] (names.map String.toList) :=
    Text.separates_of_not_mem (by simpa using some) (by simpa using plain)
  rw [parts, String.toList_intercalate]
  rw [show "/".toList = ['/'] from rfl, Text.splitOn_intercalate (List.cons_ne_nil _ _) separated]
  simp [Function.comp_def]

end Path

namespace FileTree

/-- Whether a tree is a directory. -/
def IsDirectory (tree : FileTree) : Prop :=
  ∃ entries, tree = .directory entries

/-- What lies under a list of names. -/
def reach (tree : FileTree) : List String → Except FileError FileTree
  | [] => .ok tree
  | name :: rest => (tree.child? name).bind fun below => below.reach rest

/-- A longer way goes on from where a shorter one leads. -/
theorem reach_append (tree : FileTree) (names : List String) (name : String) :
    tree.reach (names ++ [name]) = (tree.reach names).bind fun below => below.child? name := by
  -- By the names in front: the way fails early in both, or goes on.
  induction names generalizing tree with
  | nil =>
    cases child : tree.child? name with
    | error error => simp [reach, child, Except.bind]
    | ok below => simp [reach, child, Except.bind]
  | cons first rest ih =>
    rw [List.cons_append, reach, reach]
    cases tree.child? first with
    | error error => rfl
    | ok below => exact ih below

/-- A step adds its name at the end. -/
theorem Trail.names_cons (name : String) (tree : FileTree) (trail : Trail) :
    Trail.names ((name, tree) :: trail) = trail.names ++ [name] := by
  simp [Trail.names]

/-- A step back drops the last name. -/
theorem Trail.names_tail (trail : Trail) : Trail.names trail.tail = trail.names.dropLast := by
  -- The trail begins with its last step.
  cases trail with
  | nil => rfl
  | cons entry before => rw [List.tail_cons, Trail.names_cons, List.dropLast_concat]

/-- A trail leads to what lies under its names. -/
theorem Trail.Leads.reach_names {root : FileTree} {trail : Trail} (leads : trail.Leads root) :
    root.reach trail.names = .ok (trail.place root) := by
  -- By the trail, whose last step is the last name.
  induction trail with
  | nil => rfl
  | cons entry before ih =>
    obtain ⟨name, tree⟩ := entry
    rw [names_cons, reach_append, ih leads.2]
    exact leads.1

/-- What is put under a short name is found there. -/
theorem child?_insert {entries : Dict FileTree} {name : String} (short : ¬ 255 < name.utf8ByteSize) (new : FileTree) :
    child? (.directory (entries.insert name new)) name = .ok new := by
  simp [child?, short]

/-- Under other names everything is found as before. -/
theorem child?_insert_of_ne {entries : Dict FileTree} {name other : String} (apart : other ≠ name) (new : FileTree) :
    child? (.directory (entries.insert name new)) other = child? (.directory entries) other := by
  simp [child?, apart]

/-- A child is found in a directory only, under a name that is short. -/
theorem of_child?_eq_ok {tree below : FileTree} {name : String} (child : tree.child? name = .ok below) :
    ∃ entries, tree = .directory entries ∧ ¬ 255 < name.utf8ByteSize ∧ entries.get? name = some below := by
  -- A file has no children, and a name that is too long is refused.
  cases tree with
  | file content => cases child
  | directory entries =>
    rw [child?] at child
    split at child
    · cases child
    next short =>
    cases held : entries.get? name with
    | none => simp [held] at child
    | some found =>
      simp only [held, Except.ok.injEq] at child
      exact ⟨entries, rfl, short, child ▸ held⟩

section Put

variable {tree new : FileTree} {names : List String} {name : String} {entries : Dict FileTree}

/-- What is put under the name of an entry of a directory lies there. -/
theorem reach_put (place : tree.reach names = .ok (.directory entries)) (short : ¬ 255 < name.utf8ByteSize) :
    (tree.put new (names ++ [name])).reach (names ++ [name]) = .ok new := by
  induction names generalizing tree with
  | nil =>
    obtain rfl := Except.ok.inj place
    simp [put, reach, child?_insert short, Except.bind]
  | cons first rest ih =>
    rw [reach] at place
    -- The names in front lead to a directory, in which the entry of the first one is replaced.
    cases child : tree.child? first with
    | error error => simp [child, Except.bind] at place
    | ok below =>
      obtain ⟨above, rfl, fits, held⟩ := of_child?_eq_ok child
      rw [child] at place
      rw [List.cons_append, put, reach]
      simp only [held, Option.getD_some, child?_insert fits]
      exact ih place

/-- Where one tree is a directory, the other one is. -/
def Covers (tree other : FileTree) : Prop :=
  ∀ way found, tree.reach way = .ok found →
    ∃ instead, other.reach way = .ok instead ∧ (found.IsDirectory → instead.IsDirectory)

/-- A directory stays one if an entry is replaced by what covers it. -/
theorem covers_insert (new : FileTree) (covers : ∀ below, entries.get? name = some below → below.Covers new) :
    Covers (.directory entries) (.directory (entries.insert name new)) := by
  intro way found reached
  cases way with
  | nil => exact ⟨_, rfl, fun _ => ⟨_, rfl⟩⟩
  | cons first rest =>
    rw [reach] at reached ⊢
    -- A way through the entry is covered by what replaces it; every other way is as before.
    by_cases same : first = name
    · subst same
      cases child : child? (.directory entries) first with
      | error error => simp [child, Except.bind] at reached
      | ok below =>
        obtain ⟨_, whole, short, held⟩ := of_child?_eq_ok child
        obtain rfl := FileTree.directory.inj whole
        rw [child] at reached
        rw [child?_insert short]
        exact covers below held rest found reached
    · rw [child?_insert_of_ne same]
      exact ⟨found, reached, id⟩

/-- A file is covered by everything. -/
theorem covers_of_not_isDirectory (noDirectory : ¬ tree.IsDirectory) (other : FileTree) : tree.Covers other := by
  -- Nothing but the place itself is reached in what is no directory.
  intro way found reached
  cases tree with
  | directory entries => exact absurd ⟨entries, rfl⟩ noDirectory
  | file content =>
    cases way with
    | nil =>
      obtain rfl := Except.ok.inj reached
      exact ⟨other, rfl, fun directory => absurd directory noDirectory⟩
    | cons first rest => cases reached

/-- What was there is there after something else than a directory is replaced in a directory. -/
theorem covers_put (place : tree.reach names = .ok (.directory entries))
    (noDirectory : ∀ below, entries.get? name = some below → ¬ below.IsDirectory) :
    tree.Covers (tree.put new (names ++ [name])) := by
  induction names generalizing tree with
  | nil =>
    obtain rfl := Except.ok.inj place
    exact covers_insert new fun below held => covers_of_not_isDirectory (noDirectory below held) _
  | cons first rest ih =>
    rw [reach] at place
    -- The names in front lead to a directory, in which the entry of the first one is replaced.
    cases child : tree.child? first with
    | error error => simp [child, Except.bind] at place
    | ok below =>
      obtain ⟨above, rfl, _, held⟩ := of_child?_eq_ok child
      rw [child] at place
      refine covers_insert _ fun same isHeld => ?_
      obtain rfl := Option.some.inj (held.symm.trans isHeld)
      rw [held]
      exact ih place

end Put

section Walk

variable {root other : FileTree}

/-- A walk through directories goes the same way where these are covered. -/
theorem exists_follow_of_covers (covers : root.Covers other) {trail last copy : Trail} {parts : List String}
    (follows : follow root trail parts = .ok last) (leads : trail.Leads root) (copyLeads : copy.Leads other)
    (same : copy.names = trail.names) :
    ∃ lastCopy, follow other copy parts = .ok lastCopy ∧ lastCopy.Leads other ∧ lastCopy.names = last.names := by
  -- Part by part, both trails have the same names, under which the other tree has a directory too.
  induction parts generalizing trail copy with
  | nil =>
    obtain rfl := Except.ok.inj follows
    exact ⟨copy, rfl, copyLeads, same⟩
  | cons part rest ih =>
    obtain ⟨⟨entries, directory⟩, -⟩ := follow_cons follows
    have reached := leads.reach_names
    obtain ⟨instead, copied, isDirectory⟩ := covers _ _ reached
    rw [← same, copyLeads.reach_names] at copied
    obtain rfl := Except.ok.inj copied
    obtain ⟨others, place⟩ := isDirectory ⟨entries, directory⟩
    rw [follow, directory] at follows
    rw [follow, place]
    rcases Path.component?_cases part with isNone | ⟨-, isAbove⟩ | ⟨-, isName⟩
    · simp only [isNone] at follows ⊢
      exact ih follows leads copyLeads same
    · simp only [isAbove] at follows ⊢
      exact ih follows leads.tail copyLeads.tail (by rw [Trail.names_tail, Trail.names_tail, same])
    · simp only [isName] at follows ⊢
      cases child : child? (.directory entries) part with
      | error error => simp [child, Except.bind] at follows
      | ok below =>
        have child' : (trail.place root).child? part = .ok below := by rw [directory, child]
        have further : root.reach (trail.names ++ [part]) = .ok below := by
          rw [reach_append, reached]
          exact child'
        obtain ⟨instead, found, -⟩ := covers _ _ further
        rw [← same, reach_append, copyLeads.reach_names] at found
        have copyChild : child? (.directory others) part = .ok instead := by
          rw [← place]
          exact found
        rw [child] at follows
        rw [copyChild]
        exact ih follows ⟨child', leads⟩ ⟨found, copyLeads⟩ (by rw [Trail.names_cons, Trail.names_cons, same])

/-- An empty part leads nowhere else. -/
theorem follow_empty {trail : Trail} {parts : List String} (some : parts ≠ []) :
    follow root trail ("" :: parts) = follow root trail parts := by
  obtain ⟨part, rest, rfl⟩ := List.exists_cons_of_ne_nil some
  have nothing : Path.component? "" = none := rfl
  -- A file can be asked for nothing, and a directory passes the empty part over.
  cases place : trail.place root with
  | file content => simp only [follow, place]
  | directory entries => simp only [follow, place, nothing]

/-- The trail of a path that is made of parts is a walk along these. -/
theorem follow_of_trail?_intercalate {trail : Trail} {parts : List String} (plain : ∀ part ∈ parts, '/' ∉ part.toList)
    (leads : root.trail? ("/" ++ "/".intercalate parts) = .ok trail) : follow root [] parts = .ok trail := by
  have follows := (follow_of_trail? leads).2
  have cut : Path.parts ("/" ++ "/".intercalate parts) = "" :: Path.parts ("/".intercalate parts) := by
    have whole := Path.parts_append "" ("/".intercalate parts)
    rwa [Path.parts_empty, String.empty_append] at whole
  rw [cut, follow_empty (Path.parts_ne_nil _)] at follows
  cases parts with
  | cons part rest => rwa [Path.parts_intercalate (List.cons_ne_nil part rest) plain] at follows
  | nil =>
    -- The path of the root has an empty part, along which nothing is walked.
    rw [show "/".intercalate [] = "" from rfl, Path.parts_empty] at follows
    rcases (follow_cons follows).2 with above | here | ⟨_, nonempty, _⟩
    · exact above
    · exact here
    · exact absurd rfl nonempty

/-- A walk along some parts of a path goes on where the one along the parts in front ended. -/
theorem follow_append {trail : Trail} (parts more : List String) :
    follow root trail (parts ++ more) = (follow root trail parts).bind fun last => follow root last more := by
  induction parts generalizing trail with
  | nil => rfl
  | cons first rest ih =>
    rw [List.cons_append, follow, follow]
    cases trail.place root with
    | file content => rfl
    | directory entries =>
      -- A part is passed over, a step back, or a name.
      rcases Path.component?_cases first with isNone | ⟨-, isAbove⟩ | ⟨-, isName⟩
      · simp only [isNone, ih]
      · simp only [isAbove, ih]
      · simp only [isName]
        cases child? (.directory entries) first with
        | error error => rfl
        | ok below => exact ih

end Walk

/-- How a file was written: under its name, which is a plain one, into the directory that the parts in front lead to. -/
structure Wrote (root after : FileTree) (path : String) (content : ByteArray) (front : List String) (name : String)
    (trail : Trail) (entries : Dict FileTree) : Prop where
  parts : ∀ other : FileTree, other.trail? path = follow other [] (front ++ [name])
  isName : Path.component? name = some (.name name)
  short : ¬ 255 < name.utf8ByteSize
  follows : follow root [] front = .ok trail
  place : trail.place root = .directory entries
  noDirectory : ∀ below, entries.get? name = some below → ¬ below.IsDirectory
  result : after = root.put (.file content) (trail.names ++ [name])

/-- No part is left out at the end of a path that no slash ends. -/
theorem dropWhile_empty_eq_self {parts : List String} (noSlash : parts.getLast? ≠ some "") :
    (parts.reverse.dropWhile (· = "")).reverse = parts :=
  List.rdropWhile_eq_self_iff.2 fun nonempty empty => noSlash (by
    rw [List.getLast?_eq_some_getLast nonempty, of_decide_eq_true empty])

/-- The parts of a path behind its first slash, or all of them if it is a relative one, are those that are walked. -/
theorem trail?_eq_follow {path : String} {parts : List String} (some : ¬ path.isEmpty = true)
    (zero : ¬ path.toList.contains '\x00' = true) (long : ¬ 4096 ≤ path.utf8ByteSize)
    (cut : (if Path.isAbsolute path = true then (Path.parts path).tail else Path.parts path) = parts)
    (other : FileTree) : other.trail? path = follow other [] parts := by
  -- The part in front of a first slash is empty, and passed over.
  rw [trail?, if_neg zero, if_neg long, if_neg some, ← cut]
  split
  · next absolute =>
    obtain ⟨rest, isSome, whole⟩ := Path.parts_of_isAbsolute absolute
    rw [whole, List.tail_cons, follow_empty isSome]
  · rfl

/-- A file is written into the directory above it, under its name. -/
theorem wrote_of_write {root after : FileTree} {path : String} {content : ByteArray}
    (written : root.write path content = .ok after) :
    ∃ front name trail entries, root.Wrote after path content front name trail entries := by
  -- The checks are passed one by one, each of which ends with an error if it fails.
  rw [write] at written
  obtain ⟨some, written⟩ := Settings.of_guard written
  simp only at written
  generalize cut : (if Path.isAbsolute path = true then (Path.parts path).tail else Path.parts path) = parts at written
  split at written
  · cases written
  next name isLast =>
  obtain ⟨trail, leads, stored⟩ := Settings.exists_of_bind written
  split at stored
  · cases stored
  next entries place =>
  obtain ⟨zero, stored⟩ := Settings.of_guard stored
  obtain ⟨long, stored⟩ := Settings.of_guard stored
  obtain ⟨plain, stored⟩ := Settings.of_guard stored
  split at stored
  · cases stored
  next noDirectory =>
  obtain ⟨noSlash, stored⟩ := Settings.of_guard stored
  obtain ⟨short, stored⟩ := Settings.of_guard stored
  have result := Except.ok.inj stored
  rw [dropWhile_empty_eq_self noSlash] at isLast leads
  obtain ⟨front, rfl⟩ := List.getLast?_eq_some_iff.1 isLast
  rw [List.dropLast_concat] at leads
  have slashless : ∀ part ∈ front, '/' ∉ part.toList := by
    intro part member
    have inside : part ∈ if Path.isAbsolute path = true then (Path.parts path).tail else Path.parts path :=
      cut ▸ List.mem_append_left _ member
    refine @Path.not_mem_of_mem_parts path part ?_
    split at inside
    · exact List.mem_of_mem_tail inside
    · exact inside
  refine ⟨front, name, trail, entries, ?_, ?_, short, follow_of_trail?_intercalate slashless leads, place, ?_,
    result.symm⟩
  · exact trail?_eq_follow some zero long cut
  · have nonempty : name ≠ "" := fun empty => noSlash (by rw [isLast, empty])
    rw [not_or] at plain
    simp [Path.component?, nonempty, plain]
  · rintro below held ⟨inner, rfl⟩
    exact noDirectory inner held

/-- The bytes written to a file are read from it. -/
theorem read_of_write {root after : FileTree} {path : String} {content : ByteArray}
    (written : root.write path content = .ok after) : after.read path = .ok content := by
  obtain ⟨front, name, trail, entries, wrote⟩ := wrote_of_write written
  have reached := (follow_leads wrote.follows trivial).reach_names
  rw [wrote.place] at reached
  have covers : root.Covers after := wrote.result ▸ covers_put reached wrote.noDirectory
  have target : after.reach (trail.names ++ [name]) = .ok (.file content) :=
    wrote.result ▸ reach_put reached wrote.short
  -- The directory is found again on the way on which it was found for writing.
  have start : Trail.Leads after [] := trivial
  obtain ⟨copy, copyFollows, copyLeads, names⟩ := exists_follow_of_covers covers wrote.follows trivial start rfl
  have child : (copy.place after).child? name = .ok (.file content) := by
    rw [← names, reach_append, copyLeads.reach_names] at target
    exact target
  obtain ⟨others, directory, -, -⟩ := of_child?_eq_ok child
  have last : follow after copy [name] = .ok ((name, .file content) :: copy) := by
    rw [follow, directory]
    simp only [wrote.isName, ← directory, child]
    rfl
  rw [read, lookup, wrote.parts, follow_append, copyFollows]
  simp only [Except.bind, last]
  rfl

/-- The text written to a file is read from it. -/
theorem readText_of_write {root after : FileTree} {path text : String}
    (written : root.write path text.toUTF8 = .ok after) : after.readText path = .ok text := by
  -- What is written of a text is decoded to the text.
  have decoded : String.fromUTF8? text.toUTF8 = some text := dif_pos text.isValidUTF8
  rw [readText, read_of_write written]
  simp only [Except.bind, decoded]

end FileTree

end Phrasebook
