import Phrasebook.Proofs.Text.Split
import Phrasebook.Resource.Source

/-! A file is the same however its path is written: the path without detours tells which file it is. -/

namespace Phrasebook

namespace Text

variable {d : Char} {s piece : List Char}

/-- A text cut at a character has none of it left in its pieces. -/
theorem not_mem_of_mem_cutAt (member : piece ∈ cutAt [d] (List.cons_ne_nil d []) s) : d ∉ piece := by
  -- The last piece holds no delimiter, and each of the others ends before the first one.
  fun_induction cutAt [d] (List.cons_ne_nil d []) s with
  | case1 s absent =>
    obtain rfl := List.mem_singleton.1 member
    intro inside
    obtain ⟨front, back, whole⟩ := List.append_of_mem inside
    exact breakOn?_eq_none_iff.1 absent ⟨front, back, by simp [whole]⟩
  | case2 s before after cut ih =>
    rcases List.mem_cons.1 member with rfl | later
    · intro inside
      obtain ⟨front, back, whole⟩ := List.append_of_mem inside
      have first := endsFirst_of_breakOn? cut front (back ++ [d]) (by simp [whole])
      simp [whole] at first
    · exact ih later

/-- A character that parts do not hold separates them. -/
theorem separates_of_not_mem {parts : List (List Char)} (nonempty : parts ≠ []) (absent : ∀ part ∈ parts, d ∉ part) :
    Separates [d] parts := by
  refine separates_of_disjoint (List.cons_ne_nil d []) nonempty fun part member c inside same => ?_
  exact absent part member (List.mem_singleton.1 same ▸ inside)

end Text

namespace Path

/-- The parts of a path hold no slashes. -/
theorem not_mem_of_mem_parts {path part : String} (member : part ∈ parts path) : '/' ∉ part.toList := by
  -- A path is cut at every slash.
  obtain ⟨piece, inside, rfl⟩ := List.mem_map.1 member
  rw [Text.splitOn, dif_pos (List.cons_ne_nil _ _)] at inside
  rw [String.toList_ofList]
  exact Text.not_mem_of_mem_cutAt inside

/-- There is at least one part. -/
theorem parts_ne_nil (path : String) : parts path ≠ [] := by
  rw [parts, Text.splitOn, dif_pos (List.cons_ne_nil _ _), Text.cutAt]
  split <;> simp

/-- The first part of an absolute path is empty, and others follow. -/
theorem parts_of_isAbsolute {path : String} (absolute : isAbsolute path = true) :
    ∃ rest, rest ≠ [] ∧ parts path = "" :: rest := by
  -- The first character is the slash at which the first, empty part is cut off.
  unfold isAbsolute at absolute
  cases spelled : path.toList with
  | nil => simp [spelled] at absolute
  | cons c rest =>
    obtain rfl : c = '/' := by simpa [spelled] using absolute
    have cut : Text.breakOn? ['/'] ('/' :: rest) = some ([], rest) := Text.breakOn?_eq_some (List.not_mem_nil)
    refine ⟨(Text.splitOn ['/'] rest).map String.ofList, ?_, ?_⟩
    · rw [Text.splitOn, dif_pos (List.cons_ne_nil _ _), Text.cutAt]
      split <;> simp
    · rw [parts, spelled, Text.splitOn, dif_pos (List.cons_ne_nil _ _), Text.cutAt, Text.splitOn,
        dif_pos (List.cons_ne_nil _ _)]
      split
      · next absent => simp [cut] at absent
      · next before after same =>
        rw [cut] at same
        obtain ⟨rfl, rfl⟩ := Prod.mk.inj (Option.some.inj same)
        rfl

/-- The name at the end of a path is its last part. -/
theorem fileName?_eq_some {path name : String} (lasts : (parts path).getLast? = some name)
    (named : component? name = some (.name name)) : fileName? path = some name := by
  obtain ⟨front, whole⟩ := List.getLast?_eq_some_iff.1 lasts
  have ends : ((parts path).filterMap component?).getLast? = some (.name name) := by
    rw [whole, List.filterMap_append]
    simp [named]
  -- What may be put in front of the components does not change the last one.
  have last : (components path).getLast? = some (.name name) := by
    unfold components
    simp only
    split
    · rw [List.getLast?_cons, ends]
      rfl
    · split
      · rw [List.getLast?_cons, ends]
        rfl
      · exact ends
  rw [fileName?, last]

/-- Names joined by slashes can be told apart again. -/
theorem intercalate_injective {one two : List String} (ones : ∀ name ∈ one, name ≠ "" ∧ '/' ∉ name.toList)
    (twos : ∀ name ∈ two, name ≠ "" ∧ '/' ∉ name.toList) (same : "/".intercalate one = "/".intercalate two) :
    one = two := by
  have parts (names : List String) (plain : ∀ name ∈ names, name ≠ "" ∧ '/' ∉ name.toList) (some : names ≠ []) :
      Text.splitOn ['/'] ("/".intercalate names).toList = names.map String.toList := by
    rw [String.toList_intercalate]
    refine Text.splitOn_intercalate (List.cons_ne_nil _ _) (Text.separates_of_not_mem (by simpa using some) ?_)
    intro part member
    obtain ⟨name, inside, rfl⟩ := List.mem_map.1 member
    exact (plain name inside).2
  have nonempty (name : String) (rest : List String) (plain : name ≠ "") : "/".intercalate (name :: rest) ≠ "" := by
    cases rest <;> simp [plain]
  -- An empty text is joined of no names; any other one is cut into its names again.
  cases one with
  | nil =>
    cases two with
    | nil => rfl
    | cons name rest => exact absurd same.symm (nonempty name rest (twos name List.mem_cons_self).1)
  | cons name rest =>
    cases two with
    | nil => exact absurd same (nonempty name rest (ones name List.mem_cons_self).1)
    | cons other more =>
      have split := parts _ ones (List.cons_ne_nil _ _)
      rw [same, parts _ twos (List.cons_ne_nil _ _)] at split
      exact ((List.map_inj_right fun _ _ equal => String.toList_injective equal).1 split).symm

/-- What stands between the path of a directory and that of an entry. -/
def separator (base : String) : String :=
  if base.toList.getLast? = some '/' then "" else "/"

/-- Whether a path needs a separator behind it is told by its end. -/
theorem separator_append {path : String} (nonempty : path ≠ "") (front : String) :
    separator (front ++ path) = separator path := by
  -- Only the last character counts.
  have some : path.toList ≠ [] := by simpa using nonempty
  have last : (front ++ path).toList.getLast? = path.toList.getLast? := by
    rw [String.toList_append, List.getLast?_append]
    simp [List.getLast?_eq_some_getLast some]
  rw [separator, last, separator]

/-- A separator is written once. -/
theorem separator_append_separator (base : String) : separator (base ++ separator base) = "" := by
  -- A path ends with a slash, or does so with a separator behind it.
  by_cases ends : base.toList.getLast? = some '/'
  · simp [separator, ends]
  · simp [separator, ends]

/-- What stands behind a path does not change where it starts. -/
theorem isAbsolute_append {path : String} (nonempty : path ≠ "") (rest : String) :
    isAbsolute (path ++ rest) = isAbsolute path := by
  -- The first character stays the first one.
  have head : (path ++ rest).toList.head? = path.toList.head? := by
    rw [String.toList_append]
    cases spelled : path.toList with
    | nil => exact absurd (by simpa using spelled) nonempty
    | cons c more => rfl
  rw [isAbsolute, head, isAbsolute]

/-- What is joined to an empty path stands alone. -/
theorem join_empty (path : String) : join "" path = path := by
  unfold join
  split <;> rfl

/-- A relative path is written behind the directory. -/
theorem join_relative {base path : String} (nonempty : base ≠ "") (relative : isAbsolute path = false) :
    join base path = base ++ separator base ++ path := by
  -- A separator is written if there is no slash at the end.
  rw [join, separator, relative]
  simp only [Bool.false_eq_true, if_false, String.isEmpty_iff, nonempty]
  split <;> simp

/-- The path of an entry of an entry. -/
theorem join_assoc (base path file : String) : join (join base path) file = join base (join path file) := by
  have absolute {path : String} (is : isAbsolute path = true) (other : String) : join other path = path := by
    rw [join, if_pos is]
  have beside (path : String) : join "" path = path := by
    unfold join
    split <;> rfl
  -- An absolute path takes the place of what it is joined to, and an empty one is no directory of its own.
  cases fileAbsolute : isAbsolute file with
  | true => rw [absolute fileAbsolute, absolute fileAbsolute, absolute fileAbsolute]
  | false =>
    by_cases baseEmpty : base = ""
    · rw [baseEmpty, beside, beside]
    by_cases pathEmpty : path = ""
    · rw [pathEmpty, beside, join_relative baseEmpty rfl, String.append_empty,
        join_relative (by simp [baseEmpty]) fileAbsolute,
        separator_append_separator, join_relative baseEmpty fileAbsolute, String.append_empty]
    · have long : isAbsolute (path ++ separator path ++ file) = isAbsolute path := by
        rw [String.append_assoc, isAbsolute_append pathEmpty]
      cases pathAbsolute : isAbsolute path with
      | true => rw [absolute pathAbsolute, join_relative pathEmpty fileAbsolute, absolute (long.trans pathAbsolute)]
      | false =>
        rw [join_relative baseEmpty pathAbsolute, join_relative (by simp [pathEmpty]) fileAbsolute,
          separator_append pathEmpty, join_relative pathEmpty fileAbsolute,
          join_relative baseEmpty (long.trans pathAbsolute)]
        simp only [String.append_assoc]

end Path

namespace FileTree

variable {root : FileTree}

namespace Trail

/-- Every name of a trail is that of an entry of the directory reached before. -/
def Leads (root : FileTree) : Trail → Prop
  | [] => True
  | (name, tree) :: before => (place root before).child? name = .ok tree ∧ Leads root before

/-- There is one trail only for a list of names. -/
theorem Leads.eq_of_names {one two : Trail} (leads : Leads root one) (alsoLeads : Leads root two)
    (same : one.map Prod.fst = two.map Prod.fst) : one = two := by
  -- From the root on: the same name leads to the same entry.
  induction one generalizing two with
  | nil => exact (List.map_eq_nil_iff.1 same.symm).symm
  | cons entry before ih =>
    obtain ⟨name, tree⟩ := entry
    cases two with
    | nil => cases same
    | cons other earlier =>
      obtain ⟨named, below⟩ := other
      obtain ⟨rfl, rest⟩ := List.cons.inj same
      obtain rfl := ih leads.2 alsoLeads.2 rest
      obtain rfl := Except.ok.inj (leads.1.symm.trans alsoLeads.1)
      rfl

/-- A trail is one also without its last entry. -/
theorem Leads.tail {trail : Trail} (leads : Leads root trail) : Leads root trail.tail := by
  -- The last entry is the first one of the list.
  cases trail with
  | nil => exact leads
  | cons entry before => exact leads.2

/-- Only directories lie above the end of a trail. -/
theorem Leads.tail_directory {trail : Trail} (leads : Leads root trail)
    (directory : ∃ entries, trail.place root = .directory entries) :
    ∃ entries, Trail.place root trail.tail = .directory entries := by
  -- A child is found in a directory only.
  cases trail with
  | nil => exact directory
  | cons entry before =>
    obtain ⟨name, tree⟩ := entry
    have child := leads.1
    cases above : Trail.place root before with
    | directory entries => exact ⟨entries, above⟩
    | file content =>
      rw [above] at child
      cases child

end Trail

/-- What a part of a path does to a walk: it goes back to the directory above, on to an entry, or nowhere. -/
theorem follow_cons {trail last : Trail} {part : String} {rest : List String}
    (follows : follow root trail (part :: rest) = .ok last) :
    (∃ entries, trail.place root = .directory entries) ∧
      (follow root trail.tail rest = .ok last ∨ follow root trail rest = .ok last ∨
        ∃ below, part ≠ "" ∧ Path.component? part = some (.name part) ∧ (trail.place root).child? part = .ok below ∧
          follow root ((part, below) :: trail) rest = .ok last) := by
  -- The part is a step back, a name, or neither; and a name has to be an entry.
  rw [follow] at follows
  cases place : trail.place root with
  | file content => simp [place] at follows
  | directory entries =>
    simp only [place] at follows
    refine ⟨⟨entries, rfl⟩, ?_⟩
    unfold Path.component? at follows ⊢
    split at follows
    · exact .inl follows
    · next name isName =>
      split at isName
      · cases isName
      split at isName
      · cases isName
      next plain _ =>
        obtain rfl : part = name := by simpa using isName
        cases child : (directory entries).child? part with
        | error error => simp [child, Except.bind] at follows
        | ok below =>
          have named : part ≠ "" := fun empty => plain (.inl empty)
          exact .inr (.inr ⟨below, named, by simp_all, rfl, by simpa [child, Except.bind] using follows⟩)
    · exact .inr (.inl follows)

/-- A walk from a trail whose names are entries ends in such a trail. -/
theorem follow_leads {trail last : Trail} {parts : List String} (follows : follow root trail parts = .ok last)
    (leads : trail.Leads root) : last.Leads root := by
  -- Part by part, with one case for each thing that a part does.
  induction parts generalizing trail with
  | nil =>
    obtain rfl := Except.ok.inj follows
    exact leads
  | cons part rest ih =>
    rcases (follow_cons follows).2 with above | here | ⟨below, _, _, child, onward⟩
    · exact ih above leads.tail
    · exact ih here leads
    · exact ih onward ⟨child, leads⟩

/-- The names of a walk are parts of the path. -/
theorem mem_parts_of_follow {trail last : Trail} {parts : List String} (follows : follow root trail parts = .ok last)
    {entry : String × FileTree} (member : entry ∈ last) : entry ∈ trail ∨ entry.1 ≠ "" ∧ entry.1 ∈ parts := by
  -- Part by part, with one case for each thing that a part does.
  induction parts generalizing trail with
  | nil =>
    obtain rfl := Except.ok.inj follows
    exact .inl member
  | cons part rest ih =>
    rcases (follow_cons follows).2 with above | here | ⟨below, nonempty, _, _, onward⟩
    · exact (ih above).imp List.mem_of_mem_tail (And.imp_right (List.mem_cons_of_mem part))
    · exact (ih here).imp_right (And.imp_right (List.mem_cons_of_mem part))
    · rcases ih onward with inside | ⟨some, later⟩
      · rcases List.mem_cons.1 inside with rfl | before
        · exact .inr ⟨nonempty, List.mem_cons_self⟩
        · exact .inl before
      · exact .inr ⟨some, List.mem_cons_of_mem part later⟩

/-- A walk that ends at a file ends with its name. -/
theorem getLast?_of_follow {trail last : Trail} {parts : List String} {content : ByteArray}
    (follows : follow root trail parts = .ok last) (leads : trail.Leads root) (file : last.place root = .file content) :
    parts = [] ∧ last = trail ∨
      ∃ name tree before, last = (name, tree) :: before ∧ parts.getLast? = some name ∧
        Path.component? name = some (.name name) := by
  induction parts generalizing trail with
  | nil =>
    obtain rfl := Except.ok.inj follows
    exact .inl ⟨rfl, rfl⟩
  | cons part rest ih =>
    have onwards {name : String} (ends : rest.getLast? = some name) : (part :: rest).getLast? = some name := by
      rw [List.getLast?_cons, ends]
      rfl
    obtain ⟨⟨entries, directory⟩, above | here | ⟨below, _, isName, child, onward⟩⟩ := follow_cons follows
    · rcases ih above leads.tail with ⟨-, rfl⟩ | ⟨name, tree, before, ends, lasts, named⟩
      · -- The end would be a directory.
        obtain ⟨_, tail⟩ := leads.tail_directory ⟨entries, directory⟩
        cases file.symm.trans tail
      · exact .inr ⟨name, tree, before, ends, onwards lasts, named⟩
    · rcases ih here leads with ⟨-, rfl⟩ | ⟨name, tree, before, ends, lasts, named⟩
      · cases file.symm.trans directory
      · exact .inr ⟨name, tree, before, ends, onwards lasts, named⟩
    · rcases ih onward ⟨child, leads⟩ with ⟨rfl, rfl⟩ | ⟨name, tree, before, ends, lasts, named⟩
      · exact .inr ⟨part, below, trail, rfl, rfl, isName⟩
      · exact .inr ⟨name, tree, before, ends, onwards lasts, named⟩

/-- The trail of a path is a walk from the root along its parts. -/
theorem follow_of_trail? {path : String} {trail : Trail} (leads : root.trail? path = .ok trail) :
    path ≠ "" ∧ follow root [] (Path.parts path) = .ok trail := by
  -- What is refused at once has no trail.
  unfold trail? at leads
  split at leads
  · cases leads
  split at leads
  · cases leads
  split at leads
  · cases leads
  · next some => exact ⟨fun empty => some (by simp [empty]), leads⟩

/-- Paths with the same canonical path have the same trail. -/
theorem trail?_eq_of_canonical? {one two place : String} (ones : root.canonical? one = some place)
    (twos : root.canonical? two = some place) : root.trail? one = root.trail? two := by
  have names {path : String} {trail : Trail} (leads : root.trail? path = .ok trail) :
      ∀ name ∈ trail.names, name ≠ "" ∧ '/' ∉ name.toList := by
    intro name member
    obtain ⟨entry, inside, rfl⟩ := List.mem_map.1 member
    rcases mem_parts_of_follow (follow_of_trail? leads).2 (List.mem_reverse.1 inside) with nothing | ⟨some, part⟩
    · cases nothing
    · exact ⟨some, Path.not_mem_of_mem_parts part⟩
  unfold canonical? at ones twos
  split at ones
  · next first leadsFirst =>
    split at twos
    · next second leadsSecond =>
      -- The names hold no slashes, so that the canonical path tells them.
      have text := (Option.some.inj ones).trans (Option.some.inj twos).symm
      have same := Path.intercalate_injective (names leadsFirst) (names leadsSecond)
        (String.append_right_inj _ |>.1 text)
      have back : first.map Prod.fst = second.map Prod.fst := by
        have reversed := congrArg List.reverse same
        simpa only [Trail.names, List.map_reverse, List.reverse_reverse] using reversed
      -- In one tree the names tell the trail.
      have equal := (follow_leads (follow_of_trail? leadsFirst).2 trivial).eq_of_names
        (follow_leads (follow_of_trail? leadsSecond).2 trivial) back
      rw [leadsFirst, leadsSecond, equal]
    · cases twos
  · cases ones

/-- The last part of the path of a file is the name at the end of its trail. -/
theorem getLast?_of_isFile {path : String} (file : root.isFile path = true) :
    ∃ name tree before, root.trail? path = .ok ((name, tree) :: before) ∧ (Path.parts path).getLast? = some name ∧
      Path.component? name = some (.name name) := by
  unfold isFile lookup at file
  cases leads : root.trail? path with
  | error error => simp [leads, Except.map] at file
  | ok trail =>
    have follows := (follow_of_trail? leads).2
    obtain ⟨content, isFile⟩ : ∃ content, trail.place root = .file content := by
      simp only [leads, Except.map] at file
      cases place : trail.place root with
      | file content => exact ⟨content, rfl⟩
      | directory entries => simp [place] at file
    -- Every path has parts, so that the walk does not end where it starts.
    rcases getLast?_of_follow follows trivial isFile with ⟨empty, rfl⟩ | ⟨name, tree, before, rfl, lasts, named⟩
    · exact absurd empty (Path.parts_ne_nil path)
    · exact ⟨name, tree, before, rfl, lasts, named⟩

/-- A path of a file ends with the name at the end of its trail. -/
theorem fileName?_of_isFile {path : String} (file : root.isFile path = true) :
    ∃ trail, root.trail? path = .ok trail ∧ Path.fileName? path = trail.head?.map Prod.fst := by
  obtain ⟨name, tree, before, leads, lasts, named⟩ := getLast?_of_isFile file
  exact ⟨_, leads, Path.fileName?_eq_some lasts named⟩

/-- Files with the same canonical path are the same file, and have the same name. -/
theorem same_file {one two place : String} (ones : root.canonical? one = some place)
    (twos : root.canonical? two = some place) (file : root.isFile one = true) :
    root.read one = root.read two ∧ Path.extension? one = Path.extension? two := by
  -- Both have one trail, whose last name is the name of the file.
  have trails := trail?_eq_of_canonical? ones twos
  have lookups : root.lookup one = root.lookup two := by rw [lookup, trails, lookup]
  have other : root.isFile two = true := by rwa [isFile, ← lookups]
  obtain ⟨first, leads, name⟩ := fileName?_of_isFile file
  obtain ⟨second, alsoLeads, otherName⟩ := fileName?_of_isFile other
  obtain rfl := Except.ok.inj ((leads.symm.trans trails).trans alsoLeads)
  refine ⟨by rw [read, lookups, read], ?_⟩
  rw [Path.extension?, name, Path.extension?, otherName]

end FileTree

namespace Resource.Source

variable {source : Source} {one two place encoding : String} {data : Dict Json}

/-- A path of a file has a canonical one. -/
theorem canonical?_of_isFile (file : source.files.isFile one = true) :
    source.files.canonical? one = some (source.placeOf one) := by
  -- A file has a trail.
  obtain ⟨trail, leads, _⟩ := FileTree.fileName?_of_isFile file
  rw [placeOf, FileTree.canonical?, leads]
  rfl

/-- Reading a file depends on the files and their formats only. -/
theorem read_congr {other : Source} (files : other.files = source.files) (formats : other.formats = source.formats)
    (path encoding : String) :
    other.read path encoding = source.read path encoding := by
  have text : other.text path encoding = source.text path encoding := by rw [Source.text, files, formats, Source.text]
  rw [Source.read, formats, text, Source.read]

/-- The text of a file comes from its bytes. -/
theorem text_of_same {text : String} (bytes : source.files.read one = source.files.read two)
    (gives : source.text one encoding = .ok text) :
    (∃ content, source.files.read one = .ok content) ∧ source.text two encoding = .ok text := by
  -- The errors name the path, so that every step but the last one has to succeed.
  unfold Source.text at gives ⊢
  cases charset : Charset.ofLabel? encoding with
  | none => simp [charset, throw, throwThe, MonadExceptOf.throw] at gives
  | some charset' =>
    simp only [charset, ← bytes] at gives ⊢
    cases content : source.files.read one with
    | error error =>
      rw [content] at gives
      cases gives
    | ok bytes =>
      have passes (fault : FileError → LoadError) : (Except.ok bytes).mapError fault = .ok bytes := rfl
      simp only [content, passes, bind, Except.bind] at gives ⊢
      refine ⟨⟨bytes, rfl⟩, ?_⟩
      cases decoded : charset'.decode? source.formats.decoder bytes with
      | none => simp [decoded, throw, throwThe, MonadExceptOf.throw] at gives
      | some text' => simpa [decoded] using gives

/-- The data of a file comes from its bytes, in the format of its extension. -/
theorem read_of_same (bytes : source.files.read one = source.files.read two)
    (extension : Path.extension? one = Path.extension? two) (reads : source.read one encoding = .ok data) :
    (∃ content, source.files.read one = .ok content) ∧ source.read two encoding = .ok data := by
  unfold Source.read at reads ⊢
  rw [← extension]
  cases format : source.formats.get ((Path.extension? one).getD "") with
  | error error => simp [format, bind, Except.bind] at reads
  | ok format' =>
    cases gives : source.text one encoding with
    | error error => simp [format, gives, bind, Except.bind] at reads
    | ok text =>
      -- The same bytes are the same text, in the format of the same extension.
      obtain ⟨content, same⟩ := text_of_same bytes gives
      refine ⟨content, ?_⟩
      simp only [format, gives, same, bind, Except.bind] at reads ⊢
      cases parsed : format' text with
      | error error => simp [parsed] at reads
      | ok data' =>
        simp only [parsed] at reads ⊢
        split at reads
        · exact reads
        · exact reads
        · cases reads

/-- Only files have data. -/
theorem isFile_of_read (reads : source.read one encoding = .ok data) : source.files.isFile one = true := by
  -- A directory has no bytes to read.
  obtain ⟨⟨content, found⟩, _⟩ := read_of_same rfl rfl reads
  unfold FileTree.read at found
  unfold FileTree.isFile
  cases place : source.files.lookup one with
  | error error =>
    rw [place] at found
    cases found
  | ok tree =>
    cases tree with
    | file content => rfl
    | directory entries =>
      rw [place] at found
      cases found

/-- A file has the same data however its path is written. -/
theorem read_of_placeOf (other : source.files.isFile two = true) (same : source.placeOf one = source.placeOf two)
    (reads : source.read one encoding = .ok data) : source.read two encoding = .ok data := by
  -- Both are files, so that the same place is the same canonical path.
  have file := isFile_of_read reads
  have twos := canonical?_of_isFile other
  rw [← same] at twos
  obtain ⟨bytes, extension⟩ := FileTree.same_file (canonical?_of_isFile file) twos file
  exact (read_of_same bytes extension reads).2

end Resource.Source

end Phrasebook
