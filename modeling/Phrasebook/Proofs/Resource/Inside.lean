import Phrasebook.Proofs.Filename.Standard
import Phrasebook.Proofs.Resource.Visits
import Phrasebook.Proofs.Settings.Valid

/-! The files that a search reads, and where they lie. Main statement: such a file lies below the load path it was
looked for in exactly if no directory passed on the way, and no part of the file's name, starts at the root or goes up.
-/

namespace Phrasebook

namespace Text

/-- A text is cut before and behind a delimiter. -/
theorem cutAt_append {d : Char} (s rest : List Char) :
    cutAt [d] (List.cons_ne_nil d []) (s ++ d :: rest) =
      cutAt [d] (List.cons_ne_nil d []) s ++ cutAt [d] (List.cons_ne_nil d []) rest := by
  fun_induction cutAt [d] (List.cons_ne_nil d []) s with
  -- Nothing is cut in front, so that the delimiter between the two is the first one.
  | case1 s absent =>
    have plain : d ∉ s := fun inside => by
      obtain ⟨front, back, rfl⟩ := List.append_of_mem inside
      exact breakOn?_eq_none_iff.1 absent ⟨front, back, by simp⟩
    rw [cutAt]
    split
    · next none => simp [breakOn?_eq_some plain] at none
    · next before after cut =>
      rw [breakOn?_eq_some plain] at cut
      obtain ⟨rfl, rfl⟩ := Prod.mk.inj (Option.some.inj cut)
      rfl
  -- What is cut off first stands in front of the delimiter between the two.
  | case2 s before after cut ih =>
    have plain : d ∉ before := by
      refine not_mem_of_mem_cutAt (s := s) ?_
      rw [cutAt]
      split
      · next none => simp [cut] at none
      · next front back same =>
        rw [cut] at same
        obtain ⟨rfl, rfl⟩ := Prod.mk.inj (Option.some.inj same)
        exact List.mem_cons_self
    have whole : s ++ d :: rest = before ++ d :: (after ++ d :: rest) := by
      rw [eq_of_breakOn? cut]
      simp
    rw [whole, cutAt]
    split
    · next none => simp [breakOn?_eq_some plain] at none
    · next front back same =>
      rw [breakOn?_eq_some plain] at same
      obtain ⟨rfl, rfl⟩ := Prod.mk.inj (Option.some.inj same)
      rw [ih, List.cons_append]

end Text

namespace Path

variable {base path piece : String} {pieces : List String}

/-- The parts of a path are those before a slash and those behind it. -/
theorem parts_append (front back : String) : parts (front ++ "/" ++ back) = parts front ++ parts back := by
  -- A path is cut before and behind a slash.
  have text : (front ++ "/" ++ back).toList = front.toList ++ '/' :: back.toList := by simp
  rw [parts, text, Text.splitOn, dif_pos (List.cons_ne_nil _ _), Text.cutAt_append, List.map_append]
  rfl

/-- The parts of a path with slashes between them are the path. -/
theorem intercalate_parts (path : String) : "/".intercalate (parts path) = path := by
  -- A path is cut at its slashes.
  rw [← String.toList_inj, String.toList_intercalate, parts, Text.splitOn, dif_pos (List.cons_ne_nil _ _),
    List.map_map]
  simp only [Function.comp_def, String.toList_ofList, List.map_id']
  exact Text.intercalate_cutAt (List.cons_ne_nil '/' []) path.toList

/-- An empty path has one part, which is empty. -/
theorem parts_empty : parts "" = [""] := by
  rw [parts, Text.splitOn, dif_pos (List.cons_ne_nil _ _), Text.cutAt]
  rfl

/-- The directories above and the plain names of a path. -/
def steps (path : String) : List Component :=
  (parts path).filterMap component?

/-- The parts of a path in a directory come behind those of the directory, of which an empty one at the end is left
out. -/
theorem parts_join (nonempty : base ≠ "") (relative : isAbsolute path = false) :
    ∃ front, parts (join base path) = front ++ parts path ∧ (parts base = front ∨ parts base = front ++ [""]) ∧
      front ≠ [] := by
  rw [join_relative nonempty relative]
  -- A slash at the end of the directory is not doubled, and makes its last part an empty one.
  by_cases ends : base.toList.getLast? = some '/'
  · obtain ⟨front, whole⟩ := List.getLast?_eq_some_iff.1 ends
    have spelled : base = String.ofList front ++ "/" ++ "" := by
      rw [← String.toList_inj]
      simp [whole]
    refine ⟨parts (String.ofList front), ?_, .inr ?_, parts_ne_nil _⟩
    · rw [separator, if_pos ends, String.append_empty, spelled, String.append_empty, parts_append]
    · rw [spelled, parts_append, parts_empty]
  · refine ⟨parts base, ?_, .inl rfl, parts_ne_nil _⟩
    rw [separator, if_neg ends, parts_append]

/-- The steps of a path in a directory come behind those of the directory. -/
theorem steps_join (relative : isAbsolute path = false) : steps (join base path) = steps base ++ steps path := by
  by_cases empty : base = ""
  · -- No directory has no steps.
    rw [empty, join_empty, show steps "" = [] by simp [steps, parts_empty, component?], List.nil_append]
  obtain ⟨front, whole, same | same, _⟩ := parts_join empty relative
  · rw [steps, whole, List.filterMap_append, steps, same, steps]
  · rw [steps, whole, List.filterMap_append, steps, same, steps, List.filterMap_append]
    simp [component?]

/-- A path in a directory starts at the root if the directory does. -/
theorem isAbsolute_join (nonempty : base ≠ "") (relative : isAbsolute path = false) :
    isAbsolute (join base path) = isAbsolute base := by
  rw [join_relative nonempty relative, String.append_assoc, isAbsolute_append nonempty]

/-- A path relative to a directory leads to a place below it: only plain names follow the directory. -/
def Below (base path : String) : Prop :=
  isAbsolute path = false ∧ ∃ names : List String, steps (join base path) = steps base ++ names.map .name

/-- A piece of a path that neither starts at the root nor goes up. -/
def Inward (piece : String) : Prop :=
  isAbsolute piece = false ∧ ".." ∉ parts piece

instance (piece : String) : Decidable (Inward piece) :=
  inferInstanceAs (Decidable (_ ∧ _))

/-- A part is no component, the directory above, or a plain name. -/
theorem component?_cases (part : String) :
    component? part = none ∨ part = ".." ∧ component? part = some .above ∨
      part ≠ ".." ∧ component? part = some (.name part) := by
  -- Empty parts and points for the present directory are passed over.
  unfold component?
  split
  · exact .inl rfl
  · split
    · next up => exact .inr (.inl ⟨up, rfl⟩)
    · next plain => exact .inr (.inr ⟨plain, rfl⟩)

/-- The steps of a path are plain names exactly if it does not go up. -/
theorem exists_names_iff : (∃ names : List String, steps path = names.map .name) ↔ ".." ∉ parts path := by
  unfold steps
  induction parts path with
  | nil => exact iff_of_true ⟨[], rfl⟩ List.not_mem_nil
  | cons part rest ih =>
    rw [List.mem_cons, not_or, ← ih, List.filterMap_cons]
    -- Only a part that goes up makes a step that is no name.
    obtain none | ⟨rfl, above⟩ | ⟨plain, named⟩ := component?_cases part
    · have stays : ".." ≠ part := fun up => by simp [← up, component?] at none
      simp [none, stays]
    · simp only [above, not_true_eq_false, false_and, iff_false]
      rintro ⟨names, same⟩
      cases names <;> cases same
    · simp only [named, Ne.symm plain, not_false_eq_true, true_and]
      constructor
      · rintro ⟨names, same⟩
        cases names with
        | nil => cases same
        | cons name names => exact ⟨names, (List.cons.inj same).2⟩
      · rintro ⟨names, same⟩
        exact ⟨part :: names, by rw [same, List.map_cons]⟩

/-- A path without slashes has one part. -/
theorem parts_of_plain (plain : '/' ∉ path.toList) : parts path = [path] := by
  -- There is no slash to cut at.
  rw [parts, Text.splitOn, dif_pos (List.cons_ne_nil _ _), Text.cutAt]
  split
  · simp
  · next cut => simp [Text.breakOn?_eq_none plain] at cut

/-- A path without slashes does not start at the root. -/
theorem isAbsolute_of_plain (plain : '/' ∉ path.toList) : isAbsolute path = false := by
  -- An absolute path starts with a slash.
  rw [Bool.eq_false_iff]
  intro absolute
  exact plain (List.mem_of_mem_head? (by simpa [isAbsolute] using absolute))

/-- A path without slashes stays inside unless it is the directory above. -/
theorem inward_iff_of_plain (plain : '/' ∉ path.toList) : Inward path ↔ path ≠ ".." := by
  rw [Inward, parts_of_plain plain, List.mem_singleton]
  simp [isAbsolute_of_plain plain, eq_comm]

/-- The last part of a path in a directory is what is joined to the directory. -/
theorem getLast?_parts_join (plain : '/' ∉ path.toList) : (parts (join base path)).getLast? = some path := by
  -- An empty directory leaves the path alone.
  by_cases empty : base = ""
  · have same : join base path = path := by
      rw [join, isAbsolute_of_plain plain, empty]
      rfl
    rw [same, parts_of_plain plain, List.getLast?_singleton]
  · obtain ⟨front, whole, -⟩ := parts_join empty (isAbsolute_of_plain plain)
    rw [whole, parts_of_plain plain, List.getLast?_concat]

/-- A path leads below a directory if it neither starts at the root nor goes up. -/
theorem below_iff : Below base path ↔ Inward path := by
  -- The steps of the directory come first in both, so that the others are those of the path.
  unfold Below Inward
  refine and_congr_right fun relative => ?_
  rw [← exists_names_iff, steps_join relative]
  simp only [List.append_cancel_left_eq]

/-- A path in a directory stays inside if both the directory and the path do. -/
theorem inward_join : Inward (join base path) ↔ Inward base ∧ Inward path := by
  cases absolute : isAbsolute path with
  | true =>
    -- An absolute path takes the place of the directory.
    rw [join, if_pos absolute]
    simp [Inward, absolute]
  | false =>
    by_cases empty : base = ""
    · subst empty
      have inward : Inward "" := by decide +kernel
      rw [join, absolute]
      simp [inward]
    · obtain ⟨front, whole, same | same, _⟩ := parts_join empty absolute
      · simp [Inward, isAbsolute_join empty absolute, whole, same, absolute, and_assoc, not_or]
      · simp [Inward, isAbsolute_join empty absolute, whole, same, absolute, and_assoc, not_or]

/-- Pieces joined one behind the other. -/
def ofPieces (pieces : List String) : String :=
  pieces.foldl join ""

/-- Pieces joined one behind the other stay inside if each of them does. -/
theorem inward_ofPieces : Inward (ofPieces pieces) ↔ ∀ piece ∈ pieces, Inward piece := by
  -- Piece by piece, from whatever the pieces in front of it have led to.
  have general (path : String) : Inward (pieces.foldl join path) ↔ Inward path ∧ ∀ piece ∈ pieces, Inward piece := by
    induction pieces generalizing path with
    | nil => simp
    | cons piece rest ih => rw [List.foldl_cons, ih, inward_join, List.forall_mem_cons, and_assoc]
  have inward : Inward "" := by decide +kernel
  rw [ofPieces, general, and_iff_right inward]

end Path

namespace Resource

namespace Query

variable (query : Query) (files : FileTree) (base locale : String)

/-- The name of the file that is named after a segment. -/
def nameOf (segment : String) : String :=
  query.format.render segment locale query.settings.fileFormat

/-- The pieces of the path of the file that holds the messages of a namespace: the segments that the descent has passed,
and the name of the file. -/
def way? : String → List String → Option (List String)
  | path, [] => (query.named? files base locale path "").map fun _ => [query.nameOf locale ""]
  | path, segment :: rest =>
    ((query.named? files base locale path segment).map fun _ => [query.nameOf locale segment]).or
      (if segment ≠ "" ∧ files.isDirectory (Path.join (Path.join base path) segment) then
        (way? (Path.join path segment) rest).map (segment :: ·)
      else none)

/-- The files that a search reads: each by the load path it was looked for in, and the pieces of its path there. -/
def reads (segments bases : List String) : List (String × List String) :=
  bases.filterMap fun base => (query.way? files base locale "" segments).map fun pieces => (base, pieces)

/-- Loading a file that a search reads. -/
def loadRead (read : String × List String) : Lookup Source (List String) :=
  query.loadFile read.1 (Path.ofPieces read.2) locale

variable {query files base locale}

/-- What a search reads is found base by base. -/
theorem reads_cons (segments : List String) (rest : List String) :
    query.reads files locale segments (base :: rest) =
      match query.way? files base locale "" segments with
      | none => query.reads files locale segments rest
      | some pieces => (base, pieces) :: query.reads files locale segments rest := by
  rw [reads, List.filterMap_cons]
  cases query.way? files base locale "" segments <;> rfl

/-- A file named after a segment has its name in the directory. -/
theorem named?_eq {path segment file : String} (named : query.named? files base locale path segment = some file) :
    file = Path.join path (query.nameOf locale segment) := by
  -- The name is only given if there is a file.
  unfold named? at named
  simp only at named
  split at named
  · exact (Option.some.inj named).symm
  · cases named

/-- The file that holds the messages of a namespace lies where its pieces lead. -/
theorem target?_eq (path : String) (segments : List String) :
    query.target? files base locale path segments =
      (query.way? files base locale path segments).map fun pieces => pieces.foldl Path.join path := by
  -- Segment by segment, as the files are looked for.
  induction segments generalizing path with
  | nil =>
    rw [target?, way?]
    cases named : query.named? files base locale path "" with
    | none => rfl
    | some file => exact congrArg some (named?_eq named)
  | cons segment rest ih =>
    rw [target?, way?, ih]
    cases named : query.named? files base locale path segment with
    | some file => exact congrArg some (named?_eq named)
    | none =>
      simp only [Option.map_none, Option.none_or]
      split
      · rw [Option.map_map]
        rfl
      · rfl

/-- The pieces that lead to a file are the segments passed and the name after the next one, or after nothing behind the
last one. -/
theorem way?_shape {path : String} {segments pieces : List String}
    (way : query.way? files base locale path segments = some pieces) :
    ∃ passed segment, passed ++ [segment] <+: segments ++ [""] ∧ pieces = passed ++ [query.nameOf locale segment] := by
  induction segments generalizing path pieces with
  | nil =>
    obtain ⟨file, _, rfl⟩ := Option.map_eq_some_iff.1 way
    exact ⟨[], "", List.prefix_rfl, rfl⟩
  | cons segment rest ih =>
    rw [way?, Option.or_eq_some_iff] at way
    -- A file is named after the segment, or lies in the directory of that name.
    rcases way with named | ⟨-, below⟩
    · obtain ⟨file, _, rfl⟩ := Option.map_eq_some_iff.1 named
      exact ⟨[], segment, ⟨rest ++ [""], rfl⟩, rfl⟩
    · split at below
      · obtain ⟨later, onward, rfl⟩ := Option.map_eq_some_iff.1 below
        obtain ⟨passed, last, starts, rfl⟩ := ih onward
        exact ⟨segment :: passed, last, (List.prefix_cons_inj segment).2 starts, rfl⟩
      · cases below

/-- A search below some load paths is the loading of the files that it reads. -/
theorem descends_eq_reads (segments bases : List String) (library : Library Source) :
    ((bases.mapM fun base => query.descend base locale "" segments) >>= fun found =>
        pure found.flatten : Lookup Source (List String)).outcome library =
      ((query.reads library.state.files locale segments bases).mapM (query.loadRead locale) >>= fun found =>
        pure found.flatten).outcome library := by
  -- What the first file gives stands before what the others give.
  have apart (step : Lookup Source (List String)) (steps : Lookup Source (List (List String))) :
      ((step >>= fun first => steps >>= fun others => pure (first :: others)) >>= fun found => pure found.flatten) =
        step >>= fun first => (steps >>= fun found => pure found.flatten) >>= fun others => pure (first ++ others) := by
    simp only [bind_assoc, pure_bind, List.flatten_cons]
  induction bases generalizing library with
  | nil => rfl
  | cons base rest ih =>
    rw [List.mapM_cons, apart, Lookup.outcome_bind, descend_outcome, target?_eq, reads_cons]
    cases query.way? library.state.files base locale "" segments with
    | none =>
      simp only [Option.map_none, List.nil_append, bind_pure]
      exact ih library
    | some pieces =>
      simp only [Option.map_some]
      rw [List.mapM_cons, apart, Lookup.outcome_bind, loadRead, Path.ofPieces]
      have same := loadFile_sameBut query base (pieces.foldl Path.join "") locale library
      generalize (query.loadFile base (pieces.foldl Path.join "") locale).outcome library = ended at same ⊢
      obtain ⟨_ | found, left⟩ := ended
      · rfl
      · -- Loading a file leaves the files as they are.
        have onward := ih left
        rw [same.files] at onward
        simp only
        rw [Lookup.outcome_bind, onward, Lookup.outcome_bind _ fun others => pure (found ++ others)]

/-- What a search reads it finds below one of the load paths. -/
theorem exists_of_mem_reads {segments bases pieces : List String}
    (read : (base, pieces) ∈ query.reads files locale segments bases) :
    base ∈ bases ∧ query.way? files base locale "" segments = some pieces := by
  -- Every load path gives at most one way.
  obtain ⟨_, member, found⟩ := List.mem_filterMap.1 read
  obtain ⟨_, way, pair⟩ := Option.map_eq_some_iff.1 found
  obtain ⟨rfl, rfl⟩ := Prod.mk.inj pair
  exact ⟨member, way⟩

/-- A file that a search reads is there. -/
theorem isFile_of_mem_reads {segments bases pieces : List String}
    (read : (base, pieces) ∈ query.reads files locale segments bases) :
    files.isFile (Path.join base (Path.ofPieces pieces)) = true := by
  -- A way leads to the target, and a target is a file.
  have target : query.target? files base locale "" segments = some (Path.ofPieces pieces) := by
    rw [target?_eq, (exists_of_mem_reads read).2]
    rfl
  exact isFile_of_target? target

/-- Nothing that the path of a file is made of holds a slash, and no segment is the directory above. -/
structure Flat (query : Query) (locale : String) (segments : List String) : Prop where
  segments : ∀ segment ∈ segments, segment ≠ ".." ∧ '/' ∉ segment.toList
  locale : '/' ∉ locale.toList
  fileFormat : '/' ∉ query.settings.fileFormat.toList
  literals : ∀ text, .literal text ∈ query.format.pieces → '/' ∉ text

/-- The name of a file holds no slash if nothing does that it is made of. -/
theorem Flat.not_mem_nameOf {segments : List String} (flat : query.Flat locale segments) {segment : String}
    (plain : '/' ∉ segment.toList) : '/' ∉ (query.nameOf locale segment).toList := by
  -- By the pieces of the template: literals and the values of the three fields.
  rw [nameOf, Filename.Format.render, String.toList_ofList, List.mem_flatMap]
  rintro ⟨piece, member, inside⟩
  cases piece with
  | literal text => exact flat.literals text member inside
  | field field =>
    cases field with
    | space => exact plain inside
    | locale => exact flat.locale inside
    | format => exact flat.fileFormat inside

/-- All pieces stay inside if nothing that they are made of holds a slash, and no segment is the directory above. -/
theorem Flat.inward {segments bases pieces : List String} (flat : query.Flat locale segments)
    (read : (base, pieces) ∈ query.reads files locale segments bases) : ∀ piece ∈ pieces, Path.Inward piece := by
  obtain ⟨passed, segment, starts, rfl⟩ := way?_shape (exists_of_mem_reads read).2
  have among {text : String} (member : text ∈ passed ++ [segment]) : text = "" ∨ text ∈ segments := by
    simpa [or_comm] using starts.subset member
  have plainName : '/' ∉ (query.nameOf locale segment).toList := by
    refine flat.not_mem_nameOf ?_
    rcases among (List.mem_append_right _ (List.mem_singleton_self segment)) with rfl | member
    · simp
    · exact (flat.segments segment member).2
  intro piece member
  rcases List.mem_append.1 member with isPassed | isName
  · rcases among (List.mem_append_left _ isPassed) with rfl | member
    · decide +kernel
    · exact (Path.inward_iff_of_plain (flat.segments piece member).2).2 (flat.segments piece member).1
  · obtain rfl := List.mem_singleton.1 isName
    refine (Path.inward_iff_of_plain plainName).2 fun above => ?_
    -- A path that ends with the directory above is not that of a file.
    obtain ⟨name, _, _, _, lasts, named⟩ := FileTree.getLast?_of_isFile (isFile_of_mem_reads read)
    rw [Path.ofPieces, List.foldl_append, List.foldl_cons, List.foldl_nil, ← Path.join_assoc,
      Path.getLast?_parts_join plainName, above] at lasts
    obtain rfl := Option.some.inj lasts
    simp [Path.component?] at named

end Query

/-- A search is the loading of the files that it reads. Each of them is looked for in a load path, by the first segments
of the namespace and the name after the next one; and it lies below the load path exactly if none of these pieces starts
at the root or goes up, as is so if nothing that they are made of holds a slash and no segment is the directory
above. -/
theorem search_below_iff {key locale : String} {settings : Settings} {library : Library Source}
    (valid : settings.validate = .ok ()) :
    ∃ format, settings.filename = .ok format ∧
      let query : Query := { format, settings }
      let reads := query.reads library.state.files locale (query.space key) settings.loadPath
      (searcher.search key locale settings).outcome library =
          (reads.mapM (query.loadRead locale) >>= fun found => pure found.flatten).outcome library ∧
        (∀ base pieces, (base, pieces) ∈ reads →
          base ∈ settings.loadPath ∧
            (∃ passed segment, passed ++ [segment] <+: query.space key ++ [""] ∧
              pieces = passed ++ [query.nameOf locale segment]) ∧
            (Path.Below base (Path.ofPieces pieces) ↔ ∀ piece ∈ pieces, Path.Inward piece)) ∧
        (query.Flat locale (query.space key) →
          ∀ base pieces, (base, pieces) ∈ reads → Path.Below base (Path.ofPieces pieces)) := by
  obtain ⟨format, name⟩ : ∃ format, settings.filename = .ok format := Settings.filename_of_validate valid
  refine ⟨format, name, ?_, ?_, ?_⟩
  · rw [search_eq name]
    exact Query.descends_eq_reads _ _ library
  -- The pieces are joined, and what they lead to stays below exactly if each of them does.
  · intro base pieces read
    obtain ⟨member, way⟩ := Query.exists_of_mem_reads read
    exact ⟨member, Query.way?_shape way, Path.below_iff.trans Path.inward_ofPieces⟩
  · intro flat base pieces read
    exact Path.below_iff.2 (Path.inward_ofPieces.2 (flat.inward read))

/-- A directory with a resource file and a file beside its load path. -/
def guarded : Library Source :=
  { store := .empty
    state :=
      { files := .directory (.ofList [("app", .directory (.ofList
          [("locales", .directory (.ofList [("greetings.en.yml", .file "en:\n  hi: Hello\n".toUTF8)])),
            ("secret.en.yml", .file "en:\n  word: hidden\n".toUTF8)]))])
        formats := .standard } }

/-- Settings to search the directory, in which segments may hold points. -/
def guarding : Settings :=
  { loadPath := ["/app/locales"], namespaceDelimiter := "::" }

/-- The resource file is the one that is read for its namespace, and lies below the load path. -/
theorem search_below_iff_greetings :
    guarding.validate = .ok () ∧
      (Query.mk Filename.standard guarding).reads guarded.state.files "en" ["greetings"] guarding.loadPath =
        [("/app/locales", ["greetings.en.yml"])] ∧
      Path.Below "/app/locales" (Path.ofPieces ["greetings.en.yml"]) := by
  have valid : guarding.validate = .ok () := by decide +kernel
  -- There is one load path and one segment, after which the file is named.
  have reads : (Query.mk Filename.standard guarding).reads guarded.state.files "en" ["greetings"] guarding.loadPath =
      [("/app/locales", ["greetings.en.yml"])] := by decide +kernel
  have space : (Query.mk Filename.standard guarding).space "greetings::hi" = ["greetings"] := by decide +kernel
  obtain ⟨format, name, -, each, -⟩ := @search_below_iff "greetings::hi" "en" guarding guarded valid
  obtain rfl : format = Filename.standard := Except.ok.inj (name.symm.trans (Filename.filename_standard rfl))
  simp only [space, reads] at each
  obtain ⟨-, -, below⟩ := each "/app/locales" ["greetings.en.yml"] (List.mem_singleton_self _)
  exact ⟨valid, reads, below.2 (by decide +kernel)⟩

/-- A namespace that goes up leads to the file beside the load path, whose message is stored. -/
theorem search_beside :
    guarding.validate = .ok () ∧
      (Query.mk Filename.standard guarding).reads guarded.state.files "en"
        ((Query.mk Filename.standard guarding).space "..::secret::word") guarding.loadPath =
          [("/app/locales", ["..", "secret.en.yml"])] ∧
      ¬ Path.Below "/app/locales" (Path.ofPieces ["..", "secret.en.yml"]) ∧
      ((searcher.search "..::secret::word" "en" guarding).outcome guarded).2.store.get? "secret::word" "en" =
        some (.scalar "hidden") := by
  -- What is read and stored is computed; a piece that goes up leads out of the load path.
  refine ⟨by decide +kernel, by decide +kernel, ?_, by decide +kernel⟩
  rw [Path.below_iff]
  decide +kernel

end Resource

end Phrasebook
