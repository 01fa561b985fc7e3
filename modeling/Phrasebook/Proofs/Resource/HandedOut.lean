import Phrasebook.Proofs.FileTree.Written
import Phrasebook.Proofs.Resource.Intact

/-! What is given of a file that is remembered: sections of the data that it had when something was first taken of it,
each of them at most once, whatever is written to the file meanwhile. -/

namespace Phrasebook

namespace Dict

variable {α : Type} {less middle data : Dict α} {key : String}

/-- What a dictionary holds, another one holds as well. -/
def Among (less data : Dict α) : Prop :=
  ∀ key value, less.get? key = some value → data.get? key = some value

namespace Among

/-- Data are among themselves. -/
theorem refl (data : Dict α) : data.Among data :=
  fun _ _ => id

/-- What is among data that are among others is among the others. -/
theorem trans (first : less.Among middle) (second : middle.Among data) : less.Among data :=
  fun key value held => second key value (first key value held)

/-- Empty data are among all. -/
theorem empty (data : Dict α) : Among .empty data := by
  intro key value held
  cases held

/-- What is left without one key is among the data. -/
theorem erase (data : Dict α) (key : String) : (data.erase key).Among data := by
  -- What is held without the key is held under another one.
  intro other value held
  rw [get?_erase] at held
  split at held
  · cases held
  · exact held

/-- What is not in a dictionary is not in a part of it. -/
theorem absent (among : less.Among data) (gone : data.get? key = none) : less.get? key = none := by
  -- What were in the part would be in the whole.
  cases held : less.get? key with
  | none => rfl
  | some value => cases gone.symm.trans (among key value held)

end Among

end Dict

namespace FileTree

variable {root other : FileTree}

/-- Walks along the same parts pass the same names, wherever these lead. -/
theorem names_eq_of_follow {trail copy last lastCopy : Trail} {parts : List String}
    (follows : follow root trail parts = .ok last) (copyFollows : follow other copy parts = .ok lastCopy)
    (same : copy.names = trail.names) : lastCopy.names = last.names := by
  -- Part by part, both trails go back, stay, or go on under the same name.
  induction parts generalizing trail copy with
  | nil =>
    obtain rfl := Except.ok.inj follows
    obtain rfl := Except.ok.inj copyFollows
    exact same
  | cons part rest ih =>
    obtain ⟨⟨entries, place⟩, -⟩ := follow_cons follows
    obtain ⟨⟨others, copyPlace⟩, -⟩ := follow_cons copyFollows
    rw [follow, place] at follows
    rw [follow, copyPlace] at copyFollows
    rcases Path.component?_cases part with isNone | ⟨-, isAbove⟩ | ⟨-, isName⟩
    · simp only [isNone] at follows copyFollows
      exact ih follows copyFollows same
    · simp only [isAbove] at follows copyFollows
      exact ih follows copyFollows (by rw [Trail.names_tail, Trail.names_tail, same])
    · simp only [isName] at follows copyFollows
      cases child : child? (.directory entries) part with
      | error error => simp [child, Except.bind] at follows
      | ok below =>
        cases copyChild : child? (.directory others) part with
        | error error => simp [copyChild, Except.bind] at copyFollows
        | ok instead =>
          rw [child] at follows
          rw [copyChild] at copyFollows
          exact ih follows copyFollows (by rw [Trail.names_cons, Trail.names_cons, same])

end FileTree

namespace Resource

variable {source : Source} {path place locale : String} {data less : Dict Json}

/-- A file that stays there keeps its place, whatever else becomes of the files. -/
theorem Source.placeOf_of_isFile {other : Source} (file : source.files.isFile path = true)
    (stays : other.files.isFile path = true) : other.placeOf path = source.placeOf path := by
  -- No links are followed, so that the names of the path tell the place.
  obtain ⟨trail, leads, -⟩ := FileTree.fileName?_of_isFile file
  obtain ⟨copy, copyLeads, -⟩ := FileTree.fileName?_of_isFile stays
  have names := FileTree.names_eq_of_follow (FileTree.follow_of_trail? leads).2
    (FileTree.follow_of_trail? copyLeads).2 rfl
  rw [placeOf, FileTree.canonical?, copyLeads, placeOf, FileTree.canonical?, leads]
  simp only [names]

/-- What may be given for the section of a locale in data of which something has been taken: it is missing, or no
object, or empty by now, or it is given as it stands there. -/
inductive OfData (data : Dict Json) (place locale : String) : Except LoadError (Dict Json) → Prop where
  | missing : OfData data place locale (.error (.missingRoot place locale))
  | noObject {other : Json} (held : data.get? locale = some other) :
      OfData data place locale (.error (.invalidData place (.sectionNotMapping locale other)))
  | nothing : OfData data place locale (.ok .empty)
  | members {members : List (String × Json)} (held : data.get? locale = some (.object members)) :
      OfData data place locale (.ok (Json.dictOf members))

namespace OfData

/-- What is taken of data is of it. -/
theorem of_taken (place locale : String) (data : Dict Json) :
    OfData data place locale (taken place (some locale) data) := by
  -- The section is missing, or it is nothing, an object, or something else.
  rw [taken]
  split
  · unfold sectionAt
    split
    · exact .nothing
    · exact .nothing
    · next held => exact .members held
    · next held => exact .noObject held
  · exact .missing

variable {answer : Except LoadError (Dict Json)}

/-- What is of a part of data is of all of it. -/
theorem mono (ofData : OfData less place locale answer) (among : less.Among data) :
    OfData data place locale answer := by
  -- By the kinds of answers; a section of the part is one of the whole.
  cases ofData with
  | missing => exact .missing
  | noObject held => exact .noObject (among _ _ held)
  | nothing => exact .nothing
  | members held => exact .members (among _ _ held)

/-- Data that does not have a section gives nothing for it. -/
theorem eq_empty {found : Dict Json} (ofData : OfData data place locale (.ok found)) (gone : data.get? locale = none) :
    found = .empty := by
  -- Members would be those of a section.
  cases ofData with
  | nothing => rfl
  | members held => cases held.symm.trans gone

end OfData

namespace Call

/-- Whether a call ends with an error. -/
def fails (call : Call) : Bool :=
  match call.answer with
  | .error _ => true
  | .ok _ => false

/-- A call gives the section of a locale, and there is something in it. -/
def Gives (call : Call) (locale : String) : Prop :=
  call.request.root = some locale ∧ ∃ found, call.answer = .ok found ∧ found.isEmpty = false

end Call

/-- Sections of data are given for the locales that are asked for, each of them once at most. -/
structure HandsOut (data : Dict Json) (place : String) (calls : List Call) : Prop where
  ofData : ∀ call ∈ calls, ∃ locale, call.request.root = some locale ∧ OfData data place locale call.answer
  once : calls.Pairwise fun one other => ∀ locale, one.Gives locale → ¬ other.Gives locale

/-- One more call is made before, whose section is not given again. -/
theorem HandsOut.cons {call : Call} {calls : List Call} (handsOut : HandsOut data place calls)
    (root : call.request.root = some locale) (ofData : OfData data place locale call.answer)
    (gone : call.Gives locale → ∀ other ∈ calls, ¬ other.Gives locale) : HandsOut data place (call :: calls) where
  -- The call is compared with all others, of which none gives its section again.
  ofData := List.forall_mem_cons.2 ⟨⟨locale, root, ofData⟩, handsOut.ofData⟩
  once := List.pairwise_cons.2 ⟨fun other member name gives => by
    obtain rfl := Option.some.inj (root.symm.trans gives.1)
    exact gone gives other member, handsOut.once⟩

/-- Something of the data of a file is remembered. -/
structure Source.Holds (source : Source) (path place : String) (data less : Dict Json) : Prop where
  file : source.files.isFile path = true
  here : source.placeOf path = place
  held : source.remembered.get? place = some (some less)
  among : less.Among data

/-- Requests for a section of a file that is to be remembered with all its other sections. -/
structure Request.Shares (request : Request) (path : String) : Prop where
  path : request.path = path
  root : request.root.isSome = true
  keepRest : request.keepRest = true
  memoize : request.settings.memoize = true

/-- Only such requests are made, the file stays there, and it is not forgotten. -/
def Event.Shares (path : String) : Event → Prop
  | .ask request => request.Shares path
  | .edit files => files.isFile path = true
  | .forget => False

namespace Source.Holds

/-- The files may be written to, as long as this one stays there. -/
theorem edit (holds : source.Holds path place data less) {files : FileTree} (stays : files.isFile path = true) :
    Source.Holds { source with files } path place data less where
  -- What is remembered stays so, and the file keeps its place.
  file := stays
  here := (placeOf_of_isFile holds.file stays).trans holds.here
  held := holds.held
  among := holds.among

/-- Less of the data may be remembered. -/
theorem remember (holds : source.Holds path place data less) {left : Dict Json} (fewer : left.Among less) :
    (source.remember place (some left)).Holds path place data left where
  -- Only what is remembered for this place is changed.
  file := holds.file
  here := holds.here
  held := by rw [Source.remember, Dict.get?_insert, if_pos rfl]
  among := fewer.trans holds.among

/-- A request is answered by what is left of the data, and leaves less of it, without the section that it gives. -/
theorem ask (holds : source.Holds path place data less) {request : Request} (shares : request.Shares path)
    (root : request.root = some locale) :
    OfData less place locale (Call.mk source request).answer ∧
      ∃ left, (Call.mk source request).ended.2.Holds path place data left ∧
        left.Among less ∧ ((Call.mk source request).Gives locale → left.get? locale = none) := by
  obtain ⟨asked, wanted, keepRest, settings⟩ := request
  obtain rfl : asked = path := shares.path
  obtain rfl : wanted = some locale := root
  obtain rfl : keepRest = true := shares.keepRest
  have memoize : settings.memoize = true := shares.memoize
  obtain ⟨file, rfl, held, among⟩ := holds
  unfold Call.Gives Call.answer Call.ended
  dsimp only
  cases empty : less.isEmpty with
  | true =>
    -- Nothing is left of the file, and nothing is given.
    have used : source.usedUp asked = true := by simp [usedUp, held, empty]
    rw [load_of_usedUp used]
    refine ⟨.nothing, less, ⟨file, rfl, held, among⟩, .refl less, ?_⟩
    rintro ⟨-, found, same, some⟩
    obtain rfl := Except.ok.inj same
    cases some
  | false =>
    have ofData := OfData.of_taken (source.placeOf asked) locale less
    rw [load_of_held held empty]
    dsimp only
    cases takes : taken (source.placeOf asked) (some locale) less with
    | ok found =>
      -- The section is taken out of what is remembered.
      rw [takes] at ofData
      have fewer := Dict.Among.erase less locale
      refine ⟨ofData, less.erase locale, ?_, fewer, fun _ => ?_⟩
      · rw [Source.after, if_pos memoize]
        exact ⟨file, rfl, by simp [Source.remember, leftover], fewer.trans among⟩
      · rw [Dict.get?_erase, if_pos rfl]
    | error error =>
      -- Nothing is given; either all is lost or all is still remembered.
      rw [takes] at ofData
      dsimp only
      have gives : ¬ ∃ found : Dict Json, Except.error error = .ok found ∧ found.isEmpty = false := by
        rintro ⟨found, same, -⟩
        cases same
      split
      · exact ⟨ofData, .empty, remember ⟨file, rfl, held, among⟩ (.empty less), .empty less,
          fun given => absurd given.2 gives⟩
      · exact ⟨ofData, less, remember ⟨file, rfl, held, among⟩ (.refl less), .refl less,
          fun given => absurd given.2 gives⟩

/-- A section that is no longer remembered is not given any more. -/
theorem not_gives (holds : source.Holds path place data less) (gone : less.get? locale = none) {events : List Event}
    (share : ∀ event ∈ events, event.Shares path) : ∀ call ∈ source.calls events, ¬ call.Gives locale := by
  -- The induction is on the events, of which none puts a section back.
  induction events generalizing source less with
  | nil => exact fun call member => absurd member List.not_mem_nil
  | cons event rest ih =>
    obtain ⟨shares, later⟩ := List.forall_mem_cons.1 share
    cases event with
    | ask request =>
      obtain ⟨asked, root⟩ := Option.isSome_iff_exists.1 shares.root
      obtain ⟨ofData, left, holds, fewer, -⟩ := holds.ask shares root
      intro call member
      rcases List.mem_cons.1 member with rfl | member
      · -- What it gives would be of the data that is left.
        rintro ⟨same, found, gives, some⟩
        obtain rfl := Option.some.inj (root.symm.trans same)
        rw [gives] at ofData
        rw [ofData.eq_empty gone] at some
        cases some
      · exact ih holds (fewer.absent gone) later call member
    | edit files => exact ih (holds.edit shares) gone later
    | forget => exact absurd shares id

/-- Sections of data of which something is remembered are given once at most. -/
theorem handsOut (holds : source.Holds path place data less) {events : List Event}
    (share : ∀ event ∈ events, event.Shares path) : HandsOut data place (source.calls events) := by
  -- The induction is on the events; a request is followed by others of which none gives the same section.
  induction events generalizing source less with
  | nil => exact ⟨fun call member => absurd member List.not_mem_nil, .nil⟩
  | cons event rest ih =>
    obtain ⟨shares, later⟩ := List.forall_mem_cons.1 share
    cases event with
    | ask request =>
      obtain ⟨asked, root⟩ := Option.isSome_iff_exists.1 shares.root
      obtain ⟨ofData, left, onward, fewer, gone⟩ := holds.ask shares root
      exact (ih onward later).cons root (ofData.mono holds.among) fun gives => onward.not_gives (gone gives) later
    | edit files => exact ih (holds.edit shares) later
    | forget => exact absurd shares id

end Source.Holds

/-- As long as nothing is remembered of a file, a request fails and changes nothing, or something of the data that the
file has now is remembered. -/
theorem Source.ask_unknown (file : source.files.isFile path = true)
    (unknown : source.remembered.get? (source.placeOf path) = none) {request : Request} (shares : request.Shares path)
    (root : request.root = some locale) :
    let call := Call.mk source request
    call.fails = true ∧ call.ended.2 = source ∨
      call.fails = false ∧ ∃ data, source.read path request.settings.encoding = .ok data ∧
        OfData data (source.placeOf path) locale call.answer ∧
        call.ended.2.Holds path (source.placeOf path) data (data.erase locale) := by
  obtain ⟨asked, wanted, keepRest, settings⟩ := request
  obtain rfl : asked = path := shares.path
  obtain rfl : wanted = some locale := root
  obtain rfl : keepRest = true := shares.keepRest
  have memoize : settings.memoize = true := shares.memoize
  unfold Call.fails Call.answer Call.ended
  dsimp only
  rw [load_of_unknown unknown]
  cases reads : source.read asked settings.encoding with
  | error error => exact .inl ⟨rfl, rfl⟩
  | ok data =>
    -- Data of which nothing can be taken is not remembered.
    have ofData := OfData.of_taken (source.placeOf asked) locale data
    dsimp only
    cases takes : taken (source.placeOf asked) (some locale) data with
    | error error => exact .inl ⟨rfl, rfl⟩
    | ok found =>
      rw [takes] at ofData
      refine .inr ⟨rfl, data, rfl, ofData, ?_⟩
      rw [Source.after, if_pos memoize]
      exact ⟨file, rfl, by simp [Source.remember, leftover], .erase data locale⟩

/-- A file is read when a request first succeeds. Whatever is written to it later, all requests are answered by the data
that it had then, of which each section is given once at most. -/
theorem sections_handed_out {events : List Event} {failed later : List Call} {first : Call}
    (file : source.files.isFile path = true) (unknown : source.remembered.get? (source.placeOf path) = none)
    (share : ∀ event ∈ events, event.Shares path) (calls : source.calls events = failed ++ first :: later)
    (fail : ∀ call ∈ failed, call.fails = true) (succeeds : first.fails = false) :
    ∃ data, first.source.read path first.request.settings.encoding = .ok data ∧
      HandsOut data (source.placeOf path) (first :: later) := by
  -- The induction is on the events, and goes on to the first request that does not fail.
  induction events generalizing source failed with
  | nil => simp [Source.calls] at calls
  | cons event rest ih =>
    obtain ⟨shares, others⟩ := List.forall_mem_cons.1 share
    cases event with
    | ask request =>
      obtain ⟨locale, root⟩ := Option.isSome_iff_exists.1 shares.root
      cases failed with
      | nil =>
        -- This one succeeds: its section is taken out of the data that it has read.
        obtain ⟨rfl, rfl⟩ := List.cons.inj calls
        rcases source.ask_unknown file unknown shares root with ⟨fails, -⟩ | ⟨-, data, reads, ofData, holds⟩
        · cases succeeds.symm.trans fails
        · have gone : (data.erase locale).get? locale = none := by rw [Dict.get?_erase, if_pos rfl]
          exact ⟨data, reads, (holds.handsOut others).cons root ofData fun _ => holds.not_gives gone others⟩
      | cons call before =>
        obtain ⟨rfl, onward⟩ := List.cons.inj calls
        rcases source.ask_unknown file unknown shares root with ⟨-, left⟩ | ⟨succeeds, -⟩
        · rw [left] at onward
          exact ih file unknown others onward (List.forall_mem_cons.1 fail).2
        · cases succeeds.symm.trans (List.forall_mem_cons.1 fail).1
    | edit files =>
      have here : Source.placeOf { source with files } path = source.placeOf path :=
        Source.placeOf_of_isFile file shares
      rw [← here]
      exact ih shares (by rwa [here]) others calls fail
    | forget => exact absurd shares id

/-- A request for a section that is missing, and one for another section, after which the file is written to; then a
section that was there from the beginning is asked for twice, and the first one again. -/
theorem sections_handed_out_rewritten :
    let files : FileTree := .directory (.ofList [("app", .directory (.ofList
      [("foo.yml", .file "en:\n  b: C\nde:\n  a: C\nit:\n  a: C\n".toUTF8)]))])
    let first : Call := ⟨(Call.ended ⟨patchy, requestFor "it"⟩).2, requestFor "en"⟩
    let later := first.ended.2.calls
      [.edit files, .ask (requestFor "de"), .ask (requestFor "it"), .ask (requestFor "de"), .ask (requestFor "en")]
    (∃ data, first.source.read "/app/foo.yml" "utf-8" = .ok data ∧ HandsOut data "/app/foo.yml" (first :: later)) ∧
      (first :: later).map (fun call => written call.answer) =
        [.ok "\x7b\"a\":\"A\"\x7d", .ok "\x7b\"a\":\"B\"\x7d",
          .error "error getting data from /app/foo.yml: it not defined",
          .error "error getting data from /app/foo.yml: de not defined",
          .error "error getting data from /app/foo.yml: en not defined"] := by
  intro files first later
  have place : patchy.placeOf "/app/foo.yml" = "/app/foo.yml" := by decide +kernel
  have calls : patchy.calls [.ask (requestFor "it"), .ask (requestFor "en"), .edit files, .ask (requestFor "de"),
      .ask (requestFor "it"), .ask (requestFor "de"), .ask (requestFor "en")] =
      [⟨patchy, requestFor "it"⟩] ++ first :: later := rfl
  have shares (locale : String) : (requestFor locale).Shares "/app/foo.yml" := ⟨rfl, rfl, rfl, rfl⟩
  have stays : files.isFile "/app/foo.yml" = true := by decide +kernel
  have file : patchy.files.isFile "/app/foo.yml" = true := by decide +kernel
  have unknown : patchy.remembered.get? (patchy.placeOf "/app/foo.yml") = none := rfl
  -- The general statement tells what the answers have in common; the answers themselves are computed.
  have handedOut := sections_handed_out file unknown (by simp [Event.Shares, shares, stays]) calls
    (by simp; decide +kernel) (by decide +kernel)
  rw [place] at handedOut
  exact ⟨handedOut, by decide +kernel⟩

end Resource

end Phrasebook
