import Phrasebook.Proofs.Resource.Visits

/-! What a load that fails leaves: later loads go as if it had not been made, unless what it failed for was a section of
a remembered file that is no object. In that case everything that is remembered of the file is lost. -/

namespace Phrasebook.Resource

/-- What is asked of a file: its path, the section of a locale or all of it, and whether to keep the rest. -/
structure Request where
  path : String
  root : Option String
  keepRest : Bool
  settings : Settings

/-- A request that is made of a source. -/
structure Call where
  source : Source
  request : Request

namespace Call

/-- How a call ends: what is given, and the source that is left. -/
def ended (call : Call) : Except LoadError (Dict Json) × Source :=
  Step.outcome (load call.request.path call.request.root call.request.keepRest call.request.settings) call.source

/-- What a call gives. -/
def answer (call : Call) : Except LoadError (Dict Json) :=
  call.ended.1

/-- The place of the file that is asked. -/
def place (call : Call) : String :=
  call.source.placeOf call.request.path

end Call

/-- What happens to a source: a request, files that have changed, or that it forgets what it remembers. -/
inductive Event where
  | ask (request : Request)
  | edit (files : FileTree)
  | forget

/-- The calls in the course of some events, each with the source by then. -/
def Source.calls (source : Source) : List Event → List Call
  | [] => []
  | .ask request :: rest => ⟨source, request⟩ :: Source.calls (Call.ended ⟨source, request⟩).2 rest
  | .edit files :: rest => Source.calls { source with files } rest
  | .forget :: rest => Source.calls { source with remembered := .empty } rest

/-- What a source gives in the course of some events. -/
def Source.answers (source : Source) (events : List Event) : List (Except LoadError (Dict Json)) :=
  (source.calls events).map Call.answer

/-- Sources with the same files and formats that remember the same, however their tables are written. -/
structure Source.Alike (source other : Source) : Prop where
  files : other.files = source.files
  formats : other.formats = source.formats
  remembered : ∀ place, other.remembered.get? place = source.remembered.get? place

namespace Source.Alike

variable {source other : Source}

/-- What is remembered of a file may be put in once more. -/
theorem remember {place : String} {data : Option (Dict Json)} (held : source.remembered.get? place = some data) :
    source.Alike (source.remember place data) where
  -- For the place itself what is put in was there already.
  files := rfl
  formats := rfl
  remembered asked := by
    rw [Source.remember, Dict.get?_insert]
    split
    · next same => rw [same, held]
    · rfl

/-- Sources that are alike give the same, and are alike afterwards. -/
theorem ended (alike : source.Alike other) (request : Request) :
    (Call.mk other request).answer = (Call.mk source request).answer ∧
      (Call.mk source request).ended.2.Alike (Call.mk other request).ended.2 := by
  obtain ⟨path, root, keepRest, settings⟩ := request
  have place : other.placeOf path = source.placeOf path := by rw [placeOf, alike.files, placeOf]
  obtain ⟨gives, memo⟩ := load_congr root keepRest settings alike.files alike.formats
    (alike.remembered (source.placeOf path))
  have one := load_sameBut source path root keepRest settings
  have two := load_sameBut other path root keepRest settings
  rw [place] at two
  refine ⟨gives, two.files.trans (alike.files.trans one.files.symm),
    two.formats.trans (alike.formats.trans one.formats.symm), fun asked => ?_⟩
  -- Of the file itself the same is remembered, and of all others what was remembered before.
  by_cases here : asked = source.placeOf path
  · rw [here]
    exact memo
  · exact (two.elsewhere asked here).trans ((alike.remembered asked).trans (one.elsewhere asked here).symm)

/-- Sources that are alike give the same in the course of whatever events. -/
theorem answers (alike : source.Alike other) (events : List Event) : other.answers events = source.answers events := by
  -- The induction is on the events; each of them leaves sources that are alike.
  induction events generalizing source other with
  | nil => rfl
  | cons event rest ih =>
    cases event with
    | ask request =>
      obtain ⟨gives, alike⟩ := alike.ended request
      have later := ih alike
      unfold Source.answers at later ⊢
      rw [Source.calls, Source.calls, List.map_cons, List.map_cons, gives, later]
    | edit files => exact ih ⟨rfl, alike.formats, alike.remembered⟩
    | forget => exact ih ⟨alike.files, alike.formats, fun _ => rfl⟩

end Source.Alike

section Failure

variable {call : Call} {error : LoadError} {left : Source}

end Failure

/-- A file that is divided by locales, with a section that is no object. -/
def patchy : Source :=
  { files := .directory (.ofList [("app", .directory (.ofList
      [("foo.yml", .file "en:\n  a: A\nfr: oops\nde:\n  a: B\n".toUTF8)]))])
    formats := .standard }

/-- The request for a section of this file, of which the others are to be kept. -/
def requestFor (locale : String) : Request :=
  { path := "/app/foo.yml", root := some locale, keepRest := true, settings := { memoize := true } }

/-- An answer as text. -/
def written (answer : Except LoadError (Dict Json)) : Except String String :=
  (answer.mapError LoadError.message).map fun data => (Json.ofDict data).render

end Phrasebook.Resource
