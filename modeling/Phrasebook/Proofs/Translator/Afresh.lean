import Phrasebook.Proofs.Resource.Honest
import Phrasebook.Proofs.Translator.Coherent
import Phrasebook.Proofs.Translator.Memo

/-! Starting over: whatever has happened to a translator that searches files, and to the files, it ends up as one that
is created anew and has read none of them. -/

namespace Phrasebook

open Resource (Source)

namespace Translator

/-- What happens to a translator that searches files: a call, or a change of the files behind its back. -/
inductive Event where
  | call (operation : Operation)
  | edit (change : FileTree → FileTree)

/-- The files behind an event. -/
def Event.onFiles (files : FileTree) : Event → FileTree
  | .call _ => files
  | .edit change => change files

/-- The translator behind an event. -/
def meet (t : Translator Source) : Event → Translator Source
  | .call operation => t.after operation
  | .edit change => { t with library.state.files := change t.library.state.files }

/-- A translator that searches some files, in some formats, with valid settings and their grammar. -/
structure Reads (files : FileTree) (formats : Resource.Formats) (t : Translator Source) : Prop where
  searcher : t.searcher = Resource.searcher
  isOver : t.library.state.Over files formats
  coherent : t.Coherent

variable {files : FileTree} {formats : Resource.Formats} {t : Translator Source}

/-- No call changes the files, and no edit anything else. -/
theorem meet_reads (reads : t.Reads files formats) (event : Event) :
    (t.meet event).Reads (event.onFiles files) formats := by
  -- A call leaves the files alone, and a change of the files leaves the translator alone.
  cases event with
  | call operation =>
    have kept := perform_valid (Resource.searcher_honest files formats) ⟨reads.searcher, reads.isOver⟩ operation
    rw [← after_eq_perform] at kept
    exact ⟨kept.1, kept.2, after_coherent reads.coherent operation⟩
  | edit change =>
    exact ⟨reads.searcher, ⟨congrArg change reads.isOver.files, reads.isOver.formats⟩, reads.coherent.valid,
      reads.coherent.suits⟩

/-- A translator searches the files that are there in the end, in the formats it had from the start. -/
theorem reads_of_history (reads : t.Reads files formats) (history : List Event) :
    (history.foldl meet t).Reads (history.foldl Event.onFiles files) formats := by
  -- Event by event.
  induction history generalizing files t with
  | nil => exact reads
  | cons event rest ih => exact ih (meet_reads reads event)

/-- What the searcher is left with when it forgets what it remembers. -/
theorem Reads.forget_eq (reads : t.Reads files formats) :
    t.searcher.forget t.library.state = { files, formats } := by
  rw [reads.searcher, ← reads.isOver.files, ← reads.isOver.formats]
  rfl

/-- How all messages are loaded depends on the searcher, the settings, the grammar and the library only. -/
theorem loadEverything_congr {σ : Type} (t other : Translator σ) (searcher : t.searcher = other.searcher)
    (settings : t.settings = other.settings) (grammar : t.grammar = other.grammar) (library : t.library = other.library)
    (locale : Option String) :
    (t.loadEverything locale).1 = (other.loadEverything locale).1 ∧
      (t.loadEverything locale).2.library = (other.loadEverything locale).2.library := by
  -- Nothing else of the translator is looked at.
  cases t
  cases other
  subst searcher settings grammar library
  exact ⟨rfl, rfl⟩

/-- Whatever has happened, a translator that starts over is the one that is created with the default settings for the
files as they are by then, of which nothing is remembered. Loading everything anew gives the same, and leaves the same
messages, as loading everything into the one that is created with the settings of the translator. -/
theorem startOver_afresh {source : Source} {settings : Settings} {created : Translator Source}
    (creates : create Resource.searcher source settings = .ok created) (history : List Event) :
    let t := history.foldl meet created
    let unread : Source := { files := history.foldl Event.onFiles source.files, formats := source.formats }
    (∃ new, create Resource.searcher unread {} = .ok new ∧ t.undergo startOver = (.ok (), new)) ∧
      ∃ new, create Resource.searcher unread t.settings = .ok new ∧
        t.reloadEverything.1 = (new.loadEverything none).1 ∧
        t.reloadEverything.2.store = (new.loadEverything none).2.store := by
  intro t unread
  obtain ⟨valid, rfl⟩ := create_eq_ok_iff.1 creates
  have reads : t.Reads (history.foldl Event.onFiles source.files) source.formats :=
    reads_of_history ⟨rfl, ⟨rfl, rfl⟩, fresh_coherent _ _ valid⟩ history
  constructor
  · -- Of all that has happened only the files and the formats are left.
    refine ⟨_, create_eq_ok_iff.2 ⟨Settings.validate_default, rfl⟩, ?_⟩
    rw [undergo_startOver, reads.forget_eq, reads.searcher]
  · refine ⟨_, create_eq_ok_iff.2 ⟨reads.coherent.valid, rfl⟩, ?_⟩
    -- Functions and handlers may differ, but have no part in loading.
    have unloaded : t.unloadEverything.library = { store := .empty, state := unread } :=
      congrArg (Library.mk .empty) reads.forget_eq
    obtain ⟨results, libraries⟩ := loadEverything_congr t.unloadEverything (fresh Resource.searcher unread t.settings)
      reads.searcher rfl (Grammar.suits_iff.1 reads.coherent.suits) unloaded none
    exact ⟨results, congrArg Library.store libraries⟩

/-- A file is read and remembered, and is gone when the translator, which has another delimiter by then, starts over. -/
theorem startOver_afresh_divided :
    create Resource.searcher divided remembering = .ok (dividing remembering) ∧
      let t := [.call (.translate "foo.a" none .empty), .call (.set "namespace_delimiter" "::"),
        .call (.set "few_threshold" "0"), .edit fun _ => .empty].foldl meet (dividing remembering)
      t.store.has "foo.a" "en" = true ∧ t.library.state.remembered.contains "/app/foo.yml" = true ∧
        t.grammar.space = "::".toList ∧
        t.undergo startOver = (.ok (), fresh Resource.searcher { files := .empty, formats := .standard } {}) ∧
        t.reloadEverything.1 = .ok 0 := by
  have creates : create Resource.searcher divided remembering = .ok (dividing remembering) :=
    create_eq_ok_iff.2 ⟨by decide +kernel, rfl⟩
  refine ⟨creates, ?_⟩
  intro t
  -- The general statement gives the translator that starts over; what it was like before is computed.
  obtain ⟨⟨new, makes, starts⟩, -⟩ := startOver_afresh creates [.call (.translate "foo.a" none .empty),
    .call (.set "namespace_delimiter" "::"), .call (.set "few_threshold" "0"), .edit fun _ => .empty]
  obtain ⟨-, rfl⟩ := create_eq_ok_iff.1 makes
  exact ⟨by decide +kernel, by decide +kernel, by decide +kernel, starts, by decide +kernel⟩

end Translator

end Phrasebook
