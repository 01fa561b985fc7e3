import Phrasebook.Proofs.Catalogue.Offline
import Phrasebook.Proofs.Rendering.Splicing

/-! What expanded messages say: the same as before, except where a name runs into what stands behind it. -/

namespace Phrasebook

open Grammar (standard)

/-- The template that a reference found under a key means, if that is a message of its own. -/
def Store.meaning? (store : Store) (grammar : Grammar) (locale key : String) (reference : Reference) :
    Option String :=
  (store.resolve? grammar locale key reference).bind fun target =>
    (store.get? target locale).bind Value.scalar?

variable {original store : Store} {locale key : String} {settings : Settings}

/-- A text that a reference means is stored in full once what it refers to is done. -/
theorem Store.Expanded.meaning?_eq {done : String → Prop} {reference : Reference} {text : String}
    (expanded : Expanded original locale done store)
    (targets : ∀ target, original.resolve? standard locale key reference = some target → done target)
    (means : original.Means standard locale key reference text) :
    store.meaning? standard locale key reference = some text := by
  -- The key that it means is done, so it holds its full message, and that is determined.
  obtain ⟨target, template, resolved, scalar, spells⟩ := means
  obtain ⟨full, stored, isFull⟩ := expanded.exists_full (targets target resolved) scalar
  cases isFull with
  | @scalar _ result replaced =>
    obtain rfl : result = text := String.toList_inj.1 ((replaced_means_iff.1 replaced).unique spells)
    simp [meaning?, expanded.resolve?_eq, resolved, stored, Value.scalar?]

namespace Expansion

section Checked

variable (checked : original.Checked standard locale)
include checked

/-- After an expansion without a search a message that is a single template says the same as before, put
together with what is said for the messages it refers to, exactly if no name in it or in those is
continued by what is written behind it. -/
theorem offline_agree_iff (settings : Settings) {keys : List String} {template : String} (listed : key ∈ keys)
    (stored : original.get? key locale = some (.scalar template))
    (ok : (original.expandOffline settings locale keys).1 = .ok ()) :
    let final := (original.expandOffline settings locale keys).2.store
    ∃ expanded, final.get? key locale = some (.scalar expanded) ∧
      ((∀ formatter : Formatter, formatter.Impartial →
        Agree (formatter.substitute expanded)
          (formatter.splice (final.meaning? standard locale key) template)) ↔
      Grammar.Apart (standard.spliced (final.meaning? standard locale key) template)) := by
  intro final
  have expanded := offline_expanded checked settings ok
  have there : original.has key locale = true := by simp [Store.has, stored]
  obtain ⟨full, held, isFull⟩ := expanded.exists_full ⟨key, listed, there, .refl⟩ stored
  cases isFull with
  | @scalar _ result replaced =>
    -- Whatever the message refers to is done.
    have means (reference : Reference) (member : reference ∈ standard.references template) (text : String)
        (means : original.Means standard locale key reference text) :
        final.meaning? standard locale key reference = some text := by
      refine expanded.meaning?_eq (fun target resolved => ⟨key, listed, there, .single ?_⟩) means
      exact ⟨_, stored, reference, by simpa [Value.references, Value.templates] using member, resolved⟩
    refine ⟨result, held, Formatter.agree_substitute_iff ?_ (replaced.mono means) fun reference member => ?_⟩
    · exact checked key _ stored template (by simp [Value.templates])
    · obtain ⟨text, is⟩ := replaced.exists_text reference member
      exact ⟨text, means reference member text is, is.settled checked⟩

end Checked

/-- The greeting is spelled out, and says the same as before for all impartial formatters. -/
theorem offline_agree_iff_welcome :
    let final := (welcome.expandOffline {} "en" ["app.greeting"]).2.store
    final.get? "app.greeting" "en" = some (.scalar "Welcome to Lexis, %name!") ∧
      ∀ formatter : Formatter, formatter.Impartial →
        Agree (formatter.substitute "Welcome to Lexis, %name!")
          (formatter.splice (final.meaning? standard "en" "app.greeting") "Welcome to %{.title}, %name!") := by
  intro final
  have stored : welcome.get? "app.greeting" "en" = some (.scalar "Welcome to %{.title}, %name!") := by
    decide +kernel
  have ok : (welcome.expandOffline {} "en" ["app.greeting"]).1 = .ok () := by
    decide +kernel
  have text : final.get? "app.greeting" "en" = some (.scalar "Welcome to Lexis, %name!") := by
    decide +kernel
  have apart : Grammar.Apart (standard.spliced (final.meaning? standard "en" "app.greeting")
      "Welcome to %{.title}, %name!") := by
    decide +kernel
  -- No token of the result runs into the one before, which is all that agreement asks for.
  obtain ⟨expanded, held, agree⟩ :=
    offline_agree_iff welcome_checked {} (List.mem_singleton_self "app.greeting") stored ok
  obtain ⟨rfl⟩ : Value.scalar expanded = .scalar "Welcome to Lexis, %name!" :=
    Option.some.inj (held.symm.trans text)
  exact ⟨text, agree.2 apart⟩

/-- A message whose name runs into the text of the message it refers to. -/
def glued : Store :=
  (Store.empty.add "r" (.scalar "X") "en").add "k" (.scalar "%name%{.r}") "en"

/-- A formatter with a value for the name. -/
def named : Formatter :=
  { key := "k", locale := "en", arguments := Dict.empty.insert "name" (.text "A")
    settings := { onMissingPlaceholder := .ignore }, grammar := standard, functions := .empty, handlers := {} }

/-- The expansion of that message succeeds and no longer shows the value of the name. -/
theorem glued_disagrees :
    let final := (glued.expandOffline {} "en" ["k"]).2.store
    glued.Checked standard "en" ∧
      (glued.expandOffline {} "en" ["k"]).1 = .ok () ∧
      final.get? "k" "en" = some (.scalar "%nameX") ∧ named.Impartial ∧
      named.substitute "%nameX" = .ok "%nameX" ∧
      named.splice (final.meaning? standard "en" "k") "%name%{.r}" = .ok "AX" := by
  -- The two runs are computed; the formatter has no handler.
  intro final
  refine ⟨((Store.checked_empty standard "en").add (by decide +kernel)).add (by decide +kernel),
    by decide +kernel, by decide +kernel, ⟨rfl, rfl, ?_⟩, by decide +kernel, by decide +kernel⟩
  intro handle absurd
  simp [named] at absurd

end Expansion

end Phrasebook
