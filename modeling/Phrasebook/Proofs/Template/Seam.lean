import Phrasebook.Proofs.Template.Splice

/-! Where written tokens meet: reading them again gives the same tokens unless a bare name is continued by
what is written behind it. -/

namespace Phrasebook.Grammar

variable {tokens : List Token}

/-- No bare name is continued by what is written behind it. -/
def Apart : List Token → Prop
  | [] => True
  | token :: rest =>
    (token.bareName?.isSome = true → continuesName (rest.flatMap Token.source) = false) ∧ Apart rest

/-- Whether tokens stand apart can be read off what is written. -/
instance decidableApart : (tokens : List Token) → Decidable (Apart tokens)
  | [] => .isTrue trivial
  | token :: rest =>
    have := decidableApart rest
    inferInstanceAs (Decidable
      ((token.bareName?.isSome = true → continuesName (rest.flatMap Token.source) = false) ∧ Apart rest))

/-- Tokens that stand apart are read again as they were written. -/
theorem parts_of_apart (written : ∀ token ∈ tokens, Written token) (apart : Apart tokens) :
    standard.parts (tokens.flatMap Token.source) = tokens := by
  -- Each token is found in front of those behind it.
  induction tokens with
  | nil => exact parts_nil (by simp)
  | cons token rest ih =>
    obtain ⟨free, apart⟩ := apart
    rw [List.flatMap_cons, (written token (by simp)).parts_append free,
      ih (fun other member => written other (by simp [member])) apart]

/-- What is written for inert tokens is settled. -/
theorem settled_written (written : ∀ token ∈ tokens, Written token)
    (inert : ∀ token ∈ tokens, standard.Inert token) : standard.Settled (tokens.flatMap Token.source) := by
  -- Each of them is settled alone, and where settled templates meet they stay settled.
  rw [List.flatMap_def]
  refine settled_flatten fun source member => ?_
  obtain ⟨token, inside, rfl⟩ := List.mem_map.1 member
  simpa using (written token inside).settled_append (inert token inside) settled_nil

/-- Of tokens that do not stand apart, those before the first name that goes on are read again, and that
name is read as another placeholder. -/
theorem exists_seam (written : ∀ token ∈ tokens, Written token)
    (inert : ∀ token ∈ tokens, standard.Inert token) (glued : ¬ Apart tokens) :
    ∃ before w after other behind, tokens = before ++ bareToken w :: after ∧ Word w ∧ Continued w other ∧
      standard.parts (tokens.flatMap Token.source) = before ++ other :: behind ∧
      ∀ token ∈ behind, standard.Inert token := by
  -- The induction goes through the tokens up to the first one that is continued.
  induction tokens with
  | nil => exact absurd trivial glued
  | cons token rest ih =>
    have writtenRest := fun other member => written other (List.mem_cons_of_mem token member)
    have inertRest := fun other member => inert other (List.mem_cons_of_mem token member)
    by_cases free : token.bareName?.isSome = true → continuesName (rest.flatMap Token.source) = false
    · -- The name that goes on stands further behind.
      have gluedRest : ¬ Apart rest := fun apart => glued ⟨free, apart⟩
      obtain ⟨before, w, after, other, behind, split, word, continued, reads, settled⟩ :=
        ih writtenRest inertRest gluedRest
      refine ⟨token :: before, w, after, other, behind, by rw [split]; rfl, word, continued, ?_, settled⟩
      rw [List.flatMap_cons, (written token (by simp)).parts_append free, reads]
      rfl
    · -- It is the first one: with the characters that continue it, it is read as another placeholder.
      obtain ⟨named, goesOn⟩ := Classical.not_imp.1 free
      obtain ⟨w, word, rfl⟩ := (written token (by simp)).exists_bare named
      have settled := settled_written writtenRest inertRest
      obtain ⟨other, u, behind, split, source, found, continued, settledBehind⟩ :=
        exists_continued word (by simpa using goesOn) settled
      refine ⟨[], w, rest, other, standard.parts behind, rfl, word, continued, ?_, settledBehind⟩
      have whole : (bareToken w).source ++ rest.flatMap Token.source = other.source ++ behind := by
        simp [← source, split]
      rw [List.flatMap_cons, whole, found.cut, List.nil_append]

end Phrasebook.Grammar
