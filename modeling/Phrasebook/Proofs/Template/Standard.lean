import Phrasebook.Proofs.Template.Parts
import Phrasebook.Proofs.Text.Split

/-! The tokens of the default delimiters: how each is written, and which text behind it makes it another
one. -/

namespace Phrasebook.Grammar

open Unicode (isWord)

/-- The grammar of the default delimiters: the percent sign, the full stop and the bar. -/
def standard : Grammar :=
  ofSettings {}

/-- The default delimiters are single characters. -/
theorem standard_eq : standard = ⟨['%'], ['.'], ['|']⟩ := by
  -- The defaults are written in the settings.
  decide

/-- Placeholders begin with a percent sign. -/
@[simp] theorem standard_placeholder : standard.placeholder = ['%'] := by
  rw [standard_eq]

/-- Segments stand between dots. -/
@[simp] theorem standard_space : standard.space = ['.'] := by
  rw [standard_eq]

/-- The characters that the grammar gives a meaning are no part of words. -/
theorem isWord_marks :
    isWord '%' = false ∧ isWord '.' = false ∧ isWord '\x7b' = false ∧ isWord '\x7d' = false ∧
      isWord '(' = false ∧ isWord ')' = false := by
  -- Each is looked up in the tables of the class.
  decide

/-- A character of a word is none of those. -/
theorem ne_of_isWord {c mark : Char} (word : isWord c = true) (other : isWord mark = false) : c ≠ mark := by
  rintro rfl
  simp [word] at other

/-- A word: at least one character, and none that ends a name. -/
def Word (w : List Char) : Prop :=
  w ≠ [] ∧ ∀ c ∈ w, isWord c = true

/-- Whether a text continues a name in front of it: with another character of the name, or with the
parentheses of a call. -/
def continuesName (s : List Char) : Bool :=
  s.head?.any isWord || (call? s).isSome

/-- The placeholder of a body in braces. -/
def bracedToken (u : List Char) : Token :=
  standard.placeholderOf ('%' :: '\x7b' :: u ++ ['\x7d']) u true

/-- The placeholder of a call without braces. -/
def callToken (w args : List Char) : Token :=
  standard.placeholderOf ('%' :: (w ++ '(' :: (args ++ [')']))) (w ++ '(' :: (args ++ [')'])) false

/-- The placeholder of a name without braces. -/
def bareToken (w : List Char) : Token :=
  standard.placeholderOf ('%' :: w) w false

/-- A placeholder between braces is written with them. -/
@[simp] theorem bracedToken_source (u : List Char) :
    (bracedToken u).source = '%' :: '\x7b' :: (u ++ ['\x7d']) := by
  rfl

/-- A call is written with its arguments between parentheses. -/
@[simp] theorem callToken_source (w args : List Char) :
    (callToken w args).source = '%' :: (w ++ '(' :: (args ++ [')'])) := by
  rfl

/-- A bare placeholder is its word behind the percent sign. -/
@[simp] theorem bareToken_source (w : List Char) : (bareToken w).source = '%' :: w := by
  rfl

section Words

variable {α : Type} {goal : List Char → Option α} {w s args after : List Char}

/-- The parentheses of a call hold characters of a call only, and close. -/
theorem call?_eq_some_iff :
    call? s = some after ↔ ∃ args, s = '(' :: (args ++ ')' :: after) ∧ ∀ c ∈ args, isCallChar c = true := by
  constructor
  · intro found
    -- What has been skipped before the closing parenthesis are the arguments.
    unfold call? at found
    split at found
    · next rest =>
      split at found
      · next closed =>
        obtain rfl := Option.some.inj found
        refine ⟨rest.takeWhile isCallChar, ?_, List.all_eq_true.1 List.all_takeWhile⟩
        rw [← closed, List.takeWhile_append_dropWhile]
      · simp at found
    · simp at found
  · intro closed
    obtain ⟨args, rfl, inside⟩ := closed
    -- The closing parenthesis is the first character that does not belong to the call.
    have stop : isCallChar ')' = false := by decide
    simp [call?, List.dropWhile_append_of_pos inside, stop]

/-- A single word is read to its end if the goal is reached there. -/
theorem insideName_word {x : α} (reached : goal (s.dropWhile isWord) = some x) :
    insideName [] goal s = some x := by
  -- Going on is tried first at every character of the word, and never fails.
  induction s with
  | nil => rw [insideName]; simpa using reached
  | cons c rest ih =>
    rw [insideName]
    by_cases word : isWord c = true
    · rw [List.dropWhile_cons_of_pos word] at reached
      simp [word, ih reached]
    · rw [List.dropWhile_cons_of_neg word] at reached
      simp [word, reached]

/-- What stands behind a word is what the word leaves. -/
theorem dropWhile_word (word : ∀ c ∈ w, isWord c = true) (boundary : s.head?.any isWord = false) :
    (w ++ s).dropWhile isWord = s := by
  -- All of the word is dropped, and the first character behind it is kept.
  rw [List.dropWhile_append_of_pos word]
  cases s with
  | nil => rfl
  | cons c rest => exact List.dropWhile_cons_of_neg (by simpa using boundary)

/-- Behind the delimiter a word is a name, and the parentheses behind it are those of a call. -/
theorem unbraced?_word (word : Word w) (boundary : s.head?.any isWord = false) :
    standard.unbraced? (w ++ s) = some ((call? s).getD s) := by
  -- The word is no relative reference, as it does not start with a full stop.
  obtain ⟨nonempty, chars⟩ := word
  obtain ⟨c, rest, rfl⟩ := List.exists_cons_of_ne_nil nonempty
  have first : isWord c = true := chars c (by simp)
  have different : '.' ≠ c := (ne_of_isWord first isWord_marks.2.1).symm
  -- Behind the last character of the word the goal is to read a call, if one follows.
  have reached : withCall some ((rest ++ s).dropWhile isWord) = some ((call? s).getD s) := by
    rw [dropWhile_word (fun d member => chars d (by simp [member])) boundary]
    cases found : call? s <;> simp [withCall, found]
  simp [unbraced?, Text.stripPrefix?, different, name?, first, insideName_word reached]

/-- The token of a word, or of a call, that stands behind the delimiter without braces. -/
theorem introduced_unbraced {covered : List Char} (word : Word w) (boundary : s.head?.any isWord = false)
    (reads : w ++ s = covered ++ (call? s).getD s) :
    standard.introduced 0 (w ++ s) =
      (standard.placeholderOf ('%' :: covered) covered false, covered.length) := by
  -- A word starts with neither a delimiter nor a brace, so only the unbraced reading applies.
  have found := unbraced?_word word boundary
  obtain ⟨nonempty, chars⟩ := word
  obtain ⟨c, rest, rfl⟩ := List.exists_cons_of_ne_nil nonempty
  have first : isWord c = true := chars c (by simp)
  have noDelimiter : '%' ≠ c := (ne_of_isWord first isWord_marks.1).symm
  have noBrace : c ≠ '\x7b' := ne_of_isWord first isWord_marks.2.2.1
  -- Its length is taken from what is left, and the text itself is cut off the front again.
  have length : standard.unbracedLength? (c :: rest ++ s) = some covered.length := by
    rw [unbracedLength?, found, Option.map_some, reads, List.length_append, Nat.add_sub_cancel]
  have front : (c :: rest ++ s).take covered.length = covered := by
    rw [reads, List.take_left]
  simp only [introduced, standard_placeholder]
  rw [List.cons_append] at length front ⊢
  simp [Text.stripPrefix?, noDelimiter, noBrace, length, front]

/-- Behind the delimiter neither a word nor a full stop: nothing can be read without braces. -/
theorem unbracedLength?_eq_none (noWord : s.head?.any isWord = false) (noDot : s.head? ≠ some '.') :
    standard.unbracedLength? s = none := by
  -- A name starts with a word character, and a relative reference with a full stop.
  cases s with
  | nil => rfl
  | cons c rest =>
    have first : isWord c = false := by simpa using noWord
    have different : '.' ≠ c := by
      rintro rfl
      simp at noDot
    simp [unbracedLength?, unbraced?, Text.stripPrefix?, different, name?, first]

/-- A word that nothing continues is a name. -/
theorem introduced_word (word : Word w) (last : continuesName s = false) :
    standard.introduced 0 (w ++ s) = (bareToken w, w.length) := by
  -- No parentheses of a call follow.
  simp only [continuesName, Bool.or_eq_false_iff] at last
  refine introduced_unbraced word last.1 ?_
  rw [show call? s = none by simpa using last.2, Option.getD_none]

/-- A word with the parentheses of a call behind it is a call. -/
theorem introduced_call (word : Word w) (inside : ∀ c ∈ args, isCallChar c = true) :
    standard.introduced 0 (w ++ '(' :: (args ++ ')' :: after)) =
      (callToken w args, w.length + args.length + 2) := by
  -- The opening parenthesis ends the word.
  have found : call? ('(' :: (args ++ ')' :: after)) = some after := call?_eq_some_iff.2 ⟨args, rfl, inside⟩
  have boundary : ('(' :: (args ++ ')' :: after)).head?.any isWord = false := by simp [isWord_marks]
  have length : (w ++ '(' :: (args ++ [')'])).length = w.length + args.length + 2 := by
    simp
    omega
  rw [← length]
  refine introduced_unbraced word boundary ?_
  rw [found]
  simp

end Words

section Braces

variable {u v : List Char}

/-- The reading of what stands behind an opening brace: a dotted name, a call or none, the closing brace. -/
def readBraced : List Char → Option (List Char) :=
  dotted? ['.'] (withCall closing?)

/-- A reading that closes at a brace: what stands before the brace decides whether it does, what stands
behind it is left, and without the brace it fails. -/
def Closes (read : List Char → Option (List Char)) (u : List Char) : Prop :=
  (∀ v, read (u ++ '\x7d' :: v) = (read (u ++ ['\x7d'])).map fun _ => v) ∧ read u = none

/-- The parentheses of a call hold no brace, so a brace behind a text does not change whether they close
inside it. -/
theorem call?_append_brace (u v : List Char) :
    call? (u ++ '\x7d' :: v) = (call? u).map (· ++ '\x7d' :: v) := by
  cases u with
  -- At the brace itself no parenthesis opens.
  | nil => simp [call?]
  | cons c rest =>
    by_cases opens : c = '('
    · subst opens
      -- The brace ends the characters of a call, wherever they start.
      have stop : ('\x7d' :: v).dropWhile isCallChar = '\x7d' :: v :=
        List.dropWhile_cons_of_neg (by decide)
      have skipped : (rest ++ '\x7d' :: v).dropWhile isCallChar =
          rest.dropWhile isCallChar ++ '\x7d' :: v := by
        rw [List.dropWhile_append]
        cases rest.dropWhile isCallChar <;> simp [stop]
      simp only [call?, List.cons_append, skipped]
      cases rest.dropWhile isCallChar with
      | nil => simp
      | cons d after => by_cases closes : d = ')' <;> simp [closes]
    · simp [call?, opens]

/-- The closing brace is found if it comes at once. -/
theorem closing?_closes (clear : '\x7d' ∉ u) : Closes closing? u := by
  -- Any other character in front of it is not a brace.
  cases u with
  | nil => exact ⟨fun v => rfl, rfl⟩
  | cons c rest =>
    have different : c ≠ '\x7d' := by
      rintro rfl
      simp at clear
    exact ⟨fun v => by simp [closing?, different], by simp [closing?, different]⟩

/-- A reading and, if it fails, another one close at a brace if both do. -/
theorem Closes.or {read other : List Char → Option (List Char)} (first : Closes read u)
    (second : Closes other u) : Closes (fun s => (read s).or (other s)) u := by
  -- Both give what stands behind the brace, if anything.
  exact ⟨fun v => by simp only [first.1 v, second.1 v, Option.map_or], by simp [first.2, second.2]⟩

/-- The closing brace is found if it comes at once or behind the parentheses of a call. -/
theorem withCall_closes (clear : '\x7d' ∉ u) : Closes (withCall closing?) u := by
  -- The reading behind a call is tried first, and the one without a call if that fails.
  have called : Closes (fun s => (call? s).bind closing?) u := by
    cases found : call? u with
    | none => exact ⟨fun v => by simp [call?_append_brace, found], by simp [found]⟩
    | some after =>
      -- What follows the call is a part of the text, so it holds no brace either.
      obtain ⟨args, rfl, _⟩ := call?_eq_some_iff.1 found
      have behind := closing?_closes (u := after) fun member => clear (by simp [member])
      refine ⟨fun v => ?_, by simp only [found, Option.bind_some, behind.2]⟩
      simp only [call?_append_brace, found, Option.map_some, Option.bind_some, behind.1 v]
  have both := called.or (closing?_closes clear)
  have same : withCall closing? = fun s => ((call? s).bind closing?).or (closing? s) := by
    funext s
    simp [withCall]
  rwa [same]

/-- Behind a character of a name: the name goes on, or a full stop and another word follow, or it ends. -/
theorem insideName_dot_cons {α : Type} (goal : List Char → Option α) (c : Char) (s : List Char) :
    insideName ['.'] goal (c :: s) =
      (if isWord c then insideName ['.'] goal s else none).or
        ((if c = '.' then name? ['.'] goal s else none).or (goal (c :: s))) := by
  rw [insideName]
  by_cases dot : c = '.'
  · subst dot
    -- The word behind the full stop is read by the same rule as one at the start of a name.
    cases s <;> simp [Text.stripPrefix?, name?]
  · simp [Text.stripPrefix?, dot, Ne.symm dot]

/-- A name that may start in braces closes at the brace if it does so behind its first character. -/
theorem name?_closes (further : ∀ c rest, u = c :: rest → Closes (insideName ['.'] (withCall closing?)) rest) :
    Closes (name? ['.'] (withCall closing?)) u := by
  cases u with
  -- The brace is no character of a name.
  | nil => exact ⟨fun v => by simp [name?, isWord_marks], rfl⟩
  | cons c rest =>
    have inside := further c rest rfl
    by_cases word : isWord c = true
    · exact ⟨fun v => by simpa [name?, word] using inside.1 v, by simp [name?, word, inside.2]⟩
    · exact ⟨fun v => by simp [name?, word], by simp [name?, word]⟩

/-- A name in braces closes at the brace. -/
theorem insideName_closes (clear : '\x7d' ∉ u) :
    Closes (insideName ['.'] (withCall closing?)) u := by
  -- The induction is on the length of the text, as a full stop and a word are read in one step.
  induction length : u.length using Nat.strongRecOn generalizing u with
  | ind size ih =>
    have ends := withCall_closes clear
    cases u with
    | nil =>
      refine ⟨fun v => ?_, by rw [insideName]; simp [Text.stripPrefix?, ends.2]⟩
      rw [List.nil_append, List.nil_append, insideName_dot_cons, insideName_dot_cons]
      simpa [isWord_marks] using ends.1 v
    | cons c rest =>
      have outside : '\x7d' ∉ rest := fun member => clear (by simp [member])
      -- Each of the three ways to go on closes at the brace, so the first one that succeeds does.
      have goesOn := ih rest.length (by simp at length; omega) outside rfl
      have nextWord : Closes (name? ['.'] (withCall closing?)) rest := by
        refine name?_closes fun d more next => ih more.length ?_ ?_ rfl
        · simp [next] at length
          omega
        · exact fun member => outside (by simp [next, member])
      refine ⟨fun v => ?_, by rw [insideName_dot_cons]; simp [goesOn.2, nextWord.2, ends.2]⟩
      have here := ends.1 v
      simp only [List.cons_append] at here ⊢
      rw [insideName_dot_cons, insideName_dot_cons, goesOn.1 v, nextWord.1 v, here]
      rw [Option.map_or, Option.map_or, apply_ite (Option.map _), apply_ite (Option.map _), Option.map_none]

/-- Full stops may precede a name. -/
theorem dotted?_dot_cons {α : Type} (goal : List Char → Option α) (c : Char) (s : List Char) :
    dotted? ['.'] goal (c :: s) =
      (if c = '.' then dotted? ['.'] goal s else none).or (name? ['.'] goal (c :: s)) := by
  rw [dotted?]
  by_cases dot : c = '.'
  · subst dot
    simp [Text.stripPrefix?]
  · -- Without a full stop a name is the only reading left.
    have none : Text.stripPrefix? ['.'] (c :: s) = none := by simp [Text.stripPrefix?, Ne.symm dot]
    simp only [dot, if_false, Option.none_or]
    split
    · split <;> simp_all
    · simp

/-- What stands in braces closes at the first closing brace. -/
theorem readBraced_closes (clear : '\x7d' ∉ u) : Closes readBraced u := by
  unfold readBraced
  -- The induction takes the full stops off the front.
  induction u with
  | nil =>
    refine ⟨fun v => ?_, by rw [dotted?]; simp [Text.stripPrefix?, name?]⟩
    rw [List.nil_append, List.nil_append, dotted?_dot_cons, dotted?_dot_cons]
    simp [name?, isWord_marks]
  | cons c rest ih =>
    have outside : '\x7d' ∉ rest := fun member => clear (by simp [member])
    have word : Closes (name? ['.'] (withCall closing?)) (c :: rest) :=
      name?_closes fun d more next => insideName_closes ((List.cons.inj next).2 ▸ outside)
    refine ⟨fun v => ?_, by rw [dotted?_dot_cons]; simp [(ih outside).2, word.2]⟩
    have here := word.1 v
    simp only [List.cons_append] at here ⊢
    rw [dotted?_dot_cons, dotted?_dot_cons, (ih outside).1 v, here]
    rw [Option.map_or, apply_ite (Option.map _), Option.map_none]

/-- A text that stands between braces as a whole: no brace closes in it, and it is read to its end. -/
def Body (u : List Char) : Prop :=
  '\x7d' ∉ u ∧ (readBraced (u ++ ['\x7d'])).isSome = true

/-- What stands in braces is read exactly if it is a body with a closing brace behind it. -/
theorem readBraced_eq_some_iff {s : List Char} :
    readBraced s = some v ↔ ∃ u, s = u ++ '\x7d' :: v ∧ Body u := by
  constructor
  · intro found
    -- The text up to the first closing brace is what has been read.
    let u := s.takeWhile (· ≠ '\x7d')
    have clear : '\x7d' ∉ u := by
      intro member
      simpa using List.all_eq_true.1 List.all_takeWhile _ member
    have whole : s = u ++ s.dropWhile (· ≠ '\x7d') := List.takeWhile_append_dropWhile.symm
    cases left : s.dropWhile (· ≠ '\x7d') with
    | nil =>
      -- Without a brace nothing would have been read.
      rw [left, List.append_nil] at whole
      rw [whole, (readBraced_closes clear).2] at found
      simp at found
    | cons c rest =>
      -- With one the reading closes there, and leaves what stands behind it.
      have brace : c = '\x7d' := by
        have stop := List.head?_dropWhile_not (· ≠ '\x7d') s
        rw [left] at stop
        simpa using stop
      subst brace
      rw [left] at whole
      rw [whole, (readBraced_closes clear).1] at found
      obtain ⟨after, read, same⟩ := Option.map_eq_some_iff.1 found
      exact ⟨u, same ▸ whole, clear, by simp [read]⟩
  · intro written
    obtain ⟨u, rfl, clear, closes⟩ := written
    obtain ⟨after, read⟩ := Option.isSome_iff_exists.1 closes
    rw [(readBraced_closes clear).1, read, Option.map_some]

/-- A body in braces is a placeholder. -/
theorem introduced_braced (body : Body u) :
    standard.introduced 0 ('\x7b' :: u ++ '\x7d' :: v) =
      (bracedToken u, u.length + 2) := by
  -- The reading leaves what stands behind the brace, which gives the length of the body.
  have found : readBraced (u ++ '\x7d' :: v) = some v := readBraced_eq_some_iff.2 ⟨u, rfl, body⟩
  have length : standard.bracedLength? (u ++ '\x7d' :: v) = some (u.length + 1) := by
    simp only [bracedLength?, standard_space]
    rw [readBraced] at found
    simp [found]
    omega
  have covered : (u ++ '\x7d' :: v).take (u.length + 1) = u ++ ['\x7d'] := by
    rw [List.take_length_add_append]
    rfl
  simp [introduced, Text.stripPrefix?, length, covered, bracedToken]

end Braces

section Relative

variable {s rest : List Char}

/-- A name ends behind words and full stops. -/
theorem insideName_dot_reads (found : insideName ['.'] some s = some rest) :
    ∃ read, s = read ++ rest ∧ ∀ c ∈ read, isWord c = true ∨ c = '.' := by
  -- Each of the three ways to go on takes words or full stops off the front.
  induction length : s.length using Nat.strongRecOn generalizing s with
  | ind size ih =>
    cases s with
    | nil =>
      rw [insideName] at found
      simp only [Text.stripPrefix?] at found
      exact ⟨[], by simpa using found, by simp⟩
    | cons c more =>
      rw [insideName_dot_cons, Option.or_eq_some_iff, Option.or_eq_some_iff] at found
      rcases found with goesOn | ⟨_, nextWord | ⟨_, ends⟩⟩
      · -- The name goes on with a character of a word.
        obtain ⟨word, goesOn⟩ := Option.ite_none_right_eq_some.1 goesOn
        obtain ⟨read, rfl, chars⟩ := ih more.length (by simp at length; omega) goesOn rfl
        exact ⟨c :: read, rfl, by simpa [word] using chars⟩
      · -- A full stop and the first character of another word follow.
        obtain ⟨dot, nextWord⟩ := Option.ite_none_right_eq_some.1 nextWord
        cases more with
        | nil => simp [name?] at nextWord
        | cons d others =>
          obtain ⟨word, inside⟩ := Option.ite_none_right_eq_some.1 nextWord
          obtain ⟨read, rfl, chars⟩ := ih others.length (by simp at length; omega) inside rfl
          exact ⟨c :: d :: read, rfl, by simpa [dot, word] using chars⟩
      · -- The name ends here.
        exact ⟨[], by simpa using ends, by simp⟩

/-- Full stops and a name consist of words and full stops. -/
theorem dotted?_dot_reads (found : dotted? ['.'] some s = some rest) :
    ∃ read, s = read ++ rest ∧ ∀ c ∈ read, isWord c = true ∨ c = '.' := by
  -- The induction takes the full stops off the front.
  induction s with
  | nil =>
    rw [dotted?] at found
    simp [Text.stripPrefix?, name?] at found
  | cons c more ih =>
    rw [dotted?_dot_cons, Option.or_eq_some_iff] at found
    rcases found with dots | ⟨_, name⟩
    · obtain ⟨dot, dots⟩ := Option.ite_none_right_eq_some.1 dots
      obtain ⟨read, rfl, chars⟩ := ih dots
      exact ⟨c :: read, rfl, by simpa [dot] using chars⟩
    · obtain ⟨word, inside⟩ := Option.ite_none_right_eq_some.1 name
      obtain ⟨read, rfl, chars⟩ := insideName_dot_reads inside
      exact ⟨c :: read, rfl, by simpa [word] using chars⟩

/-- Behind the delimiter a full stop introduces a reference or nothing. -/
theorem introduced_dot (s : List Char) :
    ¬ standard.Inert (standard.introduced 0 ('.' :: s)).1 := by
  -- A full stop starts no word, so only a relative reference is tried.
  have noWord : name? [] (withCall some) ('.' :: s) = none := by simp [name?, isWord_marks]
  have unbraced : standard.unbraced? ('.' :: s) = dotted? ['.'] some s := by
    simp [unbraced?, Text.stripPrefix?, noWord]
  cases found : dotted? ['.'] some s with
  | none =>
    -- Nothing can be read, so the delimiter stands alone.
    have length : standard.unbracedLength? ('.' :: s) = none := by simp [unbracedLength?, unbraced, found]
    simp [introduced, Text.stripPrefix?, length, Inert, Token.Valid]
  | some rest =>
    obtain ⟨read, rfl, chars⟩ := dotted?_dot_reads found
    have length : standard.unbracedLength? ('.' :: (read ++ rest)) = some (read.length + 1) := by
      simp only [unbracedLength?, unbraced, found, Option.map_some, List.length_cons, List.length_append]
      congr 1
      omega
    -- The name holds no parenthesis, so it is no call.
    have named : standard.requestOf ('.' :: read) = .named ('.' :: read) := by
      rw [requestOf, Text.breakOn?_eq_none]
      intro member
      rcases List.mem_cons.1 member with dot | inside
      · exact absurd dot (by decide)
      · rcases chars _ inside with word | dot
        · simp [isWord_marks] at word
        · exact absurd dot (by decide)
    have reference : (standard.tokenReference? (standard.introduced 0 ('.' :: (read ++ rest))).1).isSome := by
      simp [introduced, Text.stripPrefix?, length, placeholderOf, named, tokenReference?, reference?,
        Key.stripLeading?, spaceText]
    intro inert
    simp [inert.2] at reference

end Relative

end Phrasebook.Grammar
