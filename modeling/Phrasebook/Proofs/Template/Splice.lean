import Phrasebook.Proofs.Template.Standard

/-! Templates written one after the other. With the default delimiters only a placeholder without braces
and parentheses can become another one by what follows it, and no reference arises. -/

namespace Phrasebook

/-- The name in a placeholder without braces that is not a call. -/
def Token.bareName? : Token → Option (List Char)
  | .placeholder found =>
    match found.braced, found.request with
    | false, .named name => some name
    | _, _ => none
  | _ => none

namespace Grammar

open Unicode (isWord)

variable {s u w args rest : List Char} {token : Token}

/-- The tokens as they are written with the default delimiters, text being one character long. -/
inductive Written : Token → Prop where
  | char {c : Char} (different : c ≠ '%') : Written (.text [c])
  | escaped : Written (.escaped ['%', '%'])
  | braced {u : List Char} (body : Body u) : Written (bracedToken u)
  | called {w args : List Char} (word : Word w) (inside : ∀ c ∈ args, isCallChar c = true) :
    Written (callToken w args)
  | bare {w : List Char} (word : Word w) : Written (bareToken w)

/-- A word holds no character that the grammar gives a meaning. -/
theorem Word.not_mem (word : Word w) {c : Char} (mark : isWord c = false) : c ∉ w := by
  intro member
  simp [word.2 c member] at mark

/-- The characters of a word may stand in the parentheses of a call. -/
theorem Word.isCallChar (word : Word w) {c : Char} (member : c ∈ w) : isCallChar c = true := by
  -- Braces and parentheses alone may not stand there, and none of them is a character of a word.
  obtain ⟨_, _, openBrace, closeBrace, opening, closing⟩ := isWord_marks
  have is : isWord c = true := word.2 c member
  simp [Grammar.isCallChar, ne_of_isWord is openBrace, ne_of_isWord is closeBrace, ne_of_isWord is opening,
    ne_of_isWord is closing]

/-- A name without parentheses asks for a value. -/
theorem requestOf_word (word : Word w) : standard.requestOf w = .named w := by
  -- There is no opening parenthesis in a word.
  rw [requestOf, Text.breakOn?_eq_none (word.not_mem isWord_marks.2.2.2.2.1)]

/-- A name with parentheses behind it calls a function. -/
theorem requestOf_call (word : Word w) (args : List Char) :
    standard.requestOf (w ++ '(' :: (args ++ [')'])) = .call w (Text.splitOn ['|'] args) := by
  -- The word ends at the first opening parenthesis.
  have cut : Text.breakOn? ['('] (w ++ '(' :: (args ++ [')'])) = some (w, args ++ [')']) :=
    Text.breakOn?_eq_some (word.not_mem isWord_marks.2.2.2.2.1)
  rw [requestOf, cut]
  simp [standard_eq]

/-- A bare placeholder has its word as its name. -/
@[simp] theorem bareName?_bareToken (word : Word w) : (bareToken w).bareName? = some w := by
  simp [bareToken, placeholderOf, Token.bareName?, requestOf_word word]

/-- A call has no bare name. -/
@[simp] theorem bareName?_callToken (word : Word w) : (callToken w args).bareName? = none := by
  simp [callToken, placeholderOf, Token.bareName?, requestOf_call word]

/-- A placeholder between braces has no bare name. -/
@[simp] theorem bareName?_bracedToken : (bracedToken u).bareName? = none := by
  simp [bracedToken, placeholderOf, Token.bareName?]

/-- Names without braces and calls are no references. -/
theorem inert_bareToken (word : Word w) : standard.Inert (bareToken w) := by
  -- The first character of a word is not a full stop, and without braces no other one counts.
  obtain ⟨c, more, rfl⟩ := List.exists_cons_of_ne_nil word.1
  have different : '.' ≠ c := (ne_of_isWord (word.2 c (by simp)) isWord_marks.2.1).symm
  simp [bareToken, placeholderOf, Inert, Token.Valid, tokenReference?, reference?, requestOf_word word,
    Key.stripLeading?, spaceText, Text.stripPrefix?, different]

/-- A call of a word is inert: it refers to no key. -/
theorem inert_callToken (word : Word w) : standard.Inert (callToken w args) := by
  simp [callToken, placeholderOf, Inert, Token.Valid, tokenReference?, reference?, requestOf_call word]

/-- A character other than the delimiter is a part of its own. -/
theorem standard_parts_char {c : Char} (different : c ≠ '%') (s : List Char) :
    standard.parts (c :: s) = .text [c] :: standard.parts s := by
  exact parts_char (by simp [Text.stripPrefix?, Ne.symm different])

/-- The delimiter is the first character of what it introduces. -/
theorem standard_parts_delimiter (s : List Char) :
    standard.parts ('%' :: s) =
      (standard.introduced 0 s).1 :: standard.parts (s.drop (standard.introduced 0 s).2) := by
  have found := @parts_delimiter standard (by simp) s
  simpa using found

/-- A token is found where it is written, unless it is a bare name that goes on. -/
theorem Written.parts_append (written : Written token)
    (free : token.bareName?.isSome = true → continuesName s = false) :
    standard.parts (token.source ++ s) = token :: standard.parts s := by
  cases written with
  | char different => exact standard_parts_char different s
  -- Every other token starts with the delimiter, and covers what is written for it.
  | escaped =>
    have found : standard.introduced 0 ('%' :: s) = (.escaped ['%', '%'], 1) := by
      simp [introduced, Text.stripPrefix?]
    simp [Token.source, standard_parts_delimiter, found]
  | @braced u body =>
    have found := introduced_braced (v := s) body
    have source : (bracedToken u).source ++ s = '%' :: ('\x7b' :: u ++ '\x7d' :: s) := by simp
    have behind : ('\x7b' :: u ++ '\x7d' :: s).drop (u.length + 2) = s := by simp
    rw [source, standard_parts_delimiter, found, behind]
  | @called w args word inside =>
    have found := @introduced_call w args s word inside
    have source : (callToken w args).source ++ s = '%' :: (w ++ '(' :: (args ++ ')' :: s)) := by simp
    have behind : (w ++ '(' :: (args ++ ')' :: s)).drop (w.length + args.length + 2) = s := by
      rw [show w ++ '(' :: (args ++ ')' :: s) = (w ++ '(' :: args ++ [')']) ++ s by simp]
      exact List.drop_left' (by simp; omega)
    rw [source, standard_parts_delimiter, found, behind]
  | @bare w word =>
    have found := introduced_word word (free (by simp [word]))
    have source : (bareToken w).source ++ s = '%' :: (w ++ s) := by simp
    rw [source, standard_parts_delimiter, found, List.drop_left]

/-- Of the written tokens only the bare names have a name that can go on. -/
theorem Written.exists_bare (written : Written token) (named : token.bareName?.isSome = true) :
    ∃ w, Word w ∧ token = bareToken w := by
  -- Of the other tokens none has a bare name.
  cases written with
  | char _ => simp [Token.bareName?] at named
  | escaped => simp [Token.bareName?] at named
  | braced _ => simp at named
  | called word _ => simp [word] at named
  | @bare w word => exact ⟨w, word, rfl⟩

/-- A text cut behind the characters at its front that belong to a name. -/
theorem exists_word (s : List Char) :
    ∃ w rest, s = w ++ rest ∧ (∀ c ∈ w, isWord c = true) ∧ rest.head?.any isWord = false := by
  -- What is left starts with a character of another kind, or is empty.
  refine ⟨s.takeWhile isWord, s.dropWhile isWord, List.takeWhile_append_dropWhile.symm,
    List.all_eq_true.1 List.all_takeWhile, ?_⟩
  have stop := List.head?_dropWhile_not isWord s
  cases left : (s.dropWhile isWord).head? with
  | none => rfl
  | some c => simpa [left] using stop

/-- A word behind the delimiter is written as a call or as a bare name. -/
theorem introduced_name (first : s.head?.any isWord = true) : Written (standard.introduced 0 s).1 := by
  -- The parentheses behind the word, if there are any, decide which of the two it is.
  obtain ⟨w, behind, rfl, chars, boundary⟩ := exists_word s
  have word : Word w := by
    refine ⟨?_, chars⟩
    rintro rfl
    simp [boundary] at first
  cases found : call? behind with
  | none =>
    have last : continuesName behind = false := by simp [continuesName, boundary, found]
    rw [introduced_word word last]
    exact .bare word
  | some after =>
    obtain ⟨args, rfl, inside⟩ := call?_eq_some_iff.1 found
    rw [introduced_call word inside]
    exact .called word inside

/-- Of what the delimiter introduces, the inert tokens are written in one of the five ways. -/
theorem introduced_inert (inert : standard.Inert (standard.introduced 0 s).1) :
    Written (standard.introduced 0 s).1 := by
  -- The character behind the delimiter decides how it is read.
  by_cases word : s.head?.any isWord = true
  · exact introduced_name word
  by_cases escape : s.head? = some '%'
  · obtain ⟨more, rfl⟩ := List.head?_eq_some_iff.1 escape
    have escaped : standard.introduced 0 ('%' :: more) = (.escaped ['%', '%'], 1) := by
      simp [introduced, Text.stripPrefix?]
    rw [escaped]
    exact .escaped
  by_cases dot : s.head? = some '.'
  · obtain ⟨more, rfl⟩ := List.head?_eq_some_iff.1 dot
    exact absurd inert (introduced_dot more)
  -- What is left is a body in braces, or a delimiter that stands alone.
  have unbraced := unbracedLength?_eq_none (by simpa using word) dot
  have noDelimiter : Text.stripPrefix? ['%'] s = none := by
    cases s with
    | nil => rfl
    | cons c more => simpa [Text.stripPrefix?, eq_comm] using escape
  by_cases brace : s.head? = some '\x7b'
  · obtain ⟨inside, rfl⟩ := List.head?_eq_some_iff.1 brace
    cases found : readBraced inside with
    | some v =>
      obtain ⟨u, rfl, body⟩ := readBraced_eq_some_iff.1 found
      rw [← List.cons_append, introduced_braced body]
      exact .braced body
    | none =>
      -- The braces do not close, so the delimiter stands alone and is not inert.
      have length : standard.bracedLength? inside = none := by simpa [bracedLength?, readBraced] using found
      simp [introduced, Text.stripPrefix?, length, unbraced, Inert, Token.Valid] at inert
  · -- No reading applies.
    have alone : standard.introduced 0 s = (.invalid ['%'] 0, 0) := by
      simp only [introduced, standard_placeholder, noDelimiter, unbraced]
      split
      · next found => split at found <;> simp_all
      · rfl
    rw [alone] at inert
    simp [Inert, Token.Valid] at inert

/-- A front part of a template, which is written in one of the five ways if it is inert. -/
structure Front (token : Token) (behind : List Char) : Prop where
  cut : standard.parts (token.source ++ behind) = token :: standard.parts behind
  written : standard.Inert token → Written token

/-- Templates are taken apart from the front. -/
theorem parts_induction {holds : List Char → Prop} (nil : holds [])
    (front : ∀ token behind, Front token behind → holds behind → holds (token.source ++ behind))
    (s : List Char) : holds s := by
  -- Every part takes at least one character off the front.
  induction length : s.length using Nat.strongRecOn generalizing s with
  | ind size ih =>
    cases s with
    | nil => exact nil
    | cons c more =>
      by_cases delimiter : c = '%'
      · subst delimiter
        have cut := standard_parts_delimiter more
        have source := introduced_source standard 0 more
        have shorter : (more.drop (standard.introduced 0 more).2).length < size := by
          simp only [List.length_cons, List.length_drop] at length ⊢
          omega
        have whole : '%' :: more =
            (standard.introduced 0 more).1.source ++ more.drop (standard.introduced 0 more).2 := by
          rw [source, standard_placeholder, List.append_assoc, List.take_append_drop]
          rfl
        rw [whole] at cut ⊢
        exact front _ _ ⟨cut, introduced_inert⟩ (ih _ shorter _ rfl)
      · have shorter : more.length < size := by
          simp at length
          omega
        exact front (.text [c]) more ⟨standard_parts_char delimiter more, fun _ => .char delimiter⟩
          (ih _ shorter more rfl)

/-- A part is written in one of the five ways if it is inert. -/
theorem written_of_mem_parts (member : token ∈ standard.parts s) (inert : standard.Inert token) :
    Written token := by
  -- Either it is the part at the front, or it stands behind that one.
  induction s using parts_induction with
  | nil => simp [parts_nil] at member
  | front first behind found ih =>
    rw [found.cut, List.mem_cons] at member
    rcases member with rfl | member
    · exact found.written inert
    · exact ih member

/-- A template is settled if its front part is inert and what stands behind it is settled. -/
theorem Front.settled_iff (found : Front token rest) :
    standard.Settled (token.source ++ rest) ↔ standard.Inert token ∧ standard.Settled rest := by
  simp [Settled, found.cut]

/-- A token that is written where it ends stands at the front. -/
theorem Written.front (written : Written token)
    (free : token.bareName?.isSome = true → continuesName s = false) : Front token s :=
  ⟨written.parts_append free, fun _ => written⟩

/-- The empty template is settled. -/
theorem settled_nil : standard.Settled [] := by
  simp [Settled, parts_nil]

/-- Text without delimiters in front of a template does not matter. -/
theorem settled_chars_append (plain : ∀ c ∈ u, c ≠ '%') :
    standard.Settled (u ++ s) ↔ standard.Settled s := by
  -- Each of its characters is an inert part of its own.
  induction u with
  | nil => rfl
  | cons c more ih =>
    have char : Written (.text [c]) := .char (plain c (by simp))
    have found : Front (.text [c]) (more ++ s) := char.front (by simp [Token.bareName?])
    have inert : standard.Inert (.text [c]) := ⟨trivial, rfl⟩
    have settled := found.settled_iff
    rw [ih fun d member => plain d (by simp [member])] at settled
    exact settled.trans (and_iff_right inert)

/-- In the parentheses of a call no placeholder with braces or parentheses fits, and every other one ends
before the closing parenthesis. -/
theorem Written.inside_call (written : Written token) (inside : ∀ c ∈ args, isCallChar c = true)
    (nonempty : args ≠ []) (same : args ++ ')' :: rest = token.source ++ s) :
    ∃ b, args = token.source ++ b ∧ s = b ++ ')' :: rest := by
  have closing : isCallChar ')' = false := by decide
  cases written with
  | @char c _ =>
    obtain ⟨d, more, rfl⟩ := List.exists_cons_of_ne_nil nonempty
    obtain ⟨rfl, behind⟩ := List.cons.inj same
    exact ⟨more, rfl, behind.symm⟩
  | escaped => exact Text.exists_of_append_cons (by decide) same
  | bare word =>
    refine Text.exists_of_append_cons (fun member => ?_) same
    rcases List.mem_cons.1 member with clash | member
    · exact absurd clash (by decide)
    · exact word.not_mem isWord_marks.2.2.2.2.2 member
  | @braced u body =>
    -- The first character outside the parentheses would be the opening brace.
    have front : args ++ ')' :: rest = ['%'] ++ '\x7b' :: (u ++ ['\x7d'] ++ s) := by simpa using same
    have chars : ∀ c ∈ ['%'], isCallChar c = true := List.forall_mem_singleton.2 (by decide)
    have clash := (Text.append_cons_inj front inside chars closing (by decide)).2.1
    exact absurd clash (by decide)
  | @called w others word _ =>
    -- The first character outside the parentheses would be the opening parenthesis.
    have front : args ++ ')' :: rest = '%' :: w ++ '(' :: (others ++ [')'] ++ s) := by simpa using same
    have chars : ∀ c ∈ '%' :: w, isCallChar c = true := by
      intro c member
      rcases List.mem_cons.1 member with rfl | member
      · decide
      · exact word.isCallChar member
    have clash := (Text.append_cons_inj front inside chars closing (by decide)).2.1
    exact absurd clash (by decide)

/-- What stands behind the parentheses of a call in a settled template is settled. -/
theorem Settled.of_call (settled : standard.Settled (args ++ ')' :: rest))
    (inside : ∀ c ∈ args, isCallChar c = true) : standard.Settled rest := by
  -- The parts inside the parentheses are taken off the front until the closing one is reached.
  generalize whole : args ++ ')' :: rest = s at settled
  induction s using parts_induction generalizing args with
  | nil => simp at whole
  | front token behind found ih =>
    by_cases empty : args = []
    · subst empty
      rw [← whole] at settled
      exact (settled_chars_append (u := [')']) (by simp)).1 settled
    · obtain ⟨inert, settled⟩ := found.settled_iff.1 settled
      obtain ⟨b, rfl, rfl⟩ := (found.written inert).inside_call inside empty whole
      exact ih (fun c member => inside c (by simp [member])) rfl settled

/-- What a bare name becomes when it goes on: another bare name, or a call. -/
inductive Continued (w : List Char) : Token → Prop where
  | longer {name : List Char} (word : Word name) (different : name ≠ w) : Continued w (bareToken name)
  | called {name args : List Char} (word : Word name) : Continued w (callToken name args)

/-- What a bare name becomes is no reference. -/
theorem Continued.inert (continued : Continued w token) : standard.Inert token := by
  -- The name has become a longer name, or a call.
  cases continued with
  | longer word _ => exact inert_bareToken word
  | called word => exact inert_callToken word

/-- A bare name that goes on in a settled template becomes another placeholder, and the template stays
settled. -/
theorem exists_continued (word : Word w) (goesOn : continuesName s = true) (settled : standard.Settled s) :
    ∃ token u behind, s = u ++ behind ∧ '%' :: (w ++ u) = token.source ∧ Front token behind ∧
      Continued w token ∧ standard.Settled behind := by
  -- The characters of the name that follow, if any, are read first.
  obtain ⟨more, left, rfl, chars, boundary⟩ := exists_word s
  have longer : Word (w ++ more) := by
    refine ⟨fun empty => word.1 (List.append_eq_nil_iff.1 empty).1, fun c member => ?_⟩
    exact (List.mem_append.1 member).elim (word.2 c) (chars c)
  have plain : ∀ c ∈ more, c ≠ '%' := fun c member => ne_of_isWord (chars c member) isWord_marks.1
  have settledLeft := (settled_chars_append plain).1 settled
  cases found : call? left with
  | some after =>
    -- With the parentheses that follow the name is a call.
    obtain ⟨args, rfl, inside⟩ := call?_eq_some_iff.1 found
    have behindOpening := (settled_chars_append (u := ['(']) (by simp)).1 settledLeft
    exact ⟨callToken (w ++ more) args, more ++ '(' :: (args ++ [')']), after, by simp, by simp,
      (Written.called longer inside).front (by simp [longer]), .called longer, behindOpening.of_call inside⟩
  | none =>
    have last : continuesName left = false := by simp [continuesName, boundary, found]
    -- Without a call there is another character of the name, so the name differs.
    have nonempty : more ≠ [] := by
      rintro rfl
      simp [last] at goesOn
    exact ⟨bareToken (w ++ more), more, left, rfl, rfl, (Written.bare longer).front fun _ => last,
      .longer longer (by simpa using nonempty), settledLeft⟩

/-- Behind an inert token as it is written a settled template stays settled. -/
theorem Written.settled_append (written : Written token) (inert : standard.Inert token)
    (settled : standard.Settled s) : standard.Settled (token.source ++ s) := by
  by_cases free : token.bareName?.isSome = true → continuesName s = false
  · exact (written.front free).settled_iff.2 ⟨inert, settled⟩
  · -- Only a bare name can go on, and then it becomes another inert token.
    obtain ⟨named, goesOn⟩ := Classical.not_imp.1 free
    obtain ⟨w, word, rfl⟩ := written.exists_bare named
    obtain ⟨other, u, behind, rfl, source, found, continued, settledBehind⟩ :=
      exists_continued word (by simpa using goesOn) settled
    have whole : (bareToken w).source ++ (u ++ behind) = other.source ++ behind := by simp [← source]
    rw [whole]
    exact found.settled_iff.2 ⟨continued.inert, settledBehind⟩

/-- Settled templates one behind the other are settled together: no reference arises where they meet. -/
theorem Settled.append (left : standard.Settled s) (right : standard.Settled rest) :
    standard.Settled (s ++ rest) := by
  -- The parts of the first template are put in front one after the other, from the last one on.
  induction s using parts_induction with
  | nil => exact right
  | front token behind found ih =>
    obtain ⟨inert, settled⟩ := found.settled_iff.1 left
    rw [List.append_assoc]
    exact (found.written inert).settled_append inert (ih settled)

/-- Any number of settled templates one behind the other are settled together. -/
theorem settled_flatten {templates : List (List Char)}
    (settled : ∀ template ∈ templates, standard.Settled template) : standard.Settled templates.flatten := by
  -- Template by template; two settled ones are settled together.
  induction templates with
  | nil => exact settled_nil
  | cons first others ih =>
    exact (settled first (by simp)).append (ih fun template member => settled template (by simp [member]))

/-- What is written for an inert token of a template is settled when it stands alone. -/
theorem settled_source (member : token ∈ standard.tokenize s) (inert : standard.Inert token) :
    standard.Settled token.source := by
  -- The token is cut into parts, which are parts of the template.
  have each : ∀ source ∈ token.parts.map Token.source, standard.Settled source := by
    simp only [List.mem_map]
    intro _ found
    obtain ⟨part, inside, rfl⟩ := found
    have isInert := (inert_iff_parts standard token).1 inert part inside
    have written := written_of_mem_parts (List.mem_flatMap.2 ⟨token, member, inside⟩) isInert
    simpa using written.settled_append isInert settled_nil
  simpa [← List.flatMap_def] using settled_flatten each

/-- What is written for a token of a template that passes the check is settled unless it is a reference. -/
theorem settled_source_of_check {template : String} (checked : standard.check template = .ok ())
    (member : token ∈ standard.tokenize template.toList) (plain : standard.tokenReference? token = none) :
    standard.Settled token.source :=
  settled_source member ⟨(check_eq_ok_iff standard template).1 checked token member, plain⟩

end Grammar

end Phrasebook
