import Phrasebook.Proofs.Yaml.Scalar
import Phrasebook.Yaml.Text

/-! The lines of a listing are read as the tokens of a block mapping. -/

namespace Phrasebook.Yaml

open Settings

namespace Scan

/-- Reading on gives tokens, in no more steps than there are characters. -/
def Runs (s : Scan) (tokens : List Token) : Prop :=
  ∀ fuel, s.cursor.rest.length < fuel → run fuel s = some tokens

section Steps

variable {s t : Scan} {c : Char} {rest : List Char} {tokens : List Token}

/-- A character that is visible and starts no comment is not skipped. -/
theorem skipGaps_of_isInk (start : s.cursor.rest = c :: rest) (ink : isInk c = true) (noComment : c ≠ '#')
    (fuel : Nat) : s.skipGaps (fuel + 1) = s := by
  -- Neither a mark, nor a blank, nor a comment, nor a break stands there.
  have noMark : s.cursor.rest.head? ≠ some byteOrderMark := by
    rw [start, List.head?_cons]
    exact fun same => ne_of_isInk ink (d := byteOrderMark) rfl (Option.some.inj same)
  have noBlank (p : Bool) : s.cursor.skipWhile (fun c => c == ' ' || (c == '\t' && p)) = s.cursor := by
    simp [Cursor.skipWhile, start, ne_of_isInk ink (d := ' ') rfl, ne_of_isInk ink (d := '\t') rfl,
      Cursor.advance_zero]
  have uncommented : s.cursor.skipComment = s.cursor := by
    simp [Cursor.skipComment, start, noComment]
  have sameLine := Cursor.nextLine?_of_isInk start ink
  rw [skipGaps]
  simp [noMark, noBlank, uncommented, sameLine]

/-- A blank is skipped up to the next character. -/
theorem skipGaps_blank (start : s.cursor.rest = ' ' :: c :: rest) (ink : isInk c = true) (noComment : c ≠ '#')
    (fuel : Nat) : s.skipGaps (fuel + 1) = s.skip 1 := by
  -- The one blank is skipped; what stands behind it is none and starts no comment.
  have blank (p : Bool) : s.cursor.skipWhile (fun c => c == ' ' || (c == '\t' && p)) = s.cursor.advance 1 := by
    simp [Cursor.skipWhile, start, isBreak, ne_of_isInk ink (d := ' ') rfl, ne_of_isInk ink (d := '\t') rfl]
  have after : (s.cursor.advance 1).rest = c :: rest := Cursor.rest_advance [' '] start
  have uncommented : (s.cursor.advance 1).skipComment = s.cursor.advance 1 := by
    simp [Cursor.skipComment, after, noComment]
  have sameLine := Cursor.nextLine?_of_isInk after ink
  have noMark : s.cursor.rest.head? ≠ some byteOrderMark := by
    rw [start, List.head?_cons]
    decide
  rw [skipGaps]
  simp [noMark, blank, uncommented, sameLine, skip]

/-- Reading on from the end of a line is reading on from the next one, where a key may start. -/
theorem runs_newline (start : s.cursor.rest = '\n' :: rest) (block : s.inFlow = false)
    (runs : Runs { s with
      cursor := { rest, index := s.cursor.index + 1, line := s.cursor.line + 1, column := 0 }
      keyAllowed := true } tokens) : s.Runs tokens := by
  have noMark : s.cursor.rest.head? ≠ some byteOrderMark := by
    rw [start, List.head?_cons]
    decide
  have noBlank (p : Bool) : s.cursor.skipWhile (fun c => c == ' ' || (c == '\t' && p)) = s.cursor := by
    simp [Cursor.skipWhile, start, Cursor.advance_zero]
  have uncommented : s.cursor.skipComment = s.cursor := by
    simp [Cursor.skipComment, start]
  -- The break is skipped, and a bound that is smaller by one is left for the next line.
  have skipped (fuel : Nat) : s.skipGaps (fuel + 1) = skipGaps fuel { s with
      cursor := { rest, index := s.cursor.index + 1, line := s.cursor.line + 1, column := 0 }
      keyAllowed := true } := by
    rw [skipGaps]
    simp [noMark, noBlank, uncommented, Cursor.nextLine?_of_newline start, block]
  intro fuel enough
  obtain ⟨fuel, rfl⟩ : ∃ more, fuel = more + 1 := Nat.exists_eq_succ_of_ne_zero (by omega)
  rw [start, List.length_cons] at enough
  rw [← runs (fuel + 1) (by simp only; omega), run, run, start, List.length_cons, skipped]

/-- Reading on takes a token if no key is missed and no block ends before it. -/
theorem runs_of_token {skipped kept : Scan} (gap : s.skipGaps (s.cursor.rest.length + 1) = skipped)
    (keys : skipped.expireKeys = some kept) (inside : kept.closeBlocks kept.column = kept)
    (start : kept.cursor.rest = c :: rest) (token : kept.token c rest = some t)
    (shorter : t.cursor.rest.length < s.cursor.rest.length) (runs : t.Runs tokens) : s.Runs tokens := by
  -- One round of the scanner: skip, look for keys and ends of blocks, take the token.
  intro fuel enough
  obtain ⟨fuel, rfl⟩ : ∃ more, fuel = more + 1 := Nat.exists_eq_succ_of_ne_zero (by omega)
  rw [run]
  simp only [gap, keys, Option.bind_eq_bind, Option.bind_some, inside, start, token]
  exact runs fuel (by omega)

/-- A token that is read at a place where no document starts is told by its first character. -/
theorem token_of_isWordChar (start : s.cursor.rest = c :: rest) (word : isWordChar c = true) :
    s.token c rest = s.plain := by
  have apart {d : Char} : isWordChar d = false → c ≠ d := ne_of_isWordChar word
  have unmarked := atDocumentMark_of_isWordChar start word
  rw [Cursor.atDocumentMark, Bool.or_eq_false_iff] at unmarked
  have starts : startsPlain s.inFlow c rest = true := by
    have indicators : ("-?:,[]\x7b\x7d#&*!|>'\"%@\x60".toList.all fun d => !isWordChar d) = true := by decide
    have absent : "-?:,[]\x7b\x7d#&*!|>'\"%@\x60".toList.contains c = false := by
      rw [Bool.eq_false_iff]
      intro member
      have other := List.all_eq_true.1 indicators c (List.contains_iff_mem.1 member)
      rw [word] at other
      cases other
    rw [startsPlain, isGap_of_isInk (isInk_of_isWordChar word), absent]
    rfl
  -- None of the characters that open or close something, or announce it, makes up words.
  simp [token, unmarked, starts, apart (d := '%') rfl, apart (d := '[') rfl, apart (d := '\x7b') rfl,
    apart (d := ']') rfl, apart (d := '\x7d') rfl, apart (d := ',') rfl, apart (d := '-') rfl, apart (d := '?') rfl,
    apart (d := ':') rfl, apart (d := '*') rfl, apart (d := '&') rfl, apart (d := '!') rfl, apart (d := '|') rfl,
    apart (d := '>') rfl, apart (d := '\'') rfl, apart (d := '"') rfl]

end Steps

/-- A place where no key may have started. -/
def placed (cursor : Cursor) (tokens : List Token) (indent : Int) (outer : List Int) (keyAllowed : Bool) : Scan :=
  { cursor, tokens, size := tokens.length, indent, outer, keyAllowed }

section Lines

variable {cursor : Cursor} {tokens result : List Token} {indent : Int} {outer : List Int}

/-- The blocks in front of a line of a mapping: none yet, or the mapping. -/
def Opens (indent : Int) (outer : List Int) : Prop :=
  indent = -1 ∧ outer = [] ∨ indent = 0 ∧ outer = [-1]

/-- No block ends within a line. -/
theorem closeBlocks_of_opens {s : Scan} (opens : Opens s.indent s.outer) : s.closeBlocks s.column = s := by
  -- A block ends left of its indentation, and no column is left of the margin.
  have past : blocksPast s.column s.indent s.outer = (0, s.indent, s.outer) := by
    have column : 0 ≤ s.column := Int.natCast_nonneg _
    rcases opens with ⟨-, same⟩ | ⟨indent, same⟩
    · rw [same, blocksPast]
    · rw [same, blocksPast, if_neg (by omega)]
  rw [closeBlocks]
  split
  · rfl
  · rw [past]
    rfl

/-- The place behind a name that starts a line, and may be a key. -/
def behindName (cursor : Cursor) (word : List Char) (tokens : List Token) (indent : Int) (outer : List Int) : Scan :=
  { placed (cursor.advance word.length) (.scalar .plain word :: tokens) indent outer false with
    keys := [some
      { tokens := tokens.length, required := indent == 0, index := cursor.index, line := cursor.line, column := 0 }] }

/-- The tokens of a name and the colon behind it. Those of the first member start the mapping. -/
def withKey (word : List Char) (indent : Int) (tokens : List Token) : List Token :=
  .value :: .scalar .plain word :: .key :: (if indent = -1 then .blockMappingStart :: tokens else tokens)

/-- A word in front of a colon is scanned as a plain scalar, which may be a name. -/
theorem plain_name {word : List Char} (isWord : IsWord word) {rest : List Char}
    (behind : cursor.rest = word ++ ':' :: rest) (ended : endsWord rest = true) (start : cursor.column = 0) :
    (placed cursor tokens indent outer true).plain = some (behindName cursor word tokens indent outer) := by
  have read := plainScalar?_colon isWord (indent + 1).toNat behind ended
  simp [plain, markKey, placed, inFlow, dropKey, read, push, behindName, column, start]

/-- Tokens are put behind those that were there first. -/
theorem insert_eq {s : Scan} (later : List Token) {earlier : List Token} (tokens : s.tokens = later ++ earlier)
    (size : s.size = s.tokens.length) (new : List Token) :
    s.insert earlier.length new =
      { s with tokens := later ++ new.reverse ++ earlier, size := s.size + new.length } := by
  -- The tokens that came later are as many as there are more.
  have count : s.size - earlier.length = later.length := by
    rw [size, tokens, List.length_append, Nat.add_sub_cancel]
  rw [insert, count, tokens, List.splitAt_eq, List.take_left, List.drop_left]

/-- The colon behind a name makes it a key. -/
theorem token_colon (word : List Char) {rest : List Char} (ended : endsWord rest = true) (opens : Opens indent outer)
    (nonempty : word ≠ []) :
    (behindName cursor word tokens indent outer).token ':' rest =
      some (placed (cursor.advance (word.length + 1)) (withKey word indent tokens) 0 [-1] false) := by
  have inside : (behindName cursor word tokens indent outer).cursor.atDocumentMark = false := by
    refine Cursor.atDocumentMark_of_column ?_
    have positive := List.length_pos_iff.2 nonempty
    simp only [behindName, placed, Cursor.advance]
    omega
  rw [Cursor.atDocumentMark, Bool.or_eq_false_iff] at inside
  have mark : (behindName cursor word tokens indent outer).token ':' rest =
      (behindName cursor word tokens indent outer).valueMark := by
    simp [token, inside, ended]
  rw [mark, valueMark]
  simp only [behindName, placed]
  rw [insert_eq [.scalar .plain word] rfl rfl]
  -- The first key opens the mapping, in front of what has been read of it.
  rcases opens with ⟨rfl, rfl⟩ | ⟨rfl, rfl⟩
  · rw [openBlock, if_pos (by simp [inFlow]), insert_eq [.scalar .plain word, .key] rfl (by simp)]
    simp [withKey, skip, push, Cursor.advance_advance]
  · rw [openBlock, if_neg (by simp)]
    simp [withKey, skip, push, Cursor.advance_advance]

/-- A name and the colon behind it start a member of the mapping, and with the first one the mapping. -/
theorem runs_name {word : List Char} (isWord : IsWord word) (short : word.length ≤ 1024) {rest : List Char}
    (behind : cursor.rest = word ++ ':' :: ' ' :: rest) (start : cursor.column = 0) (opens : Opens indent outer)
    (runs : (placed (cursor.advance (word.length + 1)) (withKey word indent tokens) 0 [-1] false).Runs result) :
    (placed cursor tokens indent outer true).Runs result := by
  obtain ⟨c, more, spelled⟩ := List.exists_cons_of_ne_nil isWord.1
  have own := isWord.2 c (spelled ▸ List.mem_cons_self)
  have first : cursor.rest = c :: (more ++ ':' :: ' ' :: rest) := by rw [behind, spelled, List.cons_append]
  have name : (placed cursor tokens indent outer true).token c (more ++ ':' :: ' ' :: rest) =
      some (behindName cursor word tokens indent outer) := by
    rw [token_of_isWordChar first own, plain_name isWord behind rfl start]
  have after : (behindName cursor word tokens indent outer).cursor.rest = ':' :: ' ' :: rest :=
    Cursor.rest_advance _ behind
  have kept : (behindName cursor word tokens indent outer).expireKeys =
      some (behindName cursor word tokens indent outer) := by
    -- The name is not too long for a key, and ends in its line.
    have near : ¬ cursor.index + 1024 < cursor.index + word.length := by omega
    simp [expireKeys, behindName, isPast, placed, Cursor.advance, near]
  refine runs_of_token (skipGaps_of_isInk first (isInk_of_isWordChar own) (ne_of_isWordChar own rfl) _) rfl
    (closeBlocks_of_opens opens) first name ?_ ?_
  · rw [after, placed, first]
    simp only [List.length_cons, List.length_append]
    omega
  refine runs_of_token (skipGaps_of_isInk after rfl (by decide) _) kept
    (closeBlocks_of_opens (s := behindName cursor word tokens indent outer) opens) after
    (token_colon word rfl opens isWord.1) ?_ runs
  have value : (cursor.advance (word ++ [':']).length).rest = ' ' :: rest :=
    Cursor.rest_advance _ (by simpa using behind)
  rw [List.length_append, List.length_singleton] at value
  simp [after, placed, value]

end Lines

section Values

variable {cursor : Cursor} {tokens result : List Token}

/-- A value between the colon of a member and the end of its line is read as tokens. -/
def Scans (spelled : List Char) (new : List Token) : Prop :=
  ∀ (cursor : Cursor) (tokens result : List Token) (rest : List Char), cursor.rest = ' ' :: (spelled ++ '\n' :: rest) →
    (∀ c ∈ rest.head?, isWordChar c = true) →
    (∀ next : Cursor, next.rest = rest → next.column = 0 →
      (placed next (new.reverse ++ tokens) 0 [-1] true).Runs result) →
    (placed cursor tokens 0 [-1] false).Runs result

/-- The places inside of the mapping are where no block ends. -/
theorem opens_mapping : Opens 0 [-1] :=
  .inr ⟨rfl, rfl⟩

/-- The token of a value is read behind the blank in front of it. -/
theorem runs_value {t : Scan} {c : Char} {rest : List Char} (behind : cursor.rest = ' ' :: c :: rest)
    (ink : isInk c = true) (noComment : c ≠ '#')
    (token : (placed (cursor.advance 1) tokens 0 [-1] false).token c rest = some t)
    (shorter : t.cursor.rest.length ≤ rest.length) (runs : t.Runs result) :
    (placed cursor tokens 0 [-1] false).Runs result := by
  -- The blank is skipped, no key can be missed, and no block ends within the line.
  have after : (cursor.advance 1).rest = c :: rest := Cursor.rest_advance [' '] behind
  have skipped : (placed cursor tokens 0 [-1] false).skipGaps (cursor.rest.length + 1) =
      placed (cursor.advance 1) tokens 0 [-1] false :=
    skipGaps_blank (s := placed cursor tokens 0 [-1] false) behind ink noComment _
  refine runs_of_token skipped rfl (closeBlocks_of_opens opens_mapping) after token ?_ runs
  rw [placed, behind]
  simp only [List.length_cons]
  omega

/-- A word is read as a scalar. -/
theorem scans_word {word : List Char} (isWord : IsWord word) : Scans word [.scalar .plain word] := by
  intro cursor tokens result rest behind next runs
  obtain ⟨c, more, spelled⟩ := List.exists_cons_of_ne_nil isWord.1
  have own := isWord.2 c (spelled ▸ List.mem_cons_self)
  have after : (cursor.advance 1).rest = word ++ '\n' :: rest := Cursor.rest_advance [' '] behind
  -- The scalar might go on in the next line, and so the end of its own one is read with it.
  have read := plainScalar?_newline isWord 0 after next
  rw [Nat.zero_add] at read
  rw [spelled, List.cons_append] at behind after
  refine runs_value behind (isInk_of_isWordChar own) (ne_of_isWordChar own rfl) (t := placed
    { rest, index := (cursor.advance 1).index + word.length + 1, line := (cursor.advance 1).line + 1, column := 0 }
    (.scalar .plain word :: tokens) 0 [-1] true) ?_ ?_ (runs _ rfl rfl)
  · rw [token_of_isWordChar after own]
    simp [plain, markKey, placed, inFlow, read, push]
  · simp only [placed, List.length_append, List.length_cons]
    omega

/-- A quotation mark opens a text between quotation marks. -/
theorem token_quote {s : Scan} {rest : List Char} (start : s.cursor.rest = '"' :: rest) :
    s.token '"' rest = s.quoted '"' .doubleQuoted := by
  simp [token, Cursor.atMark, start, Text.stripPrefix?]

/-- The token of a text between quotes. -/
def textToken (text : String) : Token :=
  .scalar .doubleQuoted text.toList

/-- A text is read as a scalar. -/
theorem scans_text (text : String) : Scans (portableText text).toList [textToken text] := by
  intro cursor tokens result rest behind next runs
  have after : (cursor.advance 1).rest = (portableText text).toList ++ '\n' :: rest :=
    Cursor.rest_advance [' '] behind
  have read := quotedScalar?_portableText text after
  have ended := Cursor.rest_advance _ after
  rw [toList_portableText, List.cons_append] at behind after
  -- Behind the text the line ends, and the next one is read on.
  refine runs_value behind rfl (by decide) (t := placed ((cursor.advance 1).advance (portableText text).toList.length)
    (textToken text :: tokens) 0 [-1] false) ?_ ?_ (runs_newline ended rfl (runs _ rfl rfl))
  · rw [token_quote after]
    simp [quoted, part, markKey, placed, read, push, textToken]
  · simp only [placed, ended, List.length_append, List.length_cons]
    omega

/-- A place between the brackets of a sequence that is the value of a member. -/
def inBrackets (cursor : Cursor) (tokens : List Token) (key : Option KeyPlace) (keyAllowed : Bool) : Scan :=
  { placed cursor tokens 0 [-1] keyAllowed with keys := [key, none] }

/-- Between brackets no key is missed. -/
theorem expireKeys_inBrackets (cursor : Cursor) (tokens : List Token) {key : Option KeyPlace}
    (loose : ∀ place ∈ key, place.required = false) (keyAllowed : Bool) :
    ∃ kept : Option KeyPlace, (∀ place ∈ kept, place.required = false) ∧
      (inBrackets cursor tokens key keyAllowed).expireKeys = some (inBrackets cursor tokens kept keyAllowed) := by
  -- A key that could have been there is forgotten once it is too far back, which is no error as none is required.
  cases key with
  | none => exact ⟨none, nofun, rfl⟩
  | some place =>
    have optional := loose place rfl
    by_cases past : (inBrackets cursor tokens (some place) keyAllowed).isPast place = true
    · refine ⟨none, nofun, ?_⟩
      simp [expireKeys, inBrackets] at past ⊢
      simp [past, optional]
    · refine ⟨some place, loose, ?_⟩
      simp [expireKeys, inBrackets] at past ⊢
      simp [past]

/-- What was taken for a key between brackets may turn out to be none. -/
theorem dropKey_inBrackets {key : Option KeyPlace} (loose : ∀ place ∈ key, place.required = false)
    (keyAllowed : Bool) :
    (inBrackets cursor tokens key keyAllowed).dropKey = some (inBrackets cursor tokens none keyAllowed) := by
  -- No key is required between brackets.
  cases key with
  | none => rfl
  | some place => simp [dropKey, inBrackets, loose place rfl]

/-- The place of a text that may turn out to be a key. -/
def looseKey (cursor : Cursor) (tokens : List Token) : KeyPlace :=
  { tokens := tokens.length, required := false, index := cursor.index, line := cursor.line, column := cursor.column }

/-- An item is read, in front of which a blank may stand. -/
theorem runs_item {gap : List Char} (gaps : gap = [] ∨ gap = [' ']) (text : String) {rest : List Char}
    (behind : cursor.rest = gap ++ ((portableText text).toList ++ rest))
    (runs : ∀ (after : Cursor) (key : Option KeyPlace), after.rest = rest → (∀ place ∈ key, place.required = false) →
      (inBrackets after (textToken text :: tokens) key false).Runs result) :
    (inBrackets cursor tokens none true).Runs result := by
  have after : (cursor.advance gap.length).rest = (portableText text).toList ++ rest :=
    Cursor.rest_advance _ behind
  have read := quotedScalar?_portableText text after
  have ended := Cursor.rest_advance _ after
  rw [toList_portableText, List.cons_append] at behind after
  have skipped : (inBrackets cursor tokens none true).skipGaps (cursor.rest.length + 1) =
      inBrackets (cursor.advance gap.length) tokens none true := by
    rcases gaps with rfl | rfl
    · rw [List.length_nil, Cursor.advance_zero]
      exact skipGaps_of_isInk (s := inBrackets cursor tokens none true) behind rfl (by decide) _
    · exact skipGaps_blank (s := inBrackets cursor tokens none true) behind rfl (by decide) _
  -- What is read is kept as a place where a key could have been, though none is required.
  have token : (inBrackets (cursor.advance gap.length) tokens none true).token '"'
      (text.toList.flatMap portableChar ++ ['"'] ++ rest) =
      some (inBrackets ((cursor.advance gap.length).advance (portableText text).toList.length)
        (textToken text :: tokens) (some (looseKey (cursor.advance gap.length) tokens)) false) := by
    rw [token_quote after]
    simp [quoted, part, markKey, dropKey, inFlow, inBrackets, placed, read, push, textToken, looseKey]
  have loose : ∀ place ∈ some (looseKey (cursor.advance gap.length) tokens), place.required = false := by
    simp [looseKey]
  refine runs_of_token skipped rfl (closeBlocks_of_opens opens_mapping) after token ?_ (runs _ _ ended loose)
  rw [inBrackets, inBrackets, placed, placed, ended, behind]
  simp only [List.length_append, List.length_cons]
  omega

/-- A comma is read. -/
theorem runs_comma {key : Option KeyPlace} (loose : ∀ place ∈ key, place.required = false) {rest : List Char}
    (behind : cursor.rest = ',' :: rest)
    (runs : ∀ after : Cursor, after.rest = rest → (inBrackets after (.flowEntry :: tokens) none true).Runs result) :
    (inBrackets cursor tokens key false).Runs result := by
  obtain ⟨kept, keptLoose, keys⟩ := expireKeys_inBrackets cursor tokens loose false
  have token : (inBrackets cursor tokens kept false).token ',' rest =
      some (inBrackets (cursor.advance 1) (.flowEntry :: tokens) none true) := by
    have entry : (inBrackets cursor tokens kept false).token ',' rest =
        (inBrackets cursor tokens kept false).flowEntry := by
      simp [token, Cursor.atMark, inBrackets, placed, behind, Text.stripPrefix?]
    rw [entry, flowEntry, dropKey_inBrackets keptLoose]
    rfl
  have after : (cursor.advance 1).rest = rest := Cursor.rest_advance [','] behind
  -- The place of a key is forgotten at the comma, behind which the next item starts.
  refine runs_of_token (skipGaps_of_isInk (s := inBrackets cursor tokens key false) behind rfl (by decide) _) keys
    (closeBlocks_of_opens opens_mapping) behind token ?_ (runs _ after)
  simp [inBrackets, placed, after, behind]

/-- The closing bracket is read. -/
theorem runs_closing {key : Option KeyPlace} (loose : ∀ place ∈ key, place.required = false) {keyAllowed : Bool}
    {rest : List Char} (behind : cursor.rest = ']' :: rest)
    (runs : ∀ after : Cursor, after.rest = rest →
      (placed after (.flowSequenceEnd :: tokens) 0 [-1] false).Runs result) :
    (inBrackets cursor tokens key keyAllowed).Runs result := by
  obtain ⟨kept, keptLoose, keys⟩ := expireKeys_inBrackets cursor tokens loose keyAllowed
  have token : (inBrackets cursor tokens kept keyAllowed).token ']' rest =
      some (placed (cursor.advance 1) (.flowSequenceEnd :: tokens) 0 [-1] false) := by
    have closing : (inBrackets cursor tokens kept keyAllowed).token ']' rest =
        (inBrackets cursor tokens kept keyAllowed).closeFlow .flowSequenceEnd := by
      simp [token, Cursor.atMark, inBrackets, placed, behind, Text.stripPrefix?]
    rw [closing, closeFlow, dropKey_inBrackets keptLoose]
    rfl
  have after : (cursor.advance 1).rest = rest := Cursor.rest_advance [']'] behind
  -- The place of a key is forgotten at the bracket, and the flow is left.
  refine runs_of_token (skipGaps_of_isInk (s := inBrackets cursor tokens key keyAllowed) behind rfl (by decide) _) keys
    (closeBlocks_of_opens opens_mapping) behind token ?_ (runs _ after)
  simp [inBrackets, placed, after, behind]

/-- The tokens of texts with commas between them. -/
def itemTokens : List String → List Token
  | [] => []
  | text :: rest => textToken text :: rest.flatMap fun next => [.flowEntry, textToken next]

/-- The items of a sequence are read up to the closing bracket. -/
theorem runs_items {texts : List String} (some : texts ≠ []) {gap : List Char} (gaps : gap = [] ∨ gap = [' '])
    {rest : List Char} (behind : cursor.rest =
      gap ++ ([',', ' '].intercalate (texts.map fun text => (portableText text).toList) ++ ']' :: rest))
    (runs : ∀ after : Cursor, after.rest = rest →
      (placed after (.flowSequenceEnd :: ((itemTokens texts).reverse ++ tokens)) 0 [-1] false).Runs result) :
    (inBrackets cursor tokens none true).Runs result := by
  induction texts generalizing cursor tokens gap with
  | nil => exact absurd rfl some
  | cons text texts ih =>
    -- The last text ends at the bracket, and every other one at a comma with a blank behind it.
    cases texts with
    | nil =>
      rw [List.map_cons, List.map_nil, List.intercalate_singleton] at behind
      exact runs_item gaps text behind fun after key isBehind loose => runs_closing loose isBehind runs
    | cons next texts =>
      simp only [List.map_cons, List.intercalate_cons_cons, List.append_assoc, List.cons_append,
        List.nil_append] at behind
      refine runs_item gaps text behind fun after key isBehind loose =>
        runs_comma loose isBehind fun further isFurther => ?_
      refine ih (by simp) (.inr rfl) isFurther fun last isLast => ?_
      have moved := runs last isLast
      simpa [itemTokens] using moved

/-- A sequence of texts between brackets is read. -/
theorem scans_texts (texts : List String) : Scans (portableValue (.array (texts.map .text))).toList
    (.flowSequenceStart :: (itemTokens texts ++ [.flowSequenceEnd])) := by
  intro cursor tokens result rest behind next runs
  rw [toList_portableValue_texts, List.cons_append, List.append_assoc, List.singleton_append] at behind
  generalize inside : [',', ' '].intercalate (texts.map fun text => (portableText text).toList) ++
    ']' :: '\n' :: rest = between at behind
  have after : (cursor.advance 1).rest = '[' :: between := Cursor.rest_advance [' '] behind
  have opened : ((cursor.advance 1).advance 1).rest = between := Cursor.rest_advance ['['] after
  refine runs_value behind rfl (by decide)
    (t := inBrackets ((cursor.advance 1).advance 1) (.flowSequenceStart :: tokens) none true) ?_ ?_ ?_
  · have opening : (placed (cursor.advance 1) tokens 0 [-1] false).token '[' between =
        (placed (cursor.advance 1) tokens 0 [-1] false).openFlow .flowSequenceStart := by
      simp [token, Cursor.atMark, placed, after, Text.stripPrefix?]
    rw [opening]
    rfl
  · exact Nat.le_of_eq (congrArg List.length opened)
  -- Behind the closing bracket the line ends, and the next one is read on.
  · have last (closed : Cursor) (isBehind : closed.rest = '\n' :: rest) :
        (placed closed (.flowSequenceEnd :: ((itemTokens texts).reverse ++ .flowSequenceStart :: tokens)) 0 [-1]
          false).Runs result := by
      refine runs_newline (s := placed closed _ 0 [-1] false) isBehind rfl ?_
      have moved := runs { rest, index := closed.index + 1, line := closed.line + 1, column := 0 } rfl rfl
      have same : (Token.flowSequenceStart :: (itemTokens texts ++ [.flowSequenceEnd])).reverse ++ tokens =
          .flowSequenceEnd :: ((itemTokens texts).reverse ++ .flowSequenceStart :: tokens) := by simp
      rw [same] at moved
      exact moved
    rw [← inside] at opened
    cases texts with
    | nil =>
      have loose : ∀ place ∈ (none : Option KeyPlace), place.required = false := by simp
      exact runs_closing loose opened last
    | cons text texts => exact runs_items (by simp) (.inl rfl) opened last

end Values

section Listing

variable {cursor : Cursor} {tokens : List Token} {members : List (String × Json)}

/-- The tokens of the value of an option. -/
def valueTokens : Json → List Token
  | .text text => [textToken text]
  | .array items => .flowSequenceStart :: (itemTokens (itemTexts items) ++ [.flowSequenceEnd])
  | other => [.scalar .plain other.render.toList]

/-- The tokens of a member of the mapping. -/
def memberTokens (entry : String × Json) : List Token :=
  .key :: .scalar .plain entry.1.toList :: .value :: valueTokens entry.2

/-- What can stand in a line: a name that is a word, and a value that is read. -/
def IsLine (entry : String × Json) : Prop :=
  IsWord entry.1.toList ∧ entry.1.toList.length ≤ 1024 ∧ Scans (portableValue entry.2).toList (valueTokens entry.2)

/-- A listing has a line for each member, the name in front of a colon and the value behind it. -/
theorem toList_lines (members : List (String × Json)) :
    (listing ": " members).toList =
      members.flatMap fun entry => entry.1.toList ++ ':' :: ' ' :: ((portableValue entry.2).toList ++ ['\n']) := by
  simp [listing, List.flatMap_map]

/-- A line starts with a word. -/
theorem isWordChar_head (lines : ∀ entry ∈ members, IsLine entry) :
    ∀ c ∈ (listing ": " members).toList.head?, isWordChar c = true := by
  -- The first line starts with the name of its member, which is a word.
  rw [toList_lines]
  cases members with
  | nil => nofun
  | cons entry rest =>
    obtain ⟨isWord, -⟩ := lines entry List.mem_cons_self
    obtain ⟨c, more, spelled⟩ := List.exists_cons_of_ne_nil isWord.1
    intro d head
    rw [List.flatMap_cons, spelled, List.cons_append, List.cons_append, List.head?_cons] at head
    obtain rfl := Option.some.inj head
    exact isWord.2 _ (spelled ▸ List.mem_cons_self)

/-- A line is read, from its name on. -/
theorem runs_line {indent : Int} {outer : List Int} {result : List Token} {entry : String × Json}
    (line : IsLine entry) {rest : List Char}
    (behind : cursor.rest = entry.1.toList ++ ':' :: ' ' :: ((portableValue entry.2).toList ++ '\n' :: rest))
    (start : cursor.column = 0) (opens : Opens indent outer) (next : ∀ c ∈ rest.head?, isWordChar c = true)
    (runs : ∀ last : Cursor, last.rest = rest → last.column = 0 →
      (placed last ((valueTokens entry.2).reverse ++ withKey entry.1.toList indent tokens) 0 [-1] true).Runs result) :
    (placed cursor tokens indent outer true).Runs result := by
  -- The name opens the line, and its value ends it.
  obtain ⟨isWord, short, scans⟩ := line
  refine runs_name isWord short behind start opens (scans _ _ _ rest ?_ next runs)
  have value : (cursor.advance (entry.1.toList ++ [':']).length).rest =
      ' ' :: ((portableValue entry.2).toList ++ '\n' :: rest) := Cursor.rest_advance _ (by simpa using behind)
  rwa [List.length_append, List.length_singleton] at value

/-- At the end of the text the mapping ends. -/
theorem runs_end (behind : cursor.rest = []) :
    (placed cursor tokens 0 [-1] true).Runs (tokens.reverse ++ [.blockEnd]) := by
  intro fuel enough
  obtain ⟨fuel, rfl⟩ : ∃ more, fuel = more + 1 := Nat.exists_eq_succ_of_ne_zero (by omega)
  have stays : (placed cursor tokens 0 [-1] true).skipGaps ((placed cursor tokens 0 [-1] true).cursor.rest.length + 1) =
      placed cursor tokens 0 [-1] true := by
    simp [skipGaps, placed, behind, Cursor.skipWhile, Cursor.advance_zero, Cursor.skipComment, Cursor.nextLine?]
  have kept : (placed cursor tokens 0 [-1] true).expireKeys = some (placed cursor tokens 0 [-1] true) := rfl
  -- The one mapping that is open is closed, and nothing is left.
  have ended : (placed cursor tokens 0 [-1] true).outside =
      some (placed cursor (.blockEnd :: tokens) (-1) [] false) := rfl
  have last : (placed cursor tokens 0 [-1] true).cursor.rest = [] := behind
  rw [run, stays, kept]
  simp only [Option.bind_eq_bind, Option.bind_some,
    closeBlocks_of_opens (s := placed cursor tokens 0 [-1] true) opens_mapping, last, ended]
  simp [placed]

/-- Lines are read one after the other. -/
theorem runs_lines (lines : ∀ entry ∈ members, IsLine entry) (behind : cursor.rest = (listing ": " members).toList)
    (start : cursor.column = 0) :
    (placed cursor tokens 0 [-1] true).Runs (tokens.reverse ++ members.flatMap memberTokens ++ [.blockEnd]) := by
  induction members generalizing cursor tokens with
  | nil =>
    rw [List.flatMap_nil, List.append_nil]
    exact runs_end behind
  | cons entry rest ih =>
    obtain ⟨own, others⟩ := List.forall_mem_cons.1 lines
    have line : cursor.rest =
        entry.1.toList ++ ':' :: ' ' :: ((portableValue entry.2).toList ++ '\n' :: (listing ": " rest).toList) := by
      rw [behind, toList_lines, toList_lines, List.flatMap_cons]
      simp
    -- The tokens of the first line go over to those that have been read.
    have moved : tokens.reverse ++ (entry :: rest).flatMap memberTokens ++ [.blockEnd] =
        ((valueTokens entry.2).reverse ++ withKey entry.1.toList 0 tokens).reverse ++ rest.flatMap memberTokens ++
          [.blockEnd] := by
      simp [withKey, memberTokens]
    rw [moved]
    exact runs_line own line start opens_mapping (isWordChar_head others) fun _ isBehind begins =>
      ih others isBehind begins

end Listing

end Scan

/-- A text that does not start with a mark is read from its first character on. -/
theorem tokens?_eq {content : String} (unmarked : content.toList.head? ≠ some byteOrderMark) :
    tokens? content =
      if content.toList.all isAllowed then Scan.run (content.toList.length + 1) { cursor := { rest := content.toList } }
      else none := by
  -- Only a mark at the front would be passed over.
  rw [tokens?]
  cases characters : content.toList with
  | nil => rfl
  | cons c rest =>
    rw [characters] at unmarked
    simp only [if_neg (show c ≠ byteOrderMark by simpa using unmarked)]

/-- A listing is read as a mapping. -/
theorem tokens?_listing {members : List (String × Json)} (some : members ≠ [])
    (lines : ∀ entry ∈ members, Scan.IsLine entry) (allowed : ∀ c ∈ (listing ": " members).toList, isAllowed c = true) :
    tokens? (listing ": " members) =
      .some (.blockMappingStart :: (members.flatMap Scan.memberTokens ++ [.blockEnd])) := by
  have word := Scan.isWordChar_head lines
  rw [tokens?_eq fun marked => absurd (word _ marked) (by decide), if_pos (List.all_eq_true.2 allowed)]
  obtain ⟨entry, rest, rfl⟩ := List.exists_cons_of_ne_nil some
  obtain ⟨own, others⟩ := List.forall_mem_cons.1 lines
  -- Before the first line no mapping is open yet, and its name opens one.
  have start : Scan.Opens (-1) [] := .inl ⟨rfl, rfl⟩
  have line : (listing ": " (entry :: rest)).toList =
      entry.1.toList ++ ':' :: ' ' :: ((portableValue entry.2).toList ++ '\n' :: (listing ": " rest).toList) := by
    simp [Scan.toList_lines]
  have moved : .blockMappingStart :: ((entry :: rest).flatMap Scan.memberTokens ++ [.blockEnd]) =
      ((Scan.valueTokens entry.2).reverse ++ Scan.withKey entry.1.toList (-1) []).reverse ++
        rest.flatMap Scan.memberTokens ++ [.blockEnd] := by
    simp [Scan.withKey, Scan.memberTokens]
  have runs : (Scan.placed { rest := (listing ": " (entry :: rest)).toList } [] (-1) [] true).Runs _ :=
    Scan.runs_line own line rfl start (Scan.isWordChar_head others) fun _ isBehind begins =>
      Scan.runs_lines others isBehind begins
  rw [moved]
  exact runs _ (Nat.lt_succ_self _)

end Phrasebook.Yaml
