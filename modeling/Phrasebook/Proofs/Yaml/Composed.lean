import Phrasebook.Proofs.Yaml.Scanned
import Phrasebook.Yaml.Document

/-! The tokens of a listing are put together to a mapping. -/

namespace Phrasebook.Yaml

namespace Parser

variable {α β : Type}

/-- One parser after another goes on with what the first has left. -/
@[simp] theorem bind_apply (parser : Parser α) (next : α → Parser β) (s : Parse) :
    (parser >>= next) s = (parser s).bind fun made => next made.1 made.2 :=
  rfl

/-- A parser whose result is changed leaves what it has left. -/
@[simp] theorem map_apply (f : α → β) (parser : Parser α) (s : Parse) :
    (f <$> parser) s = (parser s).map fun made => (f made.1, made.2) := by
  change (parser s).bind _ = _
  cases parser s <;> rfl

/-- A parser that only answers reads nothing. -/
@[simp] theorem pure_apply (x : α) (s : Parse) : (pure x : Parser α) s = some (x, s) :=
  rfl

/-- A look ahead shows the next token and reads nothing. -/
@[simp] theorem peek_apply (s : Parse) : peek s = some (s.tokens.head?, s) :=
  rfl

/-- Passing over a token leaves the others. -/
@[simp] theorem drop_apply (s : Parse) : drop s = some ((), { s with tokens := s.tokens.drop 1 }) :=
  rfl

/-- Whether one of some tokens is next is seen without reading. -/
@[simp] theorem sees_apply (tokens : List Token) (s : Parse) :
    sees tokens s = some (s.tokens.head?.any fun token => tokens.contains token, s) :=
  rfl

/-- A node without an anchor is read as it is. -/
@[simp] theorem anchored_none (read : Parser Node) : anchored none read = read :=
  rfl

/-- A step takes tokens from the front and makes something of them, and changes nothing else. -/
def Makes (parser : Parser α) (tokens : List Token) (made : α) (rest : List Token) : Prop :=
  ∀ handles anchors, parser { tokens, handles, anchors } = some (made, { tokens := rest, handles, anchors })

variable {fuel : Nat} {head : Token} {tokens middle rest : List Token} {inBlock inMapping : Bool}

/-- An answer is made of no token. -/
theorem makes_pure (made : α) : (pure made : Parser α).Makes tokens made tokens :=
  fun _ _ => rfl

/-- What one step makes is handed on to the next. -/
theorem Makes.bind {parser : Parser α} {next : α → Parser β} {first : α} {made : β}
    (makes : parser.Makes tokens first middle) (onward : (next first).Makes middle made rest) :
    (parser >>= next).Makes tokens made rest := by
  intro handles anchors
  rw [bind_apply, makes handles anchors, Option.bind_some, onward handles anchors]

/-- A token that is next is taken. -/
theorem makes_take (token : Token) : (take token).Makes (token :: rest) true rest := by
  intro handles anchors
  simp [take]

/-- A token that is not next is left. -/
theorem makes_take_of_ne {token : Token} (apart : head ≠ token) :
    (take token).Makes (head :: rest) false (head :: rest) := by
  intro handles anchors
  simp [take, apart]

/-- A token that must be next is read when it is. -/
theorem makes_expect (token : Token) : (expect token).Makes (token :: rest) () rest :=
  (makes_take token).bind (makes_pure ())

/-- A look ahead leaves the token that it shows. -/
theorem makes_peek : peek.Makes (head :: rest) (some head) (head :: rest) :=
  fun _ _ => rfl

/-- Neither an anchor nor a tag stands in front of other tokens. -/
theorem makes_properties (plain : ∀ name, head ≠ .anchor name)
    (untagged : ∀ handle suffix, head ≠ .tag handle suffix) :
    properties.Makes (head :: rest) (none, none) (head :: rest) := by
  intro handles anchors
  cases head <;> simp_all [properties, anchor?, tag?]

/-- A scalar is a node of one token. -/
theorem makes_scalar (style : ScalarStyle) (text : List Char) :
    (node (fuel + 1) inBlock inMapping).Makes (.scalar style text :: rest) (.scalar none style text) rest := by
  -- The next token is looked at and is no property; the scalar itself is the node.
  rw [node]
  refine .bind makes_peek (.bind (makes_properties nofun nofun) ?_)
  intro handles anchors
  simp [scalarTag]

/-- Where no stop is next, a node that may be left out is read like any other. -/
theorem makes_nodeUnless {stops : List Token} (goesOn : head ∉ stops) {made : Node}
    (makes : (node fuel inBlock inMapping).Makes (head :: tokens) made rest) :
    (nodeUnless (fuel + 1) inBlock inMapping stops).Makes (head :: tokens) made rest := by
  intro handles anchors
  simp [nodeUnless, goesOn, makes handles anchors]

/-- An opening bracket and the items behind it make a sequence. -/
theorem makes_sequence {items : List Node} (makes : (flowItems fuel true).Makes tokens items rest) :
    (node (fuel + 1) inBlock inMapping).Makes (.flowSequenceStart :: tokens) (.sequence none items) rest := by
  -- The bracket is looked at and is no property; behind it come the items.
  rw [node]
  refine .bind makes_peek (.bind (makes_properties nofun nofun) ?_)
  intro handles anchors
  simp [makes handles anchors]

/-- The opening of a mapping and the members behind it make a mapping. -/
theorem makes_mapping {members : List (Node × Node)} (makes : (blockMembers fuel).Makes tokens members rest) :
    (node (fuel + 1) true inMapping).Makes (.blockMappingStart :: tokens) (.mapping none members) rest := by
  -- The opening is looked at and is no property; behind it come the members.
  rw [node]
  refine .bind makes_peek (.bind (makes_properties nofun nofun) ?_)
  intro handles anchors
  simp [makes handles anchors]

/-- The node of a text between quotes. -/
def textNode (text : String) : Node :=
  .scalar none .doubleQuoted text.toList

/-- A closing bracket ends the items, and is read with them. -/
theorem makes_closing (isFirst : Bool) : (flowItems (fuel + 1) isFirst).Makes (.flowSequenceEnd :: rest) [] rest := by
  rw [flowItems]
  exact .bind (makes_take .flowSequenceEnd) (makes_pure [])

/-- The first item of a sequence is put together. -/
theorem makes_firstItem (text : String) {items : List Node}
    (makes : (flowItems (fuel + 1) false).Makes tokens items rest) :
    (flowItems (fuel + 2) true).Makes (Scan.textToken text :: tokens) (textNode text :: items) rest := by
  rw [flowItems]
  -- It ends neither in front of the first item nor behind a comma, and the item is no pair.
  refine .bind (makes_take_of_ne nofun) (.bind (makes_take_of_ne nofun) (.bind (makes_take_of_ne nofun) ?_))
  exact .bind (makes_scalar .doubleQuoted text.toList) (.bind makes (makes_pure _))

/-- Another item is put together behind the comma in front of it. -/
theorem makes_laterItem (text : String) {items : List Node}
    (makes : (flowItems (fuel + 1) false).Makes tokens items rest) :
    (flowItems (fuel + 2) false).Makes (.flowEntry :: Scan.textToken text :: tokens) (textNode text :: items) rest := by
  -- The comma is taken, neither a bracket nor a key follows, and the text is an item.
  rw [flowItems]
  refine .bind (makes_take_of_ne nofun) (.bind (makes_expect .flowEntry) ?_)
  refine .bind (makes_take_of_ne nofun) (.bind (makes_take_of_ne nofun) ?_)
  exact .bind (makes_scalar .doubleQuoted text.toList) (.bind makes (makes_pure _))

/-- Items are put together up to the closing bracket. -/
theorem makes_laterItems (texts : List String) (fuel : Nat) (enough : texts.length < fuel) (rest : List Token) :
    (flowItems fuel false).Makes
      ((texts.flatMap fun text => [.flowEntry, Scan.textToken text]) ++ .flowSequenceEnd :: rest)
      (texts.map textNode) rest := by
  -- An item takes two tokens, and the bound goes down by one for each of them.
  induction texts generalizing fuel with
  | nil =>
    obtain ⟨fuel, rfl⟩ := Nat.exists_eq_add_of_lt enough
    exact makes_closing false
  | cons text texts ih =>
    rw [List.length_cons] at enough
    obtain ⟨fuel, rfl⟩ : ∃ more, fuel = more + 2 := ⟨fuel - 2, by omega⟩
    exact makes_laterItem text (ih (fuel + 1) (by omega))

/-- A sequence of texts is put together. -/
theorem makes_texts (texts : List String) (fuel : Nat) (enough : texts.length + 1 < fuel) (rest : List Token) :
    (node fuel inBlock inMapping).Makes (.flowSequenceStart :: (Scan.itemTokens texts ++ .flowSequenceEnd :: rest))
      (.sequence none (texts.map textNode)) rest := by
  -- There is nothing between the brackets, or a first item and the others behind commas.
  obtain ⟨fuel, rfl⟩ : ∃ more, fuel = more + 2 := ⟨fuel - 2, by omega⟩
  refine makes_sequence ?_
  cases texts with
  | nil => exact makes_closing true
  | cons text texts =>
    rw [List.length_cons] at enough
    obtain ⟨fuel, rfl⟩ : ∃ more, fuel = more + 1 := ⟨fuel - 1, by omega⟩
    exact makes_firstItem text (makes_laterItems texts (fuel + 1) (by omega) rest)

/-- The node of the value of an option. -/
def valueNode : Json → Node
  | .text text => textNode text
  | .array items => .sequence none ((Settings.itemTexts items).map textNode)
  | other => .scalar none .plain other.render.toList

/-- Every text of a list takes a token, so that bounds on the tokens are bounds on the texts. -/
theorem length_le_itemTokens (texts : List String) : texts.length ≤ (Scan.itemTokens texts).length := by
  -- The first text has a token, and every other one a comma as well.
  cases texts with
  | nil => exact Nat.le_refl _
  | cons text rest =>
    rw [Scan.itemTokens, List.length_cons, List.length_cons]
    exact Nat.succ_le_succ (Text.length_le_flatMap (by simp) rest)

/-- The value of an option is put together. -/
theorem makes_value (value : Json) (fuel : Nat) (enough : (Scan.valueTokens value).length < fuel) (rest : List Token) :
    (node fuel inBlock inMapping).Makes (Scan.valueTokens value ++ rest) (valueNode value) rest := by
  -- Arrays are sequences; every other value is a scalar of one token.
  obtain ⟨more, rfl⟩ : ∃ more, fuel = more + 1 := Nat.exists_eq_succ_of_ne_zero (by omega)
  cases value with
  | array items =>
    have shorter := length_le_itemTokens (Settings.itemTexts items)
    simp only [Scan.valueTokens, List.length_cons, List.length_append, List.length_nil] at enough
    rw [Scan.valueTokens, List.cons_append, List.append_assoc, List.singleton_append]
    exact makes_texts _ (more + 1) (by omega) rest
  | text text => exact makes_scalar .doubleQuoted text.toList
  | null => exact makes_scalar .plain _
  | bool flag => exact makes_scalar .plain _
  | number value => exact makes_scalar .plain _
  | object members => exact makes_scalar .plain _

/-- A value starts with none of the tokens that show that nothing is written. -/
theorem exists_valueTokens (value : Json) :
    ∃ head tokens, Scan.valueTokens value = head :: tokens ∧ head ∉ [.key, .value, .blockEnd] := by
  cases value <;> simp [Scan.valueTokens, Scan.textToken]

/-- One member of a mapping is put together. -/
theorem makes_member (entry : String × Json) {members : List (Node × Node)}
    (makes : (blockMembers (fuel + 2)).Makes tokens members rest)
    (enough : (Scan.valueTokens entry.2).length < fuel + 1) :
    (blockMembers (fuel + 3)).Makes (Scan.memberTokens entry ++ tokens)
      ((.scalar none .plain entry.1.toList, valueNode entry.2) :: members) rest := by
  -- The first token of the value shows that there is one.
  obtain ⟨head, more, spelled, goesOn⟩ := exists_valueTokens entry.2
  have value : (node (fuel + 1) true true).Makes (head :: (more ++ tokens)) (valueNode entry.2) tokens := by
    rw [← List.cons_append, ← spelled]
    exact makes_value entry.2 (fuel + 1) enough tokens
  rw [Scan.memberTokens, spelled, blockMembers]
  refine .bind (makes_take .key) (.bind (makes_nodeUnless (by simp) (makes_scalar .plain entry.1.toList)) ?_)
  exact .bind (makes_take .value) (.bind (makes_nodeUnless goesOn value) (.bind makes (makes_pure _)))

/-- The members of a mapping are put together one after the other. -/
theorem makes_members (members : List (String × Json)) (fuel : Nat)
    (enough : (members.flatMap Scan.memberTokens).length < fuel) (rest : List Token) :
    (blockMembers fuel).Makes (members.flatMap Scan.memberTokens ++ .blockEnd :: rest)
      (members.map fun entry => (.scalar none .plain entry.1.toList, valueNode entry.2)) rest := by
  -- Member by member; each takes more tokens than the bound goes down.
  induction members generalizing fuel with
  | nil =>
    obtain ⟨fuel, rfl⟩ := Nat.exists_eq_add_of_lt enough
    rw [blockMembers]
    exact .bind (makes_take_of_ne nofun) (.bind (makes_expect .blockEnd) (makes_pure []))
  | cons entry members ih =>
    simp only [List.flatMap_cons, List.length_append, Scan.memberTokens, List.length_cons] at enough
    obtain ⟨fuel, rfl⟩ : ∃ more, fuel = more + 3 := ⟨fuel - 3, by omega⟩
    rw [List.flatMap_cons, List.append_assoc]
    exact makes_member entry (ih (fuel + 2) (by omega)) (by omega)

end Parser

/-- The tokens of a listing are a document that holds a mapping. -/
theorem document?_listing (members : List (String × Json)) :
    document? (.blockMappingStart :: (members.flatMap Scan.memberTokens ++ [.blockEnd])) =
      some { root := some (.mapping none (members.map fun entry =>
        (.scalar none .plain entry.1.toList, Parser.valueNode entry.2))) } := by
  -- The bound is told by the number of tokens, whatever they are.
  generalize behind : members.flatMap Scan.memberTokens ++ [.blockEnd] = tokens
  have opened : opening? (.blockMappingStart :: tokens) =
      some (standardHandles, false, .blockMappingStart :: tokens) := by
    simp [opening?, directives?]
  have members := Parser.makes_members members (4 * (tokens.length + 1) + 3)
    (by rw [← behind, List.length_append]; omega) []
  rw [behind] at members
  have made : (Parser.node (4 * (tokens.length + 1) + 4) true false).Makes _ _ [] := Parser.makes_mapping members
  have read := made standardHandles {}
  simp [document?, opened, StateT.run, read, Anchors.byNumber]

end Phrasebook.Yaml
