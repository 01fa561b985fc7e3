import Phrasebook.Proofs.Json.Written
import Phrasebook.Proofs.Settings.Lawful
import Phrasebook.Proofs.Yaml.Composed

/-! Values by name that are written as YAML text are read back. -/

namespace Phrasebook

namespace Yaml

/-- Digits are characters of words. -/
theorem isWordChar_of_digit? {c : Char} {d : Nat} (isDigit : Decimal.digit? c = some d) : isWordChar c = true := by
  -- A digit lies between zero and nine.
  unfold Decimal.digit? at isDigit
  split at isDigit
  · next within => simp [isWordChar, within]
  · cases isDigit

/-- The digits of a number are read as the number. -/
theorem unsigned64?_toDigits {n : Nat} (small : n < UInt32.size) : unsigned64? (Nat.toDigits 10 n) = some n := by
  have value : Decimal.natural? 10 (Nat.toDigits 10 n) = some n :=
    Decimal.natural?_toDigits (by decide) (by decide) n
  have fits : n < UInt64.size := Nat.lt_trans small (by decide)
  rcases Nat.eq_zero_or_pos n with rfl | positive
  · rfl
  · obtain ⟨c, more, spelled, nonzero, isDigit⟩ := Decimal.exists_toDigits_eq_cons positive
    have unsigned : c ≠ '+' := Decimal.ne_of_isSome_digit? isDigit rfl
    have unsigned' : c ≠ '-' := Decimal.ne_of_isSome_digit? isDigit rfl
    rw [spelled] at value ⊢
    -- There is neither a sign nor a zero in front.
    have unpadded : isPadded (c :: more) = false := by
      simp [isPadded, unsigned, unsigned', nonzero]
    have number : magnitude? (c :: more) = some n := by
      simp [magnitude?, nonzero, unpadded, value]
    simp [unsigned64?, unsigned, number]
    exact fits

end Yaml

namespace Settings

open Yaml

/-- An array of texts is a sequence of their nodes. -/
theorem valueNode_texts (texts : List String) :
    Parser.valueNode (.array (texts.map .text)) = .sequence none (texts.map Parser.textNode) := by
  rw [Parser.valueNode, itemTexts_map_text]

/-- The node of a text is read as the text. -/
theorem yamlText?_textNode (document : Document) (text : String) :
    yamlText? document (Parser.textNode text) = some text := by
  simp [yamlText?, yamlNode, Parser.textNode]

/-- The node of a value is read as the value. -/
theorem yamlSource_returns (document : Document) {value : Json} (plain : IsPlain value) :
    (yamlSource document).Returns (Parser.valueNode value) value := by
  -- By the kinds of values; only texts stand between quotes, so that the others are read as what they spell.
  cases plain with
  | nothing => exact .nothing rfl
  | text text =>
    refine .text (yamlText?_textNode document text) ?_ ?_
    · simp [yamlSource, yamlOptional?, yamlNode, Parser.valueNode, Parser.textNode]
    · simp [yamlSource, yamlMode?, yamlNode, Parser.valueNode, Parser.textNode, isLocalTag]
  | texts texts =>
    refine .texts ?_
    rw [valueNode_texts]
    exact Traversal.mapM_of_leftInverse (yamlText? document) (yamlText?_textNode document) texts
  | @count n positive small =>
    have digits : (Json.render (.number (.whole n))).toList = Nat.toDigits 10 n := Number.toList_render n
    refine .count ?_
    simp [yamlSource, yamlLiteral?, yamlNode, Parser.valueNode, digits, unsigned64?_toDigits small]
    exact small
  | flag flag =>
    cases flag with
    | false => exact .flag rfl
    | true => exact .flag rfl

/-- What may be written for the value of an option: it is read, and every character is allowed. -/
def IsWritten (value : Json) : Prop :=
  Scan.Scans (portableValue value).toList (Scan.valueTokens value) ∧
    ∀ c ∈ (portableValue value).toList, isAllowed c = true

/-- Ink is allowed in a document. -/
theorem isAllowed_of_isInk {c : Char} (ink : isInk c = true) : isAllowed c = true := by
  -- Ink lies between the space and the tilde.
  have bounds := isInk_iff.1 ink
  have above : ' ' ≤ c := show 0x20 ≤ c.toNat by omega
  have below : c ≤ '~' := show c.toNat ≤ 0x7e by omega
  simp [isAllowed, above, below]

/-- A written text has only characters that are allowed in a document. -/
theorem isAllowed_portableText (text : String) : ∀ c ∈ (portableText text).toList, isAllowed c = true := by
  -- Between the quotes all is ink.
  intro c member
  refine isAllowed_of_isInk ?_
  rw [toList_portableText] at member
  simp only [List.mem_cons, List.mem_append, List.mem_flatMap, List.not_mem_nil, or_false] at member
  rcases member with rfl | ⟨d, -, inside⟩ | rfl
  · rfl
  · exact isInk_portableChar d c inside
  · rfl

/-- A text is written as the language wants it. -/
theorem isWritten_text (text : String) : IsWritten (.text text) :=
  ⟨Scan.scans_text text, isAllowed_portableText text⟩

/-- So are texts. -/
theorem isWritten_texts (texts : List String) : IsWritten (.array (texts.map .text)) := by
  have tokens : Scan.valueTokens (.array (texts.map .text)) =
      .flowSequenceStart :: (Scan.itemTokens texts ++ [.flowSequenceEnd]) := by
    rw [Scan.valueTokens, itemTexts_map_text]
  refine ⟨tokens ▸ Scan.scans_texts texts, fun c member => ?_⟩
  rw [toList_portableValue_texts] at member
  simp only [List.mem_cons, List.mem_append, List.not_mem_nil, or_false] at member
  -- Brackets, commas and blanks are allowed, and so are the texts.
  rcases member with rfl | inside | rfl
  · rfl
  · rcases Text.mem_intercalate inside with between | ⟨part, isPart, within⟩
    · have marks : [',', ' '].all isAllowed = true := by decide
      exact List.all_eq_true.1 marks c between
    · obtain ⟨text, -, rfl⟩ := List.mem_map.1 isPart
      exact isAllowed_portableText text c within
  · rfl

/-- So is every value that is a word, if it is scanned as one. -/
theorem isWritten_of_isWord {value : Json} (isWord : IsWord (portableValue value).toList)
    (tokens : Scan.valueTokens value = [.scalar .plain (portableValue value).toList]) : IsWritten value := by
  -- The characters of words are ink, and ink is allowed.
  refine ⟨?_, fun c member => isAllowed_of_isInk (isInk_of_isWordChar (isWord.2 c member))⟩
  rw [tokens]
  exact Scan.scans_word isWord

/-- The value of an option may be written. -/
theorem isWritten_plain {value : Json} (plain : IsPlain value) : IsWritten value := by
  -- By the kinds of values: texts stand between quotes, and all others are words.
  cases plain with
  | nothing => exact isWritten_of_isWord (by decide) rfl
  | text text => exact isWritten_text text
  | texts texts => exact isWritten_texts texts
  | @count n positive small =>
    have digits : (portableValue (.number (.whole n))).toList = Nat.toDigits 10 n := Number.toList_render _
    refine isWritten_of_isWord (digits ▸ ⟨Nat.toDigits_ne_nil, fun c member => ?_⟩) rfl
    obtain ⟨d, isDigit⟩ := Option.isSome_iff_exists.1 (Decimal.isSome_digit?_of_mem_toDigits member)
    exact isWordChar_of_digit? isDigit
  | flag flag =>
    cases flag with
    | false => exact isWritten_of_isWord (by decide) rfl
    | true => exact isWritten_of_isWord (by decide) rfl

/-- A mapping is read by the names of its members. -/
theorem contentsOfYaml?_eq {document : Document} {members : List (String × Json)}
    (root : document.root = some (.mapping none
      (members.map fun entry => (.scalar none .plain entry.1.toList, Parser.valueNode entry.2)))) :
    contentsOfYaml? document = some (.members (members.map fun entry => (entry.1, Parser.valueNode entry.2))) := by
  -- The names of the members are scalars without a tag.
  have name (text : String) : yamlText? document (.scalar none .plain text.toList) = some text := by
    simp [yamlText?, yamlNode]
  rw [contentsOfYaml?, root]
  simp only
  rw [Traversal.mapM_map_eq_some _ fun entry => by rw [name, Option.map_some]]
  rfl

/-- Options that are written as lines are read from a document as their nodes. -/
theorem yamlContents?_listing {members : List (String × Json)} (options : AreOptions members) :
    ∃ document, yamlCodec.contents? (listing ": " members) =
      some (.members (members.map fun entry => (entry.1, document, Parser.valueNode entry.2))) := by
  have names : ∀ name ∈ optionNames, IsWord name.toList ∧ name.toList.length ≤ 1024 := by decide
  have written (entry : String × Json) (member : entry ∈ members) : IsWritten entry.2 :=
    isWritten_plain (options.plain entry member)
  -- Names of options are words, short enough to be keys.
  have lines : ∀ entry ∈ members, Scan.IsLine entry := fun entry member => by
    obtain ⟨word, short⟩ := names _ (options.known _ (List.mem_map_of_mem member))
    exact ⟨word, short, (written entry member).1⟩
  have allowed : ∀ c ∈ (listing ": " members).toList, isAllowed c = true := by
    intro c member
    rw [Scan.toList_lines] at member
    obtain ⟨entry, inside, member⟩ := List.mem_flatMap.1 member
    simp only [List.mem_append, List.mem_cons, List.not_mem_nil, or_false] at member
    rcases member with name | rfl | rfl | value | rfl
    · exact isAllowed_of_isInk (isInk_of_isWordChar ((lines entry inside).1.2 c name))
    · rfl
    · rfl
    · exact (written entry inside).2 c value
    · rfl
  have document := document?_listing members
  -- The document is only known by its root.
  generalize composed : ({ root := some (.mapping none (members.map fun entry =>
    (.scalar none .plain entry.1.toList, Parser.valueNode entry.2))) } : Document) = made at document
  refine ⟨made, ?_⟩
  have contents := @contentsOfYaml?_eq made members (by rw [← composed])
  simp [yamlCodec, tokens?_listing options.some lines allowed, document, contents, Contents.map, Function.comp_def]

/-- A node is read with its document as it is in it. -/
theorem yamlCodec_returns {document : Document} {node : Node} {value : Json}
    (returns : (yamlSource document).Returns node value) : yamlCodec.source.Returns (document, node) value := by
  -- The source of the codec is the one of the document that stands beside the node.
  cases returns with
  | nothing absent => exact .nothing absent
  | text read present mode => exact .text read present mode
  | texts read => exact .texts read
  | count read => exact .count read
  | flag read => exact .flag read

/-- YAML keeps every value, nothing as well. -/
theorem yamlCodec_lawful : yamlCodec.Lawful .yaml where
  -- All members are written, each as a line.
  reads members content options written := by
    cases written
    obtain ⟨document, contents⟩ := yamlContents?_listing options
    refine ⟨_, contents, List.forall₂_map_left_iff.2 (List.forall₂_same.2 fun entry member => ⟨rfl, ?_⟩)⟩
    exact yamlCodec_returns (yamlSource_returns document (options.plain entry member))

end Settings

end Phrasebook
