import Phrasebook.Proofs.Json.Written
import Phrasebook.Proofs.Settings.Lawful

/-! Values by name that are written as JSON text are read back. -/

namespace Phrasebook.Settings

open Json

/-- The value of an option is read where it stands. -/
theorem jsonReads_plain {value : Json} (plain : IsPlain value) :
    Reads (depthLimit - 1) (value.renderLines 1).toList value := by
  -- By the kinds of values, each of which is read back.
  cases plain with
  | nothing => exact reads_null _
  | text text => exact reads_text _ text
  | texts texts => exact reads_array _ _ (List.forall_mem_map.2 fun text _ => reads_text _ text)
  | count positive small =>
    rw [renderLines, Number.toList_render]
    exact reads_whole _ positive (Nat.lt_trans small (by decide))
  | flag flag => exact reads_bool _ flag

/-- One member of an object is read, up to what stands behind it. -/
theorem optionMembers?_member {name : String} {value : Json} (known : optionName name ∈ optionNames)
    (own : Reads (depthLimit - 1) (value.renderLines 1).toList value) (fuel : Nat) (held : List (String × Json))
    {s tail : List Char} (behind : skipGap s = (renderText name ++ ": " ++ value.renderLines 1).toList ++ tail)
    (ends : ∀ c ∈ tail.head?, c = ',' ∨ c = '\n') {mark : Char} {rest : List Char}
    (next : skipGap tail = mark :: rest) :
    optionMembers? (fuel + 1) held s =
      if mark = ',' then optionMembers? fuel ((name, value) :: held) rest
      else if mark = '\x7d' then some (((name, value) :: held).reverse, rest)
      else none := by
  have quoted : skipGap s = '"' :: (name.toList.flatMap escapeChar ++
      '"' :: ':' :: ([' '] ++ ((value.renderLines 1).toList ++ tail))) := by
    simp [behind, toList_renderText]
  have spaced : ∀ c ∈ [' '], isGap c = true := by simp [isGap]
  rw [optionMembers?]
  simp only [quoted, string?_escaped, skipGap_of_visible (show isGap ':' = false from rfl), known, if_true,
    value?_gap _ spaced, own _ ends, next, Option.bind_eq_bind, Option.bind_some, Option.map_some]
  -- The mark behind the value decides how it goes on.
  by_cases comma : mark = ','
  · subst comma
    simp
  by_cases brace : mark = '\x7d'
  · subst brace
    simp
  · simp [comma, brace]

/-- The members of an object are read line by line if their values are. Each has the name of an option. -/
theorem optionMembers?_lines {members : List (String × Json)} (some : members ≠ [])
    (known : ∀ name ∈ members.map Prod.fst, optionName name ∈ optionNames)
    (each : ∀ entry ∈ members, Reads (depthLimit - 1) (entry.2.renderLines 1).toList entry.2) (fuel : Nat)
    (held : List (String × Json)) {s tail : List Char}
    (behind : skipGap s = skipGap (bracketedLines 0 (renderMemberLines 1 members) ++ '\n' :: '\x7d' :: tail))
    (enough : (skipGap s).length < fuel) :
    optionMembers? fuel held s = .some (held.reverse ++ members, tail) := by
  induction members generalizing fuel held s with
  | nil => exact absurd rfl some
  | cons entry rest ih =>
    obtain ⟨name, value⟩ := entry
    obtain ⟨own, others⟩ := List.forall_mem_cons.1 each
    obtain ⟨isKnown, othersKnown⟩ := List.forall_mem_cons.1 known
    obtain ⟨fuel, rfl⟩ : ∃ more, fuel = more + 1 := Nat.exists_eq_succ_of_ne_zero (by omega)
    have quote (more : List Char) : skipGap ((renderText name ++ ": " ++ value.renderLines 1).toList ++ more) =
        (renderText name ++ ": " ++ value.renderLines 1).toList ++ more := by
      simp [toList_renderText, skipGap_of_visible, isGap]
    -- Behind the last member stands the closing brace, and behind every other one a comma.
    cases rest with
    | nil =>
      rw [renderMemberLines, renderMemberLines, bracketedLines_singleton, List.cons_append, List.append_assoc,
        skipGap_margin, quote] at behind
      have closing : skipGap ('\n' :: '\x7d' :: tail) = '\x7d' :: tail := by simp [skipGap, isGap]
      rw [optionMembers?_member isKnown own fuel held behind (by simp) closing]
      simp
    | cons next rest =>
      obtain ⟨nextName, nextValue⟩ := next
      rw [renderMemberLines, renderMemberLines, bracketedLines_cons, List.cons_append, List.append_assoc,
        skipGap_margin, List.append_assoc, quote] at behind
      rw [optionMembers?_member isKnown own fuel held behind (by simp) (skipGap_of_visible rfl _), if_pos rfl]
      rw [← renderMemberLines] at behind ⊢
      have shorter := List.Sublist.length_le (List.dropWhile_sublist isGap
        (l := bracketedLines 0 (renderMemberLines 1 ((nextName, nextValue) :: rest)) ++ '\n' :: '\x7d' :: tail))
      have inner := ih (by simp) othersKnown others fuel ((name, value) :: held) rfl (by
        rw [behind] at enough
        simp only [List.length_append, List.length_cons] at enough shorter
        simp only [skipGap]
        omega)
      simpa [skipGap_of_visible, isGap] using inner

/-- The first member of an object starts with a quote. -/
theorem skipGap_memberLines {members : List (String × Json)} (some : members ≠ []) (tail : List Char) :
    ∃ more, skipGap (bracketedLines 0 (renderMemberLines 1 members) ++ tail) = '"' :: more := by
  -- Behind the new line and its margin stands the name of the first member.
  obtain ⟨⟨name, value⟩, rest, rfl⟩ := List.exists_cons_of_ne_nil some
  cases rest with
  | nil =>
    simp [renderMemberLines, bracketedLines_singleton, toList_renderText, skipGap, isGap]
  | cons next rest =>
    simp [renderMemberLines, bracketedLines_cons, toList_renderText, skipGap, isGap]

/-- An object with members is written in lines between two braces. -/
theorem toList_renderLines {members : List (String × Json)} (some : members ≠ []) :
    ((Json.object members).renderLines 0).toList =
      '\x7b' :: (bracketedLines 0 (renderMemberLines 1 members) ++ ['\n', '\x7d']) := by
  -- There are members, so that the braces do not stand on one line.
  obtain ⟨⟨name, value⟩, rest, rfl⟩ := List.exists_cons_of_ne_nil some
  rw [renderLines, toList_bracketed _ _ _ (by simp [renderMemberLines])]
  simp

/-- The contents of a text are read if it is an object with members. -/
theorem jsonContents?_eq {content : String} {s more : List Char} {members : List (String × Json)}
    (opened : content.toList = '\x7b' :: s) (first : skipGap s = '"' :: more)
    (read : optionMembers? (('"' :: more).length + 1) [] ('"' :: more) = some (members, [])) :
    jsonContents? content = some (.members members) := by
  -- Nothing may stand behind the object.
  have ended : skipGap [] = [] := rfl
  rw [List.length_cons] at read
  rw [jsonContents?, opened, skipGap_of_visible rfl]
  simp [first, read, ended]

/-- Options that are written as an object are read back. -/
theorem jsonContents?_renderLines {members : List (String × Json)} (options : AreOptions members) :
    jsonContents? ((Json.object members).renderLines 0) = some (.members members) := by
  have opened := toList_renderLines options.some
  have own : ∀ name ∈ optionNames, optionName name ∈ optionNames := by decide
  generalize behind : bracketedLines 0 (renderMemberLines 1 members) ++ ['\n', '\x7d'] = s at opened
  obtain ⟨more, first⟩ : ∃ more, skipGap s = '"' :: more := by
    rw [← behind]
    exact skipGap_memberLines options.some _
  -- What is in front of the first quote is passed over.
  have read : optionMembers? ((skipGap s).length + 1) [] (skipGap s) = some (members, []) := by
    refine optionMembers?_lines options.some (fun name member => own name (options.known name member))
      (fun entry member => jsonReads_plain (options.plain entry member)) _ [] ?_ ?_
    · rw [behind, skipGap_skipGap]
    · rw [skipGap_skipGap]
      exact Nat.lt_succ_self _
  rw [first] at read
  exact jsonContents?_eq opened first read

/-- JSON keeps every value, nothing as well. -/
theorem jsonCodec_lawful : jsonCodec.Lawful .json where
  reads members content options written := by
    cases written
    refine ⟨members, jsonContents?_renderLines options, List.forall₂_same.2 fun entry member => ⟨rfl, ?_⟩⟩
    exact jsonSource_returns (options.plain entry member)

end Phrasebook.Settings
