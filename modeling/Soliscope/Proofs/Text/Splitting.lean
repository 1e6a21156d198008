import Mathlib.Data.List.Basic
import Soliscope.Text.Lines

/-! # Reading joined texts back

Lists in writing are separated by a comma and a space, names and types by a colon and a space. Parts
that do not hold the first of the two characters are read back from what joins them
(`splitAtPair_intercalate`). In the same way lines are read back from a text in which each of them
ends in a newline (`lines_join`), and two texts joined by a newline have the lines of both
(`lines_append`).
-/

namespace Soliscope.Text

/-- The parts of a text between the places where the two characters stand one after the other. -/
def splitAtPair (first second : Char) : List Char → List (List Char)
  | [] => [[]]
  | [c] => [[c]]
  | c :: next :: rest =>
    if c == first && next == second then [] :: splitAtPair first second rest
    else (splitAtPair first second (next :: rest)).modifyHead (c :: ·)

variable {first second : Char}

/-- A character that does not open the pair belongs to the first part. -/
theorem splitAtPair_cons_of_ne {c : Char} (different : c ≠ first) (rest : List Char) :
    splitAtPair first second (c :: rest) =
      (splitAtPair first second rest).modifyHead (c :: ·) := by
  cases rest with
  | nil => rfl
  | cons next rest =>
      rw [splitAtPair, beq_eq_false_iff_ne.mpr different]
      rfl

/-- A text without the first character is a single part. -/
theorem splitAtPair_of_notMem {text : List Char} (missing : first ∉ text) :
    splitAtPair first second text = [text] := by
  induction text with
  | nil => rfl
  | cons c rest ih =>
      obtain ⟨different, later⟩ := List.ne_and_not_mem_of_not_mem_cons missing
      rw [splitAtPair_cons_of_ne (Ne.symm different), ih later]
      rfl

/-- A part ends where the two characters stand. -/
theorem splitAtPair_append {part : List Char} (missing : first ∉ part) (rest : List Char) :
    splitAtPair first second (part ++ first :: second :: rest) =
      part :: splitAtPair first second rest := by
  induction part with
  | nil => simp [splitAtPair]
  | cons c part ih =>
      obtain ⟨different, later⟩ := List.ne_and_not_mem_of_not_mem_cons missing
      rw [List.cons_append, splitAtPair_cons_of_ne (Ne.symm different), ih later]
      rfl

/-- **Parts that were joined are read back.** -/
theorem splitAtPair_intercalate {parts : List (List Char)} (given : parts ≠ [])
    (missing : ∀ part ∈ parts, first ∉ part) :
    splitAtPair first second ([first, second].intercalate parts) = parts := by
  induction parts with
  | nil => exact (given rfl).elim
  | cons part rest ih =>
      obtain ⟨missingPart, missingRest⟩ := List.forall_mem_cons.mp missing
      cases rest with
      | nil => rw [List.intercalate_singleton, splitAtPair_of_notMem missingPart]
      | cons next others =>
          rw [List.intercalate_cons_cons, List.append_assoc, List.cons_append, List.cons_append,
            List.nil_append, splitAtPair_append missingPart, ih (List.cons_ne_nil _ _) missingRest]

/-- Lines that end in a newline are read back, and nothing stands after the last newline. -/
theorem lines_join {content : List String} (whole : ∀ line ∈ content, '\n' ∉ line.toList) :
    lines (String.join (content.map (· ++ "\n"))) = content ++ [""] := by
  induction content with
  | nil => rfl
  | cons line rest ih =>
      obtain ⟨wholeLine, wholeRest⟩ := List.forall_mem_cons.mp whole
      have newline : "\n".toList = ['\n'] := rfl
      have divided : segments (line.toList ++ '\n' :: (String.join (rest.map (· ++ "\n"))).toList) =
          line.toList :: segments (String.join (rest.map (· ++ "\n"))).toList :=
        List.splitOn_append_cons_self_of_not_mem wholeLine _
      rw [lines, List.map_cons, String.join_cons, String.toList_append, String.toList_append,
        newline, List.append_assoc, List.singleton_append, divided, List.map_cons,
        String.ofList_toList, List.cons_append]
      exact congrArg (line :: ·) (ih wholeRest)

/-- A line break parts the lines before it from those behind it. -/
theorem lines_append (front back : String) :
    lines (front ++ "\n" ++ back) = lines front ++ lines back := by
  have newline : "\n".toList = ['\n'] := rfl
  have divided : segments (front.toList ++ '\n' :: back.toList) =
      segments front.toList ++ segments back.toList :=
    List.splitOn_append_cons_self _ _
  rw [lines, String.toList_append, String.toList_append, newline, List.append_assoc,
    List.singleton_append, divided, List.map_append]
  rfl

/-- Joined lines hold their own characters and line breaks. -/
theorem mem_join {content : List String} {c : Char}
    (member : c ∈ (String.join (content.map (· ++ "\n"))).toList) :
    c = '\n' ∨ ∃ line ∈ content, c ∈ line.toList := by
  rw [String.toList_join] at member
  obtain ⟨ended, within, inside⟩ := List.mem_flatMap.mp member
  obtain ⟨line, ofContent, rfl⟩ := List.mem_map.mp within
  rw [String.toList_append] at inside
  rcases List.mem_append.mp inside with inLine | isNewline
  · exact Or.inr ⟨line, ofContent, inLine⟩
  · exact Or.inl (List.mem_singleton.mp isNewline)

end Soliscope.Text
