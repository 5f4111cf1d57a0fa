import EventScript.Text.Lines

/-!
# Joined texts

The lines of two texts with a newline between them: those of the first, the last of which is ended
now, and then those of the second.
-/

namespace EventScript.Text

theorem linesAfter_join (line first second : List Char) :
    linesAfter line (first ++ '\n' :: second) =
      linesAfter line (first ++ ['\n']) ++ lines second := by
  induction first generalizing line with
  | nil => rfl
  | cons c first ih =>
    rw [List.cons_append, List.cons_append, linesAfter, linesAfter]
    split
    · rw [ih, List.cons_append]
    · exact ih (c :: line)

/-- A text without a newline stays in one line. -/
theorem linesAfter_append_of_not_mem {front : List Char} (noNewline : '\n' ∉ front)
    (line text : List Char) :
    linesAfter line (front ++ text) = linesAfter (front.reverse ++ line) text := by
  induction front generalizing line with
  | nil => rfl
  | cons c front ih =>
    rw [List.mem_cons, not_or] at noNewline
    rw [List.cons_append, linesAfter, if_neg (Ne.symm noNewline.1), ih noNewline.2,
      List.reverse_cons, List.append_assoc, List.singleton_append]

/-- A text that is empty or ends in a newline has its own lines. -/
theorem lines_append {first : List Char} (whole : first = [] ∨ ∃ lead, first = lead ++ ['\n'])
    (second : List Char) : lines (first ++ second) = lines first ++ lines second := by
  rcases whole with rfl | ⟨lead, rfl⟩
  · rfl
  · rw [List.append_assoc]
    exact linesAfter_join [] lead second

theorem lines_append_newline {front : List Char} (noNewline : '\n' ∉ front) (text : List Char) :
    lines (front ++ '\n' :: text) = endLine front.reverse :: lines text := by
  rw [lines, linesAfter_append_of_not_mem noNewline, List.append_nil]
  rfl

theorem endLine_append {line : List Char} (solid : line.head? ≠ some '\r') (begun : List Char) :
    endLine (begun ++ line) = line.reverse ++ endLine begun := by
  cases begun with
  | nil =>
    cases line with
    | nil => rfl
    | cons c line =>
      have other : c ≠ '\r' := fun same => solid (congrArg some same)
      simp [endLine, other]
  | cons c begun =>
    by_cases same : c = '\r'
    · subst same
      simp [endLine]
    · simp [endLine, same]

/-- A text goes on with its first line where a line was begun that takes no part in a line end. -/
theorem linesAfter_begun {line : List Char} (nonempty : line ≠ []) (solid : line.head? ≠ some '\r')
    (begun text : List Char) :
    linesAfter (begun ++ line) text =
      match linesAfter begun text with
      | [] => [line.reverse]
      | first :: rest => (line.reverse ++ first) :: rest := by
  induction text generalizing begun with
  | nil =>
    cases begun with
    | nil => simp [linesAfter, nonempty]
    | cons c begun => simp [linesAfter]
  | cons c text ih =>
    rw [linesAfter, linesAfter]
    split
    · rw [endLine_append solid]
    · exact ih (c :: begun)

theorem lines_begun {front : List Char} (noNewline : '\n' ∉ front) (nonempty : front ≠ [])
    (solid : front.reverse.head? ≠ some '\r') (text : List Char) :
    lines (front ++ text) =
      match lines text with
      | [] => [front]
      | first :: rest => (front ++ first) :: rest := by
  have begun := linesAfter_begun (mt List.reverse_eq_nil_iff.mp nonempty) solid [] text
  rw [List.nil_append, List.reverse_reverse] at begun
  rw [lines, linesAfter_append_of_not_mem noNewline, List.append_nil, begun]
  rfl

/-- A newline at the end of a text ends its last line. -/
theorem linesAfter_ended (line text : List Char) : ∃ finished last,
    linesAfter line (text ++ ['\n']) = finished ++ [endLine last] ∧
      linesAfter line text = finished ++ if last.isEmpty then [] else [last.reverse] := by
  induction text generalizing line with
  | nil => exact ⟨[], line, rfl, rfl⟩
  | cons c text ih =>
    rw [List.cons_append, linesAfter, linesAfter]
    by_cases newline : c = '\n'
    · obtain ⟨finished, last, ended, unended⟩ := ih []
      rw [if_pos newline, if_pos newline, ended, unended]
      exact ⟨endLine line :: finished, last, rfl, rfl⟩
    · rw [if_neg newline, if_neg newline]
      exact ih (c :: line)

theorem length_linesAfter_ended (line text : List Char) :
    (linesAfter line (text ++ ['\n'])).length = text.count '\n' + 1 := by
  induction text generalizing line with
  | nil => rfl
  | cons c text ih =>
    rw [List.cons_append, linesAfter]
    by_cases newline : c = '\n'
    · subst newline
      rw [if_pos rfl, List.length_cons, ih, List.count_cons_self]
    · rw [if_neg newline, ih, List.count_cons_of_ne newline]

/-! ### Texts of whole lines -/

def withoutReturn (line : List Char) : List Char :=
  if line.getLast? = some '\r' then line.dropLast else line

theorem endLine_reverse (line : List Char) : endLine line.reverse = withoutReturn line := by
  unfold withoutReturn
  rw [← List.reverse_reverse line, List.getLast?_reverse, List.reverse_reverse]
  cases line.reverse with
  | nil => rfl
  | cons c rest =>
    by_cases returns : c = '\r'
    · simp [endLine, returns]
    · simp [endLine, returns]

theorem newline_not_mem_of_mem_linesAfter {line text : List Char} (begun : '\n' ∉ line) :
    ∀ other ∈ linesAfter line text, '\n' ∉ other := by
  induction text generalizing line with
  | nil =>
    intro other member
    rw [linesAfter] at member
    split at member
    · cases member
    · rw [List.mem_singleton.mp member]
      simpa using begun
  | cons c text ih =>
    rw [linesAfter]
    split
    · intro other member
      rcases List.mem_cons.mp member with rfl | member
      · rw [← List.reverse_reverse line, endLine_reverse, withoutReturn]
        split
        · exact fun inside => begun (List.mem_reverse.mp (List.dropLast_subset line.reverse inside))
        · exact fun inside => begun (List.mem_reverse.mp inside)
      · exact ih List.not_mem_nil other member
    · next other =>
      refine ih fun member => ?_
      rcases List.mem_cons.mp member with same | member
      · exact other same.symm
      · exact begun member

/-- No line holds a newline. -/
theorem newline_not_mem_of_mem_lines {line text : List Char} (member : line ∈ lines text) :
    '\n' ∉ line :=
  newline_not_mem_of_mem_linesAfter List.not_mem_nil line member

theorem lines_flatMap {body : List (List Char)} (noNewline : ∀ line ∈ body, '\n' ∉ line) :
    lines (body.flatMap fun line => line ++ ['\n']) = body.map withoutReturn := by
  induction body with
  | nil => rfl
  | cons line body ih =>
    rw [List.flatMap_cons, List.append_assoc, List.singleton_append,
      lines_append_newline (noNewline line List.mem_cons_self), endLine_reverse, List.map_cons,
      ih fun other member => noNewline other (List.mem_cons_of_mem line member)]

theorem lines_replicate_newline (count : Nat) (text : List Char) :
    lines (List.replicate count '\n' ++ text) = List.replicate count [] ++ lines text := by
  induction count with
  | zero => rfl
  | succ count ih =>
    have first := lines_append_newline List.not_mem_nil (List.replicate count '\n' ++ text)
    rw [List.replicate_succ, List.replicate_succ, List.cons_append, List.cons_append, ← ih]
    exact first

end EventScript.Text
