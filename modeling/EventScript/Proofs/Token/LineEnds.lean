import EventScript.Proofs.Outcome
import EventScript.Proofs.Token.Stops
import EventScript.Text.Lines

/-!
# Line ends

The last line of a source keeps its carriage return. No token reaches into it: without it the line
has the same tokens.
-/

namespace EventScript

namespace Token

theorem readText_of_snoc {rest : List Char} {found : List Char × Nat}
    (h : readText (rest ++ ['\r']) = some found) : readText rest = some found := by
  induction rest using readText.induct generalizing found with
  | case1 => cases h
  | case2 rest => exact h
  | case3 c rest ih =>
    obtain ⟨inner, read, rfl⟩ := Option.map_eq_some_iff.mp h
    rw [readText, ih read]
    rfl
  | case4 c rest notQuote notEscape ih =>
    by_cases backslash : c = '\\'
    · -- A backslash alone would escape the carriage return, and the text would not be closed.
      subst backslash
      cases rest with
      | nil => cases h
      | cons d rest => exact absurd rfl (notEscape d rest rfl)
    · rw [List.cons_append, readText] at h
      · obtain ⟨inner, read, rfl⟩ := Option.map_eq_some_iff.mp h
        rw [readText, ih read]
        · rfl
        · exact notQuote
        · exact notEscape
      · exact notQuote
      · exact fun _ _ same _ => backslash same

theorem read_of_snoc {c : Char} {rest : List Char} {found : Token × Nat}
    (h : read c (rest ++ ['\r']) = .ok found) : read c rest = .ok found := by
  rw [← h]
  refine (read_stopped (by decide) ?_).symm
  rintro rfl
  obtain ⟨contents, closed⟩ := readText_of_read h
  rw [closed, readText_of_snoc closed]

end Token

namespace Lexer

def returned (lexer : Lexer) : Lexer := { lexer with rest := lexer.rest ++ ['\r'] }

theorem skipBlanks_returned (lexer : Lexer) :
    lexer.skipBlanks.rest = [] ∧ lexer.returned.skipBlanks.rest = [] ∨
      lexer.skipBlanks.rest ≠ [] ∧ lexer.returned.skipBlanks = lexer.skipBlanks.returned := by
  unfold skipBlanks returned advance
  dsimp only
  rw [List.takeWhile_append]
  have within := length_takeWhile_le Text.isBlank lexer.rest
  by_cases blank : (lexer.rest.takeWhile Text.isBlank).length = lexer.rest.length
  · have last : ['\r'].takeWhile Text.isBlank = ['\r'] := by decide
    rw [if_pos blank, last, blank]
    exact .inl ⟨List.drop_length, List.drop_length⟩
  · rw [if_neg blank, List.drop_append_of_le_length within]
    refine .inr ⟨fun empty => ?_, rfl⟩
    have := List.drop_eq_nil_iff.mp empty
    omega

theorem next_done {lexer : Lexer} {rest : List Char}
    (ended : lexer.skipBlanks.rest = [] ∨ lexer.skipBlanks.rest = '#' :: rest) :
    ∃ after, lexer.next = (.done, after) := by
  unfold next
  rcases ended with ended | ended
  · dsimp only
    rw [ended]
    exact ⟨_, rfl⟩
  · dsimp only
    rw [ended]
    exact ⟨_, rfl⟩

theorem next_read {lexer : Lexer} {c : Char} {rest : List Char}
    (starts : lexer.skipBlanks.rest = c :: rest) (noComment : c ≠ '#') :
    lexer.next =
      match Token.read c rest with
      | .ok (token, more) =>
        (.token ⟨lexer.skipBlanks.column, token⟩, lexer.skipBlanks.advance (more + 1))
      | .error .unterminated =>
        (.error lexer.skipBlanks.column .unterminated,
          lexer.skipBlanks.advance lexer.skipBlanks.rest.length)
      | .error cause => (.error lexer.skipBlanks.column cause, lexer.skipBlanks) := by
  unfold next
  dsimp only
  rw [starts]
  split
  · contradiction
  · next same => exact absurd (List.cons.inj same).1 noComment
  · next same =>
    obtain ⟨rfl, rfl⟩ := List.cons.inj same
    rfl

/-- A carriage return at the end is no part of the next token. -/
theorem next_of_returned (lexer : Lexer) :
    match lexer.returned.next with
    | (.token lexeme, after) =>
      ∃ before, lexer.next = (.token lexeme, before) ∧ after = before.returned
    | (.done, _) => ∃ after, lexer.next = (.done, after)
    | (.error .., _) => True := by
  rcases lexer.skipBlanks_returned with ⟨ended, ended'⟩ | ⟨goesOn, same⟩
  · obtain ⟨after, done⟩ := @next_done _ [] (.inl ended')
    rw [done]
    exact @next_done _ [] (.inl ended)
  · obtain ⟨c, rest, starts⟩ := List.exists_cons_of_ne_nil goesOn
    have starts' : lexer.returned.skipBlanks.rest = c :: (rest ++ ['\r']) := by
      rw [same, returned, starts]
      rfl
    by_cases comment : c = '#'
    · subst comment
      obtain ⟨after, done⟩ := next_done (.inr starts')
      rw [done]
      exact next_done (.inr starts)
    · rw [next_read starts' comment, next_read starts comment, same]
      cases found : Token.read c (rest ++ ['\r']) with
      | error cause => cases cause <;> trivial
      | ok read =>
        obtain ⟨token, more⟩ := read
        have found := Token.read_of_snoc found
        have within := Token.read_le found
        rw [found]
        refine ⟨_, rfl, ?_⟩
        have inside : more + 1 ≤ lexer.skipBlanks.rest.length := by
          rw [starts]
          exact Nat.succ_le_succ within
        unfold returned advance
        rw [List.drop_append_of_le_length inside]

theorem tokens_eq (lexer : Lexer) :
    lexer.tokens =
      match lexer.next with
      | (.token lexeme, after) => after.tokens.map (lexeme :: ·)
      | (.done, _) => .ok []
      | (.error column cause, _) => .error (column, cause) := by
  rw [tokens]
  split
  · next found =>
    simp only [found]
  · next found =>
    simp only [found]
  · next found =>
    simp only [found]

theorem tokens_of_returned {lexer : Lexer} {lexemes : List Lexeme}
    (h : lexer.returned.tokens = .ok lexemes) : lexer.tokens = .ok lexemes := by
  induction size : lexer.rest.length using Nat.strongRecOn generalizing lexer lexemes with
  | ind size ih =>
    subst size
    have step := lexer.next_of_returned
    rw [tokens_eq] at h ⊢
    rcases found : lexer.returned.next with ⟨lexeme | _ | ⟨column, cause⟩, after⟩
    · rw [found] at h step
      obtain ⟨before, first, rfl⟩ := step
      obtain ⟨rest, tokens, rfl⟩ := map_ok h
      rw [first]
      dsimp only
      rw [ih _ (next_shortens first) tokens rfl]
      rfl
    · rw [found] at h step
      obtain ⟨after, done⟩ := step
      rw [done]
      exact h
    · rw [found] at h
      cases h

/-- The end of a line takes no token of it. -/
theorem tokens_endLine {last : List Char} {lexemes : List Lexeme}
    (h : (ofText last.reverse).tokens = .ok lexemes) :
    (ofText (Text.endLine last)).tokens = .ok lexemes := by
  unfold Text.endLine
  split
  · rw [List.reverse_cons] at h
    exact tokens_of_returned h
  · exact h

end Lexer

end EventScript
