import EventScript.Text.Lines
import Mathlib.Data.List.TakeWhile

/-!
# Words

The words of a text are its pieces between blanks. They do not depend on how many blanks there are,
nor on blanks at either end.
-/

namespace EventScript.Text

def words (text : List Char) : List (List Char) :=
  (text.splitOnP isBlank).filter fun word => !word.isEmpty

variable {text front back word : List Char}

/-- A blank stands between words. Everything else about words follows from this. -/
theorem words_append_blank {c : Char} (blank : isBlank c = true) (front back : List Char) :
    words (front ++ c :: back) = words front ++ words back := by
  unfold words
  rw [List.splitOnP_append_cons front back blank, List.filter_append]

theorem words_nil : words [] = [] := by
  simp [words, List.splitOnP_nil]

theorem words_solid (nonempty : word ≠ []) (solid : ∀ c ∈ word, isBlank c = false) :
    words word = [word] := by
  rw [words, List.splitOnP_eq_singleton solid]
  simp [nonempty]

theorem words_cons_blank {c : Char} (blank : isBlank c = true) (text : List Char) :
    words (c :: text) = words text := by
  have cut := words_append_blank blank [] text
  rwa [words_nil] at cut

/-- A word that a text begins with is the first of its words. -/
theorem words_append (nonempty : word ≠ []) (solid : ∀ c ∈ word, isBlank c = false)
    (ended : back.head?.all isBlank = true) : words (word ++ back) = word :: words back := by
  cases back with
  | nil => rw [List.append_nil, words_solid nonempty solid, words_nil]
  | cons c back =>
    have blank : isBlank c = true := by simpa using ended
    rw [words_append_blank blank, words_cons_blank blank, words_solid nonempty solid]
    rfl

/-- A text that begins with no blank begins with a word. -/
theorem exists_first_word {c : Char} (solid : isBlank c = false) (text : List Char) :
    ∃ word rest, c :: text = word ++ rest ∧ words (c :: text) = word :: words rest ∧
      word ≠ [] ∧ (∀ d ∈ word, isBlank d = false) ∧ rest.head?.all isBlank = true := by
  let word := (c :: text).takeWhile fun d => !isBlank d
  let rest := (c :: text).dropWhile fun d => !isBlank d
  have whole : c :: text = word ++ rest := List.takeWhile_append_dropWhile.symm
  have nonempty : word ≠ [] := by simp [word, solid]
  have letters : ∀ d ∈ word, isBlank d = false := by
    intro d member
    simpa using List.mem_takeWhile_imp member
  have ended : rest.head?.all isBlank = true := by
    have stopped := List.head?_dropWhile_not (fun d => !isBlank d) (c :: text)
    cases first : rest.head? with
    | none => rfl
    | some d =>
      rw [show (c :: text).dropWhile (fun d => !isBlank d) = rest from rfl, first] at stopped
      simpa using stopped
  have cut := words_append nonempty letters ended
  rw [← whole] at cut
  exact ⟨word, rest, whole, cut, nonempty, letters, ended⟩

/-- A text without words is blank. -/
theorem words_eq_nil_iff : words text = [] ↔ ∀ c ∈ text, isBlank c = true := by
  induction text with
  | nil => simp [words_nil]
  | cons c text ih =>
    cases solid : isBlank c with
    | true =>
      rw [words_cons_blank solid, ih, List.forall_mem_cons]
      simp [solid]
    | false =>
      obtain ⟨word, rest, -, cut, -⟩ := exists_first_word solid text
      simp [cut, solid]

theorem words_blanks_append (blanks : ∀ c ∈ front, isBlank c = true) (text : List Char) :
    words (front ++ text) = words text := by
  induction front with
  | nil => rfl
  | cons c front ih =>
    rw [List.cons_append, words_cons_blank (blanks c List.mem_cons_self)]
    exact ih fun d member => blanks d (List.mem_cons_of_mem c member)

theorem words_append_blanks (blanks : ∀ c ∈ back, isBlank c = true) (text : List Char) :
    words (text ++ back) = words text := by
  cases back with
  | nil => rw [List.append_nil]
  | cons c back =>
    have none : words back = [] :=
      words_eq_nil_iff.mpr fun d member => blanks d (List.mem_cons_of_mem c member)
    rw [words_append_blank (blanks c List.mem_cons_self), none, List.append_nil]

/-! ### Trimmed texts -/

theorem trim_append (text : List Char) :
    trim text ++ ((text.dropWhile isBlank).reverse.takeWhile isBlank).reverse =
      text.dropWhile isBlank := by
  rw [trim, ← List.reverse_append, List.takeWhile_append_dropWhile, List.reverse_reverse]

theorem exists_trim (text : List Char) :
    ∃ front back, text = front ++ trim text ++ back ∧ (∀ c ∈ front, isBlank c = true) ∧
      ∀ c ∈ back, isBlank c = true := by
  refine ⟨text.takeWhile isBlank,
    ((text.dropWhile isBlank).reverse.takeWhile isBlank).reverse, ?_, ?_, ?_⟩
  · rw [List.append_assoc, trim_append]
    exact List.takeWhile_append_dropWhile.symm
  · exact fun c member => List.mem_takeWhile_imp member
  · exact fun c member => List.mem_takeWhile_imp (List.mem_reverse.mp member)

theorem words_trim (text : List Char) : words (trim text) = words text := by
  obtain ⟨front, back, whole, before, behind⟩ := exists_trim text
  rw [whole, words_append_blanks behind, words_blanks_append before, ← whole]

theorem isBlank_of_head?_trim {c : Char} (first : (trim text).head? = some c) :
    isBlank c = false := by
  have begun : (text.dropWhile isBlank).head? = some c := by
    rw [← trim_append, List.head?_append, first]
    rfl
  have stopped := List.head?_dropWhile_not isBlank text
  rwa [begun] at stopped

theorem isBlank_of_getLast?_trim {c : Char} (last : (trim text).getLast? = some c) :
    isBlank c = false := by
  rw [trim, List.getLast?_reverse] at last
  have stopped := List.head?_dropWhile_not isBlank (text.dropWhile isBlank).reverse
  rwa [last] at stopped

/-- A trimmed text is empty, or begins with the first of its words. -/
theorem trim_cases (text : List Char) :
    (trim text = [] ∧ words text = []) ∨
      ∃ word rest, trim text = word ++ rest ∧ words text = word :: words rest ∧
        word ≠ [] ∧ (∀ c ∈ word, isBlank c = false) ∧ rest.head?.all isBlank = true := by
  rw [← words_trim]
  cases trimmed : trim text with
  | nil => exact .inl ⟨rfl, words_nil⟩
  | cons c text =>
    have solid : isBlank c = false := isBlank_of_head?_trim (by rw [trimmed]; rfl)
    exact .inr (exists_first_word solid text)

theorem words_eq_singleton_iff :
    words text = [word] ↔ trim text = word ∧ word ≠ [] ∧ ∀ c ∈ word, isBlank c = false := by
  constructor
  · intro single
    rcases trim_cases text with ⟨-, none⟩ | ⟨first, rest, whole, cut, nonempty, solid, -⟩
    · rw [none] at single
      cases single
    · rw [cut] at single
      obtain ⟨rfl, none⟩ := List.cons.inj single
      -- What follows the word is blank, and a trimmed text does not end in a blank.
      have blanks := words_eq_nil_iff.mp none
      cases last : rest.getLast? with
      | none =>
        obtain rfl := List.getLast?_eq_none_iff.mp last
        exact ⟨whole.trans (List.append_nil first), nonempty, solid⟩
      | some c =>
        have ended : isBlank c = false := by
          apply isBlank_of_getLast?_trim
          rw [whole, List.getLast?_append, last]
          rfl
        have blank := blanks c (List.mem_of_getLast? last)
        rw [ended] at blank
        cases blank
  · rintro ⟨rfl, nonempty, solid⟩
    rw [← words_trim, words_solid nonempty solid]

/-- The first word stands at the front of the trimmed text. -/
theorem words_eq_cons_iff {others : List (List Char)} (nonempty : word ≠ [])
    (solid : ∀ c ∈ word, isBlank c = false) :
    words text = word :: others ↔
      ∃ rest, trim text = word ++ rest ∧ rest.head?.all isBlank = true ∧ words rest = others := by
  constructor
  · intro first
    rcases trim_cases text with ⟨-, none⟩ | ⟨front, rest, whole, cut, -, -, ended⟩
    · rw [none] at first
      cases first
    · rw [cut] at first
      obtain ⟨rfl, rfl⟩ := List.cons.inj first
      exact ⟨rest, whole, ended, rfl⟩
  · rintro ⟨rest, whole, ended, rfl⟩
    rw [← words_trim, whole, words_append nonempty solid ended]

theorem after?_eq_some_iff {start rest : List Char} :
    after? start text = some rest ↔ text = start ++ rest := by
  induction start generalizing text with
  | nil => simp [after?, eq_comm]
  | cons c start ih =>
    cases text with
    | nil => simp [after?]
    | cons d text =>
      rw [after?, List.cons_append, List.cons.injEq]
      split
      · next same => simp [ih, same]
      · next other => simp [Ne.symm other]

end EventScript.Text
