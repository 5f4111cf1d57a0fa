import EventScript.Token.Lexer

/-!
# Where tokens stop

Carriage returns and separators continue no token but a text. What stands in front of one of them is
read alike, whatever comes behind it.
-/

namespace EventScript

theorem takeWhile_stopped {α : Type} {p : α → Bool} {stop : α} (refused : p stop = false)
    (list rest : List α) : (list ++ stop :: rest).takeWhile p = list.takeWhile p := by
  induction list with
  | nil => simp [refused]
  | cons first list ih =>
    rw [List.cons_append, List.takeWhile_cons, List.takeWhile_cons, ih]

theorem length_takeWhile_le {α : Type} (p : α → Bool) (list : List α) :
    (list.takeWhile p).length ≤ list.length :=
  (List.takeWhile_sublist p).length_le

namespace Token

def stops : List Char := ['\r', ';', '\x7b', '\x7d']

end Token

variable {stop : Char}

namespace Number

theorem isDigit_of_stops : ∀ stop ∈ Token.stops, stop.isDigit = false := by
  have others : Token.stops.all (fun stop => !stop.isDigit) = true := by decide
  simpa using List.all_eq_true.mp others

theorem fractionDigits_stopped (stops : stop ∈ Token.stops) (text rest : List Char) :
    fractionDigits (text ++ stop :: rest) = fractionDigits text := by
  cases text with
  | nil =>
    have noPoint : stop ≠ '.' := by
      rintro rfl
      exact absurd stops (by decide)
    simp [fractionDigits, noPoint]
  | cons c text =>
    by_cases point : c = '.'
    · subst point
      exact takeWhile_stopped (isDigit_of_stops stop stops) text rest
    · simp [fractionDigits, point]

theorem fractionWidth_le (text : List Char) :
    fractionWidth (fractionDigits text) ≤ text.length := by
  unfold fractionWidth
  split
  · exact Nat.zero_le _
  · next nonempty =>
    unfold fractionDigits at nonempty ⊢
    split at nonempty
    · exact Nat.succ_le_succ (length_takeWhile_le _ _)
    · exact absurd rfl nonempty

theorem signPart_stopped (stops : stop ∈ Token.stops) (text rest : List Char) :
    signPart (text ++ stop :: rest) = signPart text := by
  cases text with
  | nil =>
    have noSign : stop ≠ '+' ∧ stop ≠ '-' := by
      constructor
      all_goals
        rintro rfl
        exact absurd stops (by decide)
    simp [signPart, noSign]
  | cons c text =>
    by_cases plus : c = '+'
    · subst plus
      rfl
    · by_cases minus : c = '-'
      · subst minus
        rfl
      · simp [signPart, plus, minus]

theorem signPart_le (text : List Char) : (signPart text).2 ≤ text.length := by
  unfold signPart
  split
  · exact Nat.succ_le_succ (Nat.zero_le _)
  · exact Nat.succ_le_succ (Nat.zero_le _)
  · exact Nat.zero_le _

theorem exponentPart_stopped (stops : stop ∈ Token.stops) (text rest : List Char) :
    exponentPart (text ++ stop :: rest) = exponentPart text := by
  cases text with
  | nil =>
    have noLetter : ¬ (stop = 'e' ∨ stop = 'E') := by
      rintro (rfl | rfl)
      all_goals exact absurd stops (by decide)
    simp [exponentPart, noLetter]
  | cons c text =>
    have digits : ((text ++ stop :: rest).drop (signPart text).2).takeWhile Char.isDigit =
        (text.drop (signPart text).2).takeWhile Char.isDigit := by
      rw [List.drop_append_of_le_length (signPart_le text)]
      exact takeWhile_stopped (isDigit_of_stops stop stops) _ _
    rw [List.cons_append, exponentPart, exponentPart]
    dsimp only
    rw [signPart_stopped stops, digits]

theorem exponentPart_le {text : List Char} {exponent : Exponent} {width : Nat}
    (h : exponentPart text = some (exponent, width)) : width ≤ text.length := by
  cases text with
  | nil => cases h
  | cons c rest =>
    have sign := signPart_le rest
    have digits := length_takeWhile_le Char.isDigit (rest.drop (signPart rest).2)
    rw [List.length_drop] at digits
    rw [exponentPart] at h
    dsimp only at h
    split at h
    · obtain ⟨-, rfl⟩ := Prod.mk.inj (Option.some.inj h)
      rw [List.length_cons]
      omega
    · cases h

theorem scan_stopped (stops : stop ∈ Token.stops) (text rest : List Char) :
    Numeral.scan (text ++ stop :: rest) = Numeral.scan text := by
  have whole : (text ++ stop :: rest).takeWhile Char.isDigit = text.takeWhile Char.isDigit :=
    takeWhile_stopped (isDigit_of_stops stop stops) text rest
  have within := length_takeWhile_le Char.isDigit text
  have fraction := fractionWidth_le (text.drop (text.takeWhile Char.isDigit).length)
  rw [List.length_drop] at fraction
  unfold Numeral.scan
  dsimp only
  rw [whole, List.drop_append_of_le_length within, fractionDigits_stopped stops,
    List.drop_append_of_le_length (by omega), exponentPart_stopped stops]

theorem scan_le (text : List Char) : (Numeral.scan text).2 ≤ text.length := by
  have within := length_takeWhile_le Char.isDigit text
  have fraction := fractionWidth_le (text.drop (text.takeWhile Char.isDigit).length)
  rw [List.length_drop] at fraction
  unfold Numeral.scan
  dsimp only
  split
  · next exponent more found =>
    have rest := exponentPart_le found
    rw [List.length_drop] at rest
    dsimp only
    omega
  · dsimp only
    omega

end Number

namespace Token

theorem continuesWord_of_stops : ∀ stop ∈ stops, continuesWord stop = false := by
  have others : stops.all (fun stop => !continuesWord stop) = true := by decide
  simpa using List.all_eq_true.mp others

theorem readFixed_stopped (stops : stop ∈ Token.stops) (c : Char) (text rest : List Char) :
    readFixed c (text ++ stop :: rest) = readFixed c text := by
  unfold readFixed
  cases text with
  | nil =>
    have noPair : pair? c stop = none := by
      unfold pair?
      split <;> first | rfl | exact absurd stops (by decide)
    dsimp only [List.nil_append, List.head?_cons, List.head?_nil, Option.bind_some,
      Option.bind_none]
    rw [noPair]
  | cons d text => rfl

theorem readFixed_le {c : Char} {rest : List Char} {token : Token} {more : Nat}
    (h : readFixed c rest = some (token, more)) : more ≤ rest.length := by
  unfold readFixed at h
  split at h
  · next found =>
    obtain ⟨-, rfl⟩ := Prod.mk.inj (Option.some.inj h)
    cases rest with
    | nil => cases found
    | cons d rest => exact Nat.succ_le_succ (Nat.zero_le _)
  · obtain ⟨_, -, same⟩ := Option.map_eq_some_iff.mp h
    obtain ⟨-, rfl⟩ := Prod.mk.inj same
    exact Nat.zero_le _

theorem readText_append {text : List Char} {found : List Char × Nat}
    (h : readText text = some found) (rest : List Char) :
    readText (text ++ rest) = some found := by
  induction text using readText.induct generalizing found with
  | case1 => cases h
  | case2 text => exact h
  | case3 c text ih =>
    obtain ⟨inner, read, rfl⟩ := Option.map_eq_some_iff.mp h
    rw [List.cons_append, List.cons_append, readText, ih read]
    rfl
  | case4 c text notQuote notEscape ih =>
    rw [readText] at h
    · obtain ⟨inner, read, rfl⟩ := Option.map_eq_some_iff.mp h
      rw [List.cons_append, readText, ih read]
      · rfl
      · exact notQuote
      · -- A backslash at the end of the text closes nothing.
        rintro d behind rfl same
        cases text with
        | nil => cases read
        | cons e text => exact notEscape e text rfl rfl
    · exact notQuote
    · exact notEscape

theorem readText_le {text contents : List Char} {width : Nat}
    (h : readText text = some (contents, width)) : width ≤ text.length := by
  induction text using readText.induct generalizing contents width with
  | case1 => cases h
  | case2 text =>
    cases h
    exact Nat.succ_le_succ (Nat.zero_le _)
  | case3 c text ih =>
    obtain ⟨⟨inner, width⟩, read, same⟩ := Option.map_eq_some_iff.mp h
    cases same
    exact Nat.add_le_add_right (ih read) 2
  | case4 c text notQuote notEscape ih =>
    rw [readText] at h
    · obtain ⟨⟨inner, width⟩, read, same⟩ := Option.map_eq_some_iff.mp h
      cases same
      exact Nat.succ_le_succ (ih read)
    · exact notQuote
    · exact notEscape

theorem readText_of_read {rest : List Char} {found : Token × Nat}
    (h : read '"' rest = .ok found) : ∃ contents, readText rest = some contents := by
  unfold read at h
  have noFixed : readFixed '"' rest = none := by cases rest <;> rfl
  rw [noFixed] at h
  dsimp only at h
  cases read : readText rest with
  | none =>
    rw [read] at h
    cases h
  | some contents => exact ⟨contents, rfl⟩

theorem read_le {c : Char} {rest : List Char} {token : Token} {more : Nat}
    (h : read c rest = .ok (token, more)) : more ≤ rest.length := by
  unfold read at h
  split at h
  · next fixed =>
    cases h
    exact readFixed_le fixed
  · split at h
    · split at h
      · next closed =>
        cases h
        exact readText_le closed
      · cases h
    · split at h
      · have within := Number.scan_le (c :: rest)
        cases h
        exact Nat.sub_le_of_le_add within
      · split at h
        · cases h
          exact length_takeWhile_le _ rest
        · cases h

/-- Apart from texts, what is read in front of a stop does not depend on what comes behind it. -/
theorem read_stopped (stops : stop ∈ Token.stops) {c : Char} {text rest : List Char}
    (closes : c = '"' → readText (text ++ stop :: rest) = readText text) :
    read c (text ++ stop :: rest) = read c text := by
  unfold read
  rw [readFixed_stopped stops, ← List.cons_append, Number.scan_stopped stops,
    takeWhile_stopped (continuesWord_of_stops stop stops)]
  cases readFixed c text with
  | some found => rfl
  | none =>
    dsimp only
    split
    · next quote => rw [closes quote]
    · rfl

/-- A token in front of a stop is read whatever comes behind. -/
theorem read_append (stops : stop ∈ Token.stops) {c : Char} {text : List Char}
    {found : Token × Nat} (h : read c text = .ok found) (rest : List Char) :
    read c (text ++ stop :: rest) = .ok found := by
  rw [← h]
  refine read_stopped stops ?_
  rintro rfl
  obtain ⟨contents, closed⟩ := readText_of_read h
  rw [closed, readText_append closed]

end Token

end EventScript
