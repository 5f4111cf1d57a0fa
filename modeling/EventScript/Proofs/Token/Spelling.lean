import EventScript.Proofs.Number.Numeral

/-!
# Spelling

Which characters spell which token. `Token.read` takes the longest of them off a text, and fails
where no token starts.
-/

namespace EventScript

namespace Token

def operators : List Token :=
  [assign, plus, minus, asterisk, slash, percent, caret, less, lessEq, greater, greaterEq, equal,
    notEqual, comma, semicolon, openParen, closeParen, openBrace, closeBrace]

def keywords : List Token :=
  [andKeyword, orKeyword, notKeyword, trueKeyword, falseKeyword, ifKeyword, elseifKeyword,
    elseKeyword, globalKeyword]

/-- The characters between two quotes, and the contents of the text that they spell. A backslash
escapes whatever is behind it, and stays with it unless the two of them have a meaning. -/
inductive Escaped : List Char → List Char → Prop where
  | nil : Escaped [] []
  | plain {c : Char} {body contents : List Char} :
      c ≠ '"' → c ≠ '\\' → Escaped body contents → Escaped (c :: body) (c :: contents)
  | quote {body contents : List Char} :
      Escaped body contents → Escaped ('\\' :: '"' :: body) ('"' :: contents)
  | backslash {body contents : List Char} :
      Escaped body contents → Escaped ('\\' :: '\\' :: body) ('\\' :: contents)
  | newline {body contents : List Char} :
      Escaped body contents → Escaped ('\\' :: 'n' :: body) ('\n' :: contents)
  | tab {body contents : List Char} :
      Escaped body contents → Escaped ('\\' :: 't' :: body) ('\t' :: contents)
  | other {c : Char} {body contents : List Char} :
      c ∉ ['"', '\\', 'n', 't'] → Escaped body contents →
      Escaped ('\\' :: c :: body) ('\\' :: c :: contents)

inductive Spells : List Char → Token → Prop where
  | operator {token : Token} {sign : List Char} :
      token ∈ operators → token.display.toList = sign → Spells sign token
  | keyword {token : Token} {word : List Char} :
      token ∈ keywords → token.display.toList = word → Spells word token
  | identifier {c : Char} {word : List Char} :
      startsWord c = true → (∀ d ∈ word, continuesWord d = true) →
      (∀ token ∈ keywords, token.display ≠ String.ofList (c :: word)) →
      Spells (c :: word) (ident (String.ofList (c :: word)))
  | number {numeral : Number.Numeral} {digits : List Char} :
      numeral.Spelled digits → Spells digits (number numeral.value)
  | text {body contents : List Char} :
      Escaped body contents → Spells ('"' :: (body ++ ['"'])) (text (String.ofList contents))

/-! ### Operators -/

theorem operator_cases {token : Token} (member : token ∈ operators) :
    (∃ c, token.display.toList = [c] ∧ single? c = some token) ∨
      ∃ c d, token.display.toList = [c, d] ∧ pair? c d = some token := by
  simp only [operators, List.mem_cons, List.not_mem_nil, or_false] at member
  rcases member with rfl | rfl | rfl | rfl | rfl | rfl | rfl | rfl | rfl | rfl | rfl | rfl | rfl |
    rfl | rfl | rfl | rfl | rfl | rfl <;>
    first
    | exact .inl ⟨_, rfl, rfl⟩
    | exact .inr ⟨_, _, rfl, rfl⟩

theorem spells_single {c : Char} {token : Token} (found : single? c = some token) :
    Spells [c] token := by
  unfold single? at found
  split at found <;> cases found
  all_goals exact .operator (by decide) rfl

theorem spells_pair {c d : Char} {token : Token} (found : pair? c d = some token) :
    Spells [c, d] token := by
  unfold pair? at found
  split at found <;> cases found
  all_goals exact .operator (by decide) rfl

def operatorStarts : List Char :=
  ['=', '!', '<', '>', '+', '-', '*', '/', '%', '^', ',', ';', '(', ')', '\x7b', '\x7d']

theorem single?_eq_none {c : Char} (other : c ∉ operatorStarts) : single? c = none := by
  unfold single?
  split <;> first | rfl | exact absurd (by decide) other

theorem pair?_eq_none {c : Char} (other : c ∉ operatorStarts) (d : Char) : pair? c d = none := by
  unfold pair?
  split <;> first | rfl | exact absurd (by decide) other

theorem readFixed_eq_none {c : Char} (other : c ∉ operatorStarts) (rest : List Char) :
    readFixed c rest = none := by
  unfold readFixed
  rw [single?_eq_none other]
  cases rest with
  | nil => rfl
  | cons d rest =>
    simp only [List.head?_cons, Option.bind_some, pair?_eq_none other]
    rfl

theorem not_operatorStart_of_startsWord {c : Char} (starts : startsWord c = true) :
    c ∉ operatorStarts := by
  have others : operatorStarts.all (fun d => !startsWord d) = true := by rfl
  intro member
  have refused := List.all_eq_true.mp others c member
  rw [starts] at refused
  cases refused

theorem not_operatorStart_of_isDigit {c : Char} (digit : c.isDigit = true) :
    c ∉ operatorStarts := by
  have others : operatorStarts.all (fun d => !d.isDigit) = true := by rfl
  intro member
  have refused := List.all_eq_true.mp others c member
  rw [digit] at refused
  cases refused

theorem not_isDigit_of_startsWord {c : Char} (starts : startsWord c = true) :
    c.isDigit = false := by
  refine Bool.eq_false_iff.mpr fun digit => ?_
  simp only [Char.isDigit, ge_iff_le, UInt32.le_iff_toNat_le, Char.toNat_val, Char.reduceToNat,
    Bool.and_eq_true, decide_eq_true_eq] at digit
  obtain ⟨least, greatest⟩ := digit
  have small : c.toNat < 128 := by omega
  have underscore : c ≠ '_' := by
    rintro rfl
    exact absurd greatest (by decide)
  have letter : c.isAlpha =
      (decide (c.val ≥ 'A'.val ∧ c.val ≤ 'Z'.val) ||
        (decide (c.val ≥ 'a'.val) && decide (c.val ≤ 'z'.val))) := rfl
  simp only [startsWord, Text.isAlphabetic, small, if_true, beq_false_of_ne underscore,
    Bool.or_false, letter, ge_iff_le, UInt32.le_iff_toNat_le, Char.toNat_val, Char.reduceToNat,
    Bool.or_eq_true, Bool.and_eq_true, decide_eq_true_eq] at starts
  omega

/-! ### Words -/

theorem ofWord_cases (word : String) :
    (∃ token ∈ keywords, token.display = word ∧ ofWord word = token) ∨
      (∀ token ∈ keywords, token.display ≠ word) ∧ ofWord word = ident word := by
  cases found : keyword? word with
  | some token =>
    have same : token.display = word := by simpa using List.find?_some found
    refine .inl ⟨token, List.mem_of_find?_eq_some found, same, ?_⟩
    rw [ofWord, found]
    rfl
  | none =>
    refine .inr ⟨fun token member same => ?_, ?_⟩
    · have other := List.find?_eq_none.mp found token member
      exact other (by simpa using same)
    · rw [ofWord, found]
      rfl

theorem keyword_cases {token : Token} (member : token ∈ keywords) :
    ∃ c word, token.display.toList = c :: word ∧ startsWord c = true ∧
      (∀ d ∈ word, continuesWord d = true) ∧ ofWord token.display = token := by
  simp only [keywords, List.mem_cons, List.not_mem_nil, or_false] at member
  rcases member with rfl | rfl | rfl | rfl | rfl | rfl | rfl | rfl | rfl <;>
    exact ⟨_, _, rfl, rfl, List.all_eq_true.mp rfl, rfl⟩

theorem spells_ofWord {c : Char} {word : List Char} (starts : startsWord c = true)
    (continues : ∀ d ∈ word, continuesWord d = true) :
    Spells (c :: word) (ofWord (String.ofList (c :: word))) := by
  rcases ofWord_cases (String.ofList (c :: word)) with ⟨token, member, same, spelt⟩ | ⟨others, spelt⟩
  · rw [spelt]
    exact .keyword member (by rw [same]; simp)
  · rw [spelt]
    exact .identifier starts continues others

theorem read_letter {c : Char} (starts : startsWord c = true) (rest : List Char) :
    read c rest =
      .ok (ofWord (String.ofList (c :: rest.takeWhile continuesWord)),
        (rest.takeWhile continuesWord).length) := by
  have noQuote : c ≠ '"' := by
    rintro rfl
    cases starts
  unfold read
  rw [readFixed_eq_none (not_operatorStart_of_startsWord starts)]
  dsimp only
  rw [if_neg noQuote, if_neg (by simp [not_isDigit_of_startsWord starts]), if_pos starts]

/-! ### Texts -/

theorem unescape_of_notMem {c : Char} (other : c ∉ ['"', '\\', 'n', 't']) :
    unescape c = ['\\', c] := by
  unfold unescape
  split <;> first | rfl | exact absurd (by decide) other

theorem Escaped.cons_unescape {body contents : List Char} (escaped : Escaped body contents)
    (c : Char) :
    Escaped ('\\' :: c :: body) (unescape c ++ contents) := by
  by_cases known : c ∈ ['"', '\\', 'n', 't']
  · simp only [List.mem_cons, List.not_mem_nil, or_false] at known
    rcases known with rfl | rfl | rfl | rfl
    · exact .quote escaped
    · exact .backslash escaped
    · exact .newline escaped
    · exact .tab escaped
  · rw [unescape_of_notMem known]
    exact .other known escaped

theorem readText_backslash (c : Char) (rest : List Char) :
    readText ('\\' :: c :: rest) =
      (readText rest).map fun read => (unescape c ++ read.1, read.2 + 2) := by
  rw [readText]

theorem readText_of_escaped {body contents : List Char} (escaped : Escaped body contents)
    (rest : List Char) :
    readText (body ++ '"' :: rest) = some (contents, body.length + 1) := by
  induction escaped with
  | nil => rfl
  | plain noQuote noBackslash _ ih =>
    rw [List.cons_append, readText, ih]
    · rfl
    · exact noQuote
    · exact fun _ _ same _ => noBackslash same
  | quote _ ih | backslash _ ih | newline _ ih | tab _ ih =>
    rw [List.cons_append, List.cons_append, readText_backslash, ih]
    rfl
  | other unknown _ ih =>
    rw [List.cons_append, List.cons_append, readText_backslash, ih, unescape_of_notMem unknown]
    rfl

theorem escaped_of_readText {rest contents : List Char} {width : Nat}
    (h : readText rest = some (contents, width)) :
    ∃ body behind, rest = body ++ '"' :: behind ∧ width = body.length + 1 ∧
      Escaped body contents := by
  induction rest using readText.induct generalizing contents width with
  | case1 => cases h
  | case2 rest =>
    cases h
    exact ⟨[], rest, rfl, rfl, .nil⟩
  | case3 c rest ih =>
    obtain ⟨⟨inner, width⟩, found, same⟩ := Option.map_eq_some_iff.mp h
    obtain ⟨rfl, rfl⟩ := Prod.mk.inj same
    obtain ⟨body, behind, rfl, rfl, escaped⟩ := ih found
    exact ⟨'\\' :: c :: body, behind, rfl, rfl, escaped.cons_unescape c⟩
  | case4 c rest notQuote notEscape ih =>
    rw [readText] at h
    · obtain ⟨⟨inner, width⟩, found, same⟩ := Option.map_eq_some_iff.mp h
      obtain ⟨rfl, rfl⟩ := Prod.mk.inj same
      obtain ⟨body, behind, rfl, rfl, escaped⟩ := ih found
      refine ⟨c :: body, behind, rfl, rfl, .plain notQuote ?_ escaped⟩
      rintro rfl
      cases body with
      | nil => exact notEscape '"' behind rfl rfl
      | cons d body => exact notEscape d (body ++ '"' :: behind) rfl rfl
    · exact notQuote
    · exact notEscape

theorem read_quote (rest : List Char) :
    read '"' rest =
      match readText rest with
      | some (contents, width) => .ok (text (String.ofList contents), width)
      | none => .error .unterminated := by
  unfold read
  rw [readFixed_eq_none (by decide)]
  rfl

theorem read_digit {c : Char} (digit : c.isDigit = true) (rest : List Char) :
    read c rest = .ok (number (Number.Numeral.scan (c :: rest)).1.value,
      (Number.Numeral.scan (c :: rest)).2 - 1) := by
  have noQuote : c ≠ '"' := by
    rintro rfl
    cases digit
  unfold read
  rw [readFixed_eq_none (not_operatorStart_of_isDigit digit)]
  dsimp only
  rw [if_neg noQuote, if_pos digit]

/-! ### Reading -/

theorem read_fixed {c : Char} {rest : List Char} {found : Token × Nat}
    (fixed : readFixed c rest = some found) : read c rest = .ok found := by
  unfold read
  rw [fixed]

theorem read_unrecognized {c : Char} {rest : List Char} (fixed : readFixed c rest = none)
    (noQuote : c ≠ '"') (noDigit : ¬ c.isDigit = true) (noWord : ¬ startsWord c = true) :
    read c rest = .error (.unrecognized c) := by
  unfold read
  rw [fixed]
  dsimp only
  rw [if_neg noQuote, if_neg noDigit, if_neg noWord]

theorem spells_of_readFixed {c : Char} {rest : List Char} {token : Token} {more : Nat}
    (h : readFixed c rest = some (token, more)) :
    ∃ front behind, rest = front ++ behind ∧ more = front.length ∧ Spells (c :: front) token := by
  unfold readFixed at h
  split at h
  · next found =>
    cases h
    cases rest with
    | nil => cases found
    | cons d rest => exact ⟨[d], rest, rfl, rfl, spells_pair found⟩
  · obtain ⟨_, found, same⟩ := Option.map_eq_some_iff.mp h
    cases same
    exact ⟨[], rest, rfl, rfl, spells_single found⟩

/-- What is read off a text spells the token that is found. -/
theorem spells_of_read {c : Char} {rest : List Char} {token : Token} {more : Nat}
    (h : read c rest = .ok (token, more)) :
    ∃ front behind, rest = front ++ behind ∧ more = front.length ∧ Spells (c :: front) token := by
  cases fixed : readFixed c rest with
  | some found =>
    rw [read_fixed fixed] at h
    cases h
    exact spells_of_readFixed fixed
  | none =>
    by_cases quote : c = '"'
    · subst quote
      rw [read_quote] at h
      split at h
      · next found =>
        cases h
        obtain ⟨body, behind, rfl, rfl, escaped⟩ := escaped_of_readText found
        exact ⟨body ++ ['"'], behind, by simp, by simp, .text escaped⟩
      · cases h
    · by_cases digit : c.isDigit = true
      · rw [read_digit digit] at h
        cases h
        have nonempty : (c :: rest).takeWhile Char.isDigit ≠ [] := by simp [digit]
        obtain ⟨front, spelt, width, longest⟩ := Number.exists_scanned nonempty
        obtain ⟨behind, whole⟩ := longest.starts
        obtain ⟨d, front, rfl, -⟩ := spelt.exists_cons
        obtain ⟨rfl, rfl⟩ := List.cons.inj whole
        refine ⟨front, behind, rfl, ?_, .number spelt⟩
        rw [← width]
        rfl
      · by_cases starts : startsWord c = true
        · rw [read_letter starts] at h
          cases h
          have continues : ∀ d ∈ rest.takeWhile continuesWord, continuesWord d = true :=
            fun d member => List.mem_takeWhile_imp member
          exact ⟨_, rest.dropWhile continuesWord, List.takeWhile_append_dropWhile.symm, rfl,
            spells_ofWord starts continues⟩
        · rw [read_unrecognized fixed quote digit starts] at h
          cases h

theorem read_spelled_word {c : Char} {word : List Char} (starts : startsWord c = true)
    (continues : ∀ d ∈ word, continuesWord d = true) (rest : List Char) :
    ∃ found more, read c (word ++ rest) = .ok (found, more) ∧ word.length ≤ more ∧
      (more = word.length → found = ofWord (String.ofList (c :: word))) := by
  rw [read_letter starts, List.takeWhile_append_of_pos continues]
  refine ⟨_, _, rfl, by simp, fun exact => ?_⟩
  have nothing : rest.takeWhile continuesWord = [] := by simpa using exact
  rw [nothing, List.append_nil]

/-- A token is read wherever one is spelled: that one, unless the text spells it on. -/
theorem Spells.read_append {c : Char} {front : List Char} {token : Token}
    (spelt : Spells (c :: front) token) (rest : List Char) :
    ∃ found more, read c (front ++ rest) = .ok (found, more) ∧ front.length ≤ more ∧
      (more = front.length → found = token) := by
  generalize whole : c :: front = characters at spelt
  cases spelt with
  | operator member same =>
    subst whole
    rcases operator_cases member with ⟨d, display, found⟩ | ⟨d, e, display, found⟩
    · obtain ⟨rfl, rfl⟩ := List.cons.inj (same.symm.trans display)
      -- With the next character it may make a longer operator.
      cases longer : rest.head?.bind (pair? c) with
      | some other =>
        refine ⟨other, 1, ?_, Nat.zero_le _, nofun⟩
        simp [read, readFixed, longer]
      | none =>
        refine ⟨token, 0, ?_, Nat.le_refl _, fun _ => rfl⟩
        simp [read, readFixed, longer, found]
    · obtain ⟨rfl, rfl⟩ := List.cons.inj (same.symm.trans display)
      refine ⟨token, 1, ?_, Nat.le_refl _, fun _ => rfl⟩
      simp [read, readFixed, found]
  | keyword member same =>
    obtain ⟨d, word, display, starts, continues, known⟩ := keyword_cases member
    obtain ⟨rfl, rfl⟩ := List.cons.inj (whole.trans (same.symm.trans display))
    have spelt : String.ofList (c :: front) = token.display := by
      rw [whole, ← same, String.ofList_toList]
    rw [← known, ← spelt]
    exact read_spelled_word starts continues rest
  | identifier starts continues others =>
    obtain ⟨rfl, rfl⟩ := List.cons.inj whole
    rcases ofWord_cases (String.ofList (c :: front)) with ⟨token, member, same, -⟩ | ⟨-, spelt⟩
    · exact absurd same (others token member)
    · rw [← spelt]
      exact read_spelled_word starts continues rest
  | @number numeral _ spelt =>
    subst whole
    obtain ⟨d, _, same, digit⟩ := spelt.exists_cons
    obtain ⟨rfl, rfl⟩ := List.cons.inj same
    have nonempty : (c :: (front ++ rest)).takeWhile Char.isDigit ≠ [] := by simp [digit]
    obtain ⟨scanned, found, width, longest⟩ := Number.exists_scanned nonempty
    have starts : c :: front <+: c :: (front ++ rest) := ⟨rest, rfl⟩
    have within := longest.longest _ ⟨numeral, spelt⟩ starts
    rw [width, List.length_cons] at within
    refine ⟨_, _, read_digit digit _, by omega, fun exact => ?_⟩
    -- Of the same text two fronts of one length are the same, and so are their numerals.
    have length : scanned.length = (c :: front).length := by
      rw [width, List.length_cons]
      omega
    have same : scanned = c :: front :=
      (List.prefix_of_prefix_length_le longest.starts starts length.le).eq_of_length length
    rw [same] at found
    rw [found.unique spelt]
  | @text body contents escaped =>
    obtain ⟨rfl, rfl⟩ := List.cons.inj whole
    refine ⟨.text (String.ofList contents), body.length + 1, ?_, by simp, fun _ => rfl⟩
    rw [read_quote, List.append_assoc, List.singleton_append, readText_of_escaped escaped]

theorem Spells.exists_cons {front : List Char} {token : Token} (spelt : Spells front token) :
    ∃ c rest, front = c :: rest := by
  cases spelt with
  | operator member same =>
    rcases operator_cases member with ⟨c, display, -⟩ | ⟨c, d, display, -⟩
    · exact ⟨c, [], same.symm.trans display⟩
    · exact ⟨c, [d], same.symm.trans display⟩
  | keyword member same =>
    obtain ⟨c, word, display, -⟩ := keyword_cases member
    exact ⟨c, word, same.symm.trans display⟩
  | identifier => exact ⟨_, _, rfl⟩
  | number spelt =>
    obtain ⟨c, rest, same, -⟩ := spelt.exists_cons
    exact ⟨c, rest, same⟩
  | text => exact ⟨_, _, rfl⟩

/-- Whether of all that spells a token at the front of the text this is the longest, and spells
this token alone. -/
structure IsLexeme (text front : List Char) (token : Token) : Prop where
  spells : Spells front token
  only : ∀ other, Spells front other → other = token
  longest : IsLongest (fun other => ∃ token, Spells other token) text front

theorem isLexeme_of_read {c : Char} {rest : List Char} {token : Token} {more : Nat}
    (h : read c rest = .ok (token, more)) :
    ∃ front behind, rest = front ++ behind ∧ more = front.length ∧
      IsLexeme (c :: rest) (c :: front) token := by
  obtain ⟨front, behind, rfl, rfl, spelt⟩ := spells_of_read h
  refine ⟨front, behind, rfl, rfl, spelt, fun other also => ?_, ⟨token, spelt⟩, ⟨behind, rfl⟩, ?_⟩
  · obtain ⟨found, more, again, -, same⟩ := also.read_append behind
    rw [h] at again
    cases again
    exact (same rfl).symm
  · rintro other ⟨_, also⟩ starts
    obtain ⟨d, other, rfl⟩ := also.exists_cons
    obtain ⟨rfl, others, same⟩ := List.cons_prefix_cons.mp starts
    obtain ⟨found, more, again, within, -⟩ := also.read_append others
    rw [same, h] at again
    cases again
    exact Nat.succ_le_succ within

/-- Why no token starts with a character: it opens a text that nothing closes, or it is none that
a token starts with. -/
def startError (c : Char) : LexicalError := if c = '"' then .unterminated else .unrecognized c

theorem not_spells_of_read {c : Char} {rest : List Char} {cause : LexicalError}
    (h : read c rest = .error cause) :
    (∀ front token, front <+: c :: rest → ¬ Spells front token) ∧ cause = startError c := by
  constructor
  · intro front token starts spelt
    obtain ⟨d, front, rfl⟩ := spelt.exists_cons
    obtain ⟨rfl, others, rfl⟩ := List.cons_prefix_cons.mp starts
    obtain ⟨found, more, read, -⟩ := spelt.read_append others
    rw [read] at h
    cases h
  · cases fixed : readFixed c rest with
    | some found =>
      rw [read_fixed fixed] at h
      cases h
    | none =>
      by_cases quote : c = '"'
      · subst quote
        rw [read_quote] at h
        split at h
        · cases h
        · cases h
          rfl
      · by_cases digit : c.isDigit = true
        · rw [read_digit digit] at h
          cases h
        · by_cases starts : startsWord c = true
          · rw [read_letter starts] at h
            cases h
          · rw [read_unrecognized fixed quote digit starts] at h
            cases h
            rw [startError, if_neg quote]

end Token

end EventScript
