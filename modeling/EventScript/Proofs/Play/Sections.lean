import EventScript.Play
import EventScript.Proofs.Outcome
import EventScript.Proofs.Program.Joining
import EventScript.Proofs.Program.Positions
import EventScript.Proofs.Text.Words
import Mathlib.Data.List.Induction

/-!
# Sections of a play file

A play file is a list of lines: remarks, then for each section its header and the lines up to the
next one. The script of a section has these lines in the same places as the file.
-/

namespace EventScript

/-! ### Errors of a script -/

theorem Assembler.finish_error {assembler : Assembler} {error : ScriptError}
    (h : assembler.finish = .error error) :
    ∃ conditional ∈ assembler.opened,
      error = .grammar conditional.line conditional.column .unclosedBrace := by
  unfold finish at h
  split at h
  · cases h
  · next conditional opened same =>
    cases h
    exact ⟨conditional, same ▸ List.mem_cons_self, rfl⟩

/-- A source is refused for one of its lines, and never for an empty one. -/
theorem exists_refused_line {registry : Option Registry} {source : String} {error : ScriptError}
    (failed : compile registry source = .error error) :
    ∃ before text after, Text.lines source.toList = before ++ text :: after ∧ text ≠ [] ∧
      error.line? = some (before.length + 1) ∧ error.PointsInto text := by
  rcases bind_error failed with stopped | ⟨assembler, read, unfinished⟩
  · obtain ⟨before, text, after, assembler, same, -, stopped⟩ := Chunk.foldLines_error stopped
    rw [Nat.add_comm] at stopped
    obtain ⟨-, line, points⟩ := Chunk.foldLine_error_placed stopped
    refine ⟨before, text, after, same, ?_, line, points⟩
    rintro rfl
    rw [Chunk.foldLine_nil] at stopped
    cases stopped
  · obtain ⟨conditional, opened, rfl⟩ := Assembler.finish_error unfinished
    obtain ⟨before, text, after, tokens, same, line, lexed, member⟩ :=
      (Chunk.foldLines_marks read).1 conditional opened
    rw [line]
    refine ⟨before, text, after, same, ?_, rfl, ?_⟩
    · rintro rfl
      rw [Lexer.tokens_eq] at lexed
      cases lexed
      cases member
    · exact .of_mem_tokens lexed (List.mem_map_of_mem member) _

namespace Play

/-! ### Lines -/

def headerMark : List Char := "@on".toList

def IsHeader (line : List Char) : Prop := (Text.words line).head? = some headerMark

def IsRemark (line : List Char) : Prop :=
  ∀ word ∈ (Text.words line).head?, word.head? = some '#'

theorem isHeader_iff {line : List Char} :
    IsHeader line ↔ ∃ names, Text.words line = headerMark :: names :=
  List.head?_eq_some_iff

theorem headerMark_solid : ∀ c ∈ headerMark, Text.isBlank c = false := by
  have solid : headerMark.any Text.isBlank = false := rfl
  simpa using List.any_eq_false.mp solid

theorem words_of_header? {line rest : List Char} (found : header? line = some rest) :
    Text.words line = headerMark :: Text.words rest := by
  obtain ⟨begun, ended⟩ := Option.filter_eq_some_iff.mp found
  rw [Text.after?_eq_some_iff] at begun
  exact (Text.words_eq_cons_iff (by decide) headerMark_solid).mpr ⟨rest, begun, ended, rfl⟩

theorem exists_header? {line : List Char} {names : List (List Char)}
    (header : Text.words line = headerMark :: names) :
    ∃ rest, header? line = some rest ∧ Text.words rest = names := by
  obtain ⟨rest, begun, ended, named⟩ :=
    (Text.words_eq_cons_iff (by decide) headerMark_solid).mp header
  exact ⟨rest, Option.filter_eq_some_iff.mpr ⟨Text.after?_eq_some_iff.mpr begun, ended⟩, named⟩

theorem header?_eq_none {line : List Char} (plain : ¬ IsHeader line) : header? line = none := by
  cases found : header? line with
  | none => rfl
  | some rest => exact absurd (isHeader_iff.mpr ⟨_, words_of_header? found⟩) plain

theorem isComment_iff {line : List Char} : isComment line = true ↔ IsRemark line := by
  unfold isComment IsRemark
  rw [Bool.or_eq_true, List.isEmpty_iff, beq_iff_eq]
  rcases Text.trim_cases line with ⟨empty, none⟩ | ⟨word, rest, whole, cut, nonempty, -⟩
  · simp [empty, none]
  · obtain ⟨c, word, rfl⟩ := List.exists_cons_of_ne_nil nonempty
    simp [whole, cut]

/-! ### Reading a line -/

section

variable {number : Nat} {line event : List Char}

theorem readLine_header (header : Text.words line = [headerMark, event]) (sections : List Section) :
    readLine number sections line =
      .ok (⟨String.ofList event, List.replicate number '\n'⟩ :: sections) := by
  obtain ⟨rest, found, named⟩ := exists_header? header
  obtain ⟨trimmed, nonempty, solid⟩ := Text.words_eq_singleton_iff.mp named
  have oneWord : (event.isEmpty || event.any Text.isBlank) = false := by
    rw [Bool.or_eq_false_iff, List.isEmpty_eq_false_iff, List.any_eq_false]
    exact ⟨nonempty, fun c member => Bool.eq_false_iff.mp (solid c member)⟩
  unfold readLine
  rw [found]
  dsimp only
  rw [trimmed, oneWord]
  rfl

theorem readLine_misnamed {names : List (List Char)}
    (header : Text.words line = headerMark :: names) (misnamed : names.length ≠ 1)
    (sections : List Section) : readLine number sections line = .error (.header number) := by
  obtain ⟨rest, found, rfl⟩ := exists_header? header
  have faulty : ((Text.trim rest).isEmpty || (Text.trim rest).any Text.isBlank) = true := by
    rw [← Bool.not_eq_false, Bool.or_eq_false_iff, List.isEmpty_eq_false_iff, List.any_eq_false]
    rintro ⟨nonempty, solid⟩
    refine misnamed ?_
    rw [Text.words_eq_singleton_iff.mpr
      ⟨rfl, nonempty, fun c member => Bool.eq_false_iff.mpr (solid c member)⟩]
    rfl
  unfold readLine
  rw [found]
  dsimp only
  rw [faulty]
  rfl

theorem readLine_plain (plain : ¬ IsHeader line) (latest : Section) (earlier : List Section) :
    readLine number (latest :: earlier) line =
      .ok ({ latest with source := latest.source ++ line ++ ['\n'] } :: earlier) := by
  unfold readLine
  rw [header?_eq_none plain]
  rfl

theorem readLine_remark (plain : ¬ IsHeader line) (remark : IsRemark line) :
    readLine number [] line = .ok [] := by
  unfold readLine
  rw [header?_eq_none plain]
  exact if_pos (isComment_iff.mpr remark)

theorem readLine_outside (plain : ¬ IsHeader line) (code : ¬ IsRemark line) :
    readLine number [] line = .error (.outside number) := by
  unfold readLine
  rw [header?_eq_none plain]
  exact if_neg (mt isComment_iff.mp code)

theorem readLines_append (front back : List (List Char)) (number : Nat) (sections : List Section) :
    readLines number sections (front ++ back) =
      readLines number sections front >>= fun next =>
        readLines (number + front.length) next back := by
  induction front generalizing number sections with
  | nil => rfl
  | cons line front ih =>
    rw [List.cons_append, readLines, readLines]
    cases readLine number sections line with
    | error error => rfl
    | ok next =>
      change readLines (number + 1) next (front ++ back) = _
      rw [ih, List.length_cons, Nat.add_comm front.length 1, ← Nat.add_assoc]
      rfl

theorem readLines_singleton (number : Nat) (sections : List Section) (line : List Char) :
    readLines number sections [line] = readLine number sections line := by
  rw [readLines]
  cases readLine number sections line with
  | error error => rfl
  | ok next => rfl

end

/-! ### Faults -/

/-- Why a line cannot stand behind the lines before it: a header names one event, and only remarks
stand before the first header. -/
inductive IsFault (before : List (List Char)) (line : List Char) : Error → Prop where
  | header {names : List (List Char)} : Text.words line = headerMark :: names → names.length ≠ 1 →
    IsFault before line (.header (before.length + 1))
  | outside : (∀ other ∈ before, ¬ IsHeader other) → ¬ IsHeader line → ¬ IsRemark line →
    IsFault before line (.outside (before.length + 1))

def IsFaultless (lines : List (List Char)) : Prop :=
  ∀ before line after error, lines = before ++ line :: after → ¬ IsFault before line error

def IsFirstFault (lines : List (List Char)) (error : Error) : Prop :=
  ∃ before line after, lines = before ++ line :: after ∧ IsFaultless before ∧
    IsFault before line error

theorem isFaultless_snoc_iff {lines : List (List Char)} {line : List Char} :
    IsFaultless (lines ++ [line]) ↔ IsFaultless lines ∧ ∀ error, ¬ IsFault lines line error := by
  constructor
  · intro faultless
    refine ⟨fun before other after error same => ?_, fun error => faultless lines line [] error rfl⟩
    refine faultless before other (after ++ [line]) error ?_
    rw [same, List.append_assoc, List.cons_append]
  · rintro ⟨faultless, last⟩ before other after error same
    rcases List.eq_nil_or_concat after with rfl | ⟨after, final, rfl⟩
    · obtain ⟨rfl, single⟩ := List.append_inj' same rfl
      obtain rfl := List.singleton_inj.mp single
      exact last error
    · rw [List.concat_eq_append, ← List.cons_append, ← List.append_assoc] at same
      exact faultless before other after error (List.append_inj' same rfl).1

theorem isFaultless_or_exists (lines : List (List Char)) :
    IsFaultless lines ∨ ∃ error, IsFirstFault lines error := by
  induction lines using List.reverseRecOn with
  | nil => exact .inl fun before line after error same => by simp at same
  | append_singleton lines line ih =>
    rcases ih with faultless | ⟨error, before, other, after, rfl, faultless, fault⟩
    · by_cases last : ∃ error, IsFault lines line error
      · obtain ⟨error, fault⟩ := last
        exact .inr ⟨error, lines, line, [], rfl, faultless, fault⟩
      · exact .inl (isFaultless_snoc_iff.mpr ⟨faultless, not_exists.mp last⟩)
    · refine .inr ⟨error, before, other, after ++ [line], ?_, faultless, fault⟩
      rw [List.append_assoc, List.cons_append]

/-! ### Layouts -/

/-- A section as it stands in a file: its header, and the lines up to the next one. -/
structure Part where
  header : List Char
  event : List Char
  body : List (List Char)

namespace Part

def lines (part : Part) : List (List Char) := part.header :: part.body

def «section» (part : Part) (number : Nat) : Section :=
  ⟨String.ofList part.event,
    List.replicate number '\n' ++ part.body.flatMap fun line => line ++ ['\n']⟩

def sections (number : Nat) : List Part → List Section
  | [] => []
  | part :: parts => part.section number :: sections (number + part.lines.length) parts

@[simp] theorem length_sections (number : Nat) (parts : List Part) :
    (sections number parts).length = parts.length := by
  induction parts generalizing number with
  | nil => rfl
  | cons part parts ih => rw [sections, List.length_cons, ih, List.length_cons]

theorem sections_append (number : Nat) (front back : List Part) :
    sections number (front ++ back) =
      sections number front ++ sections (number + (front.flatMap lines).length) back := by
  induction front generalizing number with
  | nil => rfl
  | cons part front ih =>
    rw [List.cons_append, sections, ih, sections, List.flatMap_cons, List.length_append,
      Nat.add_assoc]
    rfl

end Part

structure IsLayout (file preamble : List (List Char)) (parts : List Part) : Prop where
  file_eq : file = preamble ++ parts.flatMap Part.lines
  preamble : ∀ line ∈ preamble, ¬ IsHeader line ∧ IsRemark line
  headers : ∀ part ∈ parts, Text.words part.header = [headerMark, part.event]
  bodies : ∀ part ∈ parts, ∀ line ∈ part.body, ¬ IsHeader line

namespace IsLayout

variable {file preamble : List (List Char)} {parts : List Part}

/-- A header opens a part. -/
theorem opened (layout : IsLayout file preamble parts) {line event : List Char}
    (header : Text.words line = [headerMark, event]) :
    IsLayout (file ++ [line]) preamble (parts ++ [⟨line, event, []⟩]) where
  file_eq := by
    rw [layout.file_eq, List.flatMap_append, List.append_assoc]
    rfl
  preamble := layout.preamble
  headers := by
    intro part member
    rcases List.mem_append.mp member with before | last
    · exact layout.headers part before
    · rw [List.mem_singleton.mp last]
      exact header
  bodies := by
    intro part member
    rcases List.mem_append.mp member with before | last
    · exact layout.bodies part before
    · rw [List.mem_singleton.mp last]
      nofun

/-- Another line goes to the last part. -/
theorem continued {last : Part} (layout : IsLayout file preamble (parts ++ [last]))
    {line : List Char} (plain : ¬ IsHeader line) :
    IsLayout (file ++ [line]) preamble
      (parts ++ [{ last with body := last.body ++ [line] }]) where
  file_eq := by
    simp [layout.file_eq, Part.lines]
  preamble := layout.preamble
  headers := by
    intro part member
    rcases List.mem_append.mp member with before | final
    · exact layout.headers part (List.mem_append_left _ before)
    · rw [List.mem_singleton.mp final]
      exact layout.headers last (List.mem_append_right _ List.mem_cons_self)
  bodies := by
    intro part member
    rcases List.mem_append.mp member with before | final
    · exact layout.bodies part (List.mem_append_left _ before)
    · rw [List.mem_singleton.mp final]
      intro other inBody
      rcases List.mem_append.mp inBody with earlier | now
      · exact layout.bodies last (List.mem_append_right _ List.mem_cons_self) other earlier
      · rw [List.mem_singleton.mp now]
        exact plain

theorem remarked (layout : IsLayout file preamble []) {line : List Char} (plain : ¬ IsHeader line)
    (remark : IsRemark line) : IsLayout (file ++ [line]) (preamble ++ [line]) [] where
  file_eq := by simp [layout.file_eq]
  preamble := by
    intro other member
    rcases List.mem_append.mp member with before | last
    · exact layout.preamble other before
    · rw [List.mem_singleton.mp last]
      exact ⟨plain, remark⟩
  headers := nofun
  bodies := nofun

theorem length_eq (layout : IsLayout file preamble parts) :
    preamble.length + 1 + (parts.flatMap Part.lines).length = 1 + file.length := by
  rw [layout.file_eq, List.length_append]
  omega

end IsLayout

/-- Lines without a fault are read into the sections of their layout. -/
theorem exists_layout {lines : List (List Char)} (faultless : IsFaultless lines) :
    ∃ preamble parts, IsLayout lines preamble parts ∧
      readLines 1 [] lines = .ok (Part.sections (preamble.length + 1) parts).reverse := by
  induction lines using List.reverseRecOn with
  | nil => exact ⟨[], [], ⟨rfl, nofun, nofun, nofun⟩, rfl⟩
  | append_singleton lines line ih =>
    obtain ⟨faultless, last⟩ := isFaultless_snoc_iff.mp faultless
    obtain ⟨preamble, parts, layout, read⟩ := ih faultless
    have next : readLines 1 [] (lines ++ [line]) =
        readLine (1 + lines.length) (Part.sections (preamble.length + 1) parts).reverse line := by
      rw [readLines_append, read]
      exact readLines_singleton _ _ line
    by_cases header : IsHeader line
    · obtain ⟨names, named⟩ := isHeader_iff.mp header
      have single : names.length = 1 :=
        Decidable.byContradiction fun misnamed => last _ (.header named misnamed)
      obtain ⟨event, rfl⟩ := List.length_eq_one_iff.mp single
      refine ⟨preamble, _, layout.opened named, ?_⟩
      rw [next, readLine_header named, Part.sections_append, layout.length_eq]
      simp [Part.sections, Part.section]
    · rcases List.eq_nil_or_concat parts with rfl | ⟨parts, part, rfl⟩
      · have plain : ∀ other ∈ lines, ¬ IsHeader other := by
          intro other member
          rw [layout.file_eq, List.flatMap_nil, List.append_nil] at member
          exact (layout.preamble other member).1
        have remark : IsRemark line := by
          by_contra code
          exact last _ (.outside plain header code)
        refine ⟨_, [], layout.remarked header remark, ?_⟩
        rw [next]
        exact readLine_remark header remark
      · rw [List.concat_eq_append] at layout next
        refine ⟨preamble, _, layout.continued header, ?_⟩
        rw [next, Part.sections_append, Part.sections_append, List.reverse_append,
          List.reverse_append]
        refine (readLine_plain header _ _).trans ?_
        simp [Part.sections, Part.section]

/-- The first fault stops the reading. -/
theorem readLines_isFirstFault {lines : List (List Char)} {error : Error}
    (fault : IsFirstFault lines error) : readLines 1 [] lines = .error error := by
  obtain ⟨before, line, after, rfl, faultless, fault⟩ := fault
  obtain ⟨preamble, parts, layout, read⟩ := exists_layout faultless
  have stopped : readLine (1 + before.length) (Part.sections (preamble.length + 1) parts).reverse
      line = .error error := by
    rw [Nat.add_comm 1]
    cases fault with
    | header named misnamed => exact readLine_misnamed named misnamed _
    | outside plain other code =>
      cases parts with
      | nil => exact readLine_outside other code
      | cons part parts =>
        have inside : part.header ∈ before := by
          rw [layout.file_eq]
          exact List.mem_append_right _ (List.mem_append_left _ List.mem_cons_self)
        have header := isHeader_iff.mpr ⟨_, layout.headers part List.mem_cons_self⟩
        exact absurd header (plain part.header inside)
  rw [readLines_append, read]
  change readLines _ _ (line :: after) = _
  rw [readLines, stopped]
  rfl

/-! ### Scripts -/

theorem Part.lines_section {part : Part} (noNewline : ∀ line ∈ part.body, '\n' ∉ line)
    (number : Nat) :
    Text.lines (part.section number).source =
      List.replicate number [] ++ part.body.map Text.withoutReturn := by
  unfold Part.section
  rw [Text.lines_replicate_newline, Text.lines_flatMap noNewline]

/-- The section is that of a part which stands behind other lines in the file. -/
structure Section.Keeps (found : Section) (file above : List (List Char)) (part : Part) : Prop where
  event : found.event = String.ofList part.event
  /-- The script has an empty line for each line up to the header, and then the lines of the part. -/
  lines : Text.lines found.source =
    List.replicate (above.length + 1) [] ++ part.body.map Text.withoutReturn
  length : (Text.lines found.source).length = (above ++ part.lines).length
  /-- An error of the script names a line of the part by its number in the file. -/
  errors : ∀ registry error, compile registry (String.ofList found.source) = .error error →
    ∃ before text after, file = before ++ text :: after ∧
      above.length < before.length ∧ before.length < (above ++ part.lines).length ∧
      error.line? = some (before.length + 1) ∧ error.PointsInto (Text.withoutReturn text)

theorem Part.keeps {part : Part} {above below : List (List Char)}
    (noNewline : ∀ line ∈ part.body, '\n' ∉ line) :
    (part.section (above.length + 1)).Keeps (above ++ (part.lines ++ below)) above part where
  event := rfl
  lines := part.lines_section noNewline _
  length := by
    rw [part.lines_section noNewline]
    simp only [List.length_append, List.length_replicate, List.length_map, Part.lines,
      List.length_cons]
    omega
  errors := by
    intro registry error failed
    obtain ⟨before, text, after, same, nonempty, line, points⟩ := exists_refused_line failed
    rw [String.toList_ofList, part.lines_section noNewline] at same
    -- The empty lines in front are in order, so the line is one of the part.
    have inner : ∃ front, before = List.replicate (above.length + 1) [] ++ front ∧
        part.body.map Text.withoutReturn = front ++ text :: after := by
      rcases List.append_eq_append_iff.mp same with inside | ⟨front, empty, behind⟩
      · exact inside
      · cases front with
        | nil => exact ⟨[], by simpa using empty.symm, behind.symm⟩
        | cons first front =>
          obtain ⟨rfl, -⟩ := List.cons.inj behind
          have member : text ∈ List.replicate (above.length + 1) [] := by
            rw [empty]
            exact List.mem_append_right _ List.mem_cons_self
          exact absurd (List.eq_of_mem_replicate member) nonempty
    obtain ⟨front, rfl, body⟩ := inner
    obtain ⟨lead, back, split, rfl, ahead⟩ := List.map_eq_append_iff.mp body
    obtain ⟨found, rest, rfl, rfl, -⟩ := List.map_eq_cons_iff.mp ahead
    refine ⟨above ++ part.header :: lead, found, rest ++ below, ?_, ?_, ?_, ?_, points⟩
    · simp [Part.lines, split]
    · simp
    · simp [Part.lines, split]
    · rw [line]
      simp only [List.length_append, List.length_replicate, List.length_map, List.length_cons]
      congr 1
      omega

/-- The section of a part is at the place of the part. -/
theorem IsLayout.exists_entry {text : List Char} {preamble : List (List Char)}
    {before after : List Part} {part : Part}
    (layout : IsLayout (Text.lines text) preamble (before ++ part :: after)) :
    ∃ entry, (Part.sections (preamble.length + 1) (before ++ part :: after))[before.length]? =
        some entry ∧
      entry.Keeps (Text.lines text) (preamble ++ before.flatMap Part.lines) part := by
  have whole : Text.lines text = (preamble ++ before.flatMap Part.lines) ++
      (part.lines ++ after.flatMap Part.lines) := by
    rw [layout.file_eq, List.flatMap_append, List.flatMap_cons, List.append_assoc]
  have noNewline : ∀ line ∈ part.body, '\n' ∉ line := by
    intro line member
    apply Text.newline_not_mem_of_mem_lines
    rw [whole]
    exact List.mem_append_right _ (List.mem_append_left _ (List.mem_cons_of_mem _ member))
  have number : preamble.length + 1 + (before.flatMap Part.lines).length =
      (preamble ++ before.flatMap Part.lines).length + 1 := by
    rw [List.length_append]
    omega
  refine ⟨part.section ((preamble ++ before.flatMap Part.lines).length + 1), ?_, ?_⟩
  · rw [Part.sections_append, List.getElem?_append_right (by simp), Part.length_sections,
      Nat.sub_self, number]
    rfl
  · rw [whole]
    exact Part.keeps noNewline

/-- The sections of a play file are its parts between headers, in order, each with its lines at their
places in the file; besides the headers, only remarks in front belong to none. A file is refused
exactly if it has a header that does not name one event, or code in front of the first header, and
the error names the first such line. -/
theorem sections_placed (source : String) :
    (∀ found, sections source = .ok found →
      ∃ preamble parts, IsLayout (Text.lines source.toList) preamble parts ∧
        found.length = parts.length ∧
        ∀ before part after, parts = before ++ part :: after →
          ∃ entry, found[before.length]? = some entry ∧
            entry.Keeps (Text.lines source.toList) (preamble ++ before.flatMap Part.lines) part) ∧
      ((∃ found, sections source = .ok found) ↔ IsFaultless (Text.lines source.toList)) ∧
      ∀ error, sections source = .error error ↔
        IsFirstFault (Text.lines source.toList) error := by
  let file := Text.lines source.toList
  have read : sections source = (readLines 1 [] file).map List.reverse := rfl
  have accepted : IsFaultless file → ∃ preamble parts, IsLayout file preamble parts ∧
      sections source = .ok (Part.sections (preamble.length + 1) parts) := by
    intro faultless
    obtain ⟨preamble, parts, layout, ended⟩ := exists_layout faultless
    refine ⟨preamble, parts, layout, ?_⟩
    rw [read, ended]
    exact congrArg Except.ok (List.reverse_reverse _)
  have refused : ∀ error, IsFirstFault file error → sections source = .error error := by
    intro error fault
    rw [read, readLines_isFirstFault fault]
    rfl
  have faultless_of_ok : ∀ found, sections source = .ok found → IsFaultless file := by
    intro found ok
    rcases isFaultless_or_exists file with faultless | ⟨error, fault⟩
    · exact faultless
    · rw [refused error fault] at ok
      cases ok
  refine ⟨?_, ⟨?_, ?_⟩, ?_⟩
  · intro found ok
    obtain ⟨preamble, parts, layout, placed⟩ := accepted (faultless_of_ok found ok)
    rw [ok] at placed
    cases placed
    refine ⟨preamble, parts, layout, Part.length_sections _ parts, ?_⟩
    rintro before part after rfl
    exact layout.exists_entry
  · rintro ⟨found, ok⟩
    exact faultless_of_ok found ok
  · intro faultless
    obtain ⟨preamble, parts, -, placed⟩ := accepted faultless
    exact ⟨_, placed⟩
  · intro error
    constructor
    · intro failed
      rcases isFaultless_or_exists file with faultless | ⟨other, fault⟩
      · obtain ⟨preamble, parts, -, placed⟩ := accepted faultless
        rw [placed] at failed
        cases failed
      · rw [refused other fault] at failed
        cases failed
        exact fault
    · exact refused error

end Play

end EventScript
