import Mathlib.Data.List.Forall2
import EventScript.Proofs.Program.Nesting

/-!
# Reading a whole script

A source compiles without a registry exactly if the chunks of its symbols can be read one after the
other, from no open clause to none.
-/

namespace EventScript

/-! ### Cutting symbols -/

namespace Chunk

/-- The chunks of symbols whose first chunk already holds `begun`, given backwards. Every line end
ends a chunk. -/
def cut (begun : List Lexeme) : List Symbol → List Chunk
  | [] => []
  | .lineEnd :: rest => ⟨begun.reverse, none⟩ :: cut [] rest
  | .token lexeme :: rest =>
    if lexeme.token.isSeparator then ⟨begun.reverse, some lexeme⟩ :: cut [] rest
    else cut (lexeme :: begun) rest

theorem isCut_of_mem_cut {begun : List Lexeme} {symbols : List Symbol} :
    ∀ chunk ∈ cut begun symbols, chunk.IsCut := by
  induction symbols generalizing begun with
  | nil => simp [cut]
  | cons symbol rest ih =>
    intro chunk member
    cases symbol with
    | lineEnd =>
      rcases List.mem_cons.mp member with rfl | member
      · simp [IsCut]
      · exact ih chunk member
    | token lexeme =>
      rw [cut] at member
      split at member
      · next separator =>
        rcases List.mem_cons.mp member with rfl | member
        · simpa [IsCut] using separator
        · exact ih chunk member
      · exact ih chunk member

/-- Tokens that are no separators stay in one chunk. -/
theorem cut_spelled {tokens : List Lexeme}
    (plain : ∀ lexeme ∈ tokens, lexeme.token.isSeparator = false) (begun : List Lexeme)
    (rest : List Symbol) :
    cut begun (spelled tokens ++ rest) = cut (tokens.reverse ++ begun) rest := by
  induction tokens generalizing begun with
  | nil => rfl
  | cons lexeme tokens ih =>
    have first := plain lexeme List.mem_cons_self
    have others := fun other member => plain other (List.mem_cons_of_mem lexeme member)
    change cut begun (.token lexeme :: (spelled tokens ++ rest)) = _
    rw [cut, first, if_neg Bool.false_ne_true, ih others]
    simp

theorem cut_ended (tokens : List Lexeme)
    (plain : ∀ lexeme ∈ tokens, lexeme.token.isSeparator = false) {symbol : Symbol}
    (ends : IsEnd symbol) (rest : List Symbol) :
    ∃ terminator, ending ⟨tokens, terminator⟩ = symbol ∧
      cut [] (spelled tokens ++ symbol :: rest) = ⟨tokens, terminator⟩ :: cut [] rest := by
  rw [cut_spelled plain]
  cases ends with
  | semicolon column => exact ⟨some ⟨column, .semicolon⟩, rfl, by simp [cut, Token.isSeparator]⟩
  | lineEnd => exact ⟨none, rfl, by simp [cut]⟩

theorem cut_separated (tokens : List Lexeme)
    (plain : ∀ lexeme ∈ tokens, lexeme.token.isSeparator = false) (separator : Lexeme)
    (separates : separator.token.isSeparator = true) (rest : List Symbol) :
    cut [] (spelled tokens ++ .token separator :: rest) =
      ⟨tokens, some separator⟩ :: cut [] rest := by
  rw [cut_spelled plain, cut, if_pos separates]
  simp

theorem cut_lines (begun : List Lexeme) (line rest : List Symbol) :
    cut begun (line ++ .lineEnd :: rest) = cut begun (line ++ [.lineEnd]) ++ cut [] rest := by
  induction line generalizing begun with
  | nil => rfl
  | cons symbol line ih =>
    cases symbol with
    | lineEnd => simp only [List.cons_append, cut, ih]
    | token lexeme =>
      simp only [List.cons_append, cut]
      split
      · rw [ih, List.cons_append]
      · exact ih _

/-- No symbol is lost. -/
theorem flatMap_symbols_cut (begun : List Lexeme) (line : List Symbol) :
    (cut begun (line ++ [.lineEnd])).flatMap symbols =
      spelled begun.reverse ++ (line ++ [.lineEnd]) := by
  induction line generalizing begun with
  | nil => simp [cut, symbols, ending]
  | cons symbol line ih =>
    cases symbol with
    | lineEnd =>
      simp only [List.cons_append, cut, List.flatMap_cons, ih]
      simp [symbols, ending, spelled]
    | token lexeme =>
      simp only [List.cons_append, cut]
      split
      · rw [List.flatMap_cons, ih]
        simp [symbols, ending, spelled]
      · rw [ih]
        simp [spelled]

end Chunk

theorem symbols_cons (tokens : List Lexeme) (lines : List (List Lexeme)) :
    symbols (tokens :: lines) = spelled tokens ++ .lineEnd :: symbols lines := by
  simp [symbols]

theorem cut_symbols_cons (tokens : List Lexeme) (lines : List (List Lexeme)) :
    Chunk.cut [] (symbols (tokens :: lines)) =
      Chunk.cut [] (spelled tokens ++ [.lineEnd]) ++ Chunk.cut [] (symbols lines) := by
  rw [symbols_cons, Chunk.cut_lines]

theorem flatMap_symbols_cut_symbols (lines : List (List Lexeme)) :
    (Chunk.cut [] (symbols lines)).flatMap Chunk.symbols = symbols lines := by
  induction lines with
  | nil => rfl
  | cons tokens lines ih =>
    rw [cut_symbols_cons, List.flatMap_append, ih, Chunk.flatMap_symbols_cut, symbols_cons]
    simp [spelled]

/-! ### Reading chunks -/

namespace Nesting

inductive ReadsAll : Nesting → List Chunk → Nesting → Prop where
  | nil (nesting : Nesting) : ReadsAll nesting [] nesting
  | cons {first second third : Nesting} {chunk : Chunk} {chunks : List Chunk} :
      Reads first chunk second → ReadsAll second chunks third →
      ReadsAll first (chunk :: chunks) third

theorem ReadsAll.append {first second third : Nesting} {before after : List Chunk}
    (reads : ReadsAll first before second) (rest : ReadsAll second after third) :
    ReadsAll first (before ++ after) third := by
  induction reads with
  | nil => exact rest
  | cons step _ ih => exact .cons step (ih rest)

theorem ReadsAll.split {before after : List Chunk} {first third : Nesting}
    (reads : ReadsAll first (before ++ after) third) :
    ∃ second, ReadsAll first before second ∧ ReadsAll second after third := by
  induction before generalizing first with
  | nil => exact ⟨first, .nil first, reads⟩
  | cons chunk before ih =>
    cases reads with
    | cons step rest =>
      obtain ⟨second, some, others⟩ := ih rest
      exact ⟨second, .cons step some, others⟩

end Nesting

namespace Outline

/-- A line end behind a separator changes nothing. -/
theorem foldlM_cut (line : Nat) (begun tokens : List Lexeme) (outline : Outline) :
    (Chunk.cut begun (spelled tokens ++ [.lineEnd])).foldlM (read none line) outline =
      (Chunk.splitAfter begun tokens).foldlM (read none line) outline := by
  induction tokens generalizing begun outline with
  | nil =>
    -- With nothing begun the end of the line is a chunk of its own, which reads as no statement.
    cases begun with
    | nil => rfl
    | cons lexeme begun => simp [spelled, Chunk.cut, Chunk.splitAfter]
  | cons lexeme tokens ih =>
    change (Chunk.cut begun (.token lexeme :: (spelled tokens ++ [.lineEnd]))).foldlM _ _ = _
    rw [Chunk.cut, Chunk.splitAfter]
    split
    · simp only [List.foldlM_cons, ih]
    · exact ih _ _

theorem readsAll_of_foldlM {line : Nat} {chunks : List Chunk} {outline next : Outline}
    (cut : ∀ chunk ∈ chunks, chunk.IsCut)
    (h : chunks.foldlM (read none line) outline = .ok next) :
    outline.nesting.ReadsAll chunks next.nesting := by
  induction chunks generalizing outline with
  | nil =>
    cases h
    exact .nil _
  | cons chunk chunks ih =>
    rw [List.foldlM_cons] at h
    obtain ⟨between, first, h⟩ := bind_ok h
    have others := fun other member => cut other (List.mem_cons_of_mem chunk member)
    exact .cons (nesting_of_read (cut chunk List.mem_cons_self) first) (ih others h)

theorem exists_foldlM {chunks : List Chunk} {outline : Outline} {nesting : Nesting}
    (reads : outline.nesting.ReadsAll chunks nesting) (line : Nat) :
    ∃ next, chunks.foldlM (read none line) outline = .ok next ∧ next.nesting = nesting := by
  induction chunks generalizing outline with
  | nil =>
    cases reads
    exact ⟨outline, rfl, rfl⟩
  | cons chunk chunks ih =>
    cases reads with
    | cons step rest =>
      obtain ⟨between, first, rfl⟩ := exists_read step line
      obtain ⟨next, others, same⟩ := ih rest
      refine ⟨next, ?_, same⟩
      rw [List.foldlM_cons, first]
      exact others

end Outline

def Lexes (texts : List (List Char)) (lines : List (List Lexeme)) : Prop :=
  List.Forall₂ (fun text tokens => (Lexer.ofText text).tokens = .ok tokens) texts lines

namespace Outline

theorem readsAll_of_foldLines {line : Nat} {texts : List (List Char)} {outline next : Outline}
    (h : Chunk.foldLines (read none) outline line texts = .ok next) :
    ∃ lines, Lexes texts lines ∧
      outline.nesting.ReadsAll (Chunk.cut [] (symbols lines)) next.nesting := by
  induction texts generalizing outline line with
  | nil =>
    cases h
    exact ⟨[], .nil, .nil _⟩
  | cons text texts ih =>
    obtain ⟨between, first, h⟩ := bind_ok h
    obtain ⟨tokens, lexed, first⟩ := bind_ok first
    obtain ⟨lines, others, reads⟩ := ih h
    refine ⟨tokens :: lines, .cons (mapError_ok lexed) others, ?_⟩
    rw [Chunk.split, ← foldlM_cut] at first
    rw [cut_symbols_cons]
    exact (readsAll_of_foldlM Chunk.isCut_of_mem_cut first).append reads

theorem exists_foldLines {texts : List (List Char)} {lines : List (List Lexeme)}
    (lexes : Lexes texts lines) {outline : Outline} {nesting : Nesting}
    (reads : outline.nesting.ReadsAll (Chunk.cut [] (symbols lines)) nesting) (line : Nat) :
    ∃ next, Chunk.foldLines (read none) outline line texts = .ok next ∧
      next.nesting = nesting := by
  induction lexes generalizing outline line with
  | nil =>
    cases reads
    exact ⟨outline, rfl, rfl⟩
  | @cons text tokens texts lines lexed _ ih =>
    rw [cut_symbols_cons] at reads
    obtain ⟨second, some, others⟩ := reads.split
    obtain ⟨between, first, rfl⟩ := exists_foldlM some line
    obtain ⟨next, rest, same⟩ := ih others (line + 1)
    refine ⟨next, ?_, same⟩
    rw [foldlM_cut] at first
    rw [Chunk.foldLines, Chunk.foldLine_of_tokens lexed, Chunk.split, first]
    exact rest

theorem finish_iff (outline : Outline) :
    (∃ program, outline.finish = .ok program) ↔ outline.nesting.clauses = [] := by
  obtain ⟨_ | ⟨clause, clauses⟩, tail⟩ := outline
  · exact iff_of_true ⟨_, rfl⟩ rfl
  · refine iff_of_false ?_ nofun
    rintro ⟨program, h⟩
    cases h

end Outline

theorem compile_ok_iff_readsAll (source : String) :
    (∃ block, compile none source = .ok block) ↔
      ∃ lines goesOn, Lexes (Text.lines source.toList) lines ∧
        Nesting.ReadsAll ⟨[], false⟩ (Chunk.cut [] (symbols lines)) ⟨[], goesOn⟩ := by
  constructor
  · rintro ⟨block, compiled⟩
    rw [compile_eq] at compiled
    obtain ⟨program, spelt, -⟩ := map_ok compiled
    obtain ⟨outline, read, finished⟩ := bind_ok spelt
    obtain ⟨lines, lexes, reads⟩ := Outline.readsAll_of_foldLines read
    have closed := outline.finish_iff.mp ⟨program, finished⟩
    have final : outline.nesting = ⟨[], outline.nesting.goesOn⟩ := by rw [← closed]
    rw [final] at reads
    exact ⟨lines, outline.nesting.goesOn, lexes, reads⟩
  · rintro ⟨lines, goesOn, lexes, reads⟩
    change Outline.start.nesting.ReadsAll _ _ at reads
    obtain ⟨outline, read, nesting⟩ := Outline.exists_foldLines lexes reads 1
    obtain ⟨program, finished⟩ := outline.finish_iff.mpr (by rw [nesting])
    refine ⟨program.toBlock, ?_⟩
    rw [compile_eq, Program.ofSource, read]
    change outline.finish.map Program.toBlock = _
    rw [finished]
    rfl

end EventScript
