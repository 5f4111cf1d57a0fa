import EventScript.Proofs.Program.Derivation

/-!
# Recognised scripts

The sources that compile without a registry are those whose lines have tokens that the grammar of
scripts derives. Their braces and keywords are where they belong.
-/

namespace EventScript

/-! ### Braces and clauses -/

inductive IsHeader : List Lexeme → Prop where
  | opening (column : Nat) {condition : List Lexeme} :
      Converts condition → IsHeader (⟨column, .ifKeyword⟩ :: condition)
  | alternative (column : Nat) {condition : List Lexeme} :
      Converts condition → IsHeader (⟨column, .elseifKeyword⟩ :: condition)
  | otherwise (column : Nat) : IsHeader [⟨column, .elseKeyword⟩]

namespace Token

def startsClause : Token → Bool
  | ifKeyword | elseifKeyword | elseKeyword => true
  | _ => false

def continuesChain : Token → Bool
  | elseifKeyword | elseKeyword => true
  | _ => false

end Token

def Symbol.holds (token : Token) : Symbol → Bool
  | .token lexeme => lexeme.token == token
  | .lineEnd => false

def occurrences (token : Token) (symbols : List Symbol) : Nat := symbols.countP (Symbol.holds token)

/-- Whether the braces and keywords of a chunk belong where it stands, behind these symbols. -/
structure Chunk.IsPlaced (chunk : Chunk) (before : List Symbol) : Prop where
  opens : chunk.endsIn .openBrace = true ↔ IsHeader chunk.tokens
  keyword : ∀ lexeme ∈ chunk.tokens, lexeme.token.startsClause = true → IsHeader chunk.tokens
  continues : ∀ lexeme ∈ chunk.tokens, lexeme.token.continuesChain = true →
    ∃ outer chain gap, before = outer ++ (chain ++ gap) ∧ IsChain chain ∧ IsGap gap
  closes : chunk.endsIn .closeBrace = true →
    occurrences .closeBrace before < occurrences .openBrace before

structure IsWellNested (symbols : List Symbol) : Prop where
  balanced : occurrences .openBrace symbols = occurrences .closeBrace symbols
  placed : ∀ before chunk after, Chunk.cut [] symbols = before ++ chunk :: after →
    chunk.IsPlaced (before.flatMap Chunk.symbols)

theorem occurrences_append (token : Token) (first second : List Symbol) :
    occurrences token (first ++ second) = occurrences token first + occurrences token second :=
  List.countP_append

theorem occurrences_spelled {token : Token} {tokens : List Lexeme}
    (other : ∀ lexeme ∈ tokens, lexeme.token ≠ token) : occurrences token (spelled tokens) = 0 := by
  rw [occurrences, List.countP_eq_zero]
  intro symbol member
  obtain ⟨lexeme, inside, rfl⟩ := List.mem_map.mp member
  simpa [Symbol.holds] using other lexeme inside

theorem IsHeader.exists_startsClause {tokens : List Lexeme} (header : IsHeader tokens) :
    ∃ lexeme ∈ tokens, lexeme.token.startsClause = true := by
  cases header with
  | opening => exact ⟨_, List.mem_cons_self, rfl⟩
  | alternative => exact ⟨_, List.mem_cons_self, rfl⟩
  | otherwise => exact ⟨_, List.mem_cons_self, rfl⟩

theorem Token.startsClause_of_continuesChain {token : Token}
    (continues : token.continuesChain = true) : token.startsClause = true := by
  cases token <;> first | rfl | cases continues

theorem Token.isStructural_of_startsClause {token : Token} (starts : token.startsClause = true) :
    token.isStructural = true := by
  cases token <;> first | rfl | cases starts

theorem Converts.not_startsClause {tokens : List Lexeme} (converts : Converts tokens) :
    ∀ lexeme ∈ tokens, lexeme.token.startsClause ≠ true := by
  intro lexeme member starts
  have plain := converts.not_structural.2 lexeme member
  rw [Token.isStructural_of_startsClause starts] at plain
  cases plain

theorem IsStatement.not_startsClause {tokens : List Lexeme} (statement : IsStatement tokens) :
    ∀ lexeme ∈ tokens, lexeme.token.startsClause ≠ true := by
  intro lexeme member starts
  have structural := Token.isStructural_of_startsClause starts
  rcases statement.structural member structural with same | same
  · rw [same] at starts
    cases starts
  · rw [same] at starts
    cases starts

namespace Chunk

theorem occurrences_symbols {chunk : Chunk} {token : Token}
    (plain : ∀ lexeme ∈ chunk.tokens, lexeme.token.isSeparator = false)
    (separator : token.isSeparator = true) :
    occurrences token chunk.symbols = if chunk.endsIn token then 1 else 0 := by
  have inside : occurrences token (spelled chunk.tokens) = 0 := by
    apply occurrences_spelled
    rintro lexeme member rfl
    exact Bool.false_ne_true (plain lexeme member ▸ separator)
  rw [symbols, occurrences_append, inside, Nat.zero_add]
  obtain ⟨tokens, _ | lexeme⟩ := chunk
  · rfl
  · simp [occurrences, ending, endsIn, Symbol.holds, List.countP_cons]

theorem not_endsIn_of_isEnd {chunk : Chunk} (ends : IsEnd chunk.ending) {token : Token}
    (other : token ≠ .semicolon) : chunk.endsIn token = false := by
  obtain ⟨tokens, _ | lexeme⟩ := chunk
  · rfl
  · cases ends
    simpa [endsIn] using other.symm

theorem isPlaced_of_not_startsClause {chunk : Chunk} {before : List Symbol}
    (plain : ∀ lexeme ∈ chunk.tokens, lexeme.token.startsClause ≠ true)
    (shut : chunk.endsIn .openBrace = false)
    (closes : chunk.endsIn .closeBrace = true →
      occurrences .closeBrace before < occurrences .openBrace before) : chunk.IsPlaced before where
  opens := by
    refine iff_of_false (Bool.eq_false_iff.mp shut) fun header => ?_
    obtain ⟨lexeme, member, starts⟩ := header.exists_startsClause
    exact plain lexeme member starts
  keyword lexeme member starts := absurd starts (plain lexeme member)
  continues lexeme member continues :=
    absurd (Token.startsClause_of_continuesChain continues) (plain lexeme member)
  closes := closes

theorem isPlaced_of_isHeader {tokens : List Lexeme} {brace : Nat} {before : List Symbol}
    (header : IsHeader tokens)
    (continues : ∀ lexeme ∈ tokens, lexeme.token.continuesChain = true →
      ∃ outer chain gap, before = outer ++ (chain ++ gap) ∧ IsChain chain ∧ IsGap gap) :
    IsPlaced ⟨tokens, some ⟨brace, .openBrace⟩⟩ before where
  opens := iff_of_true rfl header
  keyword _ _ _ := header
  continues := continues
  closes := nofun

end Chunk

namespace Nesting

theorem Reads.not_separator {before after : Nesting} {chunk : Chunk}
    (reads : Reads before chunk after) :
    ∀ lexeme ∈ chunk.tokens, lexeme.token.isSeparator = false := by
  cases reads with
  | empty nothing ends =>
    rw [nothing]
    exact List.forall_mem_nil _
  | statement statement ends => exact statement.not_separator
  | close brace => exact List.forall_mem_nil _
  | lastStatement brace statement => exact statement.not_separator
  | opening column brace converts => exact converts.header_not_separator column rfl
  | alternative column brace converts => exact converts.header_not_separator column rfl
  | otherwise column brace =>
    intro lexeme member
    rw [List.mem_singleton.mp member]
    rfl

/-- As many clauses are open as braces that no other brace closes. -/
theorem Reads.depth {before after : Nesting} {chunk : Chunk} (reads : Reads before chunk after) :
    before.clauses.length + occurrences .openBrace chunk.symbols =
      after.clauses.length + occurrences .closeBrace chunk.symbols := by
  rw [Chunk.occurrences_symbols reads.not_separator rfl,
    Chunk.occurrences_symbols reads.not_separator rfl]
  cases reads with
  | empty nothing ends =>
    have opens : chunk.endsIn .openBrace = false := Chunk.not_endsIn_of_isEnd ends nofun
    have closes : chunk.endsIn .closeBrace = false := Chunk.not_endsIn_of_isEnd ends nofun
    rw [opens, closes]
  | statement statement ends =>
    have opens : chunk.endsIn .openBrace = false := Chunk.not_endsIn_of_isEnd ends nofun
    have closes : chunk.endsIn .closeBrace = false := Chunk.not_endsIn_of_isEnd ends nofun
    rw [opens, closes]
  | close brace => rfl
  | lastStatement brace statement => rfl
  | opening column brace converts => rfl
  | alternative column brace converts => rfl
  | otherwise column brace => rfl

theorem ReadsAll.depth {before after : Nesting} {chunks : List Chunk}
    (reads : ReadsAll before chunks after) :
    before.clauses.length + occurrences .openBrace (chunks.flatMap Chunk.symbols) =
      after.clauses.length + occurrences .closeBrace (chunks.flatMap Chunk.symbols) := by
  induction reads with
  | nil => rfl
  | cons step _ ih =>
    have first := step.depth
    simp only [List.flatMap_cons, occurrences_append]
    omega

theorem Reads.isPlaced {before after : Nesting} {chunk : Chunk} {read : List Symbol}
    (reads : Reads before chunk after) (begun : before.Begun read)
    (depth : occurrences .openBrace read = before.clauses.length + occurrences .closeBrace read) :
    chunk.IsPlaced read := by
  obtain ⟨outer, inner, rfl, opened, inside⟩ := begun
  cases reads with
  | empty nothing ends =>
    have closes : chunk.endsIn .closeBrace = false := Chunk.not_endsIn_of_isEnd ends nofun
    apply Chunk.isPlaced_of_not_startsClause
    · simp [nothing]
    · exact Chunk.not_endsIn_of_isEnd ends nofun
    · intro shut
      rw [closes] at shut
      cases shut
  | statement statement ends =>
    have closes : chunk.endsIn .closeBrace = false := Chunk.not_endsIn_of_isEnd ends nofun
    apply Chunk.isPlaced_of_not_startsClause statement.not_startsClause
    · exact Chunk.not_endsIn_of_isEnd ends nofun
    · intro shut
      rw [closes] at shut
      cases shut
  | close brace =>
    apply Chunk.isPlaced_of_not_startsClause
    · simp
    · rfl
    · intro _
      simp only [List.length_cons] at depth
      omega
  | lastStatement brace statement =>
    apply Chunk.isPlaced_of_not_startsClause statement.not_startsClause rfl
    intro _
    simp only [List.length_cons] at depth
    omega
  | opening column brace converts =>
    apply Chunk.isPlaced_of_isHeader (.opening column converts)
    intro lexeme member continues
    have starts := Token.startsClause_of_continuesChain continues
    rcases List.mem_cons.mp member with rfl | member
    · cases continues
    · exact absurd starts (converts.not_startsClause lexeme member)
  | alternative column brace converts =>
    cases inside with
    | @closed block chain gap isBlock isChain isGap =>
      apply Chunk.isPlaced_of_isHeader (.alternative column converts)
      intro _ _ _
      exact ⟨outer ++ block, chain, gap, by simp, isChain, isGap⟩
  | otherwise column brace =>
    cases inside with
    | @closed block chain gap isBlock isChain isGap =>
      apply Chunk.isPlaced_of_isHeader (.otherwise column)
      intro _ _ _
      exact ⟨outer ++ block, chain, gap, by simp, isChain, isGap⟩

theorem ReadsAll.isWellNested {symbols : List Symbol} {goesOn : Bool}
    (reads : ReadsAll ⟨[], false⟩ (Chunk.cut [] symbols) ⟨[], goesOn⟩)
    (whole : (Chunk.cut [] symbols).flatMap Chunk.symbols = symbols) : IsWellNested symbols where
  balanced := by
    have depth := reads.depth
    rw [whole] at depth
    simpa using depth
  placed before chunk after cut := by
    rw [cut] at reads
    obtain ⟨between, first, rest⟩ := reads.split
    have begun := first.begun begun_start
    have depth := first.depth
    cases rest with
    | cons step _ =>
      refine step.isPlaced begun ?_
      simpa using depth

end Nesting

/-! ### Scripts that compile -/

theorem Lexes.unique {texts : List (List Char)} {lines others : List (List Lexeme)}
    (first : Lexes texts lines) (second : Lexes texts others) : lines = others := by
  refine Relator.RightUnique.forall₂ ?_ first second
  intro text tokens other lexed again
  exact Except.ok.inj (lexed.symm.trans again)

theorem compile_ok_iff_isBlock (source : String) :
    ((∃ block, compile none source = .ok block) ↔
      ∃ lines, Lexes (Text.lines source.toList) lines ∧ IsBlock (symbols lines)) ∧
    ∀ lines, Lexes (Text.lines source.toList) lines → ¬ IsWellNested (symbols lines) →
      ∃ error, compile none source = .error error := by
  constructor
  · rw [compile_ok_iff_readsAll]
    constructor
    · rintro ⟨lines, goesOn, lexes, reads⟩
      have begun := reads.begun Nesting.begun_start
      rw [List.nil_append, flatMap_symbols_cut_symbols] at begun
      exact ⟨lines, lexes, begun.isBlock⟩
    · rintro ⟨lines, lexes, isBlock⟩
      have nothing : Nesting.Accepts ⟨[], false⟩ (Chunk.cut [] []) := ⟨false, .nil _⟩
      obtain ⟨goesOn, reads⟩ := isBlock.accepts nothing false
      rw [List.append_nil] at reads
      exact ⟨lines, goesOn, lexes, reads⟩
  · intro lines lexes misplaced
    cases compiled : compile none source with
    | error error => exact ⟨error, rfl⟩
    | ok block =>
      obtain ⟨others, goesOn, again, reads⟩ := (compile_ok_iff_readsAll source).mp ⟨block, compiled⟩
      obtain rfl := lexes.unique again
      exact absurd (reads.isWellNested (flatMap_symbols_cut_symbols lines)) misplaced

end EventScript
