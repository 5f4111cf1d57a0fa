import EventScript.Engine
import EventScript.Proofs.Machine.Ends
import EventScript.Proofs.Machine.Evaluation
import EventScript.Proofs.Machine.Related
import EventScript.Proofs.Memory.Assigned
import EventScript.Proofs.Program.Joining
import EventScript.Proofs.Token.Onward

/-!
# Literals

Every text can be written between quotes, so that a script may assign any text to a name.
-/

namespace EventScript

/-! ### The written form -/

namespace Token

def escape : Char → List Char
  | '"' => ['\\', '"']
  | '\\' => ['\\', '\\']
  | '\n' => ['\\', 'n']
  | '\t' => ['\\', 't']
  | c => [c]

def literal (s : String) : String := String.ofList ('"' :: (s.toList.flatMap escape ++ ['"']))

theorem toList_literal (s : String) :
    (literal s).toList = '"' :: (s.toList.flatMap escape ++ ['"']) := String.toList_ofList

theorem escaped_escape (contents : List Char) : Escaped (contents.flatMap escape) contents := by
  induction contents with
  | nil => exact .nil
  | cons c contents ih =>
    rw [List.flatMap_cons]
    unfold escape
    split
    · exact .quote ih
    · exact .backslash ih
    · exact .newline ih
    · exact .tab ih
    · next quote backslash _ _ => exact .plain quote backslash ih

theorem newline_not_mem_escape (c : Char) : '\n' ∉ escape c := by
  unfold escape
  split
  · decide
  · decide
  · decide
  · decide
  · next newline _ => exact fun member => newline (List.mem_singleton.mp member).symm

theorem newline_not_mem_literal (s : String) : '\n' ∉ (literal s).toList := by
  rw [toList_literal]
  intro member
  rcases List.mem_cons.mp member with same | member
  · exact absurd same (by decide)
  · rcases List.mem_append.mp member with member | member
    · obtain ⟨c, -, member⟩ := List.mem_flatMap.mp member
      exact newline_not_mem_escape c member
    · exact absurd member (by decide)

/-- No escape of the text is taken for its end, or its end for a character of it. -/
theorem read_literal (contents rest : List Char) :
    read '"' (contents.flatMap escape ++ '"' :: rest) =
      .ok (text (String.ofList contents), (contents.flatMap escape).length + 1) := by
  rw [read_quote, readText_of_escaped (escaped_escape contents)]

/-! ### Names -/

theorem Spells.exists_word {name : String} {characters : List Char}
    (spelt : Spells characters (ident name)) :
    ∃ c word, characters = c :: word ∧ startsWord c = true ∧
      (∀ d ∈ word, continuesWord d = true) ∧ ofWord (String.ofList (c :: word)) = ident name := by
  cases spelt with
  | operator member => exact absurd member (by simp [operators])
  | keyword member => exact absurd member (by simp [keywords])
  | @identifier c word starts continues others =>
    refine ⟨c, word, rfl, starts, continues, ?_⟩
    rcases ofWord_cases (String.ofList (c :: word)) with ⟨token, member, same, -⟩ | ⟨-, spelt⟩
    · exact absurd same (others token member)
    · exact spelt

theorem newline_not_mem_word {c : Char} {word : List Char} (starts : startsWord c = true)
    (continues : ∀ d ∈ word, continuesWord d = true) : '\n' ∉ c :: word := by
  intro member
  rcases List.mem_cons.mp member with rfl | member
  · exact absurd starts (by decide)
  · exact absurd (continues _ member) (by decide)

end Token

/-! ### Lexing -/

namespace Lexer

theorem tokens_nil (column : Nat) : tokens ⟨[], column⟩ = .ok [] := by
  rw [tokens_eq]
  rfl

theorem tokens_literal {gap : List Char} (blanks : IsBlanks gap) (s : String) (column : Nat) :
    tokens ⟨gap ++ (Token.literal s).toList, column⟩ =
      .ok [⟨column + gap.length, .text s⟩] := by
  rw [Token.toList_literal, tokens_of_read blanks (Token.read_literal s.toList []) column,
    String.ofList_toList, List.drop_of_length_le (by simp), tokens_nil]
  rfl

theorem tokens_assignment {name : String} (spelt : Token.Spells name.toList (.ident name))
    (s : String) :
    (ofText (name ++ " = " ++ Token.literal s).toList).tokens =
      .ok [⟨1, .ident name⟩, ⟨name.length + 2, .assign⟩, ⟨name.length + 4, .text s⟩] := by
  obtain ⟨c, word, whole, starts, continues, known⟩ := spelt.exists_word
  have blank : IsBlanks [' '] := List.forall_mem_singleton.mpr (by decide)
  generalize quoted : (Token.literal s).toList = literal
  have value (column : Nat) : tokens ⟨' ' :: literal, column⟩ = .ok [⟨column + 1, .text s⟩] := by
    rw [← quoted]
    exact tokens_literal blank s column
  have sign (column : Nat) : tokens ⟨' ' :: '=' :: ' ' :: literal, column⟩ =
      .ok [⟨column + 1, .assign⟩, ⟨column + 3, .text s⟩] := by
    have read : Token.read '=' (' ' :: literal) = .ok (.assign, 0) := Token.read_fixed rfl
    refine (tokens_of_read blank read column).trans ?_
    rw [List.drop_zero, value]
    rfl
  have stopped : (word ++ ' ' :: '=' :: ' ' :: literal).takeWhile Token.continuesWord = word := by
    rw [List.takeWhile_append_of_pos continues, List.takeWhile_cons_of_neg (by decide),
      List.append_nil]
  have first := Token.read_letter starts (word ++ ' ' :: '=' :: ' ' :: literal)
  rw [stopped, known] at first
  have text : (name ++ " = " ++ Token.literal s).toList =
      [] ++ c :: (word ++ ' ' :: '=' :: ' ' :: literal) := by
    rw [String.toList_append, String.toList_append, whole, quoted]
    simp
  have length : name.length = word.length + 1 := by
    rw [← String.length_toList, whole, List.length_cons]
  have width : 1 + ([] : List Char).length + (word.length + 1) = name.length + 1 := by
    rw [length, List.length_nil]
    omega
  rw [text, ofText, tokens_of_read (List.forall_mem_nil _) first, List.drop_left, width, sign]
  rfl

end Lexer

/-! ### Assignments -/

section Assignments

variable {σ : Type} [EventSink σ]

open Machine

theorem Machine.run_assign_value {context : Context} {name : String} {memory : Memory σ}
    (room : 0 < context.config.stackLimit) (allowed : memory.isConstant name = false)
    (unshared : context.constants.isConstant name = false) (line : Nat) (scope : Scope)
    (value : Value) :
    Machine.run context [⟨line, .perform (.assign scope name [.push value])⟩] memory =
      (.ok { executed := 1 }, memory.assign scope name value) := by
  have evaluated : evaluate (σ := σ) context [.push value] = pure (some value) := by
    rw [evaluate, executeAll_push [] (show ([] : List Slot).length < _ from room)]
    rfl
  have performed : perform context (.assign scope name [.push value]) none memory =
      (.ok none, memory.assign scope name value) := by
    unfold perform
    dsimp only
    rw [evaluated]
    change (assign context scope name value >>= fun _ => pure none) memory = _
    rw [Run.bind_apply, assign_apply, allowed, unshared]
    rfl
  have carried : carryOut context {} 0 ⟨line, .perform (.assign scope name [.push value])⟩ memory =
      (.ok ({ executed := 1 }, 1), memory.assign scope name value) := by
    unfold carryOut
    dsimp only
    rw [Run.bind_apply, located, Run.adapt_apply, performed]
    rfl
  have forward (step : Step) : Block.Forward 0 1 [⟨line, .perform step⟩] := by
    refine ⟨?_, trivial⟩
    rintro target ⟨⟩
  exact ((ends_iff_run (forward _) memory _).mp
    (.turn Nat.zero_lt_one carried (.outside (Nat.le_refl 1)))).symm

end Assignments

theorem lines_assignment {name : String} (spelt : Token.Spells name.toList (.ident name))
    (s : String) :
    Text.lines (name ++ " = " ++ Token.literal s).toList =
      [(name ++ " = " ++ Token.literal s).toList] := by
  obtain ⟨c, word, whole, starts, continues, -⟩ := spelt.exists_word
  have noNewline : '\n' ∉ (name ++ " = " ++ Token.literal s).toList := by
    rw [String.toList_append, String.toList_append, List.append_assoc]
    intro member
    rcases List.mem_append.mp member with member | member
    · rw [whole] at member
      exact Token.newline_not_mem_word starts continues member
    · rcases List.mem_append.mp member with member | member
      · exact absurd member (by decide)
      · exact Token.newline_not_mem_literal s member
  have apart := Text.linesAfter_append_of_not_mem noNewline [] []
  rw [List.append_nil, List.append_nil] at apart
  rw [Text.lines, apart, Text.linesAfter, List.reverse_reverse]
  simp [whole]

theorem compile_assignment (registry : Option Registry) {name : String}
    (spelt : Token.Spells name.toList (.ident name)) (s : String) :
    compile registry (name ++ " = " ++ Token.literal s) =
      .ok [⟨1, .perform (.assign .nearest name [.push (.text s)])⟩] := by
  let tokens : List Lexeme :=
    [⟨1, .ident name⟩, ⟨name.length + 2, .assign⟩, ⟨name.length + 4, .text s⟩]
  have checked (column : Nat) :
      Postfix.checked registry 1 false [⟨column, .text s⟩] = .ok [.push (.text s)] := by
    refine Postfix.checked_eq_ok.mpr ⟨rfl, ?_⟩
    cases registry with
    | none => rfl
    | some registry => rfl
  have step : Chunk.step registry 1 tokens = .ok (.assign .nearest name [.push (.text s)]) := by
    rw [Chunk.step, checked]
    rfl
  have read : Assembler.read registry 1 .start ⟨tokens, none⟩ =
      .ok ⟨[⟨1, .perform (.assign .nearest name [.push (.text s)])⟩], [], none⟩ := by
    change Chunk.step registry 1 tokens >>= _ = _
    rw [step]
    rfl
  have split : Chunk.split tokens = [⟨tokens, none⟩] := rfl
  have line : Chunk.foldLine (Assembler.read registry) .start 1
      (name ++ " = " ++ Token.literal s).toList = Assembler.read registry 1 .start ⟨tokens, none⟩ := by
    rw [Chunk.foldLine_of_tokens (Lexer.tokens_assignment spelt s), split, List.foldlM_cons, read]
    rfl
  unfold compile
  dsimp only
  rw [lines_assignment spelt, Chunk.foldLines, line, read]
  rfl

/-- A text written as a literal is lexed to that text alone, and a script that assigns the literal
to a name that is no constant stores the text under the name, and nothing else. -/
theorem run_assign_literal (s : String) :
    (Lexer.ofText (Token.literal s).toList).tokens = .ok [⟨1, .text s⟩] ∧
      ∀ (registry : Option Registry) (engine : Engine) (name : String),
        Token.Spells name.toList (.ident name) → 0 < engine.config.stackLimit →
        engine.constants.isConstant name = false →
        ∃ block, compile registry (name ++ " = " ++ Token.literal s) = .ok block ∧
          ∀ {σ : Type} [EventSink σ] (memory : Memory σ),
            memory.locals.isConstant name = false →
            ∃ locals, engine.run block memory = (.ok { executed := 1 }, { memory with locals }) ∧
              locals.lookup name = some (.text s) ∧
              ∀ other, name ≠ other → locals.lookup other = memory.locals.lookup other := by
  have lexed := Lexer.tokens_literal (List.forall_mem_nil _) s 1
  rw [List.nil_append] at lexed
  refine ⟨lexed, ?_⟩
  intro registry engine name spelt room unshared
  refine ⟨_, compile_assignment registry spelt s, fun memory free => ?_⟩
  have allowed : { memory with globals := none }.isConstant name = false := by
    simp [Memory.isConstant, free]
  have room : 0 < (engine.context none ∅).config.stackLimit := room
  have ran := Machine.run_assign_value room allowed unshared 1 .nearest (.text s)
  refine ⟨memory.locals.assigned name (.text s), ?_, SymbolTable.lookup_assigned_self free _, ?_⟩
  · unfold Engine.run Block.runLocally Block.run
    dsimp only [ExceptT.run]
    rw [ran]
    rfl
  · exact fun other different => memory.locals.lookup_assigned_other different _

theorem run_assign_literal_speech :
    Token.Spells "speech".toList (.ident "speech") ∧
      Engine.standard.constants.isConstant "speech" = false ∧
      (SymbolTable.empty.declare "crew" (.number 3)).isConstant "speech" = false ∧
      ∃ block locals,
        compile (some Engine.standard.registry)
          ("speech = " ++ "\"say \\\"\\\\n\\\"; # if x \x7b\r\\n\"") = .ok block ∧
        Engine.standard.run block
            (Memory.ofLocals (SymbolTable.empty.declare "crew" (.number 3)) () {}) =
          (.ok { executed := 1 }, Memory.ofLocals locals () {}) ∧
        locals.lookup "speech" = some (.text "say \"\\n\"; # if x \x7b\r\n") := by
  have spelt : Token.Spells "speech".toList (.ident "speech") :=
    .identifier (c := 's') (by decide) (List.all_eq_true.mp rfl) (by decide +kernel)
  have unshared : Engine.standard.constants.isConstant "speech" = false := by decide +kernel
  have free : (SymbolTable.empty.declare "crew" (.number 3)).isConstant "speech" = false := by
    decide +kernel
  obtain ⟨block, compiled, runs⟩ :=
    (run_assign_literal "say \"\\n\"; # if x \x7b\r\n").2 (some Engine.standard.registry) .standard
      "speech" spelt (by decide) unshared
  obtain ⟨locals, ran, stored, -⟩ :=
    runs (Memory.ofLocals (SymbolTable.empty.declare "crew" (.number 3)) () {}) free
  refine ⟨spelt, unshared, free, block, locals, ?_, ran, stored⟩
  rw [← compiled]
  rfl

end EventScript
