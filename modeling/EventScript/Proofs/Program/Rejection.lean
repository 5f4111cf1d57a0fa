import EventScript.Proofs.Program.Checked

/-!
# What the check against a registry changes

A source that compiles with a registry compiles to the same block without one. With the registry it
is rejected if a call of a registered function is not in order, and for no other reason.
-/

namespace EventScript

/-- Whether the instruction, in front of others, is no call of a registered function that the
function does not take, and no call of a function without a value other than at the end of a bare
expression. -/
def Instruction.Suits (registry : Registry) (bare : Bool) (after : Postfix) : Instruction → Prop
  | call name count => ∀ function, registry.get? name = some function →
    function.arity.accepts count = true ∧
      (function.returnsValue = false → bare = true ∧ after = [])
  | _ => True

def Postfix.Suits (registry : Registry) (bare : Bool) (code : Postfix) : Prop :=
  ∀ before instruction after, code = before ++ instruction :: after →
    instruction.Suits registry bare after

def Command.Suits (registry : Registry) : Command → Prop
  | .perform (.evaluate code) => code.Suits registry true
  | .perform (.assign _ _ code) | .branch code _ => code.Suits registry false
  | .jump _ => True

def Block.Suits (registry : Registry) (block : Block) : Prop :=
  ∀ statement ∈ block, statement.command.Suits registry

def GrammarError.Blames (registry : Registry) : GrammarError → Prop
  | .wrongArgumentCount name arity count =>
    ∃ function, registry.get? name = some function ∧ function.arity = arity ∧
      arity.accepts count = false
  | .voidResult name =>
    ∃ function, registry.get? name = some function ∧ function.returnsValue = false
  | _ => False

def ScriptError.Blames (registry : Registry) : ScriptError → Prop
  | .grammar _ _ cause => cause.Blames registry
  | _ => False

variable {registry : Registry} {bare : Bool}

/-! ### Expressions -/

namespace Postfix

theorem suits_nil : Postfix.Suits registry bare [] := by
  intro before instruction after split
  cases before <;> cases split

theorem suits_cons {instruction : Instruction} {code : Postfix} :
    Postfix.Suits registry bare (instruction :: code) ↔
      instruction.Suits registry bare code ∧ code.Suits registry bare := by
  constructor
  · intro suits
    refine ⟨suits [] instruction code rfl, ?_⟩
    rintro before other after rfl
    exact suits (instruction :: before) other after rfl
  · rintro ⟨first, rest⟩ before other after split
    cases before with
    | nil =>
      obtain ⟨rfl, rfl⟩ := List.cons.inj split
      exact first
    | cons _ before =>
      obtain ⟨-, rfl⟩ := List.cons.inj split
      exact rest before other after rfl

theorem misuse?_eq_none_iff {code : Postfix} :
    code.misuse? registry bare = none ↔ code.Suits registry bare := by
  induction code with
  | nil => exact ⟨fun _ => suits_nil, fun _ => rfl⟩
  | cons instruction code ih =>
    rw [suits_cons]
    cases instruction with
    | push value => exact ih.trans (and_iff_right trivial).symm
    | load name => exact ih.trans (and_iff_right trivial).symm
    | operate op => exact ih.trans (and_iff_right trivial).symm
    | call name count =>
      rw [misuse?, Instruction.Suits]
      cases found : registry.get? name with
      | none => simp [ih]
      | some function =>
        cases accepted : function.arity.accepts count with
        | false => simp [accepted]
        | true =>
          cases gives : function.returnsValue with
          | false =>
            cases bare with
            | false => simp [accepted, gives]
            | true =>
              cases code with
              | nil => simp [accepted, gives, ih]
              | cons next code => simp [accepted, gives]
          | true => simp [accepted, gives, ih]

theorem misuse?_blames {code : Postfix} {misuse : Misuse}
    (found : code.misuse? registry bare = some misuse) : misuse.cause.Blames registry := by
  induction code with
  | nil => cases found
  | cons instruction code ih =>
    cases instruction with
    | push value => exact ih found
    | load name => exact ih found
    | operate op => exact ih found
    | call name count =>
      rw [misuse?] at found
      split at found
      · exact ih found
      · next function registered =>
        split at found
        · next wrong =>
          cases found
          exact ⟨function, registered, rfl, by simpa using wrong⟩
        · split at found
          · next used =>
            cases found
            rw [Bool.and_eq_true, Bool.not_eq_true'] at used
            exact ⟨function, registered, used.1⟩
          · exact ih found

/-- The check of an expression rejects it or changes nothing. -/
theorem checked_narrows (line : Nat) (tokens : List Lexeme) (start : Prop) :
    Narrows (ScriptError.Blames registry) start (fun code => start ∧ code.Suits registry bare)
      (checked (some registry) line bare tokens) (checked none line bare tokens) := by
  apply Narrows.after
  intro code _
  constructor
  · dsimp only [Option.bind_some, Option.bind_none]
    cases found : code.misuse? registry bare with
    | none => exact .inl rfl
    | some misuse =>
      refine .inr ⟨_, rfl, misuse?_blames found, ?_⟩
      rintro _ ⟨⟩ ⟨-, suits⟩
      rw [misuse?_eq_none_iff.mpr suits] at found
      cases found
  · rintro _ ⟨⟩ ⟨holds, -⟩
    exact holds

end Postfix

/-! ### Sources -/

theorem Chunk.condition_narrows (line column : Nat) (keyword : Token) (header : List Lexeme)
    (start : Prop) :
    Narrows (ScriptError.Blames registry) start (fun code => start ∧ code.Suits registry false)
      (Chunk.condition (some registry) line column keyword header)
      (Chunk.condition none line column keyword header) := by
  unfold Chunk.condition
  split
  · exact .refl nofun
  · exact Postfix.checked_narrows line header start

theorem Chunk.step_narrows (line : Nat) (tokens : List Lexeme) (start : Prop) :
    Narrows (ScriptError.Blames registry) start
      (fun step => start ∧ (Command.perform step).Suits registry)
      (Chunk.step (some registry) line tokens) (Chunk.step none line tokens) := by
  unfold Chunk.step
  split
  · exact (Postfix.checked_narrows line _ start).map _ fun _ => id
  · exact (Postfix.checked_narrows line _ start).map _ fun _ => id
  · exact .refl nofun
  · exact (Postfix.checked_narrows line _ start).map _ fun _ => id

theorem Block.suits_append {first second : Block} :
    Block.Suits registry (first ++ second) ↔ first.Suits registry ∧ second.Suits registry :=
  List.forall_mem_append

/-- The targets of statements have nothing to do with their calls. -/
theorem Block.suits_retarget {block : Block} :
    Block.Suits registry (block.map (Statement.retarget 0)) ↔ block.Suits registry := by
  have same : ∀ statement : Statement,
      (statement.retarget 0).command.Suits registry ↔ statement.command.Suits registry := by
    rintro ⟨line, command⟩
    cases command with
    | perform step => exact Iff.rfl
    | branch condition target => exact Iff.rfl
    | jump target => exact Iff.rfl
  simp only [Block.Suits, List.forall_mem_map, same]

namespace Assembler

def Suits (registry : Registry) (assembler : Assembler) : Prop := assembler.emitted.Suits registry

theorem read_narrows (registry : Registry) (line : Nat) (assembler : Assembler) (chunk : Chunk) :
    Narrows (ScriptError.Blames registry) (assembler.Suits registry) (Assembler.Suits registry)
      (assembler.read (some registry) line chunk) (assembler.read none line chunk) := by
  unfold read
  split
  · apply Narrows.after
    intro _ _
    refine (Chunk.condition_narrows line _ _ _ _).bind fun condition => .refl ?_
    rintro _ ⟨⟩ suits
    unfold Suits at suits
    rw [emitted_enter, emitted_settle, Block.suits_append] at suits
    exact ⟨suits.1, suits.2 _ List.mem_cons_self⟩
  · apply Narrows.after
    intro conditional _
    apply Narrows.after
    intro _ _
    refine (Chunk.condition_narrows line _ _ _ _).bind fun condition => .refl ?_
    rintro _ ⟨⟩ suits
    unfold Suits at suits
    rw [emitted_enter, emitted_leave, Block.suits_append, Block.suits_append] at suits
    exact ⟨suits.1.1, suits.2 _ List.mem_cons_self⟩
  · apply Narrows.refl
    intro next read suits
    obtain ⟨conditional, -, read⟩ := bind_ok read
    obtain ⟨-, -, read⟩ := bind_ok read
    obtain ⟨-, -, read⟩ := bind_ok read
    cases read
    unfold Suits at suits
    have left : Block.Suits registry (assembler.leave line conditional).emitted := suits
    rw [emitted_leave, Block.suits_append] at left
    exact left.1
  · apply Narrows.refl
    intro next read suits
    unfold Suits at suits
    rw [emitted_separate read] at suits
    split at suits
    · rwa [emitted_settle] at suits
    · exact suits
  · refine (Chunk.step_narrows line _ _).bind fun step => .refl ?_
    intro next read suits
    unfold Suits at suits
    rw [emitted_separate read, emitted_emit, emitted_settle, Block.suits_append] at suits
    exact ⟨suits.1, suits.2 _ List.mem_cons_self⟩

end Assembler

theorem compile_narrows (registry : Registry) (source : String) :
    Narrows (ScriptError.Blames registry) (Assembler.start.Suits registry) (Block.Suits registry)
      (compile (some registry) source) (compile none source) := by
  have read := Chunk.foldLines_narrows (Assembler.read_narrows registry) .start 1
    (Text.lines source.toList)
  apply read.bind
  intro assembler
  apply Narrows.refl
  intro block finished suits
  unfold Assembler.Suits
  rw [← Assembler.emitted_finish finished]
  exact Block.suits_retarget.mpr suits

theorem compile_suits {source : String} {block : Block}
    (compiled : compile (some registry) source = .ok block) : block.Suits registry := by
  have agree := compile_all (emitsOnly_agrees registry) compiled
  intro statement member
  have here := agree statement member
  obtain ⟨line, command⟩ := statement
  cases command with
  | perform step =>
    cases step with
    | evaluate code => exact Postfix.misuse?_eq_none_iff.mp here.2
    | assign scope target code => exact Postfix.misuse?_eq_none_iff.mp here.2
  | branch condition target => exact Postfix.misuse?_eq_none_iff.mp here.2
  | jump target => trivial

/-! ### Names that are not registered -/

theorem Registry.get?_register {larger : Registry} {name : String} {function : Function}
    (added : registry.register name function = .ok larger) (other : String) :
    registry.get? name = none ∧
      larger.get? other = if name = other then some function else registry.get? other := by
  unfold register at added
  split at added
  · cases added
  · next free =>
    cases added
    constructor
    · simpa [contains, get?] using free
    · unfold get?
      rw [Std.ExtTreeMap.getElem?_insert]
      simp only [Std.compare_eq_iff_eq]

/-- A call of a name that is not registered counts like one that is in order. -/
theorem Postfix.misuse?_register {larger : Registry} {name : String} {function : Function}
    (added : registry.register name function = .ok larger)
    (gives : function.returnsValue = true)
    (takes : ∀ count, function.arity.accepts count = true) (code : Postfix) :
    code.misuse? larger bare = code.misuse? registry bare := by
  induction code with
  | nil => rfl
  | cons instruction code ih =>
    cases instruction with
    | push value => exact ih
    | load other => exact ih
    | operate op => exact ih
    | call other count =>
      obtain ⟨free, found⟩ := Registry.get?_register added other
      rw [misuse?, misuse?, found, ih]
      by_cases same : name = other
      · subst same
        rw [if_pos rfl, free]
        simp [gives, takes]
      · rw [if_neg same]

theorem compile_congr {first second : Option Registry}
    (same : ∀ line bare tokens,
      Postfix.checked first line bare tokens = Postfix.checked second line bare tokens)
    (source : String) : compile first source = compile second source := by
  have checked : Postfix.checked first = Postfix.checked second := by
    funext line bare tokens
    exact same line bare tokens
  have read : Assembler.read first = Assembler.read second := by
    funext line assembler chunk
    unfold Assembler.read Chunk.condition Chunk.step
    rw [checked]
  unfold compile
  rw [read]

/-- With a registry a source compiles to a block if and only if it does so without one and the calls
of registered functions are in order; and if it does not, then for the error that it has without the
registry or because of a registered function. A call of a name that is not registered counts like
one of a function that takes any arguments and gives a value. -/
theorem compile_checked_iff (registry : Registry) (source : String) :
    (∀ block, compile (some registry) source = .ok block ↔
      compile none source = .ok block ∧ block.Suits registry) ∧
    (∀ error, compile (some registry) source = .error error →
      compile none source = .error error ∨ error.Blames registry) ∧
    ∀ name function larger, registry.register name function = .ok larger →
      function.returnsValue = true → (∀ count, function.arity.accepts count = true) →
      compile (some larger) source = compile (some registry) source := by
  obtain ⟨outcome, -⟩ := compile_narrows registry source
  refine ⟨?_, ?_, ?_⟩
  · intro block
    constructor
    · intro compiled
      refine ⟨?_, compile_suits compiled⟩
      rcases outcome with same | ⟨error, rejected, -⟩
      · rw [← same, compiled]
      · rw [rejected] at compiled
        cases compiled
    · rintro ⟨compiled, suits⟩
      rcases outcome with same | ⟨error, -, -, bad⟩
      · rw [same, compiled]
      · exact absurd suits (bad block compiled)
  · intro error failed
    rcases outcome with same | ⟨other, rejected, blames, -⟩
    · exact .inl (same.symm.trans failed)
    · rw [rejected] at failed
      cases failed
      exact .inr blames
  · intro name function larger added gives takes
    apply compile_congr
    intro line bare tokens
    unfold Postfix.checked
    simp only [Option.bind_some, Postfix.misuse?_register added gives takes]

end EventScript
