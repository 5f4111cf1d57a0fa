import EventScript.Postfix.Checked
import EventScript.Proofs.Expression.Acceptance

/-!
# Calls of an expression

A call stands where its name is in front of a parenthesis, and has as many arguments as the commas
up to the closing one separate. The code of an expression has just the calls that stand in it.
-/

namespace EventScript

def Token.isGrouping : Token → Bool
  | openParen | closeParen | comma => true
  | _ => false

/-- A call as it stands in an expression, at the column of its name. -/
structure CallSite where
  column : Nat
  name : String
  count : Nat
  deriving DecidableEq

namespace CallSite

/-- The commas up to the end of a group, inside of which `depth` other groups are open. -/
def commasAhead (depth : Nat) : List Lexeme → Nat
  | [] => 0
  | ⟨_, .openParen⟩ :: rest => commasAhead (depth + 1) rest
  | ⟨_, .closeParen⟩ :: rest =>
    match depth with
    | 0 => 0
    | depth + 1 => commasAhead depth rest
  | ⟨_, .comma⟩ :: rest => commasAhead depth rest + if depth = 0 then 1 else 0
  | _ :: rest => commasAhead depth rest

def closesAtOnce : List Lexeme → Bool
  | ⟨_, .closeParen⟩ :: _ => true
  | _ => false

def argumentCount (tokens : List Lexeme) : Nat :=
  if closesAtOnce tokens then 0 else commasAhead 0 tokens + 1

def sites : List Lexeme → List CallSite
  | [] => []
  | ⟨column, .ident name⟩ :: ⟨opened, .openParen⟩ :: rest =>
    ⟨column, name, argumentCount rest⟩ :: sites (⟨opened, .openParen⟩ :: rest)
  | _ :: rest => sites rest

def signature (site : CallSite) : String × Nat := (site.name, site.count)

theorem callColumn?_eq (name : String) (tokens : List Lexeme) :
    callColumn? name tokens =
      ((sites tokens).find? fun site => site.name == name).map CallSite.column := by
  induction tokens using sites.induct with
  | case1 => rfl
  | case2 column word opened rest ih =>
    rw [callColumn?, sites, List.find?_cons]
    by_cases same : word = name
    · simp [same]
    · rw [if_neg same, ih, beq_false_of_ne same]
  | case3 lexeme rest noCall ih =>
    rw [callColumn?, sites, ih]
    · exact noCall
    · exact noCall

/-! ### What is ahead of a group -/

theorem commasAhead_plain {token : Token} (plain : token.isGrouping = false) (depth column : Nat)
    (rest : List Lexeme) : commasAhead depth (⟨column, token⟩ :: rest) = commasAhead depth rest := by
  cases token <;> first | rfl | cases plain

/-- The calls that wait for their closing parenthesis, as they will be with the tokens ahead.
Around the innermost one, which `opened` says is empty so far, `depth` groups were passed. -/
def waiting (opened : Bool) (depth : Nat) (ahead : List Lexeme) : List Pending → List (String × Nat)
  | [] => []
  | .operator _ :: pending => waiting opened depth ahead pending
  | .paren _ :: pending => waiting false (depth + 1) ahead pending
  | .call name count _ :: pending =>
    (name, if opened && closesAtOnce ahead then 0 else count + commasAhead depth ahead + 1) ::
      waiting false (depth + 1) ahead pending

theorem waiting_congr {ahead ahead' : List Lexeme} {depth depth' : Nat}
    (same : ∀ further, commasAhead (depth + further) ahead = commasAhead (depth' + further) ahead')
    (pending : List Pending) :
    waiting false depth ahead pending = waiting false depth' ahead' pending := by
  induction pending generalizing depth depth' with
  | nil => rfl
  | cons entry pending ih =>
    have inner := @ih (depth + 1) (depth' + 1) fun further => by
      have deeper := same (1 + further)
      rwa [← Nat.add_assoc, ← Nat.add_assoc] at deeper
    cases entry with
    | operator op => exact ih same
    | paren column => exact inner
    | call name count column =>
      have here : commasAhead depth ahead = commasAhead depth' ahead' := same 0
      simp only [waiting, Bool.false_and, Bool.false_eq_true, if_false, here, inner]

theorem waiting_goesOn {ahead : List Lexeme} (goesOn : closesAtOnce ahead = false) (opened : Bool)
    (depth : Nat) (pending : List Pending) :
    waiting opened depth ahead pending = waiting false depth ahead pending := by
  induction pending generalizing opened depth with
  | nil => rfl
  | cons entry pending ih =>
    cases entry with
    | operator op => exact ih opened depth
    | paren column => rfl
    | call name count column => simp only [waiting, goesOn, Bool.and_false]

theorem waiting_plain {token : Token} (plain : token.isGrouping = false) (opened : Bool)
    (column : Nat) (rest : List Lexeme) (pending : List Pending) :
    waiting opened 0 (⟨column, token⟩ :: rest) pending = waiting false 0 rest pending := by
  have goesOn : closesAtOnce (⟨column, token⟩ :: rest) = false := by
    cases token <;> first | rfl | cases plain
  rw [waiting_goesOn goesOn]
  exact waiting_congr (fun _ => commasAhead_plain plain _ column rest) pending

theorem waiting_open (opened : Bool) (column : Nat) (rest : List Lexeme) (pending : List Pending) :
    waiting opened 0 (⟨column, .openParen⟩ :: rest) pending = waiting false 1 rest pending := by
  rw [waiting_goesOn rfl]
  refine waiting_congr (fun further => ?_) pending
  rw [commasAhead, Nat.zero_add, Nat.add_comm]

theorem waiting_splitOperators (opened : Bool) (depth : Nat) (ahead : List Lexeme)
    (pending : List Pending) :
    waiting opened depth ahead (Conversion.splitOperators pending).2 =
      waiting opened depth ahead pending := by
  induction pending with
  | nil => rfl
  | cons entry pending ih =>
    cases entry with
    | operator op => exact ih
    | paren column => rfl
    | call name count column => rfl

theorem waiting_splitTighter (incoming : Operator) (opened : Bool) (depth : Nat)
    (ahead : List Lexeme) (pending : List Pending) :
    waiting opened depth ahead (Conversion.splitTighter incoming pending).2 =
      waiting opened depth ahead pending := by
  induction pending with
  | nil => rfl
  | cons entry pending ih =>
    cases entry with
    | operator op =>
      rw [Conversion.splitTighter]
      split
      · exact ih
      · rfl
    | paren column => rfl
    | call name count column => rfl

end CallSite

/-! ### Calls while code is written -/

theorem Postfix.calls_write (written : Postfix) (operators : List Operator) :
    (Conversion.write written operators).calls = written.calls := by
  unfold Conversion.write
  induction operators generalizing written with
  | nil => rfl
  | cons op operators ih => exact ih (.operate op :: written)

namespace Conversion

open CallSite

def callsWith (state : Conversion) (ahead : List Lexeme) : List (String × Nat) :=
  state.written.calls ++
    (waiting state.justOpened 0 ahead state.pending ++ (sites ahead).map signature)

variable {state next : Conversion} {column : Nat} {rest : List Lexeme}

theorem callsWith_operand {token : Token} {instruction : Instruction}
    (plain : token.isGrouping = false)
    (noCall : Postfix.calls [instruction] = [])
    (same : sites (⟨column, token⟩ :: rest) = sites rest)
    (h : state.operand column token instruction = .ok next) :
    next.callsWith rest = state.callsWith (⟨column, token⟩ :: rest) := by
  unfold operand at h
  split at h
  · cases h
    have written : Postfix.calls (instruction :: state.written) = state.written.calls := by
      change Postfix.calls ([instruction] ++ state.written) = _
      rw [Postfix.calls, List.filterMap_append]
      exact congrArg (· ++ state.written.calls) noCall
    unfold callsWith
    rw [written, waiting_plain plain, same]
  · cases h

theorem callsWith_binary {token : Token} {incoming : Operator}
    (plain : token.isGrouping = false)
    (same : sites (⟨column, token⟩ :: rest) = sites rest)
    (h : state.binary column incoming = .ok next) :
    next.callsWith rest = state.callsWith (⟨column, token⟩ :: rest) := by
  unfold binary at h
  split at h
  · cases h
  · cases h
    unfold callsWith
    rw [Postfix.calls_write, waiting, waiting_splitTighter, waiting_plain plain, same]

theorem callsWith_close (h : state.close column = .ok next) :
    (next.callsWith rest).Perm (state.callsWith (⟨column, .closeParen⟩ :: rest)) := by
  have outer (behind : List Pending) :
      waiting false 1 (⟨column, .closeParen⟩ :: rest) behind = waiting false 0 rest behind := by
    refine waiting_congr (fun further => ?_) behind
    rw [Nat.add_comm, commasAhead, Nat.zero_add]
  unfold close at h
  split at h
  · cases h
  · dsimp only at h
    have groups := waiting_splitOperators state.justOpened 0 (⟨column, .closeParen⟩ :: rest)
      state.pending
    split at h
    · next opened behind waits =>
      split at h
      · cases h
      · cases h
        rw [waits, waiting, outer] at groups
        unfold callsWith
        rw [Postfix.calls_write, ← groups]
        exact .refl _
    · next name count opened behind waits =>
      cases h
      rw [waits, waiting, outer] at groups
      unfold callsWith
      rw [← groups]
      change ((name, _) :: (Postfix.calls (write state.written _) ++ _)).Perm _
      rw [Postfix.calls_write]
      simp only [closesAtOnce, Bool.and_true, commasAhead, Nat.add_zero]
      exact List.perm_middle.symm
    · cases h

theorem callsWith_comma (h : state.comma column = .ok next) :
    next.callsWith rest = state.callsWith (⟨column, .comma⟩ :: rest) := by
  have outer (behind : List Pending) :
      waiting false 1 (⟨column, .comma⟩ :: rest) behind = waiting false 1 rest behind := by
    refine waiting_congr (fun further => ?_) behind
    have deep : 1 + further ≠ 0 := by omega
    rw [commasAhead, if_neg deep, Nat.add_zero]
  unfold comma at h
  split at h
  · cases h
  · dsimp only at h
    have groups := waiting_splitOperators state.justOpened 0 (⟨column, .comma⟩ :: rest) state.pending
    split at h
    · next name count opened behind waits =>
      cases h
      rw [waits, waiting, outer] at groups
      unfold callsWith
      rw [← groups, Postfix.calls_write, waiting]
      simp only [closesAtOnce, Bool.and_false, Bool.false_and, Bool.false_eq_true, if_false,
        commasAhead, if_true, sites]
      rw [Nat.add_assoc count 1, Nat.add_comm 1]
    · cases h

theorem callsWith_await {token : Token} {entry : Pending} {opened : Bool}
    (same : ∀ pending, waiting opened 0 rest (entry :: pending) =
      waiting state.justOpened 0 (⟨column, token⟩ :: rest) pending)
    (noCall : sites (⟨column, token⟩ :: rest) = sites rest)
    (h : state.await column token entry opened = .ok next) :
    next.callsWith rest = state.callsWith (⟨column, token⟩ :: rest) := by
  obtain ⟨-, rfl⟩ := await_cases h
  unfold callsWith
  rw [same, noCall]

theorem callsWith_sign {token : Token} {asSign between : Operator}
    (plain : token.isGrouping = false)
    (same : sites (⟨column, token⟩ :: rest) = sites rest)
    (h : state.sign column asSign between = .ok next) :
    next.callsWith rest = state.callsWith (⟨column, token⟩ :: rest) := by
  unfold sign at h
  split at h
  · cases h
    unfold callsWith
    rw [waiting, waiting_plain plain, same]
  · exact callsWith_binary plain same h

theorem callsWith_step {token : Token}
    (noCall : ∀ name opened behind, rest = ⟨opened, .openParen⟩ :: behind → token ≠ .ident name)
    (h : state.step column token = .ok next) :
    (next.callsWith rest).Perm (state.callsWith (⟨column, token⟩ :: rest)) := by
  have same : sites (⟨column, token⟩ :: rest) = sites rest := by
    rw [sites]
    rintro _ name opened behind first found
    cases first
    exact noCall name opened behind found rfl
  cases token
  case openParen =>
    rw [callsWith_await (fun pending => (waiting_open _ column rest pending).symm) same h]
  case notKeyword =>
    rw [callsWith_await (fun pending => (waiting_plain (by rfl) _ column rest pending).symm) same h]
  case closeParen => exact callsWith_close h
  case comma => rw [callsWith_comma h]
  case number | text | trueKeyword | falseKeyword | ident =>
    rw [callsWith_operand rfl rfl same h]
  case plus | minus => rw [callsWith_sign rfl same h]
  case assign | semicolon | openBrace | closeBrace | ifKeyword | elseifKeyword | elseKeyword |
      globalKeyword => cases h
  all_goals rw [callsWith_binary rfl same h]

theorem callsWith_call {name : String} {opened : Nat}
    (h : state.await column (.ident name) (.call name 0 column) true = .ok next) :
    (next.callsWith rest).Perm
      (state.callsWith (⟨column, .ident name⟩ :: ⟨opened, .openParen⟩ :: rest)) := by
  obtain ⟨-, rfl⟩ := await_cases h
  have passed : waiting state.justOpened 0 (⟨column, .ident name⟩ :: ⟨opened, .openParen⟩ :: rest)
      state.pending = waiting false 1 rest state.pending := by
    rw [waiting_plain (by rfl), waiting_open]
  unfold callsWith
  rw [passed, waiting, sites, List.map_cons, sites]
  · simp only [Bool.true_and, Nat.zero_add, signature, argumentCount]
    exact (List.perm_middle.symm).append_left _
  · nofun

/-- No call is lost or made up on the way. -/
theorem callsWith_run {final : Conversion} {lexemes : List Lexeme}
    (h : state.run lexemes = .ok final) :
    (final.callsWith []).Perm (state.callsWith lexemes) := by
  induction state, lexemes using run.induct with
  | case1 state =>
    cases h
    exact .refl _
  | case2 state column name opened rest ih =>
    obtain ⟨next, awaits, h⟩ := bind_ok h
    exact (ih next h).trans (callsWith_call awaits)
  | case3 state column token rest noCall ih =>
    rw [run] at h
    · obtain ⟨next, stepped, h⟩ := bind_ok h
      exact (ih next h).trans (callsWith_step noCall stepped)
    · exact noCall

theorem calls_finish {last : Nat} {code : Postfix} (h : state.finish last = .ok code) :
    code.calls.Perm (state.callsWith []) := by
  have done := waiting_splitOperators state.justOpened 0 [] state.pending
  rw [(finish_cases h).2] at done
  unfold finish at h
  split at h
  · cases h
  · dsimp only at h
    split at h
    · cases h
    · cases h
    · cases h
      unfold callsWith
      rw [← done, Postfix.calls, List.filterMap_reverse]
      refine (List.reverse_perm _).trans ?_
      change (Postfix.calls (write state.written _)).Perm _
      rw [Postfix.calls_write]
      exact .of_eq (List.append_nil _).symm

end Conversion

/-- The code of an expression has the calls that stand in it, each with its number of arguments. -/
theorem Postfix.calls_perm_sites {lexemes : List Lexeme} {code : Postfix}
    (h : ofLexemes lexemes = .ok code) :
    code.calls.Perm ((CallSite.sites lexemes).map CallSite.signature) := by
  obtain ⟨assembled, found, balances⟩ := bind_ok h
  unfold balanced at balances
  split at balances
  · cases balances
    unfold assemble at found
    split at found
    · cases found
    · obtain ⟨final, ran, finished⟩ := bind_ok found
      exact (Conversion.calls_finish finished).trans (Conversion.callsWith_run ran)
  · cases balances
  · cases balances

open Token in
example : CallSite.sites [⟨1, ident "max"⟩, ⟨4, openParen⟩, ⟨5, ident "hp"⟩, ⟨7, comma⟩,
    ⟨9, ident "roll"⟩, ⟨13, openParen⟩, ⟨14, closeParen⟩, ⟨15, closeParen⟩] =
      [⟨1, "max", 2⟩, ⟨9, "roll", 0⟩] := by decide

end EventScript
