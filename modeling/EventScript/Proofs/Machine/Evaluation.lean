import EventScript.Function.Builtin
import EventScript.Proofs.Computation
import EventScript.Proofs.Machine.Depth
import EventScript.Proofs.Outcome

/-!
# Evaluation of trees

What an expression evaluates to, operand by operand, and that its code evaluates to the same where
the stack has room for it.
-/

namespace EventScript

variable {σ : Type} [EventSink σ]

namespace Expression

/-! ### Evaluation without a stack -/

def zero : Value := .number 0.0

/-- What a name that nothing defines reads as beside a value. -/
def beside : Value → Value
  | .number _ => .number 0.0
  | .text _ => .text ""
  | .boolean _ => .boolean false

def settled : Option Value → Option Value → List Value
  | some left, some right => [left, right]
  | some left, none => [left, beside left]
  | none, some right => [beside right, right]
  | none, none => [zero, zero]

/-- Where a name is looked up, in this order: among the parameters, the locals, the globals and the
constants of the engine. What is constant in a table comes before its variables. -/
def scopes (context : Context) (memory : Memory σ) : List (Names Value) :=
  let globals := match memory.globals with
    | some globals => [globals.constants, globals.bindings]
    | none => []
  [context.parameters, memory.locals.constants, memory.locals.bindings] ++ globals ++
    [context.constants.constants, context.constants.bindings]

def compute (op : Operator) (operands : List Value) : Run σ Halt Value :=
  match op.apply operands with
  | .ok value => return value
  | .error cause => throw (.fault (.operator cause))

/-- What a function does with its arguments. An error of the engine stays what it is. -/
def enter (context : Context) (name : String) (function : Function) (arguments : List Value) :
    Run σ Halt (Option Value) := fun memory =>
  if function.arity.accepts arguments.length then
    match (function.handler context.self arguments).perform memory with
    | (.ok value, after) => (.ok value, after)
    | (.error (.script error), after) => (.error (.raised error), after)
    | (.error (.reported messages), after) => (.error (.fault (.reported messages)), after)
  else (.error (.fault (.wrongArgumentCount name function.arity arguments.length)), memory)

def invoke (context : Context) (name : String) (arguments : List Value) :
    Run σ Halt (Option Value) :=
  match context.registry.get? name with
  | none => throw (.fault (.unknownFunction name))
  | some function => do
    match ← enter context name function arguments, function.returnsValue with
    | some value, true => return value
    | none, true => throw (.fault (.noValue name))
    | _, false => return none

mutual

/-- The value of an expression within another one, or none if it is the bare name of nothing. -/
def read (context : Context) : Expression → Run σ Halt (Option Value)
  | literal value => return value
  | identifier name => do
    match (scopes context (← get)).findSome? fun (scope : Names Value) => scope[name]? with
    | some value => return value
    | none =>
      if context.config.strictSymbols then throw (.fault (.unknownIdentifier name))
      else return none
  | unary op operand => do
    let value ← operand.read context
    return some (← compute op.val [value.getD zero])
  | binary op left right => do
    let first ← left.read context
    let second ← right.read context
    return some (← compute op.val (settled first second))
  | call name arguments => do
    let values ← readAll context arguments
    match ← invoke context name (values.map fun value => value.getD zero) with
    | some value => return value
    | none => throw (.fault (.noValue name))

def readAll (context : Context) : List Expression → Run σ Halt (List (Option Value))
  | [] => return []
  | first :: rest => do
    let value ← first.read context
    let values ← readAll context rest
    return value :: values

end

omit [EventSink σ] in
theorem lookup_eq_findSome? (context : Context) (memory : Memory σ) (name : String) :
    context.lookup memory name =
      (scopes context memory).findSome? fun (scope : Names Value) => scope[name]? := by
  have first : ∀ (scope : Names Value) (others : List (Names Value)),
      (scope :: others).findSome? (fun scope => scope[name]?) =
        scope[name]?.or (others.findSome? fun scope => scope[name]?) := by
    intro scope others
    rw [List.findSome?_cons]
    cases scope[name]? <;> rfl
  unfold Context.lookup Memory.lookup SymbolTable.lookup scopes
  cases memory.globals with
  | none => simp [first, Option.or_assoc]
  | some globals => simp [first, Option.or_assoc]

theorem beside_eq (value : Value) : beside value = value.kind.sentinel := by
  cases value <;> rfl

theorem call_eq_enter (context : Context) (name : String) (function : Function)
    (arguments : List Value) :
    Machine.call (σ := σ) context name function arguments =
      enter context name function arguments := by
  funext memory
  unfold Machine.call Function.call enter
  by_cases accepts : function.arity.accepts arguments.length = true
  · rw [if_pos accepts, if_pos accepts]
    rcases (function.handler context.self arguments).perform memory with ⟨(_ | _) | _, _⟩ <;> rfl
  · rw [if_neg accepts, if_neg accepts]
    rfl

/-- Only a function without a value is called for none. -/
theorem isVoid_of_invoke {context : Context} {name : String} {arguments : List Value}
    {memory after : Memory σ}
    (h : invoke context name arguments memory = (.ok none, after)) :
    context.registry.isVoid name = true := by
  unfold invoke at h
  cases found : context.registry.get? name with
  | none =>
    rw [found] at h
    cases h
  | some function =>
    rw [found] at h
    obtain ⟨result, between, -, h⟩ := Run.bind_ok h
    cases gives : function.returnsValue with
    | false => simp [Registry.isVoid, found, gives]
    | true =>
      rw [gives] at h
      cases result <;> cases h

theorem length_readAll {context : Context} {expressions : List Expression}
    {values : List (Option Value)} {memory after : Memory σ}
    (h : readAll context expressions memory = (.ok values, after)) :
    values.length = expressions.length := by
  induction expressions generalizing values memory after with
  | nil => cases h; rfl
  | cons first rest ih =>
    rw [readAll] at h
    obtain ⟨value, between, -, h⟩ := Run.bind_ok h
    obtain ⟨more, last, found, h⟩ := Run.bind_ok h
    cases h
    rw [List.length_cons, List.length_cons, ih found]

/-- The value of a whole expression. Only a call of a function without a value has none. -/
def evaluate (context : Context) : Expression → Run σ Halt (Option Value)
  | call name arguments => do
    let values ← readAll context arguments
    invoke context name (values.map fun value => value.getD zero)
  | expression => do
    let value ← expression.read context
    return value.getD zero

def VoidAtRoot (registry : Registry) : Expression → Prop
  | call _ arguments => HaveValues registry arguments
  | expression => expression.HasValue registry

end Expression

namespace Machine

/-! ### The stack -/

def slot : Option Value → Slot
  | some value => ⟨value, false⟩
  | none => ⟨Expression.zero, true⟩

theorem slot_value (value : Option Value) : (slot value).value = value.getD Expression.zero := by
  cases value <;> rfl

theorem operands_slot (value : Option Value) :
    Slot.operands [slot value] = [value.getD Expression.zero] := by
  cases value <;> rfl

theorem operands_slots (left right : Option Value) :
    Slot.operands [slot left, slot right] = Expression.settled left right := by
  cases left <;> cases right <;> simp only [Expression.settled, Expression.beside_eq] <;> rfl

theorem pop_slots (slots stack : List Slot) :
    Slot.pop slots.length (slots.reverse ++ stack) = .ok (slots, stack) := by
  rw [Slot.pop, if_pos (by simp), ← slots.length_reverse, List.take_left, List.drop_left,
    List.reverse_reverse]

theorem push_of_lt {context : Context} {stack : List Slot}
    (room : stack.length < context.config.stackLimit) (slot : Slot) :
    context.push slot stack = .ok (slot :: stack) := by
  rw [Context.push, if_pos room]

section Instructions

variable {context : Context} {stack : List Slot} (rest : Postfix)

theorem executeAll_push (room : stack.length < context.config.stackLimit) (value : Value) :
    executeAll (σ := σ) context (.push value :: rest) stack =
      executeAll context rest (slot (some value) :: stack) := by
  rw [executeAll, execute, push_of_lt room]
  rfl

theorem executeAll_load (room : stack.length < context.config.stackLimit) (name : String) :
    executeAll (σ := σ) context (.load name :: rest) stack =
      (Expression.identifier name).read context >>= fun value =>
        executeAll context rest (slot value :: stack) := by
  rw [executeAll, execute, Expression.read, bind_assoc, bind_assoc]
  congr 1
  funext memory
  rw [Context.resolve, ← Expression.lookup_eq_findSome?]
  cases context.lookup memory name with
  | some value =>
    change (MonadExcept.ofExcept (context.push ⟨value, false⟩ stack) >>=
      executeAll context rest) = _
    rw [push_of_lt room]
    rfl
  | none =>
    cases context.config.strictSymbols with
    | true => rfl
    | false =>
      change (MonadExcept.ofExcept (context.push ⟨default, true⟩ stack) >>=
        executeAll context rest) = _
      rw [push_of_lt room]
      rfl

theorem executeAll_operate (op : Operator) (slots : List Slot)
    (room : stack.length < context.config.stackLimit) (arity : op.arity = slots.length) :
    executeAll (σ := σ) context (.operate op :: rest) (slots.reverse ++ stack) =
      Expression.compute op (Slot.operands slots) >>= fun value =>
        executeAll context rest (slot (some value) :: stack) := by
  rw [executeAll, execute, arity, pop_slots, Expression.compute]
  simp only [MonadExcept.ofExcept, pure_bind]
  cases op.apply (Slot.operands slots) with
  | error cause => rfl
  | ok value =>
    dsimp only
    rw [push_of_lt room]
    rfl

theorem executeAll_call (name : String) (values : List (Option Value)) (stack : List Slot)
    (room : context.registry.isVoid name = false → stack.length < context.config.stackLimit) :
    executeAll (σ := σ) context (.call name values.length :: rest)
        ((values.map slot).reverse ++ stack) =
      Expression.invoke context name (values.map fun value => value.getD Expression.zero) >>=
        fun
          | some value => executeAll context rest (slot (some value) :: stack)
          | none => executeAll context rest stack := by
  have popped := pop_slots (values.map slot) stack
  have taken : (values.map slot).map Slot.value =
      values.map fun value => value.getD Expression.zero := by
    rw [List.map_map]
    congr 1
    funext value
    exact slot_value value
  rw [List.length_map] at popped
  rw [executeAll, execute, Expression.invoke]
  unfold Registry.isVoid at room
  cases found : context.registry.get? name with
  | none => rfl
  | some function =>
    rw [found] at room
    dsimp only
    rw [popped, ← taken, ← Expression.call_eq_enter]
    simp only [MonadExcept.ofExcept, pure_bind, bind_assoc]
    congr 1
    funext result
    rcases result with _ | value <;> cases gives : function.returnsValue
    · rfl
    · rfl
    · rfl
    · dsimp only
      rw [push_of_lt (room (by simp [gives]))]
      rfl

end Instructions

/-! ### Code of trees -/

mutual

theorem executeAll_code {context : Context} {expression : Expression}
    (valued : expression.HasValue context.registry) (rest : Postfix) (stack : List Slot)
    (enough : Postfix.need context.registry stack.length (expression.code ++ rest) ≤
      context.config.stackLimit) :
    executeAll (σ := σ) context (expression.code ++ rest) stack =
      expression.read context >>= fun value => executeAll context rest (slot value :: stack) := by
  have above := Expression.need_le_code stack.length rest valued
  have room : stack.length < context.config.stackLimit := by
    have := Postfix.le_need context.registry (stack.length + 1) rest
    omega
  cases expression with
  | literal value => exact executeAll_push rest room value
  | identifier name => exact executeAll_load rest room name
  | unary op operand =>
    have valued : operand.HasValue context.registry := valued
    rw [Expression.code, List.append_assoc] at enough ⊢
    rw [executeAll_code valued _ _ enough, Expression.read, bind_assoc]
    congr 1
    funext value
    have operated := executeAll_operate (σ := σ) rest op.val [slot value] room op.property
    rw [operands_slot] at operated
    rw [bind_assoc]
    exact operated
  | binary op left right =>
    obtain ⟨first, second⟩ : left.HasValue context.registry ∧ right.HasValue context.registry :=
      valued
    rw [Expression.code, List.append_assoc, List.append_assoc] at enough ⊢
    have after :=
      Expression.need_le_code stack.length (right.code ++ ([.operate op.val] ++ rest)) first
    rw [executeAll_code first _ _ enough, Expression.read, bind_assoc]
    congr 1
    funext leftValue
    rw [executeAll_code second _ _ (Nat.le_trans after enough), bind_assoc]
    congr 1
    funext rightValue
    have operated :=
      executeAll_operate (σ := σ) rest op.val [slot leftValue, slot rightValue] room op.property
    rw [operands_slots] at operated
    rw [bind_assoc]
    exact operated
  | call name arguments =>
    obtain ⟨gives, valued⟩ : context.registry.isVoid name = false ∧
        Expression.HaveValues context.registry arguments := valued
    rw [Expression.code, List.append_assoc] at enough ⊢
    rw [executeAll_codes valued _ _ enough, Expression.read, bind_assoc]
    refine Run.bind_congr fun memory values after found => ?_
    have called := executeAll_call (σ := σ) rest name values stack fun _ => room
    rw [Expression.length_readAll found] at called
    rw [List.singleton_append, called, bind_assoc]
    refine Run.bind_congr fun memory result after invoked => ?_
    cases result with
    | some value => rfl
    | none => exact absurd (Expression.isVoid_of_invoke invoked) (by rw [gives]; nofun)

theorem executeAll_codes {context : Context} {expressions : List Expression}
    (valued : Expression.HaveValues context.registry expressions) (rest : Postfix)
    (stack : List Slot)
    (enough : Postfix.need context.registry stack.length (Expression.codes expressions ++ rest) ≤
      context.config.stackLimit) :
    executeAll (σ := σ) context (Expression.codes expressions ++ rest) stack =
      Expression.readAll context expressions >>= fun values =>
        executeAll context rest ((values.map slot).reverse ++ stack) := by
  cases expressions with
  | nil => rfl
  | cons first more =>
    rw [Expression.codes, List.append_assoc] at enough ⊢
    have after := Expression.need_le_code stack.length (Expression.codes more ++ rest) valued.1
    rw [executeAll_code valued.1 _ _ enough, Expression.readAll, bind_assoc]
    congr 1
    funext value
    rw [executeAll_codes valued.2 _ _ (Nat.le_trans after enough), bind_assoc]
    congr 1
    funext values
    simp only [pure_bind, List.map_cons, List.reverse_cons, List.append_assoc]
    rfl

end

/-- The code of an expression evaluates to what the expression does, in the same memory, where the
stack has room for it. -/
theorem evaluate_code {context : Context} {expression : Expression}
    (valued : expression.VoidAtRoot context.registry)
    (enough : Postfix.need context.registry 0 expression.code ≤ context.config.stackLimit) :
    evaluate (σ := σ) context expression.code = expression.evaluate context := by
  have whole : expression.HasValue context.registry →
      evaluate (σ := σ) context expression.code =
        expression.read context >>= fun value => pure (some (value.getD Expression.zero)) := by
    intro valued
    have executed := executeAll_code (σ := σ) valued [] [] (by rwa [List.append_nil])
    rw [List.append_nil] at executed
    rw [evaluate, executed, bind_assoc]
    congr 1
    funext value
    rw [← slot_value]
    rfl
  cases expression with
  | literal value => exact whole valued
  | identifier name => exact whole valued
  | unary op operand => exact whole valued
  | binary op left right => exact whole valued
  | call name arguments =>
    have valued : Expression.HaveValues context.registry arguments := valued
    rw [Expression.code] at enough
    have room : context.registry.isVoid name = false → 0 < context.config.stackLimit := by
      intro gives
      have inner := Expression.need_le_codes 0 [.call name arguments.length] valued
      have outer := Postfix.need_le_cons context.registry (0 + arguments.length)
        (.call name arguments.length) []
      rw [Instruction.pushes_call gives, Postfix.need, Instruction.pops] at outer
      omega
    rw [evaluate, Expression.code, executeAll_codes valued _ [] enough, Expression.evaluate,
      bind_assoc]
    refine Run.bind_congr fun memory values after found => ?_
    have called := executeAll_call (σ := σ) [] name values [] room
    rw [Expression.length_readAll found] at called
    rw [called, bind_assoc]
    refine (bind_congr fun result => ?_).trans (bind_pure _)
    cases result <;> rfl

/-- In `trigger_event(a + b + c + d + (e + "5"))` the first name is a parameter, the second one is
constant in the locals, a global and a constant of the engine follow, and nothing defines the last.
The other values of these names are hidden. -/
theorem evaluate_code_scopes :
    let table (entries : List (String × String)) : Names Value :=
      .ofList (entries.map fun (name, content) => (name, Value.text content))
    let context : Context :=
      { registry := Builtin.registry
        constants := { constants := table [("c", "-"), ("d", "4")] }
        config := { stackLimit := 3 }
        parameters := table [("a", "1")] }
    let memory : Memory (Array Event) :=
      ⟨{ bindings := table [("a", "-"), ("b", "-")], constants := table [("b", "2")] },
        some { bindings := table [("b", "-"), ("c", "3")] }, #[], {}⟩
    let sum (left right : Expression) : Expression := .binary ⟨.plus, rfl⟩ left right
    let known : Expression :=
      sum (sum (sum (.identifier "a") (.identifier "b")) (.identifier "c")) (.identifier "d")
    let expression : Expression :=
      .call "trigger_event" [sum known (sum (.identifier "e") (.literal (.text "5")))]
    expression.VoidAtRoot context.registry ∧
      Postfix.need context.registry 0 expression.code ≤ context.config.stackLimit ∧
      evaluate context expression.code memory = expression.evaluate context memory ∧
      (expression.evaluate context memory).1 = .ok none ∧
      (expression.evaluate context memory).2.sink.map Event.name = #["12345"] := by
  intro table context memory sum known expression
  have valued : expression.VoidAtRoot context.registry :=
    ⟨⟨⟨⟨⟨trivial, trivial⟩, trivial⟩, trivial⟩, trivial, trivial⟩, trivial⟩
  have enough : Postfix.need context.registry 0 expression.code ≤ context.config.stackLimit := by
    decide +kernel
  exact ⟨valued, enough, congrFun (evaluate_code valued enough) memory,
    eq_ok_of_toOption (by decide +kernel), by decide +kernel⟩

end Machine

end EventScript
