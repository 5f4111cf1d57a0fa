import EventScript.Proofs.Computation

/-!
# Values and flags apart

The machine with two stacks in the place of one: the values on the one, and on the other the flags
of those that stand in for unknown names. Nothing in their form keeps the two in step. They are in
step because this machine does what the machine on slots does.
-/

namespace EventScript

/-- The values on the stack and their flags; the tops are last. -/
structure Stacks where
  values : List Value := []
  unset : List Bool := []
  deriving DecidableEq

namespace Stacks

open MonadExcept (ofExcept)

def push (context : Context) (value : Value) (both : Stacks) : Except Halt Stacks :=
  if both.values.length < context.config.stackLimit then
    .ok ⟨both.values ++ [value], both.unset ++ [false]⟩
  else .error (.fault .stackOverflow)

def flag (both : Stacks) : Stacks :=
  { both with unset := both.unset.set (both.unset.length - 1) true }

/-- Takes the topmost values off, and cuts the flags to the number of values that are left. -/
def pop (count : Nat) (both : Stacks) : Except Halt (List Value × Stacks) :=
  let left := both.values.length - count
  if count ≤ both.values.length then
    .ok (both.values.drop left, ⟨both.values.take left, both.unset.take left⟩)
  else .error (.fault .stackUnderflow)

def operands : List Value → List Bool → List Value
  | [_, right], [true, false] => [right.kind.sentinel, right]
  | [left, _], [false, true] => [left, left.kind.sentinel]
  | values, _ => values

/-- Takes operands off. Their flags are read before they are cut off. -/
def popOperands (count : Nat) (both : Stacks) : Except Halt (List Value × Stacks) :=
  let flags := both.unset.drop (both.unset.length - count)
  (both.pop count).map fun (values, rest) => (operands values flags, rest)

variable {σ : Type} [EventSink σ]

def execute (context : Context) (instruction : Instruction) (both : Stacks) :
    Run σ Halt Stacks :=
  match instruction with
  | .push value => ofExcept (both.push context value)
  | .load name => do
    let slot ← ofExcept (context.resolve (← get) name)
    let both ← ofExcept (both.push context slot.value)
    return if slot.unset then both.flag else both
  | .operate op => do
    let (operands, rest) ← ofExcept (both.popOperands op.arity)
    match op.apply operands with
    | .ok value => ofExcept (rest.push context value)
    | .error cause => throw (.fault (.operator cause))
  | .call name count =>
    match context.registry.get? name with
    | none => throw (.fault (.unknownFunction name))
    | some function => do
      let (arguments, rest) ← ofExcept (both.pop count)
      match ← Machine.call context name function arguments, function.returnsValue with
      | some value, true => ofExcept (rest.push context value)
      | none, true => throw (.fault (.noValue name))
      | _, false => return rest

def executeAll (context : Context) : Postfix → Stacks → Run σ Halt Stacks
  | [], both => pure both
  | instruction :: code, both => do
    executeAll context code (← execute context instruction both)

def evaluate (context : Context) (code : Postfix) : Run σ Halt (Option Value × List Value) := do
  let both ← executeAll context code {}
  return (both.values.getLast?, both.values.dropLast)

/-! ### Slots in two halves -/

def ofSlots (stack : List Slot) : Stacks :=
  ⟨stack.reverse.map Slot.value, stack.reverse.map Slot.unset⟩

@[simp] theorem length_values (stack : List Slot) :
    (ofSlots stack).values.length = stack.length := by
  simp [ofSlots]

@[simp] theorem length_unset (stack : List Slot) :
    (ofSlots stack).unset.length = stack.length := by
  simp [ofSlots]

theorem push_ofSlots (context : Context) (value : Value) (stack : List Slot) :
    (ofSlots stack).push context value = (context.push ⟨value, false⟩ stack).map ofSlots := by
  rw [push, Context.push, length_values]
  split
  · simp [Except.map, ofSlots]
  · rfl

theorem flag_ofSlots (slot : Slot) (stack : List Slot) :
    (ofSlots (slot :: stack)).flag = ofSlots (⟨slot.value, true⟩ :: stack) := by
  simp [flag, ofSlots, List.set_append_right]

theorem pop_ofSlots (count : Nat) (stack : List Slot) :
    (ofSlots stack).pop count =
      (Slot.pop count stack).map fun (slots, rest) => (slots.map Slot.value, ofSlots rest) := by
  rw [pop, Slot.pop, length_values]
  dsimp only
  split
  · simp [Except.map, ofSlots, List.map_drop, List.reverse_take, List.reverse_drop]
  · rfl

theorem operands_slots (slots : List Slot) :
    operands (slots.map Slot.value) (slots.map Slot.unset) = Slot.operands slots := by
  match slots with
  | [] => rfl
  | [_] => rfl
  | [⟨_, first⟩, ⟨_, second⟩] => cases first <;> cases second <;> rfl
  | _ :: _ :: _ :: _ => rfl

theorem popOperands_ofSlots (count : Nat) (stack : List Slot) :
    (ofSlots stack).popOperands count =
      (Slot.pop count stack).map fun (slots, rest) => (Slot.operands slots, ofSlots rest) := by
  have flags : (ofSlots stack).unset.drop ((ofSlots stack).unset.length - count) =
      (stack.take count).reverse.map Slot.unset := by
    simp [ofSlots, List.reverse_take]
  rw [popOperands, pop_ofSlots, flags]
  unfold Slot.pop
  split
  · simp only [Except.map, operands_slots]
  · rfl

omit [EventSink σ] in
theorem ofExcept_push (context : Context) (value : Value) (stack : List Slot) :
    (ofExcept ((ofSlots stack).push context value) : Run σ Halt Stacks) =
      ofSlots <$> ofExcept (context.push ⟨value, false⟩ stack) := by
  rw [push_ofSlots, Run.map_ofExcept]

theorem execute_ofSlots (context : Context) (instruction : Instruction) (stack : List Slot) :
    (execute context instruction (ofSlots stack) : Run σ Halt Stacks) =
      ofSlots <$> Machine.execute context instruction stack := by
  cases instruction with
  | push value => exact ofExcept_push context value stack
  | load name =>
    rw [execute, Machine.execute, map_bind]
    congr 1
    funext memory
    rw [map_bind]
    congr 1
    funext slot
    obtain ⟨value, unset⟩ := slot
    rw [push_ofSlots, Run.map_ofExcept, Run.ofExcept_map_bind]
    unfold Context.push
    split
    · cases unset with
      | false => rfl
      | true =>
        have flagged := flag_ofSlots ⟨value, false⟩ stack
        exact congrArg (pure : Stacks → Run σ Halt Stacks) flagged
    · rfl
  | operate op =>
    rw [execute, Machine.execute, map_bind, popOperands_ofSlots, Run.ofExcept_map_bind]
    congr 1
    funext taken
    obtain ⟨slots, rest⟩ := taken
    dsimp only
    cases op.apply (Slot.operands slots) with
    | ok value => exact ofExcept_push context value rest
    | error cause => rfl
  | call name count =>
    rw [execute, Machine.execute]
    cases context.registry.get? name with
    | none => rfl
    | some function =>
      dsimp only
      rw [map_bind, pop_ofSlots, Run.ofExcept_map_bind]
      congr 1
      funext taken
      obtain ⟨slots, rest⟩ := taken
      rw [map_bind]
      congr 1
      funext result
      cases result <;> cases function.returnsValue
      · rfl
      · rfl
      · rfl
      · exact ofExcept_push context _ rest

theorem executeAll_ofSlots (context : Context) (code : Postfix) (stack : List Slot) :
    (executeAll context code (ofSlots stack) : Run σ Halt Stacks) =
      ofSlots <$> Machine.executeAll context code stack := by
  induction code generalizing stack with
  | nil => rw [executeAll, Machine.executeAll, map_pure]
  | cons instruction code ih =>
    rw [executeAll, Machine.executeAll, execute_ofSlots, map_bind, bind_map_left]
    congr 1
    funext after
    exact ih after

theorem executeAll_empty (context : Context) (code : Postfix) :
    (executeAll context code {} : Run σ Halt Stacks) =
      ofSlots <$> Machine.executeAll context code [] :=
  executeAll_ofSlots context code []

theorem executeAll_eq_ok_iff {context : Context} {code : Postfix} {memory after : Memory σ}
    {both : Stacks} :
    executeAll context code {} memory = (.ok both, after) ↔
      ∃ stack, Machine.executeAll context code [] memory = (.ok stack, after) ∧
        ofSlots stack = both := by
  rw [executeAll_empty, Run.map_eq_ok_iff]

/-- The machine on slots evaluates to what the machine on two stacks does. -/
theorem evaluate_eq (context : Context) (code : Postfix) :
    (Machine.evaluate context code : Run σ Halt (Option Value)) =
      Prod.fst <$> evaluate context code := by
  rw [evaluate, executeAll_empty, map_bind, bind_map_left, Machine.evaluate]
  congr 1
  funext stack
  rw [map_pure]
  simp [ofSlots]

end Stacks

end EventScript
