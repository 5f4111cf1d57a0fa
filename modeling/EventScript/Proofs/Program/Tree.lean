import EventScript.Block

/-!
# Structured programs

The statements of a script with its conditionals as a tree, and the block that the tree becomes. A
program grows at its end: every form names the program before it. A chain of `elseif` clauses is a
conditional whose alternative holds the rest of the chain.
-/

namespace EventScript

inductive Program where
  | empty
  | step (before : Program) (line : Nat) (action : Step)
  /-- A conditional without an alternative. -/
  | when (before : Program) (line : Nat) (condition : Postfix) (body : Program)
  /-- A conditional with an alternative, whose keyword stands on line `elseLine`. -/
  | choose (before : Program) (line : Nat) (condition : Postfix) (body : Program) (elseLine : Nat)
      (alternative : Program)

namespace Program

def size : Program → Nat
  | empty => 0
  | step before _ _ => before.size + 1
  | when before _ _ body => before.size + 1 + body.size
  | choose before _ _ body _ alternative => before.size + 1 + body.size + 1 + alternative.size

/-- The statements of the program when the first of them has index `start`. -/
def flatten (start : Nat) : Program → Block
  | empty => []
  | step before line action => before.flatten start ++ [⟨line, .perform action⟩]
  | when before line condition body =>
    let first := start + before.size + 1
    before.flatten start ++ ⟨line, .branch condition (first + body.size)⟩ :: body.flatten first
  | choose before line condition body elseLine alternative =>
    let first := start + before.size + 1
    let other := first + body.size + 1
    before.flatten start ++ ⟨line, .branch condition other⟩ :: body.flatten first ++
      ⟨elseLine, .jump (other + alternative.size)⟩ :: alternative.flatten other

def toBlock (program : Program) : Block := program.flatten 0

@[simp] theorem length_flatten (program : Program) (start : Nat) :
    (program.flatten start).length = program.size := by
  induction program generalizing start with
  | empty => rfl
  | step before line action ih => simp [flatten, size, ih]
  | when before line condition body ihBefore ihBody =>
    simp only [flatten, size, List.length_append, List.length_cons, ihBefore, ihBody]
    omega
  | choose before line condition body elseLine alternative ihBefore ihBody ihAlternative =>
    simp only [flatten, size, List.length_append, List.length_cons, ihBefore, ihBody,
      ihAlternative]
    omega

end Program

end EventScript
