import EventScript.Proofs.Expression.Grammar

/-!
# Precedence climbing

A parser for expressions that reads operands and then the operators between them, as long as they
bind tightly enough. `climb_complete` shows that it reads every expression of the grammar.
-/

namespace EventScript

/-- The least precedence that an operator in the last operand may have. An operator between two
operands takes operators of its own precedence there if it groups to the right. -/
def Operator.floor (op : Operator) : Nat :=
  if op.arity = 2 ∧ op.associativity = .right then op.precedence else op.precedence + 1

/-- What is read off the front of tokens, and the tokens behind it, fewer than `bound`. -/
structure Reading (α : Type) (bound : Nat) where
  tree : α
  rest : List Lexeme
  shorter : rest.length < bound

def Reading.result {α : Type} {bound : Nat} (reading : Reading α bound) : α × List Lexeme :=
  (reading.tree, reading.rest)

namespace Climbing

/-! ### The parser -/

mutual

def primaryWithin (lexemes : List Lexeme) : Option (Reading Expression lexemes.length) :=
  match lexemes with
  | ⟨_, .openParen⟩ :: rest => do
    match ← climbWithin 0 rest with
    | ⟨tree, ⟨_, .closeParen⟩ :: behind, shorter⟩ =>
      some ⟨tree, behind, Nat.lt_succ_of_lt (Nat.lt_of_succ_lt shorter)⟩
    | _ => none
  | ⟨_, .ident name⟩ :: ⟨_, .openParen⟩ :: ⟨_, .closeParen⟩ :: rest =>
    some ⟨.call name [], rest, Nat.lt_add_of_pos_right (Nat.succ_pos 2)⟩
  | ⟨_, .ident name⟩ :: ⟨_, .openParen⟩ :: rest => do
    let arguments ← argumentsWithin rest
    some ⟨.call name arguments.tree, arguments.rest, Nat.lt_add_right 2 arguments.shorter⟩
  | ⟨_, .ident name⟩ :: rest => some ⟨.identifier name, rest, Nat.lt_succ_self _⟩
  | ⟨_, token⟩ :: rest =>
    match token.literal?, token.prefixOperator? with
    | some value, _ => some ⟨.literal value, rest, Nat.lt_succ_self _⟩
    | none, some op => do
      let operand ← climbWithin op.val.floor rest
      some ⟨.unary op operand.tree, operand.rest, Nat.lt_succ_of_lt operand.shorter⟩
    | none, none => none
  | [] => none
termination_by 3 * lexemes.length
decreasing_by all_goals simp only [List.length_cons]; omega

/-- An expression whose operators outside of its operands have at least the precedence `least`. -/
def climbWithin (least : Nat) (lexemes : List Lexeme) :
    Option (Reading Expression lexemes.length) := do
  let first ← primaryWithin lexemes
  let whole ← extendWithin least first.tree first.rest
  some ⟨whole.tree, whole.rest, Nat.lt_of_lt_of_le whole.shorter first.shorter⟩
termination_by 3 * lexemes.length + 1
decreasing_by
  · omega
  · have := first.shorter
    omega

def extendWithin (least : Nat) (left : Expression) (lexemes : List Lexeme) :
    Option (Reading Expression (lexemes.length + 1)) :=
  match lexemes with
  | lexeme :: rest =>
    match lexeme.token.binaryOperator? with
    | some op =>
      if least ≤ op.val.precedence then do
        let right ← climbWithin op.val.floor rest
        let whole ← extendWithin least (.binary op left right.tree) right.rest
        some ⟨whole.tree, whole.rest,
          Nat.lt_add_right 2 (Nat.lt_of_lt_of_le whole.shorter right.shorter)⟩
      else some ⟨left, lexeme :: rest, Nat.lt_succ_self _⟩
    | none => some ⟨left, lexeme :: rest, Nat.lt_succ_self _⟩
  | [] => some ⟨left, [], Nat.lt_succ_self _⟩
termination_by 3 * lexemes.length
decreasing_by
  · simp only [List.length_cons]
    omega
  · have := right.shorter
    simp only [List.length_cons]
    omega

def argumentsWithin (lexemes : List Lexeme) :
    Option (Reading (List Expression) lexemes.length) := do
  match ← climbWithin 0 lexemes with
  | ⟨tree, ⟨_, .closeParen⟩ :: rest, shorter⟩ =>
    some ⟨[tree], rest, Nat.lt_of_succ_lt shorter⟩
  | ⟨tree, ⟨_, .comma⟩ :: rest, shorter⟩ => do
    let more ← argumentsWithin rest
    some ⟨tree :: more.tree, more.rest, Nat.lt_trans more.shorter (Nat.lt_of_succ_lt shorter)⟩
  | _ => none
termination_by 3 * lexemes.length + 2
decreasing_by
  · omega
  · simp only [List.length_cons] at shorter
    omega

end

/-! ### The parser without its bounds

The equations of the parser once the bounds, which only its termination needs, are forgotten. -/

def primary (lexemes : List Lexeme) : Option (Expression × List Lexeme) :=
  (primaryWithin lexemes).map Reading.result

def climb (least : Nat) (lexemes : List Lexeme) : Option (Expression × List Lexeme) :=
  (climbWithin least lexemes).map Reading.result

def extend (least : Nat) (left : Expression) (lexemes : List Lexeme) :
    Option (Expression × List Lexeme) :=
  (extendWithin least left lexemes).map Reading.result

def arguments (lexemes : List Lexeme) : Option (List Expression × List Lexeme) :=
  (argumentsWithin lexemes).map Reading.result

theorem climb_eq (least : Nat) (lexemes : List Lexeme) :
    climb least lexemes =
      (primary lexemes).bind fun (first, rest) => extend least first rest := by
  rw [climb, climbWithin, primary]
  cases primaryWithin lexemes with
  | none => rfl
  | some first =>
    change Option.map _ (Option.bind (extendWithin least first.tree first.rest) _) = extend ..
    rw [extend]
    cases extendWithin least first.tree first.rest <;> rfl

theorem extend_nil (least : Nat) (left : Expression) : extend least left [] = some (left, []) := by
  rw [extend, extendWithin]
  rfl

theorem extend_stop {least : Nat} {left : Expression} {lexeme : Lexeme} {rest : List Lexeme}
    (loose : ∀ op, lexeme.token.binaryOperator? = some op → op.val.precedence < least) :
    extend least left (lexeme :: rest) = some (left, lexeme :: rest) := by
  rw [extend, extendWithin]
  split
  · next op found =>
    rw [if_neg (Nat.not_le.mpr (loose op found))]
    rfl
  · rfl

theorem extend_binary {least : Nat} {left : Expression} {lexeme : Lexeme} {rest : List Lexeme}
    {op : BinaryOperator} (found : lexeme.token.binaryOperator? = some op)
    (tight : least ≤ op.val.precedence) :
    extend least left (lexeme :: rest) = (climb op.val.floor rest).bind fun (right, behind) =>
      extend least (.binary op left right) behind := by
  rw [extend, extendWithin]
  simp only [found, if_pos tight, climb]
  cases climbWithin op.val.floor rest with
  | none => rfl
  | some right =>
    change Option.map _ (Option.bind (extendWithin least _ right.rest) _) =
      extend least (.binary op left right.tree) right.rest
    rw [extend]
    cases extendWithin least (.binary op left right.tree) right.rest <;> rfl

def closeGroup : Expression × List Lexeme → Option (Expression × List Lexeme)
  | (tree, ⟨_, .closeParen⟩ :: behind) => some (tree, behind)
  | _ => none

theorem primary_group (column : Nat) (rest : List Lexeme) :
    primary (⟨column, .openParen⟩ :: rest) = (climb 0 rest).bind closeGroup := by
  rw [primary, primaryWithin, climb]
  cases climbWithin 0 rest with
  | none => rfl
  | some inner =>
    obtain ⟨tree, behind, shorter⟩ := inner
    match behind, shorter with
    | [], _ => rfl
    | ⟨_, token⟩ :: _, _ => cases token <;> rfl

theorem primary_emptyCall (column : Nat) (name : String) (opened close : Nat)
    (rest : List Lexeme) :
    primary (⟨column, .ident name⟩ :: ⟨opened, .openParen⟩ :: ⟨close, .closeParen⟩ :: rest) =
      some (.call name [], rest) := by
  rw [primary, primaryWithin]
  rfl

theorem primary_call (column : Nat) (name : String) (opened : Nat) {rest : List Lexeme}
    (nonempty : ¬ StartsWith .closeParen rest) :
    primary (⟨column, .ident name⟩ :: ⟨opened, .openParen⟩ :: rest) =
      (arguments rest).map fun (trees, behind) => (.call name trees, behind) := by
  rw [primary, primaryWithin, arguments]
  · cases argumentsWithin rest <;> rfl
  · rintro close behind rfl
    exact nonempty ⟨close, behind, rfl⟩

theorem primary_identifier (column : Nat) (name : String) {rest : List Lexeme}
    (alone : ¬ StartsWith .openParen rest) :
    primary (⟨column, .ident name⟩ :: rest) = some (.identifier name, rest) := by
  rw [primary, primaryWithin]
  · rfl
  · rintro opened close behind rfl
    exact alone ⟨opened, _, rfl⟩
  · rintro opened behind rfl
    exact alone ⟨opened, behind, rfl⟩

theorem primary_literal {lexeme : Lexeme} {value : Value} (rest : List Lexeme)
    (found : lexeme.token.literal? = some value) :
    primary (lexeme :: rest) = some (.literal value, rest) := by
  obtain ⟨column, token⟩ := lexeme
  rw [primary, primaryWithin]
  · simp only [found]; rfl
  all_goals intros; subst_vars; simp [Token.literal?] at found

theorem primary_unary {lexeme : Lexeme} {op : UnaryOperator} (rest : List Lexeme)
    (found : lexeme.token.prefixOperator? = some op) :
    primary (lexeme :: rest) =
      (climb op.val.floor rest).map fun (tree, behind) => (.unary op tree, behind) := by
  obtain ⟨column, token⟩ := lexeme
  have noLiteral : token.literal? = none := by
    cases token <;> simp_all [Token.literal?, Token.prefixOperator?]
  rw [primary, primaryWithin, climb]
  · simp only [found, noLiteral]
    cases climbWithin op.val.floor rest <;> rfl
  all_goals intros; subst_vars; simp [Token.prefixOperator?] at found

def moreArguments : Expression × List Lexeme → Option (List Expression × List Lexeme)
  | (tree, ⟨_, .closeParen⟩ :: rest) => some ([tree], rest)
  | (tree, ⟨_, .comma⟩ :: rest) =>
    (arguments rest).map fun (trees, behind) => (tree :: trees, behind)
  | _ => none

theorem arguments_eq (lexemes : List Lexeme) :
    arguments lexemes = (climb 0 lexemes).bind moreArguments := by
  rw [arguments, argumentsWithin, climb]
  cases climbWithin 0 lexemes with
  | none => rfl
  | some first =>
    obtain ⟨tree, behind, shorter⟩ := first
    match behind, shorter with
    | [], _ => rfl
    | ⟨_, token⟩ :: rest, _ =>
      cases token
      case comma =>
        change Option.map _ (Option.bind (argumentsWithin rest) _) = Option.map _ (arguments rest)
        rw [arguments]
        cases argumentsWithin rest <;> rfl
      all_goals rfl

theorem primary_cases {lexemes rest : List Lexeme} {tree : Expression}
    (h : primary lexemes = some (tree, rest)) :
    (∃ lexeme value, lexemes = lexeme :: rest ∧ lexeme.token.literal? = some value ∧
      tree = .literal value) ∨
    (∃ column name, lexemes = ⟨column, .ident name⟩ :: rest ∧
      ¬ StartsWith .openParen rest ∧ tree = .identifier name) ∨
    (∃ lexeme op inside operand, lexemes = lexeme :: inside ∧
      lexeme.token.prefixOperator? = some op ∧
      climb op.val.floor inside = some (operand, rest) ∧ tree = .unary op operand) ∨
    (∃ column inside close, lexemes = ⟨column, .openParen⟩ :: inside ∧
      climb 0 inside = some (tree, ⟨close, .closeParen⟩ :: rest)) ∨
    (∃ column name opened close, tree = .call name [] ∧
      lexemes = ⟨column, .ident name⟩ :: ⟨opened, .openParen⟩ :: ⟨close, .closeParen⟩ :: rest) ∨
    (∃ column name opened inside trees, tree = .call name trees ∧
      lexemes = ⟨column, .ident name⟩ :: ⟨opened, .openParen⟩ :: inside ∧
      arguments inside = some (trees, rest)) := by
  obtain _ | ⟨⟨column, token⟩, behind⟩ := lexemes
  · rw [primary, primaryWithin] at h
    cases h
  cases token
  case openParen =>
    rw [primary_group, Option.bind_eq_some_iff] at h
    obtain ⟨⟨inner, after⟩, found, closed⟩ := h
    unfold closeGroup at closed
    split at closed
    · next close _ equal =>
      cases equal
      cases closed
      exact .inr (.inr (.inr (.inl ⟨_, _, close, rfl, found⟩)))
    · cases closed
  case ident name =>
    by_cases call : StartsWith .openParen behind
    · obtain ⟨opened, inside, rfl⟩ := call
      by_cases empty : StartsWith .closeParen inside
      · obtain ⟨close, after, rfl⟩ := empty
        rw [primary_emptyCall] at h
        cases h
        exact .inr (.inr (.inr (.inr (.inl ⟨_, _, _, _, rfl, rfl⟩))))
      · rw [primary_call column name opened empty, Option.map_eq_some_iff] at h
        obtain ⟨⟨trees, after⟩, found, equal⟩ := h
        cases equal
        exact .inr (.inr (.inr (.inr (.inr ⟨_, _, _, _, _, rfl, rfl, found⟩))))
    · rw [primary_identifier column name call] at h
      cases h
      exact .inr (.inl ⟨_, _, rfl, call, rfl⟩)
  case number | text | trueKeyword | falseKeyword =>
    rw [primary_literal _ rfl] at h
    cases h
    exact .inl ⟨_, _, rfl, rfl, rfl⟩
  case plus | minus | notKeyword =>
    rw [primary_unary _ rfl, Option.map_eq_some_iff] at h
    obtain ⟨⟨operand, after⟩, found, equal⟩ := h
    cases equal
    exact .inr (.inr (.inl ⟨_, _, _, _, rfl, rfl, found, rfl⟩))
  all_goals
    rw [primary, primaryWithin] at h
    · cases h
    all_goals nofun

def Looser (least : Nat) (lexemes : List Lexeme) : Prop :=
  ∀ lexeme ∈ lexemes.head?, ∀ op, lexeme.token.binaryOperator? = some op →
    op.val.precedence < least

theorem primary_shorter {lexemes rest : List Lexeme} {tree : Expression}
    (h : primary lexemes = some (tree, rest)) : rest.length < lexemes.length := by
  obtain ⟨reading, -, equal⟩ := Option.map_eq_some_iff.mp h
  cases equal
  exact reading.shorter

theorem climb_shorter {least : Nat} {lexemes rest : List Lexeme} {tree : Expression}
    (h : climb least lexemes = some (tree, rest)) : rest.length < lexemes.length := by
  obtain ⟨reading, -, equal⟩ := Option.map_eq_some_iff.mp h
  cases equal
  exact reading.shorter

theorem extend_cases {least : Nat} {left tree : Expression} {lexemes rest : List Lexeme}
    (h : extend least left lexemes = some (tree, rest)) :
    (tree = left ∧ rest = lexemes ∧ Looser least lexemes) ∨
    (∃ lexeme op behind right after, lexemes = lexeme :: behind ∧
      lexeme.token.binaryOperator? = some op ∧ least ≤ op.val.precedence ∧
      climb op.val.floor behind = some (right, after) ∧
      extend least (.binary op left right) after = some (tree, rest)) := by
  by_cases loose : Looser least lexemes
  · left
    cases lexemes with
    | nil =>
      rw [extend_nil] at h
      cases h
      exact ⟨rfl, rfl, loose⟩
    | cons lexeme behind =>
      rw [extend_stop (loose lexeme rfl)] at h
      cases h
      exact ⟨rfl, rfl, loose⟩
  · right
    simp only [Looser, Classical.not_forall, Nat.not_lt] at loose
    obtain ⟨lexeme, first, op, between, tight⟩ := loose
    obtain ⟨behind, rfl⟩ := List.head?_eq_some_iff.mp first
    rw [extend_binary between tight, Option.bind_eq_some_iff] at h
    obtain ⟨⟨right, after⟩, found, more⟩ := h
    exact ⟨lexeme, op, behind, right, after, rfl, between, tight, found, more⟩

theorem extend_looser {least : Nat} {left tree : Expression} {lexemes rest : List Lexeme}
    (h : extend least left lexemes = some (tree, rest)) : Looser least rest := by
  induction size : lexemes.length using Nat.strongRecOn generalizing lexemes left with
  | ind size ih =>
    subst size
    rcases extend_cases h with ⟨rfl, rfl, looser⟩ |
      ⟨lexeme, op, behind, right, after, rfl, -, -, found, more⟩
    · exact looser
    · have shorter := climb_shorter found
      exact ih after.length (by rw [List.length_cons]; omega) more rfl

theorem climb_looser {least : Nat} {lexemes rest : List Lexeme} {tree : Expression}
    (h : climb least lexemes = some (tree, rest)) : Looser least rest := by
  rw [climb_eq, Option.bind_eq_some_iff] at h
  obtain ⟨first, -, more⟩ := h
  exact extend_looser more

theorem arguments_cases {lexemes rest : List Lexeme} {trees : List Expression}
    (h : arguments lexemes = some (trees, rest)) :
    ∃ tree after, climb 0 lexemes = some (tree, after) ∧
      ((∃ close, after = ⟨close, .closeParen⟩ :: rest ∧ trees = [tree]) ∨
      (∃ comma more others, after = ⟨comma, .comma⟩ :: more ∧
        arguments more = some (others, rest) ∧ trees = tree :: others)) := by
  rw [arguments_eq, Option.bind_eq_some_iff] at h
  obtain ⟨⟨tree, after⟩, found, more⟩ := h
  refine ⟨tree, after, found, ?_⟩
  unfold moreArguments at more
  split at more
  · next close _ equal =>
    cases equal
    cases more
    exact .inl ⟨close, rfl, rfl⟩
  · next comma behind equal =>
    cases equal
    obtain ⟨⟨others, last⟩, foundMore, equal⟩ := Option.map_eq_some_iff.mp more
    cases equal
    exact .inr ⟨comma, behind, others, rfl, foundMore, rfl⟩
  · cases more

/-! ### Every expression is read -/

/-- What may follow an expression: nothing, or a token that neither goes on from it nor makes a call
of it. -/
def Stops (lexemes : List Lexeme) : Prop :=
  ¬ StartsWith .openParen lexemes ∧
    ∀ lexeme ∈ lexemes.head?, lexeme.token.binaryOperator? = none

/-- How much of an expression a climb reads: a part that only a looser operator ends. -/
def Climbs (lexemes : List Lexeme) : Prop :=
  ∀ least rest, Stops rest → ∃ tree tail,
    climb least (lexemes ++ rest) = some (tree, tail ++ rest) ∧
    IsTail tail ∧ tail.length < lexemes.length ∧ Looser least tail

theorem Climbs.whole {lexemes rest : List Lexeme} (climbs : Climbs lexemes) (stops : Stops rest) :
    ∃ tree, climb 0 (lexemes ++ rest) = some (tree, rest) := by
  obtain ⟨tree, tail, found, isTail, -, looser⟩ := climbs 0 rest stops
  cases isTail with
  | nil => exact ⟨tree, found⟩
  | cons between right => exact absurd (looser _ rfl _ between) (Nat.not_lt_zero _)

theorem stops_nil : Stops [] := ⟨nofun, nofun⟩

theorem stops_close (column : Nat) (rest : List Lexeme) : Stops (⟨column, .closeParen⟩ :: rest) :=
  ⟨nofun, fun lexeme first => by cases first; rfl⟩

theorem stops_comma (column : Nat) (rest : List Lexeme) : Stops (⟨column, .comma⟩ :: rest) :=
  ⟨nofun, fun lexeme first => by cases first; rfl⟩

theorem arguments_complete {bound : Nat}
    (climbs : ∀ lexemes, lexemes.length < bound → IsExpression lexemes → Climbs lexemes)
    {lexemes : List Lexeme} (isArguments : IsArguments lexemes) (short : lexemes.length < bound)
    (close : Nat) (rest : List Lexeme) :
    ∃ trees, arguments (lexemes ++ ⟨close, .closeParen⟩ :: rest) = some (trees, rest) := by
  match isArguments with
  | .last expression =>
    obtain ⟨tree, found⟩ := (climbs _ short expression).whole (stops_close close rest)
    refine ⟨[tree], ?_⟩
    rw [arguments_eq, found]
    rfl
  | @IsArguments.cons first more column expression isMore =>
    simp only [List.length_append, List.length_cons] at short
    obtain ⟨tree, found⟩ := (climbs _ (by omega) expression).whole
      (stops_comma column (more ++ ⟨close, .closeParen⟩ :: rest))
    obtain ⟨trees, foundMore⟩ := arguments_complete climbs isMore (by omega) close rest
    refine ⟨tree :: trees, ?_⟩
    rw [List.append_assoc, List.cons_append, arguments_eq, found]
    simp [moreArguments, foundMore]

theorem primary_complete {bound : Nat}
    (climbs : ∀ lexemes, lexemes.length < bound → IsExpression lexemes → Climbs lexemes)
    {lexemes rest : List Lexeme} (operand : IsOperand lexemes) (short : lexemes.length ≤ bound)
    (alone : ¬ StartsWith .openParen rest) :
    ∃ tree, primary (lexemes ++ rest) = some (tree, rest) := by
  cases operand with
  | literal found => exact ⟨_, primary_literal rest found⟩
  | identifier column name => exact ⟨_, primary_identifier column name alone⟩
  | group column close inside =>
    simp only [List.length_append, List.length_cons, List.length_nil] at short
    obtain ⟨tree, found⟩ := (climbs _ (by omega) inside).whole (stops_close close rest)
    refine ⟨tree, ?_⟩
    rw [List.cons_append, List.append_assoc, primary_group]
    simp [found, closeGroup]
  | emptyCall column name opened close => exact ⟨_, primary_emptyCall column name opened close rest⟩
  | call column name opened close inside =>
    simp only [List.length_append, List.length_cons, List.length_nil] at short
    obtain ⟨trees, found⟩ := arguments_complete climbs inside (by omega) close rest
    refine ⟨.call name trees, ?_⟩
    rw [List.cons_append, List.cons_append, List.append_assoc,
      primary_call column name opened (inside.not_startsWith_close _)]
    simp [found]

theorem extend_complete {bound : Nat}
    (climbs : ∀ lexemes, lexemes.length < bound → IsExpression lexemes → Climbs lexemes)
    (least : Nat) (left : Expression) {tail rest : List Lexeme} (isTail : IsTail tail)
    (short : tail.length ≤ bound) (stops : Stops rest) :
    ∃ tree behind, extend least left (tail ++ rest) = some (tree, behind ++ rest) ∧
      IsTail behind ∧ behind.length ≤ tail.length ∧ Looser least behind := by
  induction size : tail.length using Nat.strongRecOn generalizing tail left with
  | ind size ih =>
    subst size
    cases isTail with
    | nil =>
      refine ⟨left, [], ?_, .nil, Nat.le_refl _, nofun⟩
      cases rest with
      | nil => exact extend_nil least left
      | cons lexeme behind =>
        refine extend_stop fun op found => ?_
        rw [stops.2 lexeme rfl] at found
        cases found
    | cons between right =>
      rename_i lexeme op operand
      rw [List.length_cons] at short ih ⊢
      by_cases tight : least ≤ op.val.precedence
      · obtain ⟨tree, tail, found, isTail, fewer, -⟩ := climbs _ short right op.val.floor rest stops
        obtain ⟨whole, behind, foundWhole, isBehind, less, looser⟩ :=
          ih _ (by omega) (.binary op left tree) isTail (by omega) rfl
        refine ⟨whole, behind, ?_, isBehind, by omega, looser⟩
        rw [List.cons_append, extend_binary between tight, found]
        exact foundWhole
      · have loose : Looser least (lexeme :: operand) := by
          intro first isFirst other found
          obtain rfl : lexeme = first := by simpa using isFirst
          rw [between] at found
          cases found
          exact Nat.not_le.mp tight
        exact ⟨left, _, extend_stop (loose lexeme rfl), .cons between right, Nat.le_refl _, loose⟩

theorem climb_complete {lexemes : List Lexeme} (expression : IsExpression lexemes) :
    Climbs lexemes := by
  induction size : lexemes.length using Nat.strongRecOn generalizing lexemes with
  | ind size ih =>
    subst size
    have climbs : ∀ shorter : List Lexeme, shorter.length < lexemes.length →
        IsExpression shorter → Climbs shorter :=
      fun shorter less isExpression => ih _ less isExpression rfl
    intro least rest stops
    rw [climb_eq]
    rcases expression.start with
      ⟨lexeme, op, operand, rfl, found, inner⟩ | ⟨operand, tail, rfl, isOperand, isTail⟩
    · obtain ⟨tree, tail, foundInner, isTail, fewer, -⟩ :=
        climbs _ (Nat.lt_succ_self _) inner op.val.floor rest stops
      obtain ⟨whole, behind, foundWhole, isBehind, less, looser⟩ :=
        extend_complete climbs least (.unary op tree) isTail (by rw [List.length_cons]; omega) stops
      refine ⟨whole, behind, ?_, isBehind, by rw [List.length_cons]; omega, looser⟩
      rw [List.cons_append, primary_unary _ found, foundInner]
      exact foundWhole
    · have positive : 0 < operand.length := by cases isOperand <;> exact Nat.succ_pos _
      obtain ⟨tree, foundOperand⟩ := primary_complete climbs isOperand (by simp)
        (isTail.not_startsWith_open stops.1)
      obtain ⟨whole, behind, foundWhole, isBehind, less, looser⟩ :=
        extend_complete climbs least tree isTail (by simp) stops
      refine ⟨whole, behind, ?_, isBehind, by rw [List.length_append]; omega, looser⟩
      rw [List.append_assoc, foundOperand]
      exact foundWhole

end Climbing

def Expression.parse (lexemes : List Lexeme) : Option Expression :=
  match Climbing.climb 0 lexemes with
  | some (tree, []) => some tree
  | _ => none

theorem IsExpression.exists_parse {lexemes : List Lexeme} (expression : IsExpression lexemes) :
    ∃ tree, Expression.parse lexemes = some tree := by
  obtain ⟨tree, found⟩ := (Climbing.climb_complete expression).whole Climbing.stops_nil
  rw [List.append_nil] at found
  exact ⟨tree, by rw [Expression.parse, found]⟩

/-- Which operators a climb takes into the last operand of another operator: `not` takes all that
bind tighter than itself, the other prefix operators none. -/
theorem Operator.floor_le_iff (op : Operator) (inner : BinaryOperator) :
    op.floor ≤ inner.val.precedence ↔
      op = .not ∧ 3 < inner.val.precedence ∨ op.arity = 2 ∧
        (op.precedence < inner.val.precedence ∨ op = .power ∧ inner.val = .power) := by
  obtain ⟨inner, arity⟩ := inner
  cases inner <;> cases arity
  all_goals cases op <;> decide

-- `a * not b + c`
example : (Expression.parse [⟨1, .ident "a"⟩, ⟨3, .asterisk⟩, ⟨5, .notKeyword⟩, ⟨9, .ident "b"⟩,
    ⟨11, .plus⟩, ⟨13, .ident "c"⟩]).map Expression.code = some [.load "a", .load "b", .load "c",
      .operate .plus, .operate .not, .operate .times] := by
  decide +kernel

end EventScript
