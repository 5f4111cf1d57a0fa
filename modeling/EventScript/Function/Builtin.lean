import EventScript.Function

/-!
# Built-in functions

Arithmetic on distances and extremes, chance and time, and triggering events.
-/

namespace EventScript.Builtin

/-- The argument of the function at a position counted from 0, which has to be a number. -/
def numberArgument (function : String) (arguments : List Value) (index : Nat) :
    Except HandlerError Float :=
  match arguments[index]? with
  | some (.number x) => .ok x
  | some value => .error (.reported
      [s!"argument {index + 1} to `" ++ function ++ "` must be a number, got " ++ value.describe])
  | none => .error (.reported [s!"argument {index + 1} to `" ++ function ++ "` not provided"])

def numberArguments (function : String) (arguments : List Value) : Except HandlerError (List Float) :=
  (List.range arguments.length).mapM (numberArgument function arguments)

def number (x : Float) : Option Value := some (.number x)

/-- The smaller of two numbers; a NaN loses, and of two equal zeros the first is taken. -/
def smaller (x y : Float) : Float := if x.isNaN then y else if y < x then y else x

def greater (x y : Float) : Float := if x.isNaN then y else if x < y then y else x

def distance (arguments : List Value) : Except HandlerError (Option Value) := do
  let start ← numberArgument "distance" arguments 0
  let finish ← numberArgument "distance" arguments 1
  return number (start - finish).abs

def abs (arguments : List Value) : Except HandlerError (Option Value) := do
  return number (← numberArgument "abs" arguments 0).abs

def min (arguments : List Value) : Except HandlerError (Option Value) := do
  return number ((← numberArguments "min" arguments).foldl smaller Number.infinity)

def max (arguments : List Value) : Except HandlerError (Option Value) := do
  return number ((← numberArguments "max" arguments).foldl greater (-Number.infinity))

/-- Draws a whole number between 0 and the whole part of the argument, both included. -/
def randint (arguments : List Value) : Procedure :=
  match numberArgument "randint" arguments 0 with
  | .error error => .fail error
  | .ok x =>
    let limit := x.toInt64.toInt
    .draw limit.natAbs fun drawn =>
      .done (number (Float.ofInt (if 0 ≤ limit then drawn.val else -(drawn.val : Int))))

def time : Procedure := .clock fun seconds => .done (number (Float.ofNat seconds))

def debug : List Value → Except HandlerError (Option Value)
  | value :: _ => .ok (some value)
  | [] => .error (.reported ["argument to `debug` not provided"])

def eventName : List Value → Except HandlerError String
  | .text name :: _ => .ok name
  | value :: _ => .error (.reported
      ["argument to `trigger_event` must be a string, got " ++ value.describe])
  | [] => .error (.reported ["argument to `trigger_event` not provided"])

/-- Whom the event is for: everyone, unless a second argument names an instance. -/
def eventTarget (arguments : List Value) : Except HandlerError Target :=
  match arguments[1]? with
  | none => .ok .everyone
  | some value => do
    let id ← numberArgument "trigger_event" arguments 1
    if id < 0.0 || id - id.floor != 0.0 then
      throw (.reported ["invalid instance id " ++ value.display ++ " for `trigger_event`"])
    return .only id.toUInt64.toNat

/-- The event that a call from an instance triggers; it names the instance as its source. -/
def eventToTrigger (caller : Option InstanceId) (arguments : List Value) :
    Except HandlerError Event := do
  let event : Event := { Event.named (← eventName arguments) with
    target := ← eventTarget arguments }
  return match caller with
    | some id => event.withParameter "source" (.number (Float.ofNat id))
    | none => event

def triggerEvent (caller : Option InstanceId) (arguments : List Value) : Procedure :=
  match eventToTrigger caller arguments with
  | .error error => .fail error
  | .ok event => .trigger event fun
    | .ok () => .done none
    | .error error => .fail (.script error)

def pureFunction (arity : Arity) (handler : List Value → Except HandlerError (Option Value)) :
    Function :=
  { arity, hasSideEffects := false, handler := fun _ arguments => .ofExcept (handler arguments) }

def registry : Registry := .ofList
  [("distance", pureFunction (.exactly 2) distance),
   ("abs", pureFunction (.exactly 1) abs),
   ("min", pureFunction (.atLeast 1) min),
   ("max", pureFunction (.atLeast 1) max),
   ("randint", { arity := .exactly 1, handler := fun _ => randint }),
   ("time", { arity := .exactly 0, handler := fun _ _ => time }),
   ("debug", { arity := .exactly 1, handler := fun _ arguments => .ofExcept (debug arguments) }),
   ("trigger_event",
     { arity := .between 1 2, returnsValue := false, handler := triggerEvent })]

end EventScript.Builtin
