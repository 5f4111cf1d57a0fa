import EventScript.Play
import EventScript.Proofs.Outcome
import EventScript.Proofs.World.Subscribers

/-!
# Playing a file

Playing a file is a history of operations on a world with one instance. That instance has one
subscription to an event, so of several sections for one event only the last one's script runs.
-/

namespace EventScript

namespace World

def answer? (world : World) : Operation → Option (Except ScriptError Report)
  | .trigger event => some (world.trigger event).1
  | .drain drain => some (world.drain drain).1
  | _ => none

/-- Performs an operation and counts the failed handlers. It all ends with a pass that fails. -/
def proceed (state : Nat × World) (operation : Operation) : Except ScriptError (Nat × World) :=
  match state.2.answer? operation with
  | none => .ok (state.1, state.2.perform operation)
  | some answer =>
    answer.map fun report => (state.1 + report.failures.length, state.2.perform operation)

def deliveriesOf (world : World) : Operation → List Delivery
  | .trigger event => (world.deliveries [⟨event, 0⟩]).1
  | .drain drain => ((world.awaiting drain).deliveries (world.taken drain)).1
  | _ => []

/-- A pass answers with the report of its deliveries. -/
theorem answer?_eq {world : World} {operation : Operation} {answer : Except ScriptError Report}
    (answered : world.answer? operation = some answer) :
    answer = (Report.ofDeliveries (world.deliveriesOf operation)).outcome := by
  cases operation with
  | trigger event =>
    cases answered
    rw [trigger_deliveries]
    rfl
  | drain drain =>
    cases answered
    rw [drain_deliveries]
    rfl
  | _ => cases answered

theorem deliveriesOf_handled {world : World} (present : world.SubscribersPresent)
    (operation : Operation) :
    ∀ delivery ∈ world.deliveriesOf operation,
      delivery.handlings.map Handling.subscription =
        delivery.queued.event.target.among (world.subscribers delivery.queued.event.name) := by
  cases operation with
  | trigger event => exact deliveries_handled present [⟨event, 0⟩]
  | drain drain =>
    intro delivery member
    have retains := world.awaiting_retains drain
    rw [deliveries_handled (present.retained retains) _ delivery member, retains.subscribers]
  | _ => exact nofun

theorem foldlM_proceed {operations : List Operation}
    (quiet : ∀ operation ∈ operations, ∀ world : World, world.answer? operation = none)
    (state : Nat × World) :
    operations.foldlM proceed state = .ok (state.1, operations.foldl perform state.2) := by
  induction operations generalizing state with
  | nil => rfl
  | cons operation operations ih =>
    have first : proceed state operation = .ok (state.1, state.2.perform operation) := by
      unfold proceed
      rw [quiet operation List.mem_cons_self]
    rw [List.foldlM_cons, first]
    exact ih (fun other member => quiet other (List.mem_cons_of_mem operation member)) _

theorem proceed_world {state next : Nat × World} {operation : Operation}
    (proceeded : proceed state operation = .ok next) : next.2 = state.2.perform operation := by
  unfold proceed at proceeded
  split at proceeded
  · cases proceeded
    rfl
  · obtain ⟨report, -, rfl⟩ := map_ok proceeded
    rfl

theorem foldlM_proceed_world {operations : List Operation} {state last : Nat × World}
    (proceeded : operations.foldlM proceed state = .ok last) :
    last.2 = operations.foldl perform state.2 := by
  induction operations generalizing state with
  | nil =>
    cases proceeded
    rfl
  | cons operation operations ih =>
    rw [List.foldlM_cons] at proceeded
    obtain ⟨next, first, rest⟩ := bind_ok proceeded
    rw [List.foldl_cons, ← proceed_world first]
    exact ih rest

theorem subscribe_eq_perform {world : World} {instanceId : InstanceId}
    (present : (world.symbols? instanceId).isSome) (event : String) (block : Block) :
    world.subscribe event instanceId block =
      .ok (world.perform (.subscribe event instanceId block)) := by
  have accepted : ∃ next, world.subscribe event instanceId block = .ok next := by
    unfold subscribe
    rw [Std.ExtTreeMap.contains_eq_isSome_getElem?]
    exact ⟨_, if_pos present⟩
  obtain ⟨next, accepted⟩ := accepted
  rw [perform, accepted]

end World

namespace Play

structure Handler where
  event : String
  block : Block
  deriving DecidableEq

def Section.compiled (engine : Engine) (entry : Section) : Except ScriptError Handler := do
  return ⟨entry.event, ← engine.compile (String.ofList entry.source)⟩

theorem compiled_cons {engine : Engine} {part : Section} {parts : List Section}
    {handlers : List Handler}
    (compiled : (part :: parts).mapM (Section.compiled engine) = .ok handlers) :
    ∃ block others, engine.compile (String.ofList part.source) = .ok block ∧
      parts.mapM (Section.compiled engine) = .ok others ∧
      handlers = ⟨part.event, block⟩ :: others := by
  rw [List.mapM_cons] at compiled
  obtain ⟨handler, first, compiled⟩ := bind_ok compiled
  obtain ⟨others, rest, compiled⟩ := bind_ok compiled
  obtain ⟨block, found, first⟩ := bind_ok first
  cases first
  cases compiled
  exact ⟨block, others, found, rest, rfl⟩

def codeFor (event : String) (handlers : List Handler) : List Block :=
  (handlers.filter fun handler => handler.event == event).map Handler.block

/-! ### The history of a play -/

def Handler.operation (handler : Handler) : Operation :=
  .subscribe handler.event 1 handler.block

def opening (handlers : List Handler) : List Operation :=
  .addInstance .empty :: handlers.map Handler.operation

def tickEvents (number : Nat) : List Event :=
  stepEvents.map fun name => (Event.named name).withParameter "tick" (.number (Float.ofNat number))

def tickOperations (number : Nat) : List Operation :=
  (tickEvents number).map .enqueue ++ [.drain .everything]

def passes (ticks : Nat) : List Operation :=
  .trigger (.named "create") :: (List.range ticks).flatMap tickOperations

def operations (handlers : List Handler) (ticks : Nat) : List Operation :=
  opening handlers ++ passes ticks

/-- What is printed at the end, or the error that ended it all. -/
def conclude : Except ScriptError (Nat × World) → Except Error String
  | .ok (failures, world) => .ok (summary 1 failures world)
  | .error error => .error (.script error)

theorem foldlM_subscribe {engine : Engine} {parts : List Section} {handlers : List Handler}
    (compiled : parts.mapM (Section.compiled engine) = .ok handlers) {world : World}
    (same : world.engine = engine) (present : (world.symbols? 1).isSome) :
    parts.foldlM (subscribe 1) world =
      .ok ((handlers.map Handler.operation).foldl World.perform world) := by
  induction parts generalizing world handlers with
  | nil =>
    cases compiled
    rfl
  | cons part parts ih =>
    obtain ⟨block, others, found, rest, rfl⟩ := compiled_cons compiled
    have subscribed : subscribe 1 world part =
        .ok (world.perform (.subscribe part.event 1 block)) := by
      unfold subscribe
      rw [same, found]
      exact World.subscribe_eq_perform present part.event block
    rw [List.foldlM_cons, subscribed]
    refine ih rest ((world.perform_engine _).trans same) ?_
    rw [World.perform_subscribe, if_pos present]
    exact present

theorem tick_eq (state : Nat × World) (number : Nat) :
    tick state number = (tickOperations number).foldlM World.proceed state := by
  have quiet : ∀ operation ∈ (tickEvents number).map .enqueue,
      ∀ world : World, world.answer? operation = none := by
    intro operation member world
    obtain ⟨event, -, rfl⟩ := List.mem_map.mp member
    rfl
  rw [tickOperations, List.foldlM_append, World.foldlM_proceed quiet, List.foldl_map]
  -- The queue is filled; what is left is the one pass of the tick.
  change (failuresOf ((tickEvents number).foldl World.enqueue state.2).processQueue >>= _) =
    World.proceed (state.1, (tickEvents number).foldl World.enqueue state.2) _ >>= _
  generalize (tickEvents number).foldl World.enqueue state.2 = world
  unfold World.proceed
  change _ = Except.map _ world.processQueue.1 >>= _
  unfold failuresOf
  cases world.processQueue.1 with
  | error error => rfl
  | ok report => rfl

theorem foldlM_tick (numbers : List Nat) (state : Nat × World) :
    numbers.foldlM tick state = (numbers.flatMap tickOperations).foldlM World.proceed state := by
  induction numbers generalizing state with
  | nil => rfl
  | cons number numbers ih =>
    rw [List.foldlM_cons, List.flatMap_cons, List.foldlM_append, tick_eq]
    exact congrArg _ (funext ih)

theorem foldlM_opening (handlers : List Handler) (state : Nat × World) :
    (opening handlers).foldlM World.proceed state =
      .ok (state.1, (opening handlers).foldl World.perform state.2) := by
  refine World.foldlM_proceed (fun operation member world => ?_) state
  rcases List.mem_cons.mp member with rfl | member
  · rfl
  · obtain ⟨handler, -, rfl⟩ := List.mem_map.mp member
    rfl

/-- Playing a file is a history of operations, as far as no pass fails. -/
theorem run_eq {engine : Engine} {source : String} {parts : List Section} {handlers : List Handler}
    (read : sections source = .ok parts)
    (compiled : parts.mapM (Section.compiled engine) = .ok handlers) (chance : Chance)
    (ticks : Nat) :
    run engine chance source ticks =
      conclude ((operations handlers ticks).foldlM World.proceed (0, .ofEngine engine chance)) := by
  let entered := ((World.ofEngine engine chance).addInstance .empty).2
  have subscribed : parts.foldlM (subscribe 1) entered =
      .ok ((opening handlers).foldl World.perform (.ofEngine engine chance)) :=
    foldlM_subscribe compiled rfl rfl
  rw [operations, List.foldlM_append, foldlM_opening]
  generalize (opening handlers).foldl World.perform (.ofEngine engine chance) = ready at subscribed ⊢
  have triggered : failuresOf (ready.trigger (.named "create")) =
      World.proceed (0, ready) (.trigger (.named "create")) := by
    unfold World.proceed failuresOf
    dsimp only [World.answer?]
    simp only [Nat.zero_add]
    rfl
  have played : (parts.foldlM (subscribe 1) entered >>= fun world => do
      (List.range ticks).foldlM tick (← failuresOf (world.trigger (.named "create")))) =
      (passes ticks).foldlM World.proceed (0, ready) := by
    rw [subscribed, passes, List.foldlM_cons, ← triggered]
    exact congrArg _ (funext (foldlM_tick _))
  calc
    run engine chance source ticks =
        conclude (parts.foldlM (subscribe 1) entered >>= fun world => do
          (List.range ticks).foldlM tick (← failuresOf (world.trigger (.named "create")))) := by
      unfold run
      rw [read]
      rfl
    _ = conclude ((passes ticks).foldlM World.proceed (0, ready)) := congrArg conclude played

/-! ### Who runs on an event -/

theorem codeFor_cons (event : String) (handler : Handler) (handlers : List Handler) :
    codeFor event (handler :: handlers) =
      if handler.event = event then handler.block :: codeFor event handlers
      else codeFor event handlers := by
  unfold codeFor
  rw [List.filter_cons]
  by_cases same : handler.event = event
  · rw [if_pos (beq_iff_eq.mpr same), if_pos same]
    rfl
  · rw [if_neg (mt beq_iff_eq.mp same), if_neg same]

/-- The latest subscription of the instance to an event is the one that stays. -/
theorem subscribers_of_handlers (handlers : List Handler) {world : World}
    (present : (world.symbols? 1).isSome) {event : String} {earlier : Option Block}
    (before : world.subscribers event = earlier.toList.map (⟨1, ·⟩)) :
    ((handlers.map Handler.operation).foldl World.perform world).subscribers event =
      ((codeFor event handlers).getLast?.or earlier).toList.map (⟨1, ·⟩) := by
  induction handlers generalizing world earlier with
  | nil => exact before
  | cons handler handlers ih =>
    have there : ((world.perform handler.operation).symbols? 1).isSome := by
      rw [Handler.operation, World.perform_subscribe, if_pos present]
      exact present
    have next : (world.perform handler.operation).subscribers event =
        (if handler.event = event then some handler.block else earlier).toList.map (⟨1, ·⟩) := by
      rw [Handler.operation, World.subscribers_of_subscribe present, before]
      split
      · cases earlier <;> rfl
      · rfl
    rw [List.map_cons, List.foldl_cons, ih there next, codeFor_cons]
    split
    · rw [List.getLast?_cons]
      cases (codeFor event handlers).getLast? <;> rfl
    · rfl

theorem subscribers_of_opening (engine : Engine) (chance : Chance) (handlers : List Handler)
    (event : String) :
    ((opening handlers).foldl World.perform (.ofEngine engine chance)).subscribers event =
      (codeFor event handlers).getLast?.toList.map (⟨1, ·⟩) := by
  let entered := ((World.ofEngine engine chance).addInstance .empty).2
  have present : (entered.symbols? 1).isSome := rfl
  have nobody : entered.subscribers event = (none : Option Block).toList.map (⟨1, ·⟩) := rfl
  have subscribed := subscribers_of_handlers handlers present nobody
  rwa [Option.or_none] at subscribed

/-- Passes leave the subscribers as they are. -/
theorem subscribers_of_pass {ticks : Nat} {operation : Operation} (member : operation ∈ passes ticks)
    (world : World) (event : String) :
    (world.perform operation).subscribers event = world.subscribers event := by
  rcases List.mem_cons.mp member with rfl | member
  · exact (world.trigger_retains _).subscribers event
  · obtain ⟨number, -, member⟩ := List.mem_flatMap.mp member
    rcases List.mem_append.mp member with waits | last
    · obtain ⟨queued, -, rfl⟩ := List.mem_map.mp waits
      rfl
    · obtain rfl := List.mem_singleton.mp last
      exact (world.drain_retains .everything).subscribers event

theorem subscribers_of_passes {ticks : Nat} {done : List Operation}
    (inside : ∀ operation ∈ done, operation ∈ passes ticks) (world : World) (event : String) :
    (done.foldl World.perform world).subscribers event = world.subscribers event := by
  induction done generalizing world with
  | nil => rfl
  | cons operation done ih =>
    have first := subscribers_of_pass (inside operation List.mem_cons_self) world event
    rw [List.foldl_cons, ← first]
    exact ih (fun other member => inside other (List.mem_cons_of_mem operation member)) _

/-- Setting the instance up delivers nothing. -/
theorem deliveriesOf_opening {handlers : List Handler} {operation : Operation}
    (member : operation ∈ opening handlers) (world : World) : world.deliveriesOf operation = [] := by
  rcases List.mem_cons.mp member with rfl | member
  · rfl
  · obtain ⟨handler, -, rfl⟩ := List.mem_map.mp member
    rfl

theorem opening_or_passes {handlers : List Handler} {ticks : Nat} {done rest : List Operation}
    {operation : Operation} (split : operations handlers ticks = done ++ operation :: rest) :
    operation ∈ opening handlers ∨
      ∃ passed, done = opening handlers ++ passed ∧ passes ticks = passed ++ operation :: rest := by
  rcases List.append_eq_append_iff.mp split with ⟨passed, before, after⟩ | ⟨more, before, after⟩
  · exact .inr ⟨passed, before, after⟩
  · cases more with
    | nil => exact .inr ⟨[], by simpa using before.symm, after.symm⟩
    | cons first more =>
      obtain ⟨rfl, -⟩ := List.cons.inj after
      rw [before]
      exact .inl (List.mem_append_right _ List.mem_cons_self)

theorem among_toList (target : Target) (block : Option Block) :
    target.among (block.toList.map (⟨1, ·⟩)) =
      if target.includes 1 then block.toList.map (⟨1, ·⟩) else [] := by
  cases target with
  | everyone => rfl
  | only instanceId =>
    cases block with
    | none => simp [Target.among]
    | some block =>
      rw [Target.includes, Bool.beq_comm]
      simp [Target.among, List.filter_cons]

/-! ### Sections for one event -/

theorem map_event_compiled {engine : Engine} {parts : List Section} {handlers : List Handler}
    (compiled : parts.mapM (Section.compiled engine) = .ok handlers) :
    handlers.map Handler.event = parts.map Section.event := by
  induction parts generalizing handlers with
  | nil =>
    cases compiled
    rfl
  | cons part parts ih =>
    obtain ⟨block, others, -, rest, rfl⟩ := compiled_cons compiled
    rw [List.map_cons, List.map_cons, ih rest]

theorem length_codeFor (event : String) (handlers : List Handler) :
    (codeFor event handlers).length = (handlers.map Handler.event).count event := by
  induction handlers with
  | nil => rfl
  | cons handler handlers ih =>
    rw [codeFor_cons, List.map_cons, List.count_cons, ← ih]
    by_cases same : handler.event = event
    · rw [if_pos same, if_pos (beq_iff_eq.mpr same), List.length_cons]
    · rw [if_neg same, if_neg (mt beq_iff_eq.mp same), Nat.add_zero]

theorem getLast?_toList_eq_iff {blocks : List Block} :
    blocks.getLast?.toList = blocks ↔ blocks.length ≤ 1 := by
  match blocks with
  | [] => simp
  | [block] => simp
  | first :: second :: rest =>
    have kept : ((first :: second :: rest).getLast?.toList).length = 1 := by
      rw [List.getLast?_cons_cons, List.getLast?_cons]
      rfl
    constructor
    · intro same
      rw [same] at kept
      exact Nat.le_of_eq kept
    · intro short
      simp at short

/-- Whenever an event is delivered to the instance of a play, the script of the last section for it
runs, and that of no other section. So no script is left out exactly if the event has at most one
section. -/
theorem run_delivers_to_last {engine : Engine} {source : String} {parts : List Section}
    {handlers : List Handler} (read : sections source = .ok parts)
    (compiled : parts.mapM (Section.compiled engine) = .ok handlers) (chance : Chance)
    (ticks : Nat) :
    run engine chance source ticks =
        conclude ((operations handlers ticks).foldlM World.proceed (0, .ofEngine engine chance)) ∧
      (∀ done operation rest failures world,
        operations handlers ticks = done ++ operation :: rest →
        done.foldlM World.proceed (0, .ofEngine engine chance) = .ok (failures, world) →
        (∀ answer ∈ world.answer? operation,
          answer = (Report.ofDeliveries (world.deliveriesOf operation)).outcome) ∧
        ∀ delivery ∈ world.deliveriesOf operation,
          delivery.handlings.map Handling.subscription =
            if delivery.queued.event.target.includes 1 then
              (codeFor delivery.queued.event.name handlers).getLast?.toList.map (⟨1, ·⟩)
            else []) ∧
      ∀ event, (codeFor event handlers).getLast?.toList = codeFor event handlers ↔
        (parts.map Section.event).count event ≤ 1 := by
  refine ⟨run_eq read compiled chance ticks, ?_, ?_⟩
  · intro done operation rest failures world split proceeded
    have reached : world = done.foldl World.perform (.ofEngine engine chance) :=
      World.foldlM_proceed_world proceeded
    refine ⟨fun answer answered => World.answer?_eq answered, ?_⟩
    intro delivery member
    rcases opening_or_passes split with early | ⟨passed, rfl, later⟩
    · rw [deliveriesOf_opening early] at member
      cases member
    · have present : world.SubscribersPresent := by
        rw [reached]
        exact History.subscribersPresent ⟨engine, chance, opening handlers ++ passed⟩
      have inside : ∀ other ∈ passed, other ∈ passes ticks := by
        intro other before
        rw [later]
        exact List.mem_append_left _ before
      have subscribed : world.subscribers delivery.queued.event.name =
          (codeFor delivery.queued.event.name handlers).getLast?.toList.map (⟨1, ·⟩) := by
        rw [reached, List.foldl_append, subscribers_of_passes inside, subscribers_of_opening]
      rw [World.deliveriesOf_handled present operation delivery member, subscribed]
      exact among_toList _ _
  · intro event
    rw [getLast?_toList_eq_iff, length_codeFor, map_event_compiled compiled]

theorem run_delivers_to_last_ready :
    let source := "@on create\nready = true\n@on begin_step\nmoved = true\n@on create\nready = false\n"
    let handlers : List Handler := [
      ⟨"create", [⟨2, .perform (.assign .nearest "ready" [.push (.boolean true)])⟩]⟩,
      ⟨"begin_step", [⟨4, .perform (.assign .nearest "moved" [.push (.boolean true)])⟩]⟩,
      ⟨"create", [⟨6, .perform (.assign .nearest "ready" [.push (.boolean false)])⟩]⟩]
    let world := (opening handlers).foldl World.perform (.ofEngine {} {})
    (∃ parts, sections source = .ok parts ∧ parts.mapM (Section.compiled {}) = .ok handlers) ∧
      (∀ delivery ∈ world.deliveriesOf (.trigger (.named "create")),
        delivery.handlings.map Handling.subscription =
          if delivery.queued.event.target.includes 1 then
            (codeFor delivery.queued.event.name handlers).getLast?.toList.map (⟨1, ·⟩)
          else []) ∧
      (codeFor "begin_step" handlers).getLast?.toList = codeFor "begin_step" handlers := by
  intro source handlers world
  let parts : List Section := [
    ⟨"create", "\nready = true\n".toList⟩, ⟨"begin_step", "\n\n\nmoved = true\n".toList⟩,
    ⟨"create", "\n\n\n\n\nready = false\n".toList⟩]
  have read : sections source = .ok parts := eq_ok_of_toOption (by decide +kernel)
  have compiled : parts.mapM (Section.compiled {}) = .ok handlers :=
    eq_ok_of_toOption (by decide +kernel)
  obtain ⟨-, delivered, complete⟩ := run_delivers_to_last read compiled {} 0
  refine ⟨⟨parts, read, compiled⟩, ?_, (complete "begin_step").mpr (by decide)⟩
  exact (delivered _ _ [] 0 world rfl (foldlM_opening handlers _)).2

/-- The first section for the event is left out. -/
theorem first_section_left_out :
    let source := "@on create\nx = true\n@on create\ny = true\n"
    let first : Block := [⟨2, .perform (.assign .nearest "x" [.push (.boolean true)])⟩]
    let last : Block := [⟨4, .perform (.assign .nearest "y" [.push (.boolean true)])⟩]
    let handlers : List Handler := [⟨"create", first⟩, ⟨"create", last⟩]
    let world := (opening handlers).foldl World.perform (.ofEngine {} {})
    (∃ parts, sections source = .ok parts ∧ parts.mapM (Section.compiled {}) = .ok handlers) ∧
      codeFor "create" handlers = [first, last] ∧
      (world.deliveriesOf (.trigger (.named "create"))).map
        (fun delivery => delivery.handlings.map fun handling => handling.subscription.block) =
          [[last]] ∧
      run {} {} source 0 = .ok "instance 1:\ny = true\n" := by
  intro source first last handlers world
  have read : ∃ parts, sections source = .ok parts ∧
      parts.mapM (Section.compiled {}) = .ok handlers :=
    ⟨[⟨"create", "\nx = true\n".toList⟩, ⟨"create", "\n\n\ny = true\n".toList⟩],
      eq_ok_of_toOption (by decide +kernel), eq_ok_of_toOption (by decide +kernel)⟩
  exact ⟨read, by decide, by decide +kernel, eq_ok_of_toOption (by decide +kernel)⟩

end Play

end EventScript
