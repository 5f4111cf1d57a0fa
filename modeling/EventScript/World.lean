import EventScript.Engine

/-!
# Worlds of instances

Instances with tables of their own, globals that they share, and scripts that run for them when
events arrive. Events that a script triggers while an event is delivered wait in the queue for a
later pass, one level deeper than the event that led to them.
-/

namespace EventScript

/-- Holds the events that scripts trigger while an event of some depth is delivered. It refuses
them where they would lie deeper than the limit. -/
structure Outbox where
  depth : Nat
  limit : Nat
  pending : Array Event := #[]

instance : EventSink Outbox where
  trigger event outbox :=
    if outbox.depth + 1 ≤ outbox.limit then
      (.ok (), { outbox with pending := outbox.pending.push event })
    else (.error (.recursion event.name outbox.limit), outbox)

structure Subscription where
  instanceId : InstanceId
  block : Block

/-- An event that waits, with the number of script triggers between it and the host. -/
structure QueuedEvent where
  event : Event
  depth : Nat

structure HandlerFailure where
  event : String
  instanceId : InstanceId
  error : ScriptError
  deriving DecidableEq

structure Report where
  delivered : Nat := 0
  failures : List HandlerFailure := []
  deriving DecidableEq

namespace Report

def isClean (report : Report) : Bool := report.failures.isEmpty

/-- The report, unless a handler triggered an event too deep; then the first such error. -/
def outcome (report : Report) : Except ScriptError Report :=
  match (report.failures.map HandlerFailure.error).find? ScriptError.isRecursion with
  | some error => .error error
  | none => .ok report

end Report

structure World where
  engine : Engine
  instances : Std.ExtTreeMap InstanceId SymbolTable := ∅
  globals : SymbolTable := .empty
  /-- For each event name the handlers of its subscribers, the earliest subscriber first. -/
  subscriptions : Names (List Subscription) := ∅
  queue : List QueuedEvent := []
  nextId : InstanceId := 1
  chance : Chance := {}
  /-- The assignments to instances under observation, oldest first. -/
  journal : List (String × Value) := []

namespace World

def ofEngine (engine : Engine) (chance : Chance) : World := { engine, chance }

/-! ### Instances -/

/-- Stores the table of an instance. What an observed table noted goes to the journal of the
world. -/
def store (world : World) (instanceId : InstanceId) (table : SymbolTable) : World :=
  { world with
    instances := world.instances.insert instanceId
      { table with journal := table.journal.map fun _ => [] }
    journal := world.journal ++ table.journal.getD [] }

/-- Adds an instance with a table; ids are never used again. -/
def addInstance (world : World) (table : SymbolTable) : InstanceId × World :=
  (world.nextId, { world.store world.nextId table with nextId := world.nextId + 1 })

def symbols? (world : World) (instanceId : InstanceId) : Option SymbolTable :=
  world.instances[instanceId]?

def withoutInstance (instanceId : InstanceId) (subscriptions : List Subscription) :
    List Subscription :=
  subscriptions.filter fun subscription => subscription.instanceId != instanceId

def removeInstance (world : World) (instanceId : InstanceId) : Option SymbolTable × World :=
  match world.symbols? instanceId with
  | none => (none, world)
  | some table =>
    (some table,
      { world with
        instances := world.instances.erase instanceId
        subscriptions := (world.subscriptions.map fun _ => withoutInstance instanceId).filter
          fun _ subscriptions => !subscriptions.isEmpty })

def modifySymbols (world : World) (instanceId : InstanceId) (change : SymbolTable → SymbolTable) :
    World :=
  match world.symbols? instanceId with
  | some table => world.store instanceId (change table)
  | none => world

/-! ### Subscriptions -/

def subscribers (world : World) (event : String) : List Subscription :=
  world.subscriptions.getD event []

/-- The subscriptions with one more at the end, or with its block in the place of the one that its
instance already has. -/
def withSubscription (subscription : Subscription) (subscriptions : List Subscription) :
    List Subscription :=
  if subscriptions.any fun other => other.instanceId == subscription.instanceId then
    subscriptions.map fun other =>
      if other.instanceId == subscription.instanceId then subscription else other
  else subscriptions ++ [subscription]

def subscribe (world : World) (event : String) (instanceId : InstanceId) (block : Block) :
    Except ScriptError World :=
  if world.instances.contains instanceId then
    .ok { world with
          subscriptions := world.subscriptions.insert event
            (withSubscription ⟨instanceId, block⟩ (world.subscribers event)) }
  else .error (.unknownInstance instanceId)

def isSubscribed (world : World) (instanceId : InstanceId) (event : String) : Bool :=
  (world.subscribers event).any fun subscription => subscription.instanceId == instanceId

def unsubscribe (world : World) (instanceId : InstanceId) (event : String) : Bool × World :=
  let remaining := withoutInstance instanceId (world.subscribers event)
  (world.isSubscribed instanceId event,
    { world with
      subscriptions :=
        if remaining.isEmpty then world.subscriptions.erase event
        else world.subscriptions.insert event remaining })

inductive SubscriptionState where
  | idle
  /-- An event that the subscription will receive waits in the queue. -/
  | queued
  deriving DecidableEq, Repr

def subscriptionState? (world : World) (instanceId : InstanceId) (event : String) :
    Option SubscriptionState :=
  if world.isSubscribed instanceId event then
    let waits := world.queue.any fun queued =>
      queued.event.name == event && queued.event.target.includes instanceId
    some (if waits then .queued else .idle)
  else none

/-! ### Delivery -/

structure Pass where
  world : World
  report : Report := {}

def handle (event : Event) (state : Pass × Outbox) (subscription : Subscription) : Pass × Outbox :=
  let (pass, outbox) := state
  let world := pass.world
  match world.symbols? subscription.instanceId with
  | none => state
  | some locals =>
    let (result, memory) := world.engine.runScoped (some subscription.instanceId) event.parameters
      subscription.block
      { locals, globals := some world.globals, sink := outbox, chance := world.chance }
    let world := { world.store subscription.instanceId memory.locals with
      globals := memory.globals.getD world.globals
      chance := memory.chance }
    let failures := match result with
      | .ok _ => []
      | .error error => [⟨event.name, subscription.instanceId, error⟩]
    (⟨world, ⟨pass.report.delivered + 1, pass.report.failures ++ failures⟩⟩, memory.sink)

def targets (world : World) (event : Event) : List Subscription :=
  (world.subscribers event.name).filter fun subscription =>
    event.target.includes subscription.instanceId

/-- Runs all handlers of an event in the order of their subscriptions; then the events that they
triggered enter the queue. -/
def deliver (pass : Pass) (queued : QueuedEvent) : Pass :=
  let outbox : Outbox := ⟨queued.depth, pass.world.engine.config.maxEventDepth, #[]⟩
  let (pass, outbox) :=
    (pass.world.targets queued.event).foldl (handle queued.event) (pass, outbox)
  let triggered := outbox.pending.toList.map fun event => ⟨event, queued.depth + 1⟩
  { pass with world := { pass.world with queue := pass.world.queue ++ triggered } }

def deliverAll (world : World) (events : List QueuedEvent) : Except ScriptError Report × World :=
  let pass := events.foldl deliver ⟨world, {}⟩
  (pass.report.outcome, pass.world)

def trigger (world : World) (event : Event) : Except ScriptError Report × World :=
  world.deliverAll [⟨event, 0⟩]

def enqueue (world : World) (event : Event) : World :=
  { world with queue := world.queue ++ [⟨event, 0⟩] }

/-- Delivers the waiting events that are selected. What they trigger waits for a later pass. -/
def deliverWhere (world : World) (selected : Event → Bool) : Except ScriptError Report × World :=
  let taken := world.queue.filter fun queued => selected queued.event
  let kept := world.queue.filter fun queued => !selected queued.event
  { world with queue := kept }.deliverAll taken

def processQueue (world : World) : Except ScriptError Report × World :=
  world.deliverWhere fun _ => true

def transmit (world : World) (name : String) : Except ScriptError Report × World :=
  world.deliverWhere fun event => event.name == name

def transmitKind (world : World) (kind : EventKind) : Except ScriptError Report × World :=
  world.deliverWhere fun event => event.kind == kind

end World

/-- A script outside the world triggers events in it at once. -/
instance : EventSink World where
  trigger event world :=
    let (result, world) := world.trigger event
    (result.map fun _ => (), world)

end EventScript
