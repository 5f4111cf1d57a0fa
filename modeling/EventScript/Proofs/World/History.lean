import EventScript.Proofs.World.Passes
import Mathlib.Data.List.Induction

/-!
# Histories

The worlds that a host can bring about, one operation after another, from a world without
instances.
-/

namespace EventScript

inductive Drain where
  | everything
  | named (name : String)
  | ofKind (kind : EventKind)

def Drain.takes : Drain → Event → Bool
  | everything, _ => true
  | named name, event => event.name == name
  | ofKind kind, event => event.kind == kind

inductive Operation where
  | addInstance (table : SymbolTable)
  | removeInstance (instanceId : InstanceId)
  | modifySymbols (instanceId : InstanceId) (change : SymbolTable → SymbolTable)
  | modifyGlobals (change : SymbolTable → SymbolTable)
  | subscribe (event : String) (instanceId : InstanceId) (block : Block)
  | unsubscribe (instanceId : InstanceId) (event : String)
  | enqueue (event : Event)
  | trigger (event : Event)
  | drain (drain : Drain)

namespace World

def drain (world : World) : Drain → Except ScriptError Report × World
  | .everything => world.processQueue
  | .named name => world.transmit name
  | .ofKind kind => world.transmitKind kind

def taken (world : World) (drain : Drain) : List QueuedEvent :=
  world.queue.filter fun queued => drain.takes queued.event

def awaiting (world : World) (drain : Drain) : World :=
  { world with queue := world.queue.filter fun queued => !drain.takes queued.event }

@[simp] theorem taken_everything (world : World) : world.taken .everything = world.queue :=
  List.filter_eq_self.mpr fun _ _ => rfl

@[simp] theorem awaiting_everything (world : World) :
    (world.awaiting .everything).queue = [] :=
  List.filter_eq_nil_iff.mpr fun _ _ untaken => nomatch untaken

theorem awaiting_retains (world : World) (drain : Drain) : world.Retains (world.awaiting drain) :=
  ⟨rfl, rfl, rfl, fun _ => rfl⟩

theorem drain_eq (world : World) (drain : Drain) :
    world.drain drain = (world.awaiting drain).deliverAll (world.taken drain) := by
  cases drain <;> rfl

/-- The world after an operation. One that is refused changes nothing. -/
def perform (world : World) : Operation → World
  | .addInstance table => (world.addInstance table).2
  | .removeInstance instanceId => (world.removeInstance instanceId).2
  | .modifySymbols instanceId change => world.modifySymbols instanceId change
  | .modifyGlobals change => { world with globals := change world.globals }
  | .subscribe event instanceId block =>
    match world.subscribe event instanceId block with
    | .ok world => world
    | .error _ => world
  | .unsubscribe instanceId event => (world.unsubscribe instanceId event).2
  | .enqueue event => world.enqueue event
  | .trigger event => (world.trigger event).2
  | .drain drain => (world.drain drain).2

end World

/-- What was done with a world since it was made for an engine. -/
structure History where
  engine : Engine
  chance : Chance
  operations : List Operation

namespace History

def start (engine : Engine) (chance : Chance) : History := ⟨engine, chance, []⟩

def followed (history : History) (operation : Operation) : History :=
  { history with operations := history.operations ++ [operation] }

def world (history : History) : World :=
  history.operations.foldl World.perform (.ofEngine history.engine history.chance)

@[simp] theorem world_followed (history : History) (operation : Operation) :
    (history.followed operation).world = history.world.perform operation := by
  unfold world followed
  rw [List.foldl_append]
  rfl

/-- What holds at the start, and after an operation if it held before, holds of every history. -/
theorem induct {property : History → Prop} (started : ∀ engine chance, property (start engine chance))
    (step : ∀ history operation, property history → property (history.followed operation))
    (history : History) : property history := by
  obtain ⟨engine, chance, operations⟩ := history
  induction operations using List.reverseRecOn with
  | nil => exact started engine chance
  | append_singleton operations operation ih => exact step ⟨engine, chance, operations⟩ _ ih

end History

namespace World

theorem trigger_deliveries (world : World) (event : Event) :
    world.trigger event =
      let (deliveries, after) := world.deliveries [⟨event, 0⟩]
      ((Report.ofDeliveries deliveries).outcome, after) :=
  world.deliverAll_eq [⟨event, 0⟩]

theorem drain_deliveries (world : World) (drain : Drain) :
    world.drain drain =
      let (deliveries, after) := (world.awaiting drain).deliveries (world.taken drain)
      ((Report.ofDeliveries deliveries).outcome, after) := by
  rw [drain_eq, deliverAll_eq]

theorem trigger_retains (world : World) (event : Event) :
    world.Retains (world.trigger event).2 := by
  rw [trigger_deliveries]
  exact deliveries_retains _ world

theorem drain_retains (world : World) (drain : Drain) :
    world.Retains (world.drain drain).2 := by
  rw [drain_deliveries]
  exact (world.awaiting_retains drain).trans (deliveries_retains _ _)

theorem modifySymbols_retains (world : World) (instanceId : InstanceId)
    (change : SymbolTable → SymbolTable) :
    world.Retains (world.modifySymbols instanceId change) := by
  unfold modifySymbols
  cases found : world.symbols? instanceId with
  | none => exact .refl world
  | some table =>
    refine ⟨rfl, rfl, rfl, fun other => ?_⟩
    rw [symbols?_store]
    by_cases same : instanceId = other
    · subst same
      simp [found]
    · simp [same]

theorem perform_subscribe (world : World) (event : String) (instanceId : InstanceId)
    (block : Block) :
    world.perform (.subscribe event instanceId block) =
      if (world.symbols? instanceId).isSome then
        { world with
          subscriptions := world.subscriptions.insert event
            (withSubscription ⟨instanceId, block⟩ (world.subscribers event)) }
      else world := by
  unfold perform subscribe symbols?
  rw [← Std.ExtTreeMap.contains_eq_isSome_getElem?]
  dsimp only
  by_cases present : world.instances.contains instanceId = true
  · rw [if_pos present, if_pos present]
  · rw [if_neg present, if_neg present]

theorem perform_engine (world : World) (operation : Operation) :
    (world.perform operation).engine = world.engine := by
  cases operation with
  | addInstance table => rfl
  | removeInstance instanceId =>
    change (world.removeInstance instanceId).2.engine = world.engine
    unfold removeInstance
    split
    · rfl
    · rfl
  | modifySymbols instanceId change => exact (world.modifySymbols_retains instanceId change).engine
  | modifyGlobals change => rfl
  | subscribe event instanceId block =>
    rw [perform_subscribe]
    split
    · rfl
    · rfl
  | unsubscribe instanceId event => rfl
  | enqueue event => rfl
  | trigger event => exact (world.trigger_retains event).engine
  | drain drain => exact (world.drain_retains drain).engine

end World

theorem History.world_engine (history : History) : history.world.engine = history.engine := by
  induction history using History.induct with
  | started engine chance => rfl
  | step history operation ih =>
    rw [world_followed, World.perform_engine]
    exact ih

def mark (letter : String) : Statement :=
  ⟨1, .perform (.assign .global "trail" [.load "trail", .push (.text letter), .operate .plus])⟩

def seek : Block :=
  [mark "s", ⟨2, .perform (.evaluate [.load "trail", .call "trigger_event" 1])⟩]

def hide : Block :=
  [mark "h",
    ⟨2, .perform (.assign .nearest "seen" [.load "seen", .load "trail", .operate .plus])⟩,
    ⟨3, .perform (.evaluate [.load "trail", .call "trigger_event" 1])⟩,
    ⟨4, .perform (.evaluate [.call "vanish" 0])⟩]

/-- Two instances subscribe to one event, which waits for the second of them alone and for both,
with another event in between. -/
def History.pursuit (maxEventDepth : Nat) : History :=
  ⟨{ registry := Builtin.registry, config := { maxEventDepth } }, {},
    [.addInstance .empty, .addInstance .empty, .subscribe "hit" 1 seek, .subscribe "hit" 2 hide,
      .enqueue ((Event.named "hit").toInstance 2), .enqueue (.named "miss"),
      .enqueue (.named "hit")]⟩

end EventScript
