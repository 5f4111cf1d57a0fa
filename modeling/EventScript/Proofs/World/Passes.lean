import EventScript.Proofs.Machine.Sinks
import EventScript.World

/-!
# Passes

What a pass does, handler by handler: which subscriptions run, what each of them triggers, and what
the sink answers. Everything that a handler triggers and that is not refused enters the queue.
-/

namespace EventScript

/-- A sink that also notes what is triggered and what the answer is, the latest last. -/
structure Recorder (σ : Type) where
  sink : σ
  triggers : List (Event × Except ScriptError Unit) := []

instance {σ : Type} [EventSink σ] : EventSink (Recorder σ) where
  trigger event recorder :=
    let (answer, sink) := EventSink.trigger event recorder.sink
    (answer, ⟨sink, recorder.triggers ++ [(event, answer)]⟩)

structure Handling where
  subscription : Subscription
  triggers : List (Event × Except ScriptError Unit)
  result : Except ScriptError Execution

def accepted (triggers : List (Event × Except ScriptError Unit)) : List Event :=
  triggers.filterMap fun (event, answer) =>
    match answer with
    | .ok _ => some event
    | .error _ => none

def Handling.failures (name : String) (handling : Handling) : List HandlerFailure :=
  match handling.result with
  | .ok _ => []
  | .error error => [⟨name, handling.subscription.instanceId, error⟩]

structure Delivery where
  queued : QueuedEvent
  handlings : List Handling

namespace Delivery

def triggered (delivery : Delivery) : List Event :=
  delivery.handlings.flatMap fun handling => accepted handling.triggers

def enqueued (delivery : Delivery) : List QueuedEvent :=
  delivery.triggered.map fun event => ⟨event, delivery.queued.depth + 1⟩

def failures (delivery : Delivery) : List HandlerFailure :=
  delivery.handlings.flatMap (Handling.failures delivery.queued.event.name)

end Delivery

def Report.ofDeliveries (deliveries : List Delivery) : Report where
  delivered := (deliveries.flatMap Delivery.handlings).length
  failures := deliveries.flatMap Delivery.failures

def Target.among (target : Target) (subscriptions : List Subscription) : List Subscription :=
  match target with
  | everyone => subscriptions
  | only instanceId =>
    subscriptions.filter fun subscription => subscription.instanceId == instanceId

theorem Target.among_sublist (target : Target) (subscriptions : List Subscription) :
    (target.among subscriptions).Sublist subscriptions := by
  cases target with
  | everyone => exact .refl subscriptions
  | only instanceId => exact List.filter_sublist

/-- The table as a world keeps it. What it noted has gone to the journal of the world. -/
def SymbolTable.stored (table : SymbolTable) : SymbolTable :=
  { table with journal := table.journal.map fun _ => [] }

namespace World

def respond {σ : Type} [EventSink σ] (world : World) (event : Event) (subscription : Subscription)
    (locals : SymbolTable) (sink : σ) : Except ScriptError Execution × Memory σ :=
  world.engine.runScoped (some subscription.instanceId) event.parameters subscription.block
    { locals, globals := some world.globals, sink, chance := world.chance }

def handling (queued : QueuedEvent) (world : World) (subscription : Subscription) :
    Option (Handling × World) :=
  (world.symbols? subscription.instanceId).map fun locals =>
    let outbox : Outbox := ⟨queued.depth, world.engine.config.maxEventDepth, #[]⟩
    let (result, memory) :=
      world.respond queued.event subscription locals (⟨outbox, []⟩ : Recorder Outbox)
    (⟨subscription, memory.sink.triggers, result⟩,
      { world.store subscription.instanceId memory.locals with
        globals := memory.globals.getD world.globals
        chance := memory.chance })

def handlings (queued : QueuedEvent) (world : World) :
    List Subscription → List Handling × World
  | [] => ([], world)
  | subscription :: rest =>
    match world.handling queued subscription with
    | none => handlings queued world rest
    | some (handling, world) =>
      let (others, world) := handlings queued world rest
      (handling :: others, world)

/-- Runs the handlers that an event is for, one after the other; then what they triggered is
queued. -/
def delivery (queued : QueuedEvent) (world : World) : Delivery × World :=
  let targets := queued.event.target.among (world.subscribers queued.event.name)
  let (handlings, after) := world.handlings queued targets
  let delivery : Delivery := ⟨queued, handlings⟩
  (delivery, { after with queue := after.queue ++ delivery.enqueued })

def deliveries (world : World) : List QueuedEvent → List Delivery × World
  | [] => ([], world)
  | queued :: rest =>
    let (delivery, world) := world.delivery queued
    let (others, world) := world.deliveries rest
    (delivery :: others, world)

/-! ### What the outbox collects -/

theorem accepted_append (first second : List (Event × Except ScriptError Unit)) :
    accepted (first ++ second) = accepted first ++ accepted second :=
  List.filterMap_append

/-- What a recorder notes that began on an empty outbox, and what has entered another outbox of the
same depth and limit since it was as at `start`. -/
structure Collects (start : Outbox) (recorder : Recorder Outbox) (outbox : Outbox) : Prop where
  recorded : recorder.sink.depth = start.depth ∧ recorder.sink.limit = start.limit
  outbox_eq : outbox =
    { start with pending := start.pending ++ (accepted recorder.triggers).toArray }
  /-- An outbox at the limit accepts nothing. -/
  within : accepted recorder.triggers ≠ [] → start.depth + 1 ≤ start.limit

theorem collects_answers (start : Outbox) : EventSink.Answers (Collects start) := by
  intro event recorder outbox collects
  obtain ⟨⟨depth, limit, inner⟩, triggers⟩ := recorder
  obtain ⟨⟨rfl, rfl⟩, rfl, within⟩ := collects
  dsimp only at within ⊢
  by_cases below : start.depth + 1 ≤ start.limit
  · simp only [EventSink.trigger, if_pos below]
    refine ⟨trivial, ⟨rfl, rfl⟩, ?_, fun _ => below⟩
    simp [accepted, List.filterMap_append]
  · simp only [EventSink.trigger, if_neg below]
    have nothing : ∀ error : ScriptError, accepted (triggers ++ [(event, .error error)]) =
        accepted triggers := by
      intro error
      rw [accepted_append]
      exact List.append_nil _
    refine ⟨trivial, ⟨rfl, rfl⟩, ?_, ?_⟩
    · rw [nothing]
    · rw [nothing]
      exact within

/-- A handler triggers the same on a sink of its own as in a pass. -/
theorem respond_alike (world : World) (event : Event) (subscription : Subscription)
    (locals : SymbolTable) (outbox : Outbox) :
    let recorder : Recorder Outbox := ⟨⟨outbox.depth, outbox.limit, #[]⟩, []⟩
    let alone := world.respond event subscription locals recorder
    let within := world.respond event subscription locals outbox
    alone.1 = within.1 ∧ alone.2.Alike (Collects outbox) within.2 := by
  refine subscription.block.run_alike (collects_answers outbox) _ (.of ⟨⟨rfl, rfl⟩, ?_, ?_⟩)
  · simp [accepted]
  · exact fun some => absurd rfl some

theorem handle_eq (queued : QueuedEvent) (pass : Pass) (outbox : Outbox)
    (subscription : Subscription) (depth : outbox.depth = queued.depth)
    (limit : outbox.limit = pass.world.engine.config.maxEventDepth) :
    handle queued.event (pass, outbox) subscription =
      match pass.world.handling queued subscription with
      | none => (pass, outbox)
      | some (handling, world) =>
        (⟨world, ⟨pass.report.delivered + 1,
            pass.report.failures ++ handling.failures queued.event.name⟩⟩,
          { outbox with
            pending := outbox.pending ++ (accepted handling.triggers).toArray }) := by
  unfold handle handling
  dsimp only
  cases found : pass.world.symbols? subscription.instanceId with
  | none => rfl
  | some locals =>
    obtain ⟨results, left⟩ :=
      pass.world.respond_alike queued.event subscription locals outbox
    rw [depth, limit] at results left
    have direct : pass.world.engine.runScoped (some subscription.instanceId)
        queued.event.parameters subscription.block
        { locals, globals := some pass.world.globals, sink := outbox
          chance := pass.world.chance } =
        pass.world.respond queued.event subscription locals outbox := rfl
    dsimp only [Option.map_some]
    rw [direct, ← results, ← left.locals, ← left.globals, ← left.chance, left.sinks.outbox_eq]
    rfl

/-- A handler of an event at the limit has all its triggers refused. -/
theorem handling_within {queued : QueuedEvent} {world after : World} {subscription : Subscription}
    {handling : Handling} (h : world.handling queued subscription = some (handling, after))
    (some : accepted handling.triggers ≠ []) :
    queued.depth + 1 ≤ world.engine.config.maxEventDepth := by
  obtain ⟨locals, -, ran⟩ := Option.map_eq_some_iff.mp h
  obtain ⟨rfl, -⟩ := Prod.mk.inj ran
  have alike := (world.respond_alike queued.event subscription locals
    ⟨queued.depth, world.engine.config.maxEventDepth, #[]⟩).2
  exact alike.sinks.within some

/-! ### What a pass leaves as it is -/

/-- A world with the same engine, subscriptions and instances, whatever their tables hold. -/
structure Retains (before after : World) : Prop where
  engine : after.engine = before.engine
  subscriptions : after.subscriptions = before.subscriptions
  nextId : after.nextId = before.nextId
  present : ∀ instanceId, (after.symbols? instanceId).isSome = (before.symbols? instanceId).isSome

theorem Retains.refl (world : World) : world.Retains world := ⟨rfl, rfl, rfl, fun _ => rfl⟩

theorem Retains.trans {first second third : World} (before : first.Retains second)
    (after : second.Retains third) : first.Retains third where
  engine := after.engine.trans before.engine
  subscriptions := after.subscriptions.trans before.subscriptions
  nextId := after.nextId.trans before.nextId
  present instanceId := (after.present instanceId).trans (before.present instanceId)

theorem Retains.all_present {before after : World} (retains : before.Retains after)
    {subscriptions : List Subscription}
    (present : ∀ subscription ∈ subscriptions, (before.symbols? subscription.instanceId).isSome) :
    ∀ subscription ∈ subscriptions, (after.symbols? subscription.instanceId).isSome := by
  intro subscription member
  rw [retains.present]
  exact present subscription member

theorem symbols?_of_store (world : World) (instanceId other : InstanceId) (table : SymbolTable) :
    (world.store instanceId table).symbols? other =
      if instanceId = other then some table.stored else world.symbols? other := by
  unfold symbols? store
  dsimp only
  rw [Std.ExtTreeMap.getElem?_insert]
  by_cases same : instanceId = other
  · subst same
    simp [SymbolTable.stored]
  · rw [if_neg (Std.compare_ne_eq_iff_ne.mpr same), if_neg same]

theorem symbols?_store (world : World) (instanceId other : InstanceId) (table : SymbolTable) :
    ((world.store instanceId table).symbols? other).isSome =
      (instanceId == other || (world.symbols? other).isSome) := by
  rw [symbols?_of_store]
  by_cases same : instanceId = other
  · subst same
    simp
  · simp [same]

theorem handling_retains {queued : QueuedEvent} {world after : World}
    {subscription : Subscription} {handling : Handling}
    (h : world.handling queued subscription = some (handling, after)) :
    world.Retains after ∧ after.queue = world.queue ∧ handling.subscription = subscription := by
  obtain ⟨locals, found, ran⟩ := Option.map_eq_some_iff.mp h
  obtain ⟨rfl, rfl⟩ := Prod.mk.inj ran
  refine ⟨⟨rfl, rfl, rfl, fun other => ?_⟩, rfl, rfl⟩
  have stored := world.symbols?_store subscription.instanceId other
  by_cases same : subscription.instanceId = other
  · subst same
    exact (stored _).trans (by simp [found])
  · exact (stored _).trans (by simp [same])

theorem foldl_handle_eq (queued : QueuedEvent) (subscriptions : List Subscription) (pass : Pass)
    (outbox : Outbox) (depth : outbox.depth = queued.depth)
    (limit : outbox.limit = pass.world.engine.config.maxEventDepth) :
    subscriptions.foldl (handle queued.event) (pass, outbox) =
      let (handlings, world) := pass.world.handlings queued subscriptions
      (⟨world, ⟨pass.report.delivered + handlings.length, pass.report.failures ++
          handlings.flatMap (Handling.failures queued.event.name)⟩⟩,
        { outbox with
          pending := outbox.pending ++
            (handlings.flatMap fun handling => accepted handling.triggers).toArray }) := by
  induction subscriptions generalizing pass outbox with
  | nil => simp [handlings]
  | cons subscription rest ih =>
    rw [List.foldl_cons, handle_eq queued pass outbox subscription depth limit, handlings]
    cases ran : pass.world.handling queued subscription with
    | none => exact ih pass outbox depth limit
    | some step =>
      obtain ⟨handling, world⟩ := step
      have unchanged : outbox.limit = world.engine.config.maxEventDepth := by
        rw [limit, (handling_retains ran).1.engine]
      have rest := ih
        ⟨world, ⟨pass.report.delivered + 1,
          pass.report.failures ++ handling.failures queued.event.name⟩⟩
        { outbox with pending := outbox.pending ++ (accepted handling.triggers).toArray }
        depth unchanged
      dsimp only at rest ⊢
      rw [rest]
      simp only [List.length_cons, List.flatMap_cons, List.append_assoc, Nat.add_assoc,
        Nat.add_comm 1, List.append_toArray, Array.append_assoc]

theorem targets_eq_among (world : World) (event : Event) :
    world.targets event = event.target.among (world.subscribers event.name) := by
  unfold targets
  cases event.target with
  | everyone => exact List.filter_eq_self.mpr fun _ _ => rfl
  | only instanceId =>
    refine List.filter_congr fun subscription _ => ?_
    exact Bool.beq_comm

theorem deliver_eq (pass : Pass) (queued : QueuedEvent) :
    deliver pass queued =
      let (delivery, world) := pass.world.delivery queued
      ⟨world, ⟨pass.report.delivered + delivery.handlings.length,
        pass.report.failures ++ delivery.failures⟩⟩ := by
  unfold deliver delivery
  dsimp only
  rw [targets_eq_among, foldl_handle_eq queued _ pass _ rfl rfl]
  simp [Delivery.enqueued, Delivery.triggered, Delivery.failures]

theorem foldl_deliver_eq (pass : Pass) (events : List QueuedEvent) :
    events.foldl deliver pass =
      let (deliveries, world) := pass.world.deliveries events
      ⟨world, ⟨pass.report.delivered + (deliveries.flatMap Delivery.handlings).length,
        pass.report.failures ++ deliveries.flatMap Delivery.failures⟩⟩ := by
  induction events generalizing pass with
  | nil => simp [deliveries]
  | cons queued rest ih =>
    rw [List.foldl_cons, deliver_eq, ih, deliveries]
    simp [Nat.add_assoc]

/-- A pass carries out the deliveries, and reports them. -/
theorem deliverAll_eq (world : World) (events : List QueuedEvent) :
    world.deliverAll events =
      let (deliveries, after) := world.deliveries events
      ((Report.ofDeliveries deliveries).outcome, after) := by
  unfold deliverAll
  rw [foldl_deliver_eq]
  simp [Report.ofDeliveries]

/-! ### Which handlings there are -/

theorem handlings_retains (queued : QueuedEvent) (subscriptions : List Subscription)
    (world : World) : world.Retains (world.handlings queued subscriptions).2 ∧
      (world.handlings queued subscriptions).2.queue = world.queue := by
  induction subscriptions generalizing world with
  | nil => exact ⟨.refl world, rfl⟩
  | cons subscription rest ih =>
    rw [handlings]
    cases ran : world.handling queued subscription with
    | none => exact ih world
    | some step =>
      obtain ⟨handling, next⟩ := step
      obtain ⟨retains, queue, -⟩ := handling_retains ran
      obtain ⟨later, left⟩ := ih next
      exact ⟨retains.trans later, left.trans queue⟩

/-- The handler of an instance that is there runs. -/
theorem exists_handling (queued : QueuedEvent) {world : World} {subscription : Subscription}
    (present : (world.symbols? subscription.instanceId).isSome) :
    ∃ handling after, world.handling queued subscription = some (handling, after) := by
  obtain ⟨locals, found⟩ := Option.isSome_iff_exists.mp present
  unfold handling
  rw [found]
  exact ⟨_, _, rfl⟩

/-- All handlers run, in order, if all their instances are there. -/
theorem handlings_subscriptions (queued : QueuedEvent) {subscriptions : List Subscription}
    {world : World}
    (present : ∀ subscription ∈ subscriptions,
      (world.symbols? subscription.instanceId).isSome) :
    (world.handlings queued subscriptions).1.map Handling.subscription = subscriptions := by
  induction subscriptions generalizing world with
  | nil => rfl
  | cons subscription rest ih =>
    obtain ⟨handling, next, ran⟩ := exists_handling queued (present subscription List.mem_cons_self)
    obtain ⟨retains, -, same⟩ := handling_retains ran
    have others := ih (retains.all_present fun other member =>
      present other (List.mem_cons_of_mem _ member))
    rw [handlings, ran]
    dsimp only
    rw [List.map_cons, same, others]

theorem handlings_within {queued : QueuedEvent} {subscriptions : List Subscription}
    {world : World} {handling : Handling}
    (member : handling ∈ (world.handlings queued subscriptions).1)
    (some : accepted handling.triggers ≠ []) :
    queued.depth + 1 ≤ world.engine.config.maxEventDepth := by
  induction subscriptions generalizing world with
  | nil => cases member
  | cons subscription rest ih =>
    rw [handlings] at member
    cases ran : world.handling queued subscription with
    | none =>
      rw [ran] at member
      exact ih member
    | some step =>
      obtain ⟨first, next⟩ := step
      rw [ran] at member
      rcases List.mem_cons.mp member with rfl | member
      · exact handling_within ran some
      · rw [← (handling_retains ran).1.engine]
        exact ih member

theorem delivery_retains (queued : QueuedEvent) (world : World) :
    world.Retains (world.delivery queued).2 := by
  have retains := (handlings_retains queued
    (queued.event.target.among (world.subscribers queued.event.name)) world).1
  exact ⟨retains.engine, retains.subscriptions, retains.nextId, retains.present⟩

theorem delivery_queue (queued : QueuedEvent) (world : World) :
    (world.delivery queued).2.queue = world.queue ++ (world.delivery queued).1.enqueued := by
  unfold delivery
  dsimp only
  rw [(handlings_retains queued _ world).2]

theorem delivery_within (queued : QueuedEvent) (world : World) :
    ∀ waiting ∈ (world.delivery queued).1.enqueued, waiting.depth = queued.depth + 1 ∧
      waiting.depth ≤ world.engine.config.maxEventDepth := by
  intro waiting member
  obtain ⟨event, triggered, rfl⟩ := List.mem_map.mp member
  obtain ⟨handling, ran, took⟩ := List.mem_flatMap.mp triggered
  exact ⟨rfl, handlings_within ran (List.ne_nil_of_mem took)⟩

theorem deliveries_retains (events : List QueuedEvent) (world : World) :
    world.Retains (world.deliveries events).2 := by
  induction events generalizing world with
  | nil => exact .refl world
  | cons queued rest ih => exact (delivery_retains queued world).trans (ih _)

/-- A pass delivers the events that it is given, each once, in order. -/
theorem deliveries_queued (events : List QueuedEvent) (world : World) :
    (world.deliveries events).1.map Delivery.queued = events := by
  induction events generalizing world with
  | nil => rfl
  | cons queued rest ih =>
    rw [deliveries]
    dsimp only
    rw [List.map_cons, ih]
    rfl

/-- What the deliveries of a pass cause waits behind what waits already. -/
theorem deliveries_queue (events : List QueuedEvent) (world : World) :
    (world.deliveries events).2.queue =
      world.queue ++ (world.deliveries events).1.flatMap Delivery.enqueued := by
  induction events generalizing world with
  | nil => exact (List.append_nil _).symm
  | cons queued rest ih =>
    rw [deliveries]
    dsimp only
    rw [ih, delivery_queue, List.flatMap_cons, List.append_assoc]

theorem Retains.subscribers {before after : World} (retains : before.Retains after)
    (name : String) : after.subscribers name = before.subscribers name := by
  unfold World.subscribers
  rw [retains.subscriptions]

theorem Retains.targets {before after : World} (retains : before.Retains after) (event : Event) :
    after.targets event = before.targets event := by
  unfold World.targets
  rw [retains.subscribers]

def SubscribersPresent (world : World) : Prop :=
  ∀ name, ∀ subscription ∈ world.subscribers name,
    (world.symbols? subscription.instanceId).isSome

theorem SubscribersPresent.retained {before after : World} (present : before.SubscribersPresent)
    (retains : before.Retains after) : after.SubscribersPresent := by
  intro name subscription member
  rw [retains.subscribers] at member
  rw [retains.present]
  exact present name subscription member

/-- Every delivery of a pass runs the handlers that the event is for, in the order of their
subscriptions. -/
theorem deliveries_handled {world : World} (present : world.SubscribersPresent)
    (events : List QueuedEvent) :
    ∀ delivery ∈ (world.deliveries events).1,
      delivery.handlings.map Handling.subscription =
        delivery.queued.event.target.among (world.subscribers delivery.queued.event.name) := by
  induction events generalizing world with
  | nil =>
    intro delivery member
    cases member
  | cons queued rest ih =>
    intro delivery member
    have retains := delivery_retains queued world
    rcases List.mem_cons.mp member with rfl | member
    · refine handlings_subscriptions queued fun subscription target => ?_
      exact present _ subscription ((Target.among_sublist _ _).mem target)
    · rw [← retains.subscribers]
      exact ih (present.retained retains) delivery member

end World

end EventScript
