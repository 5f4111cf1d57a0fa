import Mathlib.Data.List.Basic
import EventScript.Proofs.Machine.Alone
import EventScript.Proofs.World.Roster

/-!
# Handlers of different instances

A delivery changes the tables of the instances that it is for. Where the globals hold no names and
no handler makes one, each handler does in the pass what it does on the table of its instance alone.
-/

namespace EventScript

/-- What a handler does that sees nothing but the table of its instance and the parameters, and the
table that it leaves. -/
def Engine.alone (engine : Engine) (queued : QueuedEvent) (subscription : Subscription)
    (locals : SymbolTable) : Handling × SymbolTable :=
  let outbox : Outbox := ⟨queued.depth, engine.config.maxEventDepth, #[]⟩
  let run := engine.runScoped (some subscription.instanceId) queued.event.parameters
    subscription.block (Memory.ofLocals locals (⟨outbox, []⟩ : Recorder Outbox) {})
  (⟨subscription, run.2.sink.triggers, run.1⟩, run.2.locals)

namespace World

def alone (world : World) (queued : QueuedEvent) (subscription : Subscription) :
    Option (Handling × SymbolTable) :=
  (world.symbols? subscription.instanceId).map (world.engine.alone queued subscription)

def loneRuns (world : World) (queued : QueuedEvent) : List (Handling × SymbolTable) :=
  (world.targets queued.event).filterMap (world.alone queued)

/-! ### Tables -/

theorem symbols?_of_handling {queued : QueuedEvent} {world after : World}
    {subscription : Subscription} {handling : Handling}
    (h : world.handling queued subscription = some (handling, after)) {other : InstanceId}
    (different : subscription.instanceId ≠ other) :
    after.symbols? other = world.symbols? other := by
  obtain ⟨locals, found, ran⟩ := Option.map_eq_some_iff.mp h
  obtain ⟨rfl, rfl⟩ := Prod.mk.inj ran
  exact (world.symbols?_of_store _ other _).trans (if_neg different)

theorem symbols?_of_handlings (queued : QueuedEvent) (subscriptions : List Subscription)
    (world : World) {other : InstanceId}
    (different : other ∉ subscriptions.map Subscription.instanceId) :
    (world.handlings queued subscriptions).2.symbols? other = world.symbols? other := by
  induction subscriptions generalizing world with
  | nil => rfl
  | cons subscription rest ih =>
    rw [List.map_cons, List.mem_cons, not_or] at different
    obtain ⟨first, others⟩ := different
    rw [handlings]
    cases ran : world.handling queued subscription with
    | none => exact ih world others
    | some step =>
      obtain ⟨handling, next⟩ := step
      exact (ih next others).trans (symbols?_of_handling ran (Ne.symm first))

/-! ### Handlers as if alone -/

theorem respond_alone {σ : Type} [EventSink σ] {world : World}
    (nameless : world.globals.IsNameless) {subscription : Subscription}
    (apart : subscription.block.IsApart world.engine.registry) (event : Event)
    (locals : SymbolTable) (sink : σ) :
    let within := world.respond event subscription locals sink
    let alone := world.engine.runScoped (some subscription.instanceId) event.parameters
      subscription.block (Memory.ofLocals locals sink {})
    within.1 = alone.1 ∧ within.2.SameAlone alone.2 := by
  have start : Memory.SameAlone
      { locals, globals := some world.globals, sink, chance := world.chance }
      (Memory.ofLocals locals sink {}) := by
    refine ⟨rfl, rfl, ?_, nofun⟩
    rintro globals ⟨⟩
    exact nameless
  exact subscription.block.run_related Memory.sameAlone_indistinguishable
    (world.engine.context (some subscription.instanceId) event.parameters) apart start

/-- A handler does in a pass what it does alone. -/
theorem handling_alone {world : World} (nameless : world.globals.IsNameless)
    {subscription : Subscription} (apart : subscription.block.IsApart world.engine.registry)
    (queued : QueuedEvent) {locals : SymbolTable}
    (there : world.symbols? subscription.instanceId = some locals) :
    ∃ after,
      world.handling queued subscription =
        some ((world.engine.alone queued subscription locals).1, after) ∧
      after.globals.IsNameless ∧
      after.symbols? subscription.instanceId =
        some (world.engine.alone queued subscription locals).2.stored := by
  obtain ⟨results, left⟩ := respond_alone nameless apart queued.event locals
    (⟨⟨queued.depth, world.engine.config.maxEventDepth, #[]⟩, []⟩ : Recorder Outbox)
  rcases ended : world.respond queued.event subscription locals
    (⟨⟨queued.depth, world.engine.config.maxEventDepth, #[]⟩, []⟩ : Recorder Outbox)
    with ⟨result, memory⟩
  rw [ended] at results left
  have alone : world.engine.alone queued subscription locals =
      (⟨subscription, memory.sink.triggers, result⟩, memory.locals) := by
    unfold Engine.alone
    dsimp only at results left ⊢
    rw [results, left.sink, left.locals]
  have handled : world.handling queued subscription =
      some (⟨subscription, memory.sink.triggers, result⟩,
        { world.store subscription.instanceId memory.locals with
          globals := memory.globals.getD world.globals
          chance := memory.chance }) := by
    unfold handling
    rw [there, Option.map_some]
    dsimp only
    rw [ended]
  rw [alone]
  refine ⟨_, handled, ?_, (world.symbols?_of_store _ _ _).trans (if_pos rfl)⟩
  dsimp only
  cases held : memory.globals with
  | none => exact nameless
  | some globals => exact left.nameless globals held

theorem alone_of_handling {queued : QueuedEvent} {world after : World}
    {subscription other : Subscription} {handling : Handling}
    (h : world.handling queued subscription = some (handling, after))
    (different : subscription.instanceId ≠ other.instanceId) :
    after.alone queued other = world.alone queued other := by
  unfold alone
  rw [symbols?_of_handling h different, (handling_retains h).1.engine]

/-- Handlers of different instances do in a pass what each does alone. -/
theorem handlings_alone (queued : QueuedEvent) {subscriptions : List Subscription} {world : World}
    (nameless : world.globals.IsNameless)
    (once : (subscriptions.map Subscription.instanceId).Nodup)
    (apart : ∀ subscription ∈ subscriptions, subscription.block.IsApart world.engine.registry)
    (present : ∀ subscription ∈ subscriptions, (world.symbols? subscription.instanceId).isSome) :
    (world.handlings queued subscriptions).1 =
        (subscriptions.filterMap (world.alone queued)).map Prod.fst ∧
      ∀ run ∈ subscriptions.filterMap (world.alone queued),
        (world.handlings queued subscriptions).2.symbols? run.1.subscription.instanceId =
          some run.2.stored := by
  induction subscriptions generalizing world with
  | nil => exact ⟨rfl, fun run member => absurd member List.not_mem_nil⟩
  | cons subscription rest ih =>
    obtain ⟨different, once⟩ := List.nodup_cons.mp once
    obtain ⟨locals, there⟩ := Option.isSome_iff_exists.mp (present subscription List.mem_cons_self)
    obtain ⟨next, ran, empty, table⟩ :=
      handling_alone nameless (apart subscription List.mem_cons_self) queued there
    have retains := (handling_retains ran).1
    -- The first handler changes its own table only, so what the others do alone stays the same.
    have others : rest.filterMap (next.alone queued) = rest.filterMap (world.alone queued) := by
      refine List.filterMap_congr fun other member => alone_of_handling ran fun same => ?_
      exact different (same ▸ List.mem_map_of_mem member)
    have later := ih empty once
      (fun other member => retains.engine ▸ apart other (List.mem_cons_of_mem _ member))
      (retains.all_present fun other member => present other (List.mem_cons_of_mem _ member))
    have first : world.alone queued subscription =
        some (world.engine.alone queued subscription locals) := by
      rw [alone, there]
      rfl
    rw [others] at later
    rw [handlings, ran, List.filterMap_cons_some first]
    refine ⟨?_, fun run member => ?_⟩
    · dsimp only
      rw [later.1, List.map_cons]
    · rcases List.mem_cons.mp member with rfl | member
      · exact (symbols?_of_handlings queued rest next different).trans table
      · exact later.2 run member

/-- What a delivery leaves where each of its handlers does what it does alone. -/
structure HandledApart (world : World) (queued : QueuedEvent) : Prop where
  everyone : (world.loneRuns queued).map (fun run => run.1.subscription) =
    world.targets queued.event
  tables : ∀ run ∈ world.loneRuns queued,
    (deliver ⟨world, {}⟩ queued).world.symbols? run.1.subscription.instanceId = some run.2.stored
  report : (deliver ⟨world, {}⟩ queued).report =
    ⟨(world.loneRuns queued).length,
      (world.loneRuns queued).flatMap fun run => run.1.failures queued.event.name⟩
  queue : (deliver ⟨world, {}⟩ queued).world.queue =
    world.queue ++ (world.loneRuns queued).flatMap fun run =>
      (accepted run.1.triggers).map fun event => ⟨event, queued.depth + 1⟩

theorem handledApart {world : World} {queued : QueuedEvent}
    (nameless : world.globals.IsNameless)
    (once : ((world.targets queued.event).map Subscription.instanceId).Nodup)
    (apart : ∀ subscription ∈ world.targets queued.event,
      subscription.block.IsApart world.engine.registry)
    (present : ∀ subscription ∈ world.targets queued.event,
      (world.symbols? subscription.instanceId).isSome) : world.HandledApart queued := by
  obtain ⟨runs, tables⟩ := handlings_alone queued nameless once apart present
  have handled := handlings_subscriptions queued present
  have delivered := deliver_eq ⟨world, {}⟩ queued
  have queue := delivery_queue queued world
  constructor
  case everyone =>
    rw [runs, List.map_map] at handled
    exact handled
  case tables =>
    intro run member
    have left := tables run member
    rw [targets_eq_among] at left
    rw [delivered]
    exact left
  case report =>
    rw [delivered]
    simp [delivery, ← targets_eq_among, Delivery.failures, runs, loneRuns, List.flatMap_map]
  case queue =>
    rw [delivered]
    dsimp only
    rw [queue]
    simp [delivery, ← targets_eq_among, Delivery.enqueued, Delivery.triggered, runs, loneRuns,
      List.flatMap_map, List.map_flatMap]

def reordered (world : World) (event : String) (order : List Subscription) : World :=
  { world with subscriptions := world.subscriptions.insert event order }

theorem targets_reordered (world : World) (event : Event) (order : List Subscription) :
    (world.reordered event.name order).targets event =
      order.filter fun subscription => event.target.includes subscription.instanceId := by
  unfold targets subscribers reordered
  rw [Std.ExtTreeMap.getD_insert_self]

theorem symbols?_of_deliver (world : World) (queued : QueuedEvent) {instanceId : InstanceId}
    (different : instanceId ∉ (world.targets queued.event).map Subscription.instanceId) :
    (deliver ⟨world, {}⟩ queued).world.symbols? instanceId = world.symbols? instanceId := by
  rw [targets_eq_among] at different
  rw [deliver_eq]
  exact symbols?_of_handlings queued _ world different

theorem HandledApart.exists_run {world : World} {queued : QueuedEvent}
    (handled : world.HandledApart queued) {subscription : Subscription}
    (target : subscription ∈ world.targets queued.event) :
    ∃ run ∈ world.loneRuns queued, run.1.subscription = subscription := by
  rw [← handled.everyone] at target
  exact List.mem_map.mp target

/-- Deliveries that run the same handlers, in whatever order, leave the same tables. -/
theorem HandledApart.symbols?_of_perm {world other : World} {queued : QueuedEvent}
    (handled : world.HandledApart queued) (handled' : other.HandledApart queued)
    (runs : (other.loneRuns queued).Perm (world.loneRuns queued))
    (targets : (other.targets queued.event).Perm (world.targets queued.event))
    (start : ∀ instanceId, other.symbols? instanceId = world.symbols? instanceId)
    (instanceId : InstanceId) :
    (deliver ⟨other, {}⟩ queued).world.symbols? instanceId =
      (deliver ⟨world, {}⟩ queued).world.symbols? instanceId := by
  by_cases target : instanceId ∈ (world.targets queued.event).map Subscription.instanceId
  · obtain ⟨subscription, among, rfl⟩ := List.mem_map.mp target
    obtain ⟨run, member, rfl⟩ := handled.exists_run among
    rw [handled.tables run member, handled'.tables run (runs.mem_iff.mpr member)]
  · have absent := mt (targets.map Subscription.instanceId).mem_iff.mp target
    rw [symbols?_of_deliver other queued absent, symbols?_of_deliver world queued target, start]

end World

/-- Handlers of different instances do not interfere, neither in a world that a history leads to nor
in one that a pass over it meets. -/
theorem History.handlers_apart (history : History) {world : World}
    (reached : history.world.Retains world) (queued : QueuedEvent) :
    (∀ instanceId ∉ (world.targets queued.event).map Subscription.instanceId,
      (World.deliver ⟨world, {}⟩ queued).world.symbols? instanceId = world.symbols? instanceId) ∧
    (world.globals.IsNameless →
      (∀ subscription ∈ world.targets queued.event,
        subscription.block.IsApart world.engine.registry) →
      world.HandledApart queued ∧
      ∀ order, order.Perm (world.subscribers queued.event.name) →
        let reordered := world.reordered queued.event.name order
        let before := World.deliver ⟨world, {}⟩ queued
        let after := World.deliver ⟨reordered, {}⟩ queued
        reordered.HandledApart queued ∧
        (reordered.loneRuns queued).Perm (world.loneRuns queued) ∧
        (∀ instanceId, after.world.symbols? instanceId = before.world.symbols? instanceId) ∧
        after.report.delivered = before.report.delivered ∧
        after.report.failures.Perm before.report.failures) := by
  refine ⟨fun _ different => world.symbols?_of_deliver queued different, ?_⟩
  intro nameless apart
  have once : ((world.targets queued.event).map Subscription.instanceId).Nodup := by
    rw [reached.targets]
    exact (history.roster queued.event.name).once.sublist (List.filter_sublist.map _)
  have present : ∀ subscription ∈ world.targets queued.event,
      (world.symbols? subscription.instanceId).isSome := fun subscription target =>
    history.subscribersPresent.retained reached _ subscription (List.mem_filter.mp target).1
  have handled := World.handledApart nameless once apart present
  refine ⟨handled, fun order permutation => ?_⟩
  have targets : ((world.reordered queued.event.name order).targets queued.event).Perm
      (world.targets queued.event) := by
    rw [World.targets_reordered]
    exact permutation.filter _
  have runs : ((world.reordered queued.event.name order).loneRuns queued).Perm
      (world.loneRuns queued) := targets.filterMap _
  have handled' : (world.reordered queued.event.name order).HandledApart queued := by
    apply World.handledApart
    · exact nameless
    · exact (targets.map _).nodup_iff.mpr once
    · exact fun subscription target => apart subscription (targets.mem_iff.mp target)
    · exact fun subscription target => present subscription (targets.mem_iff.mp target)
  refine ⟨handled', runs, handled.symbols?_of_perm handled' runs targets fun _ => rfl, ?_, ?_⟩
  · rw [handled.report, handled'.report]
    exact runs.length_eq
  · rw [handled.report, handled'.report]
    exact runs.flatMap_right _

def ping : Function where
  arity := .exactly 0
  returnsValue := false
  handler _ _ := .trigger (.named "pong") fun _ => .done none

def hitBlock : Block :=
  [⟨1, .perform (.assign .nearest "hits" [.load "amount"])⟩,
    ⟨2, .perform (.evaluate [.call "ping" 0])⟩]

def History.pair : History :=
  ⟨{ registry := .ofList [("ping", ping)] }, {},
    [.addInstance .empty, .addInstance .empty, .subscribe "hit" 1 hitBlock,
      .subscribe "hit" 2 hitBlock]⟩

theorem History.pair_subscribers :
    History.pair.world.subscribers "hit" = [⟨1, hitBlock⟩, ⟨2, hitBlock⟩] := by rfl

theorem History.pair_targets :
    History.pair.world.targets (.named "hit") = [⟨1, hitBlock⟩, ⟨2, hitBlock⟩] := by rfl

theorem hitBlock_isApart : hitBlock.IsApart History.pair.world.engine.registry := by
  intro statement member
  simp only [hitBlock, List.mem_cons, List.not_mem_nil, or_false] at member
  rcases member with rfl | rfl
  · refine ⟨fun code here call inside => ?_, fun scope target value same => ?_⟩
    · cases here
      cases inside
    · cases same
      rfl
  · refine ⟨fun code here call inside function found caller arguments => ?_, nofun⟩
    cases here
    obtain rfl := List.mem_singleton.mp inside
    obtain rfl : ping = function := Option.some.inj found
    exact fun _ => trivial

theorem History.handlers_apart_pair :
    let world := History.pair.world
    let queued : QueuedEvent := ⟨.named "hit", 0⟩
    let reordered := world.reordered "hit" [⟨2, hitBlock⟩, ⟨1, hitBlock⟩]
    world.targets queued.event = [⟨1, hitBlock⟩, ⟨2, hitBlock⟩] ∧
      world.HandledApart queued ∧ reordered.HandledApart queued ∧
      ∀ instanceId, (World.deliver ⟨reordered, {}⟩ queued).world.symbols? instanceId =
        (World.deliver ⟨world, {}⟩ queued).world.symbols? instanceId := by
  intro world queued reordered
  have nameless : world.globals.IsNameless := by
    intro name
    change SymbolTable.empty.lookup name = none
    simp [SymbolTable.lookup, SymbolTable.empty]
  have apart : ∀ subscription ∈ world.targets queued.event,
      subscription.block.IsApart world.engine.registry := by
    intro subscription member
    rw [pair_targets] at member
    simp only [List.mem_cons, List.not_mem_nil, or_false] at member
    rcases member with rfl | rfl
    · exact hitBlock_isApart
    · exact hitBlock_isApart
  obtain ⟨-, handlers⟩ := History.pair.handlers_apart (.refl _) queued
  obtain ⟨handled, orders⟩ := handlers nameless apart
  have swapped : [⟨2, hitBlock⟩, ⟨1, hitBlock⟩].Perm (world.subscribers "hit") := by
    rw [pair_subscribers]
    exact .swap ..
  obtain ⟨handled', -, tables, -⟩ := orders _ swapped
  exact ⟨pair_targets, handled, handled', tables⟩

end EventScript
