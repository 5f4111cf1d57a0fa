import EventScript.Proofs.World.Subscribers
import Mathlib.Data.List.Range

/-!
# Departures

An instance that was removed never comes back. Its id is not given again, so events for it reach
nobody, whether they waited when it left or are triggered later.
-/

namespace EventScript

namespace World

/-! ### Removals -/

/-- A removal takes the instance out of the lists of subscribers, and changes nothing besides. -/
theorem perform_removeInstance {world : World} {instanceId : InstanceId}
    (present : (world.symbols? instanceId).isSome) :
    world.perform (.removeInstance instanceId) =
      { world with
        instances := world.instances.erase instanceId
        subscriptions := (world.subscriptions.map fun _ => withoutInstance instanceId).filter
          fun _ subscriptions => !subscriptions.isEmpty } := by
  obtain ⟨table, found⟩ := Option.isSome_iff_exists.mp present
  change (world.removeInstance instanceId).2 = _
  unfold removeInstance
  rw [found]

theorem symbols?_of_removeInstance (world : World) (instanceId other : InstanceId) :
    (world.perform (.removeInstance instanceId)).symbols? other =
      if instanceId = other then none else world.symbols? other := by
  by_cases present : (world.symbols? instanceId).isSome
  · rw [perform_removeInstance present]
    unfold symbols?
    dsimp only
    rw [Std.ExtTreeMap.getElem?_erase]
    simp only [Std.compare_eq_iff_eq]
  · rw [perform_removeInstance_of_absent present]
    split
    · next same => exact same ▸ Option.not_isSome_iff_eq_none.mp present
    · rfl

theorem isSome_removeInstance (world : World) (instanceId : InstanceId) :
    (world.removeInstance instanceId).1.isSome = (world.symbols? instanceId).isSome := by
  unfold removeInstance
  split
  · next absent => rw [absent]
  · next table found => rw [found]

/-! ### Ids -/

def granted (world : World) : Operation → List InstanceId
  | .addInstance table => [(world.addInstance table).1]
  | _ => []

def grantedThrough (world : World) : List Operation → List InstanceId
  | [] => []
  | operation :: operations =>
    world.granted operation ++ (world.perform operation).grantedThrough operations

theorem perform_nextId (world : World) (operation : Operation) :
    (world.perform operation).nextId = world.nextId + (world.granted operation).length := by
  cases operation with
  | addInstance table => rfl
  | removeInstance instanceId =>
    by_cases present : (world.symbols? instanceId).isSome
    · rw [perform_removeInstance present]
      rfl
    · rw [perform_removeInstance_of_absent present]
      rfl
  | modifySymbols instanceId change => exact (world.modifySymbols_retains instanceId change).nextId
  | modifyGlobals change => rfl
  | subscribe event instanceId block =>
    rw [perform_subscribe]
    split
    · rfl
    · rfl
  | unsubscribe instanceId event => rfl
  | enqueue event => rfl
  | trigger event => exact (world.trigger_retains event).nextId
  | drain drain => exact (world.drain_retains drain).nextId

/-- Operations count the instances that they add. -/
theorem grantedThrough_eq (world : World) (operations : List Operation) :
    world.grantedThrough operations =
      List.range' world.nextId (world.grantedThrough operations).length := by
  induction operations generalizing world with
  | nil => rfl
  | cons operation operations ih =>
    have rest := ih (world.perform operation)
    have next := world.perform_nextId operation
    have first : world.granted operation =
        List.range' world.nextId (world.granted operation).length := by
      cases operation <;> rfl
    rw [grantedThrough, List.length_append, ← List.range'_append_1, ← next, ← first, ← rest]

/-- After an operation there are no instances but those from before and the one that it adds. -/
theorem present_of_perform {world : World} {operation : Operation} {instanceId : InstanceId}
    (present : ((world.perform operation).symbols? instanceId).isSome) :
    (world.symbols? instanceId).isSome ∨ instanceId ∈ world.granted operation := by
  cases operation with
  | addInstance table =>
    change ((world.store world.nextId table).symbols? instanceId).isSome at present
    rw [symbols?_store, Bool.or_eq_true, beq_iff_eq] at present
    rcases present with rfl | before
    · exact .inr List.mem_cons_self
    · exact .inl before
  | removeInstance removed =>
    rw [symbols?_of_removeInstance] at present
    split at present
    · cases present
    · exact .inl present
  | modifySymbols changed change =>
    exact .inl ((world.modifySymbols_retains changed change).present instanceId ▸ present)
  | modifyGlobals change => exact .inl present
  | subscribe event subscriber block =>
    rw [perform_subscribe] at present
    split at present
    · exact .inl present
    · exact .inl present
  | unsubscribe unsubscribed event => exact .inl present
  | enqueue event => exact .inl present
  | trigger event => exact .inl ((world.trigger_retains event).present instanceId ▸ present)
  | drain drain => exact .inl ((world.drain_retains drain).present instanceId ▸ present)

def IsNumbered (world : World) : Prop :=
  ∀ instanceId, (world.symbols? instanceId).isSome → instanceId < world.nextId

theorem granted_eq_nextId {world : World} {operation : Operation} {instanceId : InstanceId}
    (member : instanceId ∈ world.granted operation) :
    instanceId = world.nextId ∧ (world.granted operation).length = 1 := by
  cases operation with
  | addInstance table => exact ⟨List.mem_singleton.mp member, rfl⟩
  | _ => cases member

theorem IsNumbered.perform {world : World} (numbered : world.IsNumbered) (operation : Operation) :
    (world.perform operation).IsNumbered := by
  intro instanceId present
  rw [perform_nextId]
  rcases present_of_perform present with before | added
  · exact Nat.lt_add_right _ (numbered instanceId before)
  · obtain ⟨rfl, one⟩ := granted_eq_nextId added
    rw [one]
    exact Nat.lt_succ_self _

/-! ### Who has left -/

/-- The instance is not there, and its id will not be given any more. -/
structure HasLost (world : World) (instanceId : InstanceId) : Prop where
  absent : world.symbols? instanceId = none
  spent : instanceId < world.nextId

theorem HasLost.perform {world : World} {instanceId : InstanceId} (lost : world.HasLost instanceId)
    (operation : Operation) : (world.perform operation).HasLost instanceId := by
  constructor
  · rw [← Option.not_isSome_iff_eq_none]
    intro present
    rcases present_of_perform present with before | added
    · rw [lost.absent] at before
      cases before
    · exact absurd (granted_eq_nextId added).1 (Nat.ne_of_lt lost.spent)
  · rw [perform_nextId]
    exact Nat.lt_add_right _ lost.spent

theorem HasLost.foldl_perform {world : World} {instanceId : InstanceId}
    (lost : world.HasLost instanceId) (operations : List Operation) :
    (operations.foldl World.perform world).HasLost instanceId := by
  induction operations generalizing world with
  | nil => exact lost
  | cons operation operations ih => exact ih (lost.perform operation)

theorem IsNumbered.hasLost {world : World} (numbered : world.IsNumbered) {instanceId : InstanceId}
    (present : (world.symbols? instanceId).isSome) :
    (world.perform (.removeInstance instanceId)).HasLost instanceId := by
  constructor
  · rw [symbols?_of_removeInstance, if_pos rfl]
  · rw [perform_removeInstance present]
    exact numbered instanceId present

/-- What a pass over events answers and leaves, none of whose handlers is of the instance; events for
that instance alone have no handler. -/
structure PassesOver (world : World) (instanceId : InstanceId) (events : List QueuedEvent)
    (outcome : Except ScriptError Report × World) : Prop where
  answers : outcome = ((Report.ofDeliveries (world.deliveries events).1).outcome,
    (world.deliveries events).2)
  delivered : (world.deliveries events).1.map Delivery.queued = events
  others : ∀ delivery ∈ (world.deliveries events).1, ∀ handling ∈ delivery.handlings,
    handling.subscription.instanceId ≠ instanceId
  nobody : ∀ delivery ∈ (world.deliveries events).1,
    delivery.queued.event.target = .only instanceId → delivery.handlings = []

theorem passesOver {world : World} (present : world.SubscribersPresent) {instanceId : InstanceId}
    (absent : world.symbols? instanceId = none) (events : List QueuedEvent) :
    world.PassesOver instanceId events (world.deliverAll events) := by
  have elsewhere : ∀ event, ∀ subscription ∈ world.subscribers event,
      subscription.instanceId ≠ instanceId := by
    rintro event subscription member rfl
    have there := present event subscription member
    rw [absent] at there
    cases there
  have handled : ∀ delivery ∈ (world.deliveries events).1, ∀ handling ∈ delivery.handlings,
      handling.subscription ∈ world.targets delivery.queued.event := by
    intro delivery member handling ran
    rw [targets_eq_among, ← deliveries_handled present events delivery member]
    exact List.mem_map_of_mem ran
  refine ⟨world.deliverAll_eq events, deliveries_queued events world, ?_, ?_⟩
  · intro delivery member handling ran
    exact elsewhere _ _ (List.mem_filter.mp (handled delivery member handling ran)).1
  · intro delivery member alone
    refine List.eq_nil_iff_forall_not_mem.mpr fun handling ran => ?_
    obtain ⟨subscribed, included⟩ := List.mem_filter.mp (handled delivery member handling ran)
    rw [alone] at included
    exact elsewhere _ _ subscribed (beq_iff_eq.mp included).symm

structure IsWithout (world : World) (instanceId : InstanceId) : Prop where
  absent : world.symbols? instanceId = none
  unsubscribed : ∀ event, world.isSubscribed instanceId event = false
  refused : ∀ event block,
    world.subscribe event instanceId block = .error (.unknownInstance instanceId) ∧
      world.perform (.subscribe event instanceId block) = world
  triggered : ∀ event, world.PassesOver instanceId [⟨event, 0⟩] (world.trigger event)
  drained : ∀ drain,
    (world.awaiting drain).PassesOver instanceId (world.taken drain) (world.drain drain)

theorem isWithout {world : World} (present : world.SubscribersPresent) {instanceId : InstanceId}
    (absent : world.symbols? instanceId = none) : world.IsWithout instanceId where
  absent := absent
  unsubscribed := by
    intro event
    refine List.any_eq_false.mpr fun subscription member same => ?_
    have there := present event subscription member
    rw [beq_iff_eq.mp same, absent] at there
    cases there
  refused := by
    intro event block
    constructor
    · unfold subscribe
      refine if_neg fun there => ?_
      rw [Std.ExtTreeMap.contains_eq_isSome_getElem?] at there
      exact absurd there (by simp [show world.instances[instanceId]? = none from absent])
    · rw [perform_subscribe, absent]
      rfl
  triggered event := passesOver present absent [⟨event, 0⟩]
  drained := by
    intro drain
    rw [drain_eq]
    exact passesOver (present.retained (world.awaiting_retains drain)) absent _

structure SameBeside (instanceId : InstanceId) (before after : World) : Prop where
  tables : ∀ other, other ≠ instanceId → after.symbols? other = before.symbols? other
  /-- The other subscribers of each event, with their blocks and in their order. -/
  subscribers : ∀ event, after.subscribers event =
    (before.subscribers event).filter fun subscription => subscription.instanceId != instanceId
  globals : after.globals = before.globals
  queue : after.queue = before.queue

theorem sameBeside_removeInstance {world : World} (subscribed : world.SubscribersPresent)
    {instanceId : InstanceId} (present : (world.symbols? instanceId).isSome) :
    SameBeside instanceId world (world.perform (.removeInstance instanceId)) := by
  constructor
  case tables =>
    intro other different
    rw [symbols?_of_removeInstance, if_neg different.symm]
  case subscribers => exact subscribers_of_removeInstance subscribed instanceId
  case globals => rw [perform_removeInstance present]
  case queue => rw [perform_removeInstance present]

end World

namespace History

def followedBy (history : History) (operations : List Operation) : History :=
  { history with operations := history.operations ++ operations }

theorem world_followedBy (history : History) (operations : List Operation) :
    (history.followedBy operations).world = operations.foldl World.perform history.world :=
  List.foldl_append

def granted (history : History) : List InstanceId :=
  (World.ofEngine history.engine history.chance).grantedThrough history.operations

theorem isNumbered (history : History) : history.world.IsNumbered := by
  induction history using History.induct with
  | started engine chance =>
    intro instanceId present
    simp [world, start, World.ofEngine, World.symbols?] at present
  | step history operation ih =>
    rw [world_followed]
    exact ih.perform operation

/-- Instances get the ids 1, 2, … in turn, so never one from before. Once an instance has been
removed, which leaves everything else as it is, it is not there at any later time, subscribes to
nothing, cannot subscribe, and no handler of it ever runs. -/
theorem removed_for_good (history : History) :
    (history.granted = List.range' 1 history.granted.length ∧ history.granted.Nodup) ∧
    ∀ instanceId, (history.world.removeInstance instanceId).1.isSome →
      let departure := history.followed (.removeInstance instanceId)
      World.SameBeside instanceId history.world departure.world ∧
        ∀ later, (departure.followedBy later).world.IsWithout instanceId := by
  have inTurn : history.granted = List.range' 1 history.granted.length :=
    World.grantedThrough_eq _ history.operations
  refine ⟨⟨inTurn, ?_⟩, ?_⟩
  · rw [inTurn]
    exact List.nodup_range'
  · intro instanceId removed departure
    rw [World.isSome_removeInstance] at removed
    have left : departure.world = history.world.perform (.removeInstance instanceId) :=
      history.world_followed _
    constructor
    · rw [left]
      exact World.sameBeside_removeInstance history.subscribersPresent removed
    · intro later
      have lost : departure.world.HasLost instanceId := left ▸ history.isNumbered.hasLost removed
      have since := lost.foldl_perform later
      rw [← world_followedBy] at since
      exact World.isWithout (departure.followedBy later).subscribersPresent since.absent

def courier : History :=
  ⟨{}, {},
    [.addInstance .empty, .addInstance .empty, .subscribe "hit" 1 [], .subscribe "hit" 2 [],
      .enqueue ((Event.named "hit").toInstance 1), .enqueue (.named "hit")]⟩

theorem removed_for_good_courier :
    let now := (courier.followed (.removeInstance 1)).followedBy [.addInstance .empty]
    courier.world.isSubscribed 1 "hit" = true ∧
      now.world.queue.map (fun queued => queued.event.target) = [.only 1, .everyone] ∧
      now.granted = [1, 2, 3] ∧ now.world.IsWithout 1 := by
  intro now
  have removed : (courier.world.removeInstance 1).1.isSome := by rfl
  obtain ⟨-, gone⟩ := courier.removed_for_good.2 1 removed
  exact ⟨by rfl, by rfl, by rfl, gone [.addInstance .empty]⟩

end History

end EventScript
