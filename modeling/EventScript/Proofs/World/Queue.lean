import EventScript.Proofs.World.Subscribers

/-!
# The queue

What a pass delivers, in which order, and what waits after it.
-/

namespace EventScript

namespace World

/-- What an operation does to the queue. -/
theorem perform_queue (world : World) (operation : Operation) :
    (world.perform operation).queue =
      match operation with
      | .enqueue event => world.queue ++ [⟨event, 0⟩]
      | .trigger event =>
        world.queue ++ (world.deliveries [⟨event, 0⟩]).1.flatMap Delivery.enqueued
      | .drain drain =>
        (world.awaiting drain).queue ++
          ((world.awaiting drain).deliveries (world.taken drain)).1.flatMap Delivery.enqueued
      | _ => world.queue := by
  cases operation with
  | addInstance table => rfl
  | removeInstance instanceId =>
    change (world.removeInstance instanceId).2.queue = world.queue
    unfold removeInstance
    split
    · rfl
    · rfl
  | modifySymbols instanceId change =>
    change (world.modifySymbols instanceId change).queue = world.queue
    unfold modifySymbols
    split
    · rfl
    · rfl
  | modifyGlobals change => rfl
  | subscribe event instanceId block =>
    rw [perform_subscribe]
    split
    · rfl
    · rfl
  | unsubscribe instanceId event => rfl
  | enqueue event => rfl
  | trigger event =>
    change (world.trigger event).2.queue = _
    rw [trigger_deliveries]
    exact deliveries_queue [⟨event, 0⟩] world
  | drain drain =>
    change (world.drain drain).2.queue = _
    rw [drain_deliveries]
    exact deliveries_queue (world.taken drain) (world.awaiting drain)

end World

/-- A pass delivers the events that it takes out of the queue, each once and in order, and no other;
each of them to its subscribers, in order. What it did not take still waits, in order, and behind it
wait the events that the handlers triggered, those of failed handlers too: delivery by delivery,
handler by handler, each handler's in the order in which it triggered them. -/
theorem History.drain_in_order (history : History) (drain : Drain) :
    let world := history.world
    let pass := (world.awaiting drain).deliveries (world.taken drain)
    world.drain drain = ((Report.ofDeliveries pass.1).outcome, pass.2) ∧
      pass.1.map Delivery.queued = world.taken drain ∧
      (∀ delivery ∈ pass.1,
        let event := delivery.queued.event
        delivery.handlings.map Handling.subscription =
          event.target.among (world.subscribers event.name)) ∧
      pass.2.queue = (world.awaiting drain).queue ++ pass.1.flatMap Delivery.enqueued := by
  intro world pass
  have retains := world.awaiting_retains drain
  have present := history.subscribersPresent.retained retains
  refine ⟨world.drain_deliveries drain, ?_, ?_, ?_⟩
  · exact World.deliveries_queued (world.taken drain) (world.awaiting drain)
  · intro delivery member
    dsimp only
    rw [World.deliveries_handled present _ delivery member, retains.subscribers]
  · exact World.deliveries_queue (world.taken drain) (world.awaiting drain)

/-- The event for the second instance and the event for both are delivered, `miss` still waits, and
behind it all that the handlers triggered. -/
theorem History.drain_in_order_pursuit :
    let world := (pursuit 1).world
    let pass := (world.awaiting (.named "hit")).deliveries (world.taken (.named "hit"))
    world.transmit "hit" = ((Report.ofDeliveries pass.1).outcome, pass.2) ∧
      pass.1.map Delivery.queued = [⟨(Event.named "hit").toInstance 2, 0⟩, ⟨.named "hit", 0⟩] ∧
      (pass.1.map fun delivery => delivery.handlings.map Handling.subscription) =
        [[⟨2, hide⟩], [⟨1, seek⟩, ⟨2, hide⟩]] ∧
      (pass.2.queue.map fun waiting => (waiting.event.name, waiting.depth)) =
        [("miss", 0), ("h", 1), ("hs", 1), ("hsh", 1)] := by
  obtain ⟨drained, delivered, handled, queue⟩ := (pursuit 1).drain_in_order (.named "hit")
  refine ⟨drained, delivered, ?_, by decide +kernel⟩
  have targets := congrArg (List.map fun queued : QueuedEvent =>
    queued.event.target.among ((pursuit 1).world.subscribers queued.event.name)) delivered
  rw [List.map_map] at targets
  exact (List.map_congr_left handled).trans targets

end EventScript
