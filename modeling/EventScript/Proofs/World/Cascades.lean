import EventScript.Proofs.World.Queue
import Mathlib.Logic.Function.Iterate

/-!
# Cascades

Scripts trigger events whose handlers trigger further events. The depth of an event that waits is
its distance from the host, and the limit on it bounds how often a cascade can go on.
-/

namespace EventScript

inductive Cascade where
  /-- The host itself queued or triggered it. -/
  | host (event : Event)
  /-- A script triggered it while its cause was delivered. -/
  | script (cause : Cascade) (event : Event)

namespace Cascade

def event : Cascade → Event
  | host event => event
  | script _ event => event

def triggers : Cascade → Nat
  | host _ => 0
  | script cause _ => cause.triggers + 1

def queued (cascade : Cascade) : QueuedEvent := ⟨cascade.event, cascade.triggers⟩

/-- How cascades go on with the events that the deliveries caused, each delivery at the place of the
cascade that it delivers. -/
def continued (causes : List Cascade) (deliveries : List Delivery) : List Cascade :=
  (causes.zip deliveries).flatMap fun (cause, delivery) => delivery.triggered.map (.script cause)

theorem map_queued_continued {causes : List Cascade} {deliveries : List Delivery}
    (delivered : deliveries.map Delivery.queued = causes.map queued) :
    (continued causes deliveries).map queued = deliveries.flatMap Delivery.enqueued := by
  induction causes generalizing deliveries with
  | nil =>
    obtain rfl := List.map_eq_nil_iff.mp delivered
    rfl
  | cons cause causes ih =>
    cases deliveries with
    | nil => cases delivered
    | cons delivery deliveries =>
      obtain ⟨first, rest⟩ := List.cons.inj delivered
      have depth : delivery.queued.depth = cause.triggers := congrArg QueuedEvent.depth first
      have caused : (delivery.triggered.map (script cause)).map queued = delivery.enqueued := by
        rw [List.map_map, Delivery.enqueued, depth]
        rfl
      have others := ih rest
      unfold continued at others ⊢
      rw [List.zip_cons_cons, List.flatMap_cons, List.map_append, List.flatMap_cons, caused, others]

theorem filter_map_queued (cascades : List Cascade) (selected : Event → Bool) :
    ((cascades.map queued).filter fun queued => selected queued.event) =
      (cascades.filter fun cascade => selected cascade.event).map queued :=
  List.filter_map

end Cascade

namespace World

/-- Where the events that wait after an operation stem from, given where those stem from that wait
before it. -/
def originsAfter (world : World) (origins : List Cascade) : Operation → List Cascade
  | .enqueue event => origins ++ [.host event]
  | .trigger event =>
    origins ++ Cascade.continued [.host event] (world.deliveries [⟨event, 0⟩]).1
  | .drain drain =>
    (origins.filter fun origin => !drain.takes origin.event) ++
      Cascade.continued (origins.filter fun origin => drain.takes origin.event)
        ((world.awaiting drain).deliveries (world.taken drain)).1
  | _ => origins

theorem perform_origins {world : World} {origins : List Cascade}
    (waiting : world.queue = origins.map Cascade.queued) (operation : Operation) :
    (world.perform operation).queue =
      (world.originsAfter origins operation).map Cascade.queued := by
  rw [perform_queue]
  cases operation with
  | enqueue event =>
    dsimp only [originsAfter]
    rw [List.map_append, ← waiting]
    rfl
  | trigger event =>
    dsimp only [originsAfter]
    have delivered := deliveries_queued [⟨event, 0⟩] world
    rw [List.map_append, ← waiting, Cascade.map_queued_continued delivered]
  | drain drain =>
    dsimp only [originsAfter]
    have kept : (world.awaiting drain).queue =
        (origins.filter fun origin => !drain.takes origin.event).map Cascade.queued := by
      unfold awaiting
      rw [waiting]
      exact Cascade.filter_map_queued origins fun event => !drain.takes event
    have taken : world.taken drain =
        (origins.filter fun origin => drain.takes origin.event).map Cascade.queued := by
      unfold taken
      rw [waiting]
      exact Cascade.filter_map_queued origins drain.takes
    have delivered := deliveries_queued (world.taken drain) (world.awaiting drain)
    rw [List.map_append, ← kept, Cascade.map_queued_continued (delivered.trans taken)]
  | addInstance table => exact waiting
  | removeInstance instanceId => exact waiting
  | modifySymbols instanceId change => exact waiting
  | modifyGlobals change => exact waiting
  | subscribe event instanceId block => exact waiting
  | unsubscribe instanceId event => exact waiting

def originsThrough (world : World) (origins : List Cascade) : List Operation → List Cascade
  | [] => origins
  | operation :: operations =>
    (world.perform operation).originsThrough (world.originsAfter origins operation) operations

theorem foldl_perform_origins (operations : List Operation) {world : World}
    {origins : List Cascade} (waiting : world.queue = origins.map Cascade.queued) :
    (operations.foldl perform world).queue =
      (world.originsThrough origins operations).map Cascade.queued := by
  induction operations generalizing world origins with
  | nil => exact waiting
  | cons operation operations ih => exact ih (perform_origins waiting operation)

/-! ### The limit -/

def WithinLimit (world : World) : Prop :=
  ∀ waiting ∈ world.queue, waiting.depth ≤ world.engine.config.maxEventDepth

/-- What a pass causes is one deeper than an event that it delivers, and never too deep. -/
theorem deliveries_within (events : List QueuedEvent) (world : World) :
    ∀ waiting ∈ (world.deliveries events).1.flatMap Delivery.enqueued,
      (∃ cause ∈ events, waiting.depth = cause.depth + 1) ∧
        waiting.depth ≤ world.engine.config.maxEventDepth := by
  induction events generalizing world with
  | nil =>
    intro waiting member
    cases member
  | cons queued rest ih =>
    intro waiting member
    rw [deliveries] at member
    dsimp only at member
    rw [List.flatMap_cons] at member
    rcases List.mem_append.mp member with first | later
    · obtain ⟨deeper, within⟩ := delivery_within queued world waiting first
      exact ⟨⟨queued, List.mem_cons_self, deeper⟩, within⟩
    · obtain ⟨⟨cause, inRest, deeper⟩, within⟩ := ih _ waiting later
      rw [(delivery_retains queued world).engine] at within
      exact ⟨⟨cause, List.mem_cons_of_mem _ inRest, deeper⟩, within⟩

theorem WithinLimit.perform {world : World} (bounded : world.WithinLimit) (operation : Operation) :
    (world.perform operation).WithinLimit := by
  intro waiting member
  rw [perform_engine]
  rw [perform_queue] at member
  cases operation with
  | enqueue event =>
    rcases List.mem_append.mp member with earlier | last
    · exact bounded waiting earlier
    · obtain rfl := List.mem_singleton.mp last
      exact Nat.zero_le _
  | trigger event =>
    rcases List.mem_append.mp member with earlier | caused
    · exact bounded waiting earlier
    · exact (deliveries_within _ world waiting caused).2
  | drain drain =>
    rcases List.mem_append.mp member with kept | caused
    · exact bounded waiting (List.mem_filter.mp kept).1
    · exact (deliveries_within _ _ waiting caused).2
  | addInstance table => exact bounded waiting member
  | removeInstance instanceId => exact bounded waiting member
  | modifySymbols instanceId change => exact bounded waiting member
  | modifyGlobals change => exact bounded waiting member
  | subscribe event instanceId block => exact bounded waiting member
  | unsubscribe instanceId event => exact bounded waiting member

theorem processQueue_queue (world : World) :
    world.processQueue.2.queue =
      ((world.awaiting .everything).deliveries world.queue).1.flatMap Delivery.enqueued := by
  have queue := world.perform_queue (.drain .everything)
  dsimp only at queue
  rw [awaiting_everything, taken_everything] at queue
  exact queue

/-- Every pass over the queue leaves deeper events only. -/
theorem processQueue_deepens {world : World} (passes : Nat)
    (deep : ∀ waiting ∈ world.queue, passes ≤ waiting.depth) :
    ∀ waiting ∈ world.processQueue.2.queue, passes + 1 ≤ waiting.depth := by
  intro waiting member
  rw [processQueue_queue] at member
  obtain ⟨⟨cause, delivered, deeper⟩, -⟩ := deliveries_within _ _ waiting member
  rw [deeper]
  exact Nat.succ_le_succ (deep cause delivered)

theorem iterate_processQueue {world : World} (bounded : world.WithinLimit) (passes : Nat) :
    let after := (fun world => world.processQueue.2)^[passes] world
    after.engine = world.engine ∧ after.WithinLimit ∧
      ∀ waiting ∈ after.queue, passes ≤ waiting.depth := by
  induction passes with
  | zero => exact ⟨rfl, bounded, fun _ _ => Nat.zero_le _⟩
  | succ passes ih =>
    obtain ⟨engine, within, deep⟩ := ih
    rw [Function.iterate_succ_apply']
    refine ⟨?_, ?_, ?_⟩
    · exact (perform_engine _ (.drain .everything)).trans engine
    · exact within.perform (.drain .everything)
    · exact processQueue_deepens passes deep

/-- One pass more than the limit allows leaves nothing. -/
theorem iterate_processQueue_empty {world : World} (bounded : world.WithinLimit) :
    ((fun world => world.processQueue.2)^[world.engine.config.maxEventDepth + 1] world).queue =
      [] := by
  obtain ⟨engine, within, deep⟩ :=
    iterate_processQueue bounded (world.engine.config.maxEventDepth + 1)
  rw [List.eq_nil_iff_forall_not_mem]
  intro waiting member
  have shallow := within waiting member
  rw [engine] at shallow
  have := deep waiting member
  omega

end World

namespace History

def origins (history : History) : List Cascade :=
  (World.ofEngine history.engine history.chance).originsThrough [] history.operations

theorem withinLimit (history : History) : history.world.WithinLimit := by
  induction history using History.induct with
  | started engine chance =>
    intro waiting member
    cases member
  | step history operation ih =>
    rw [world_followed]
    exact ih.perform operation

/-- The depth of every waiting event is the number of script triggers since the host, and within the
limit. So passes without new events from the host empty the queue, at the latest when there is one
more of them than the limit. -/
theorem cascades_bounded (history : History) :
    let limit := history.engine.config.maxEventDepth
    history.world.queue = history.origins.map Cascade.queued ∧
      (∀ waiting ∈ history.world.queue, waiting.depth ≤ limit) ∧
      ((fun world => world.processQueue.2)^[limit + 1] history.world).queue = [] := by
  intro limit
  have same : limit = history.world.engine.config.maxEventDepth := by
    rw [history.world_engine]
  refine ⟨?_, ?_, ?_⟩
  · exact World.foldl_perform_origins history.operations rfl
  · rw [same]
    exact history.withinLimit
  · rw [same]
    exact World.iterate_processQueue_empty history.withinLimit

end History

end EventScript
