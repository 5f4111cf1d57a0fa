import EventScript.Proofs.Outcome
import EventScript.Proofs.World.Subscribers

/-!
# Confinement of failures

A pass runs every handler that its events are for. One that fails keeps what it has done so far, and
the next runs in the world that it left. Only the answer of the whole pass depends on what failed.
-/

namespace EventScript

def Handling.caused (queued : QueuedEvent) (handling : Handling) : List QueuedEvent :=
  (accepted handling.triggers).map fun event => ⟨event, queued.depth + 1⟩

theorem Delivery.enqueued_eq (delivery : Delivery) :
    delivery.enqueued = delivery.handlings.flatMap (Handling.caused delivery.queued) := by
  unfold enqueued triggered
  exact List.map_flatMap

def Delivery.runs (delivery : Delivery) : List (QueuedEvent × Handling) :=
  delivery.handlings.map (delivery.queued, ·)

namespace World

/-- The handlers that events are for, event by event, each with its event. -/
def matching (world : World) (events : List QueuedEvent) : List (QueuedEvent × Subscription) :=
  events.flatMap fun queued =>
    (queued.event.target.among (world.subscribers queued.event.name)).map (queued, ·)

theorem Retains.matching {before after : World} (retains : before.Retains after)
    (events : List QueuedEvent) : after.matching events = before.matching events := by
  unfold World.matching
  simp only [retains.subscribers]

def receive (world : World) (waiting : List QueuedEvent) : World :=
  { world with queue := world.queue ++ waiting }

theorem receive_nil (world : World) : world.receive [] = world := by
  unfold receive
  rw [List.append_nil]

theorem receive_receive (world : World) (first second : List QueuedEvent) :
    (world.receive first).receive second = world.receive (first ++ second) := by
  unfold receive
  dsimp only
  rw [List.append_assoc]

theorem receive_retains (world : World) (waiting : List QueuedEvent) :
    world.Retains (world.receive waiting) :=
  ⟨rfl, rfl, rfl, fun _ => rfl⟩

/-- How handlers run one after the other: each in the world that those before have left, failed or
not, and what it causes waits behind all that waits by then. -/
inductive RunsEach :
    World → List (QueuedEvent × Subscription) → List (QueuedEvent × Handling) → World → Prop where
  | nothing (world : World) : RunsEach world [] [] world
  | next {world between after : World} {queued : QueuedEvent} {subscription : Subscription}
    {handling : Handling} {pairs : List (QueuedEvent × Subscription)}
    {runs : List (QueuedEvent × Handling)}
    (ran : world.handling queued subscription = some (handling, between))
    (rest : RunsEach (between.receive (handling.caused queued)) pairs runs after) :
    RunsEach world ((queued, subscription) :: pairs) ((queued, handling) :: runs) after

theorem RunsEach.append {world between after : World}
    {first second : List (QueuedEvent × Subscription)} {runs others : List (QueuedEvent × Handling)}
    (before : world.RunsEach first runs between) (rest : between.RunsEach second others after) :
    world.RunsEach (first ++ second) (runs ++ others) after := by
  induction before with
  | nothing => exact rest
  | next ran _ ih => exact .next ran (ih rest)

theorem RunsEach.subscriptions {world after : World} {pairs : List (QueuedEvent × Subscription)}
    {runs : List (QueuedEvent × Handling)} (each : world.RunsEach pairs runs after) :
    runs.map (fun run => (run.1, run.2.subscription)) = pairs := by
  induction each with
  | nothing => rfl
  | next ran _ ih =>
    obtain ⟨-, -, same⟩ := handling_retains ran
    rw [List.map_cons, ih, same]

/-! ### Deliveries run their handlers -/

/-- A handler does not see which events wait. -/
theorem handling_receive (queued : QueuedEvent) (world : World) (waiting : List QueuedEvent)
    (subscription : Subscription) :
    (world.receive waiting).handling queued subscription =
      (world.handling queued subscription).map fun (handling, after) =>
        (handling, after.receive waiting) := by
  unfold handling
  rw [Option.map_map]
  rfl

theorem handlings_receive (queued : QueuedEvent) (subscriptions : List Subscription)
    (world : World) (waiting : List QueuedEvent) :
    (world.receive waiting).handlings queued subscriptions =
      ((world.handlings queued subscriptions).1,
        (world.handlings queued subscriptions).2.receive waiting) := by
  induction subscriptions generalizing world with
  | nil => rfl
  | cons subscription rest ih =>
    rw [handlings, handlings, handling_receive]
    cases world.handling queued subscription with
    | none => exact ih world
    | some step =>
      obtain ⟨handling, next⟩ := step
      dsimp only [Option.map_some]
      rw [ih next]

theorem handlings_runsEach (queued : QueuedEvent) {subscriptions : List Subscription}
    {world : World}
    (present : ∀ subscription ∈ subscriptions,
      (world.symbols? subscription.instanceId).isSome) :
    let (handlings, after) := world.handlings queued subscriptions
    world.RunsEach (subscriptions.map (queued, ·)) (handlings.map (queued, ·))
      (after.receive (handlings.flatMap (Handling.caused queued))) := by
  induction subscriptions generalizing world with
  | nil =>
    rw [handlings]
    dsimp only
    rw [List.flatMap_nil, receive_nil]
    exact .nothing world
  | cons subscription rest ih =>
    obtain ⟨handling, next, ran⟩ := exists_handling queued (present subscription List.mem_cons_self)
    have retains := (handling_retains ran).1.trans (receive_retains next (handling.caused queued))
    have others := ih (retains.all_present fun other member =>
      present other (List.mem_cons_of_mem _ member))
    -- What the first handler caused waits from now on, and changes nothing for the others.
    rw [handlings_receive] at others
    rw [handlings, ran]
    dsimp only at others ⊢
    rw [receive_receive] at others
    exact .next ran others

theorem delivery_runsEach (queued : QueuedEvent) {world : World}
    (present : world.SubscribersPresent) :
    let (delivery, after) := world.delivery queued
    world.RunsEach
      ((queued.event.target.among (world.subscribers queued.event.name)).map (queued, ·))
      (delivery.handlings.map (queued, ·)) after := by
  have there : ∀ subscription ∈
      queued.event.target.among (world.subscribers queued.event.name),
      (world.symbols? subscription.instanceId).isSome :=
    fun subscription target => present _ subscription ((Target.among_sublist _ _).mem target)
  have runs := handlings_runsEach queued there
  unfold delivery
  dsimp only at runs ⊢
  rw [Delivery.enqueued_eq]
  exact runs

theorem deliveries_runsEach (events : List QueuedEvent) {world : World}
    (present : world.SubscribersPresent) :
    let (deliveries, after) := world.deliveries events
    world.RunsEach (world.matching events) (deliveries.flatMap Delivery.runs) after := by
  induction events generalizing world with
  | nil => exact .nothing world
  | cons queued rest ih =>
    have retains := delivery_retains queued world
    have later := ih (present.retained retains)
    rw [retains.matching] at later
    exact (delivery_runsEach queued present).append later

end World

/-! ### Reports -/

def Report.ofRuns (runs : List (QueuedEvent × Handling)) : Report where
  delivered := runs.length
  failures := runs.flatMap fun (queued, handling) => handling.failures queued.event.name

theorem Report.ofDeliveries_eq (deliveries : List Delivery) :
    Report.ofDeliveries deliveries = Report.ofRuns (deliveries.flatMap Delivery.runs) := by
  unfold ofDeliveries ofRuns
  congr 1
  · simp only [List.length_flatMap, Delivery.runs, List.length_map]
  · rw [List.flatMap_assoc]
    simp only [Delivery.runs, List.flatMap_map]
    rfl

theorem ScriptError.isRecursion_iff (error : ScriptError) :
    error.isRecursion = true ↔ ∃ event limit, error = .recursion event limit := by
  cases error <;> simp [isRecursion]

/-- Whether an error is that of the first failure with a recursion. -/
def Report.Overflows (report : Report) (error : ScriptError) : Prop :=
  ∃ earlier failure later, report.failures = earlier ++ failure :: later ∧
    (∀ other ∈ earlier, ∀ event limit, other.error ≠ .recursion event limit) ∧
    (∃ event limit, failure.error = .recursion event limit) ∧ failure.error = error

def Report.IsShallow (report : Report) : Prop :=
  ∀ failure ∈ report.failures, ∀ event limit, failure.error ≠ .recursion event limit

theorem Report.find?_eq_none_iff (failures : List HandlerFailure) :
    failures.find? (ScriptError.isRecursion ∘ HandlerFailure.error) = none ↔
      ∀ failure ∈ failures, ∀ event limit, failure.error ≠ .recursion event limit := by
  simp only [List.find?_eq_none, Function.comp_apply, ScriptError.isRecursion_iff, not_exists, ne_eq]

theorem Report.Overflows.outcome_eq {report : Report} {error : ScriptError}
    (overflows : report.Overflows error) : report.outcome = .error error := by
  obtain ⟨earlier, failure, later, split, shallow, deep, rfl⟩ := overflows
  have found : report.failures.find? (ScriptError.isRecursion ∘ HandlerFailure.error) =
      some failure := by
    rw [split, List.find?_append, (find?_eq_none_iff earlier).mpr shallow]
    exact List.find?_cons_of_pos ((ScriptError.isRecursion_iff failure.error).mpr deep)
  unfold outcome
  rw [List.find?_map, found]
  rfl

theorem Report.IsShallow.outcome_eq {report : Report} (shallow : report.IsShallow) :
    report.outcome = .ok report := by
  unfold outcome
  rw [List.find?_map, (find?_eq_none_iff _).mpr shallow]
  rfl

theorem Report.isShallow_or_overflows (report : Report) :
    report.IsShallow ∨ ∃ error, report.Overflows error := by
  cases found : report.failures.find? (ScriptError.isRecursion ∘ HandlerFailure.error) with
  | none => exact .inl ((find?_eq_none_iff _).mp found)
  | some failure =>
    right
    obtain ⟨deep, earlier, later, split, shallow⟩ := List.find?_eq_some_iff_append.mp found
    refine ⟨failure.error, earlier, failure, later, split, ?_, ?_, rfl⟩
    · refine (find?_eq_none_iff earlier).mp (List.find?_eq_none.mpr fun other member => ?_)
      simpa using shallow other member
    · exact (ScriptError.isRecursion_iff failure.error).mp deep

theorem Report.outcome_eq_ok_iff (report answer : Report) :
    report.outcome = .ok answer ↔ answer = report ∧ report.IsShallow := by
  constructor
  · intro answered
    rcases report.isShallow_or_overflows with shallow | ⟨error, overflows⟩
    · rw [shallow.outcome_eq] at answered
      cases answered
      exact ⟨rfl, shallow⟩
    · rw [overflows.outcome_eq] at answered
      cases answered
  · rintro ⟨rfl, shallow⟩
    exact shallow.outcome_eq

theorem Report.outcome_eq_error_iff (report : Report) (error : ScriptError) :
    report.outcome = .error error ↔ report.Overflows error := by
  constructor
  · intro refused
    rcases report.isShallow_or_overflows with shallow | ⟨other, overflows⟩
    · rw [shallow.outcome_eq] at refused
      cases refused
    · rw [overflows.outcome_eq] at refused
      cases refused
      exact overflows
  · exact Report.Overflows.outcome_eq

namespace World

/-- What a pass over events has noted at its end. -/
def accumulated (world : World) (events : List QueuedEvent) : Report :=
  (events.foldl deliver ⟨world, {}⟩).report

theorem accumulated_eq (world : World) (events : List QueuedEvent) :
    world.accumulated events = Report.ofDeliveries (world.deliveries events).1 := by
  unfold accumulated
  rw [foldl_deliver_eq]
  simp only [Report.ofDeliveries, List.nil_append, Nat.zero_add]

/-- What a pass over events comes to, given what it answers, the world that it leaves and the
handlers that it has run. -/
structure Confines (world : World) (events : List QueuedEvent)
    (runs : List (QueuedEvent × Handling)) (answer : Except ScriptError Report) (after : World) :
    Prop where
  /-- Every handler runs, on what those before have left. -/
  everyone : world.RunsEach (world.matching events) runs after
  subscriptions : runs.map (fun run => (run.1, run.2.subscription)) = world.matching events
  delivered : (world.accumulated events).delivered = (world.matching events).length
  failures : (world.accumulated events).failures =
    runs.flatMap fun (queued, handling) => handling.failures queued.event.name
  succeeds : ∀ report, answer = .ok report ↔
    report = world.accumulated events ∧ (world.accumulated events).IsShallow
  fails : ∀ error, answer = .error error ↔ (world.accumulated events).Overflows error

theorem deliverAll_confines {world : World} (present : world.SubscribersPresent)
    (events : List QueuedEvent) :
    ∃ runs, world.Confines events runs (world.deliverAll events).1
      (world.deliverAll events).2 := by
  have everyone := deliveries_runsEach events present
  have subscriptions := everyone.subscriptions
  have report := world.accumulated_eq events
  rw [deliverAll_eq]
  dsimp only
  rw [← report]
  rw [Report.ofDeliveries_eq] at report
  refine ⟨_, everyone, subscriptions, ?_, ?_, ?_, ?_⟩
  · rw [report, ← subscriptions, List.length_map]
    rfl
  · rw [report]
    rfl
  · exact Report.outcome_eq_ok_iff _
  · exact Report.outcome_eq_error_iff _

end World

/-- A failed handler does not disturb the others of its pass. Every handler that the events are for
runs, in order, in the world that those before have left, and counts as delivered; the failures are
those of the handlers that failed. The world is what they all have left, whatever the pass answers:
the error of the first failure that is a recursion, or else the report. -/
theorem History.failures_confined (history : History) :
    (∀ event, ∃ runs, history.world.Confines [⟨event, 0⟩] runs
      (history.world.trigger event).1 (history.world.trigger event).2) ∧
    ∀ drain, ∃ runs, (history.world.awaiting drain).Confines (history.world.taken drain) runs
      (history.world.drain drain).1 (history.world.drain drain).2 := by
  have present := history.subscribersPresent
  refine ⟨fun event => World.deliverAll_confines present _, fun drain => ?_⟩
  have retains := history.world.awaiting_retains drain
  rw [World.drain_eq]
  exact World.deliverAll_confines (present.retained retains) _

/-- The second instance fails twice, after it has triggered an event; all three runs take place and
are counted, each on what those before have written. They take place also where no event may follow
on another one, so that each of them fails and the pass answers with the first of their errors. -/
theorem History.failures_confined_pursuit :
    let hit : Event := .named "hit"
    let failure : HandlerFailure := ⟨"hit", 2, .fault 3 4 (.unknownFunction "vanish")⟩
    let matching := [(hit.toInstance 2, ⟨2, hide⟩), (hit, ⟨1, seek⟩), (hit, ⟨2, hide⟩)]
    let Runs (history : History) : Prop :=
      ∃ runs, (history.world.awaiting (.named "hit")).Confines
          (history.world.taken (.named "hit")) runs (history.world.transmit "hit").1
          (history.world.transmit "hit").2 ∧
        (runs.map fun run => (run.1.event, run.2.subscription)) = matching
    let left (history : History) : List String × Option Value × Option Value :=
      let world := (history.world.transmit "hit").2
      (world.queue.map fun waiting => waiting.event.name, world.globals.lookup "trail",
        (world.symbols? 2).bind fun table => table.lookup "seen")
    Runs (pursuit 1) ∧ Runs (pursuit 0) ∧
      ((pursuit 1).world.transmit "hit").1 = .ok ⟨3, [failure, failure]⟩ ∧
      left (pursuit 1) = (["miss", "h", "hs", "hsh"], some (.text "hsh"), some (.text "hhsh")) ∧
      ((pursuit 0).world.transmit "hit").1 = .error (.recursion "h" 0) ∧
      left (pursuit 0) = (["miss"], some (.text "hsh"), some (.text "hhsh")) := by
  intro hit failure matching Runs left
  have runs : ∀ history : History, history.world.matching (history.world.taken (.named "hit")) =
      [(⟨hit.toInstance 2, 0⟩, ⟨2, hide⟩), (⟨hit, 0⟩, ⟨1, seek⟩), (⟨hit, 0⟩, ⟨2, hide⟩)] →
      Runs history := by
    intro history matched
    obtain ⟨runs, confines⟩ := history.failures_confined.2 (.named "hit")
    refine ⟨runs, confines, ?_⟩
    have served := congrArg (List.map fun pair => (pair.1.event, pair.2))
      (confines.subscriptions.trans matched)
    rw [List.map_map] at served
    exact served
  exact ⟨runs _ rfl, runs _ rfl, eq_ok_of_toOption (by decide +kernel), by decide +kernel, rfl,
    by decide +kernel⟩

end EventScript
