import EventScript.Proofs.World.Marks
import EventScript.Proofs.World.Queue

/-!
# Rosters

The subscribers of an event, told from what happened alone: who subscribed and did not leave, in
which order, and with which blocks.
-/

namespace EventScript

/-! ### The subscribers of an event -/

/-- The subscribers that the marks of all instances tell. Marks of different instances are at the
same place when they are of the same operation. -/
structure Roster (marks : InstanceId → List Mark) (subscriptions : List Subscription) : Prop where
  members : ∀ instanceId,
    instanceId ∈ subscriptions.map Subscription.instanceId ↔ Standing (marks instanceId)
  once : (subscriptions.map Subscription.instanceId).Nodup
  blocks : ∀ subscription ∈ subscriptions,
    LastBlock (marks subscription.instanceId) subscription.block
  ordered : subscriptions.Pairwise fun earlier later => ∃ first second,
    BeganAt (marks earlier.instanceId) first ∧ BeganAt (marks later.instanceId) second ∧
      first < second

namespace Roster

open World

variable {marks : InstanceId → List Mark} {subscriptions : List Subscription}

theorem empty : Roster (fun _ => []) [] where
  members instanceId := by
    constructor
    · intro member
      cases member
    · rintro ⟨place, block, joined, -⟩
      cases joined
  once := List.nodup_nil
  blocks subscription member := nomatch member
  ordered := .nil

theorem members_others (roster : Roster marks subscriptions) {instanceId other : InstanceId}
    (different : instanceId ≠ other) (mark : Mark) :
    other ∈ subscriptions.map Subscription.instanceId ↔
      Standing (marks other ++ [if instanceId = other then mark else .other]) := by
  rw [if_neg different, standing_snoc_other]
  exact roster.members other

theorem ordered_snoc (roster : Roster marks subscriptions) {kept : List Subscription}
    (sublist : kept.Sublist subscriptions) (mark : InstanceId → Mark)
    (goesOn : ∀ subscription ∈ kept, mark subscription.instanceId ≠ .ended) :
    kept.Pairwise fun earlier later => ∃ first second,
      BeganAt (marks earlier.instanceId ++ [mark earlier.instanceId]) first ∧
        BeganAt (marks later.instanceId ++ [mark later.instanceId]) second ∧ first < second := by
  refine (roster.ordered.sublist sublist).imp_of_mem fun {earlier later} inList inList' => ?_
  rintro ⟨first, second, began, began', before⟩
  exact ⟨first, second, began.snoc (goesOn earlier inList), began'.snoc (goesOn later inList'),
    before⟩

theorem unmarked (roster : Roster marks subscriptions) :
    Roster (fun instanceId => marks instanceId ++ [.other]) subscriptions where
  members instanceId := (roster.members instanceId).trans standing_snoc_other.symm
  once := roster.once
  blocks subscription member := (roster.blocks subscription member).snoc_other
  ordered := roster.ordered_snoc (.refl _) (fun _ => .other) fun _ _ => Mark.noConfusion

theorem ended (roster : Roster marks subscriptions) (instanceId : InstanceId) :
    Roster (fun other => marks other ++ [if instanceId = other then .ended else .other])
      (withoutInstance instanceId subscriptions) := by
  have kept : (withoutInstance instanceId subscriptions).Sublist subscriptions :=
    List.filter_sublist
  have others : ∀ subscription ∈ withoutInstance instanceId subscriptions,
      (if instanceId = subscription.instanceId then Mark.ended else .other) = .other := by
    intro subscription member
    exact if_neg (mem_withoutInstance.mp member).2.symm
  constructor
  case members =>
    intro other
    by_cases same : instanceId = other
    · subst same
      rw [if_pos rfl]
      constructor
      · intro member
        obtain ⟨subscription, inList, rfl⟩ := List.mem_map.mp member
        exact absurd rfl (mem_withoutInstance.mp inList).2
      · intro standing
        exact absurd standing (not_standing_snoc_ended _)
    · rw [← roster.members_others same]
      constructor
      · intro member
        exact (kept.map _).subset member
      · intro member
        obtain ⟨subscription, inList, rfl⟩ := List.mem_map.mp member
        exact List.mem_map_of_mem (mem_withoutInstance.mpr ⟨inList, Ne.symm same⟩)
  case once => exact (kept.map _).nodup roster.once
  case blocks =>
    intro subscription member
    rw [others subscription member]
    exact (roster.blocks subscription (kept.subset member)).snoc_other
  case ordered =>
    refine roster.ordered_snoc kept (fun other => if instanceId = other then .ended else .other)
      fun subscription member => ?_
    rw [others subscription member]
    exact Mark.noConfusion

/-- Who subscribes again stays at the same place with another block. -/
theorem replaced (roster : Roster marks subscriptions) {instanceId : InstanceId} {block : Block}
    (standing : instanceId ∈ subscriptions.map Subscription.instanceId) :
    Roster (fun other => marks other ++ [if instanceId = other then .joined block else .other])
      (subscriptions.map fun other =>
        if other.instanceId == instanceId then ⟨instanceId, block⟩ else other) := by
  have sameId : ∀ other : Subscription,
      (if other.instanceId == instanceId then ⟨instanceId, block⟩ else other).instanceId =
        other.instanceId := by
    intro other
    split
    · next same => exact (beq_iff_eq.mp same).symm
    · rfl
  have ids : (subscriptions.map fun other : Subscription =>
        if other.instanceId == instanceId then ⟨instanceId, block⟩ else other).map
      Subscription.instanceId = subscriptions.map Subscription.instanceId := by
    rw [List.map_map]
    exact List.map_congr_left fun other _ => sameId other
  have goesOn : ∀ other, (if instanceId = other then Mark.joined block else .other) ≠ .ended := by
    intro other
    split
    · exact Mark.noConfusion
    · exact Mark.noConfusion
  constructor
  case members =>
    intro other
    rw [ids]
    by_cases same : instanceId = other
    · subst same
      rw [if_pos rfl]
      exact iff_of_true standing (standing_snoc_joined _ block)
    · exact roster.members_others same _
  case once => exact ids ▸ roster.once
  case blocks =>
    intro subscription member
    obtain ⟨old, inList, rfl⟩ := List.mem_map.mp member
    rw [sameId old]
    by_cases same : instanceId = old.instanceId
    · rw [if_pos same, if_pos (beq_iff_eq.mpr same.symm)]
      exact lastBlock_snoc_joined _ block
    · rw [if_neg same, if_neg fun found => same (beq_iff_eq.mp found).symm]
      exact (roster.blocks old inList).snoc_other
  case ordered =>
    rw [List.pairwise_map]
    have began := roster.ordered_snoc (.refl _)
      (fun other => if instanceId = other then .joined block else .other) fun _ _ => goesOn _
    refine began.imp fun {earlier later} began => ?_
    rw [sameId earlier, sameId later]
    exact began

theorem added (roster : Roster marks subscriptions) {instanceId : InstanceId} {block : Block}
    (absent : instanceId ∉ subscriptions.map Subscription.instanceId)
    (aligned : ∀ one other, (marks one).length = (marks other).length) :
    Roster (fun other => marks other ++ [if instanceId = other then .joined block else .other])
      (subscriptions ++ [⟨instanceId, block⟩]) := by
  have others : ∀ subscription ∈ subscriptions, instanceId ≠ subscription.instanceId := by
    intro subscription member same
    exact absent (same ▸ List.mem_map_of_mem member)
  have newcomer : ¬Standing (marks instanceId) := fun standing =>
    absent ((roster.members instanceId).mpr standing)
  constructor
  case members =>
    intro other
    rw [List.map_append, List.mem_append]
    by_cases same : instanceId = other
    · subst same
      rw [if_pos rfl]
      exact iff_of_true (.inr List.mem_cons_self) (standing_snoc_joined _ block)
    · rw [← roster.members_others same]
      constructor
      · rintro (member | last)
        · exact member
        · exact absurd (List.mem_singleton.mp last).symm same
      · exact .inl
  case once =>
    rw [List.map_append, List.nodup_append]
    refine ⟨roster.once, List.pairwise_singleton _ _, ?_⟩
    rintro one member other last rfl
    obtain rfl := List.mem_singleton.mp last
    exact absent member
  case blocks =>
    intro subscription member
    rcases List.mem_append.mp member with inList | last
    · rw [if_neg (others subscription inList)]
      exact (roster.blocks subscription inList).snoc_other
    · obtain rfl := List.mem_singleton.mp last
      rw [if_pos rfl]
      exact lastBlock_snoc_joined _ block
  case ordered =>
    rw [List.pairwise_append]
    refine ⟨?_, List.pairwise_singleton _ _, ?_⟩
    · refine roster.ordered_snoc (.refl _)
        (fun other => if instanceId = other then .joined block else .other)
        fun subscription member => ?_
      rw [if_neg (others subscription member)]
      exact Mark.noConfusion
    · intro earlier member last isLast
      obtain rfl := List.mem_singleton.mp isLast
      obtain ⟨first, began⟩ :=
        ((roster.members earlier.instanceId).mp (List.mem_map_of_mem member)).began
      rw [if_neg (others earlier member), if_pos rfl]
      refine ⟨first, _, began.snoc Mark.noConfusion, beganAt_length newcomer block, ?_⟩
      rw [aligned instanceId earlier.instanceId]
      exact began.lt_length

theorem joined (roster : Roster marks subscriptions) (instanceId : InstanceId) (block : Block)
    (aligned : ∀ one other, (marks one).length = (marks other).length) :
    Roster (fun other => marks other ++ [if instanceId = other then .joined block else .other])
      (withSubscription ⟨instanceId, block⟩ subscriptions) := by
  have present : (subscriptions.any fun other => other.instanceId == instanceId) = true ↔
      instanceId ∈ subscriptions.map Subscription.instanceId := by
    rw [List.any_eq_true, List.mem_map]
    simp only [beq_iff_eq]
  unfold withSubscription
  by_cases standing : instanceId ∈ subscriptions.map Subscription.instanceId
  · rw [if_pos (present.mpr standing)]
    exact roster.replaced standing
  · rw [if_neg fun found => standing (present.mp found)]
    exact roster.added standing aligned

end Roster

namespace World

/-- What an operation means for the subscription of an instance to an event. To subscribe may fail,
and then means nothing. -/
def mark (world : World) (event : String) (instanceId : InstanceId) : Operation → Mark
  | .subscribe name joining block =>
    match world.subscribe name joining block with
    | .ok _ => if name = event ∧ joining = instanceId then .joined block else .other
    | .error _ => .other
  | .unsubscribe leaving name => if name = event ∧ leaving = instanceId then .ended else .other
  | .removeInstance removed => if removed = instanceId then .ended else .other
  | _ => .other

def marks (world : World) (event : String) (instanceId : InstanceId) : List Operation → List Mark
  | [] => []
  | operation :: operations =>
    world.mark event instanceId operation ::
      (world.perform operation).marks event instanceId operations

theorem marks_append (world : World) (event : String) (instanceId : InstanceId)
    (first second : List Operation) :
    world.marks event instanceId (first ++ second) =
      world.marks event instanceId first ++
        (first.foldl perform world).marks event instanceId second := by
  induction first generalizing world with
  | nil => rfl
  | cons operation first ih =>
    rw [List.cons_append, marks, marks, ih]
    rfl

theorem mark_subscribe (world : World) (event name : String) (instanceId joining : InstanceId)
    (block : Block) :
    world.mark event instanceId (.subscribe name joining block) =
      if (world.symbols? joining).isSome ∧ name = event ∧ joining = instanceId then .joined block
      else .other := by
  unfold mark subscribe symbols?
  rw [← Std.ExtTreeMap.contains_eq_isSome_getElem?]
  dsimp only
  by_cases present : world.instances.contains joining = true
  · rw [if_pos present]
    simp only [present, true_and]
  · rw [if_neg present]
    simp only [present, false_and, Bool.false_eq_true, if_false]

/-- An operation changes the subscribers as the marks tell. -/
theorem perform_roster {world : World} {event : String} {marks : InstanceId → List Mark}
    (present : world.SubscribersPresent) (roster : Roster marks (world.subscribers event))
    (aligned : ∀ one other, (marks one).length = (marks other).length) (operation : Operation) :
    Roster (fun instanceId => marks instanceId ++ [world.mark event instanceId operation])
      ((world.perform operation).subscribers event) := by
  cases operation with
  | subscribe name joining block =>
    simp only [mark_subscribe]
    by_cases there : (world.symbols? joining).isSome
    · rw [subscribers_of_subscribe there]
      by_cases same : name = event
      · rw [if_pos same]
        simp only [there, same, true_and]
        exact roster.joined joining block aligned
      · rw [if_neg same]
        simp only [same, false_and, and_false, if_false]
        exact roster.unmarked
    · rw [perform_subscribe, if_neg there]
      simp only [there]
      exact roster.unmarked
  | unsubscribe leaving name =>
    rw [subscribers_of_unsubscribe]
    simp only [mark]
    by_cases same : name = event
    · rw [if_pos same]
      simp only [same, true_and]
      exact roster.ended leaving
    · rw [if_neg same]
      simp only [same, false_and, if_false]
      exact roster.unmarked
  | removeInstance removed =>
    rw [subscribers_of_removeInstance present]
    exact roster.ended removed
  | addInstance table => exact roster.unmarked
  | modifySymbols instanceId change =>
    have same := (world.modifySymbols_retains instanceId change).subscribers event
    exact same ▸ roster.unmarked
  | modifyGlobals change => exact roster.unmarked
  | enqueue queued => exact roster.unmarked
  | trigger triggered =>
    have same := (world.trigger_retains triggered).subscribers event
    exact same ▸ roster.unmarked
  | drain drain =>
    have same := (world.drain_retains drain).subscribers event
    exact same ▸ roster.unmarked

end World

namespace History

def marks (history : History) (event : String) (instanceId : InstanceId) : List Mark :=
  (World.ofEngine history.engine history.chance).marks event instanceId history.operations

theorem marks_followed (history : History) (operation : Operation) (event : String)
    (instanceId : InstanceId) :
    (history.followed operation).marks event instanceId =
      history.marks event instanceId ++ [history.world.mark event instanceId operation] :=
  World.marks_append _ event instanceId history.operations [operation]

theorem marks_length (history : History) (event : String) (instanceId : InstanceId) :
    (history.marks event instanceId).length = history.operations.length := by
  induction history using History.induct with
  | started engine chance => rfl
  | step history operation ih =>
    have longer : (history.followed operation).operations.length =
        history.operations.length + 1 := List.length_append
    rw [marks_followed, List.length_append, ih, longer]
    rfl

theorem roster (history : History) (event : String) :
    Roster (history.marks event) (history.world.subscribers event) := by
  induction history using History.induct with
  | started engine chance => exact .empty
  | step history operation ih =>
    rw [world_followed]
    have aligned : ∀ one other,
        (history.marks event one).length = (history.marks event other).length := by
      intro one other
      rw [marks_length, marks_length]
    have next := World.perform_roster history.subscribersPresent ih aligned operation
    have told : (history.followed operation).marks event = fun instanceId =>
        history.marks event instanceId ++ [history.world.mark event instanceId operation] :=
      funext fun instanceId => history.marks_followed operation event instanceId
    exact told ▸ next

end History

/-- The pass delivers the events, each of the name to those of the subscribers that it is for, and
leaves the subscribers as they are. -/
structure Serves (event : String) (subscriptions : List Subscription) (events : List QueuedEvent)
    (pass : List Delivery × World) : Prop where
  delivered : pass.1.map Delivery.queued = events
  handled : ∀ delivery ∈ pass.1, delivery.queued.event.name = event →
    delivery.handlings.map Handling.subscription =
      delivery.queued.event.target.among subscriptions
  unchanged : pass.2.subscribers event = subscriptions

theorem World.deliveries_serves {world : World} (present : world.SubscribersPresent)
    (events : List QueuedEvent) (event : String) :
    Serves event (world.subscribers event) events (world.deliveries events) where
  delivered := deliveries_queued events world
  handled := by
    rintro delivery member rfl
    exact deliveries_handled present events delivery member
  unchanged := (deliveries_retains events world).subscribers event

/-- At any time the subscribers of an event are those that the history tells, all of them are
instances of the world, and every delivery runs them, or the one that it is for. -/
theorem History.subscribers_follow (history : History) (event : String) :
    let world := history.world
    let subscribers := world.subscribers event
    Roster (history.marks event) subscribers ∧
      (∀ instanceId, world.isSubscribed instanceId event = true ↔
        Standing (history.marks event instanceId)) ∧
      (∀ instanceId, (world.unsubscribe instanceId event).1 = true ↔
        Standing (history.marks event instanceId)) ∧
      (∀ subscription ∈ subscribers, (world.symbols? subscription.instanceId).isSome) ∧
      (∀ triggered : Event,
        let pass := world.deliveries [⟨triggered, 0⟩]
        world.trigger triggered = ((Report.ofDeliveries pass.1).outcome, pass.2) ∧
          Serves event subscribers [⟨triggered, 0⟩] pass) ∧
      ∀ drain : Drain,
        let pass := (world.awaiting drain).deliveries (world.taken drain)
        world.drain drain = ((Report.ofDeliveries pass.1).outcome, pass.2) ∧
          Serves event subscribers (world.taken drain) pass := by
  intro world subscribers
  have roster := history.roster event
  have present := history.subscribersPresent
  have subscribed : ∀ instanceId, world.isSubscribed instanceId event = true ↔
      Standing (history.marks event instanceId) := by
    intro instanceId
    rw [← roster.members, List.mem_map]
    unfold World.isSubscribed
    rw [List.any_eq_true]
    simp only [beq_iff_eq]
    rfl
  refine ⟨roster, subscribed, subscribed, present event, ?_, ?_⟩
  · intro triggered
    exact ⟨world.trigger_deliveries triggered, World.deliveries_serves present _ event⟩
  · intro drain
    have waiting := present.retained (world.awaiting_retains drain)
    exact ⟨world.drain_deliveries drain, World.deliveries_serves waiting _ event⟩

end EventScript
