import EventScript.Proofs.World.History

/-!
# Subscribers

What each operation does to the lists of subscribers, and that no list ever names an instance that
is not there.
-/

namespace EventScript.World

theorem subscribers_of_subscribe {world : World} {instanceId : InstanceId}
    (present : (world.symbols? instanceId).isSome) (event name : String) (block : Block) :
    (world.perform (.subscribe event instanceId block)).subscribers name =
      if event = name then withSubscription ⟨instanceId, block⟩ (world.subscribers name)
      else world.subscribers name := by
  rw [perform_subscribe, if_pos present]
  unfold subscribers
  dsimp only
  rw [Std.ExtTreeMap.getD_insert]
  by_cases same : event = name
  · subst same
    simp
  · rw [if_neg (Std.compare_ne_eq_iff_ne.mpr same), if_neg same]

theorem subscribers_of_unsubscribe (world : World) (instanceId : InstanceId)
    (event name : String) :
    (world.perform (.unsubscribe instanceId event)).subscribers name =
      if event = name then withoutInstance instanceId (world.subscribers name)
      else world.subscribers name := by
  change (world.unsubscribe instanceId event).2.subscribers name = _
  unfold unsubscribe
  dsimp only
  by_cases same : event = name
  · subst same
    rw [if_pos rfl]
    generalize remains : withoutInstance instanceId (world.subscribers event) = remaining
    unfold subscribers
    cases remaining with
    | nil => simp
    | cons first rest => simp
  · have other : compare event name ≠ .eq := Std.compare_ne_eq_iff_ne.mpr same
    rw [if_neg same]
    unfold subscribers
    dsimp only
    split
    · rw [Std.ExtTreeMap.getD_erase, if_neg other]
    · rw [Std.ExtTreeMap.getD_insert, if_neg other]

theorem mem_withoutInstance {instanceId : InstanceId} {subscription : Subscription}
    {subscriptions : List Subscription} :
    subscription ∈ withoutInstance instanceId subscriptions ↔
      subscription ∈ subscriptions ∧ subscription.instanceId ≠ instanceId := by
  unfold withoutInstance
  rw [List.mem_filter, bne_iff_ne]

theorem eq_or_mem_of_mem_withSubscription {subscription other : Subscription}
    {subscriptions : List Subscription}
    (member : other ∈ withSubscription subscription subscriptions) :
    other = subscription ∨ other ∈ subscriptions := by
  unfold withSubscription at member
  split at member
  · obtain ⟨old, inList, replaced⟩ := List.mem_map.mp member
    split at replaced
    · exact .inl replaced.symm
    · exact .inr (replaced ▸ inList)
  · rcases List.mem_append.mp member with inList | last
    · exact .inr inList
    · exact .inl (List.mem_singleton.mp last)

/-! ### Subscribers are present -/

theorem perform_removeInstance_of_absent {world : World} {instanceId : InstanceId}
    (absent : ¬(world.symbols? instanceId).isSome) :
    world.perform (.removeInstance instanceId) = world := by
  change (world.removeInstance instanceId).2 = world
  unfold removeInstance
  split
  · rfl
  · next table found =>
    rw [found] at absent
    exact absurd rfl absent

theorem subscribers_of_removeInstance {world : World} (present : world.SubscribersPresent)
    (instanceId : InstanceId) (name : String) :
    (world.perform (.removeInstance instanceId)).subscribers name =
      withoutInstance instanceId (world.subscribers name) := by
  by_cases there : (world.symbols? instanceId).isSome
  · change (world.removeInstance instanceId).2.subscribers name = _
    obtain ⟨table, found⟩ := Option.isSome_iff_exists.mp there
    unfold removeInstance
    rw [found]
    unfold subscribers
    dsimp only
    rw [Std.ExtTreeMap.getD_eq_getD_getElem?, Std.ExtTreeMap.getD_eq_getD_getElem?,
      Std.ExtTreeMap.getElem?_filter', Std.ExtTreeMap.getElem?_map]
    cases world.subscriptions[name]? with
    | none => rfl
    | some subscriptions =>
      dsimp only [Option.map_some, Option.getD_some]
      generalize withoutInstance instanceId subscriptions = remaining
      cases remaining with
      | nil => rfl
      | cons first rest => rfl
  · -- An instance that is not there subscribes to nothing.
    have others : withoutInstance instanceId (world.subscribers name) =
        world.subscribers name := by
      unfold withoutInstance
      rw [List.filter_eq_self]
      intro subscription member
      rw [bne_iff_ne]
      rintro rfl
      exact there (present name subscription member)
    rw [perform_removeInstance_of_absent there, others]

theorem present_of_removeInstance (world : World) {instanceId other : InstanceId}
    (different : other ≠ instanceId) :
    ((world.perform (.removeInstance instanceId)).symbols? other).isSome =
      (world.symbols? other).isSome := by
  change ((world.removeInstance instanceId).2.symbols? other).isSome = _
  unfold removeInstance
  split
  · rfl
  · have apart : compare instanceId other ≠ .eq := Std.compare_ne_eq_iff_ne.mpr different.symm
    unfold symbols?
    dsimp only
    rw [Std.ExtTreeMap.getElem?_erase, if_neg apart]

theorem SubscribersPresent.perform {world : World} (present : world.SubscribersPresent)
    (operation : Operation) : (world.perform operation).SubscribersPresent := by
  cases operation with
  | addInstance table =>
    intro name subscription member
    have stored := world.symbols?_store world.nextId subscription.instanceId table
    have found := present name subscription member
    change ((world.store world.nextId table).symbols? subscription.instanceId).isSome
    rw [stored, found, Bool.or_true]
  | removeInstance instanceId =>
    intro name subscription member
    rw [subscribers_of_removeInstance present, mem_withoutInstance] at member
    rw [present_of_removeInstance world member.2]
    exact present name subscription member.1
  | modifySymbols instanceId change =>
    exact present.retained (world.modifySymbols_retains instanceId change)
  | modifyGlobals change => exact present
  | subscribe event instanceId block =>
    intro name subscription member
    by_cases there : (world.symbols? instanceId).isSome
    · have same : ∀ other, (world.perform (.subscribe event instanceId block)).symbols? other =
          world.symbols? other := by
        intro other
        rw [perform_subscribe, if_pos there]
        rfl
      rw [same]
      rw [subscribers_of_subscribe there] at member
      split at member
      · rcases eq_or_mem_of_mem_withSubscription member with rfl | member
        · exact there
        · exact present name subscription member
      · exact present name subscription member
    · rw [perform_subscribe, if_neg there] at member ⊢
      exact present name subscription member
  | unsubscribe instanceId event =>
    intro name subscription member
    rw [subscribers_of_unsubscribe] at member
    have found : subscription ∈ world.subscribers name := by
      split at member
      · exact (mem_withoutInstance.mp member).1
      · exact member
    exact present name subscription found
  | enqueue event => exact present
  | trigger event => exact present.retained (world.trigger_retains event)
  | drain drain => exact present.retained (world.drain_retains drain)

end EventScript.World

theorem EventScript.History.subscribersPresent (history : History) :
    history.world.SubscribersPresent := by
  induction history using History.induct with
  | started engine chance =>
    intro name subscription member
    cases member
  | step history operation ih =>
    rw [world_followed]
    exact ih.perform operation
