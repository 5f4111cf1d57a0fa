import EventScript.Machine

/-!
# Computations on memory

A computation applied to a memory gives its outcome and the memory that it leaves.
-/

namespace EventScript.Run

variable {σ ε ε' α β : Type}

theorem bind_apply (action : Run σ ε α) (next : α → Run σ ε β) (memory : Memory σ) :
    (action >>= next) memory =
      match action memory with
      | (.ok value, memory) => next value memory
      | (.error error, memory) => (.error error, memory) := by
  change (match action memory with | (outcome, memory) => ExceptT.bindCont next outcome memory) = _
  rcases action memory with ⟨_ | _, _⟩ <;> rfl

theorem bind_ok {action : Run σ ε α} {next : α → Run σ ε β} {memory after : Memory σ} {result : β}
    (h : (action >>= next) memory = (.ok result, after)) :
    ∃ value between, action memory = (.ok value, between) ∧
      next value between = (.ok result, after) := by
  rw [bind_apply] at h
  rcases found : action memory with ⟨error | value, between⟩
  · rw [found] at h
    cases h
  · rw [found] at h
    exact ⟨value, between, rfl, h⟩

theorem bind_error {action : Run σ ε α} {next : α → Run σ ε β} {memory after : Memory σ} {error : ε}
    (h : (action >>= next) memory = (.error error, after)) :
    action memory = (.error error, after) ∨
      ∃ value between, action memory = (.ok value, between) ∧
        next value between = (.error error, after) := by
  rw [bind_apply] at h
  rcases found : action memory with ⟨other | value, between⟩
  · rw [found] at h
    cases h
    exact .inl rfl
  · rw [found] at h
    exact .inr ⟨value, between, rfl, h⟩

/-- Two computations that go on alike from every result of a first one. -/
theorem bind_congr {action : Run σ ε α} {first second : α → Run σ ε β}
    (same : ∀ memory value after, action memory = (.ok value, after) →
      first value = second value) :
    action >>= first = action >>= second := by
  funext memory
  rw [bind_apply, bind_apply]
  rcases found : action memory with ⟨error | value, after⟩
  · rfl
  · dsimp only
    rw [same memory value after found]

theorem ofExcept_apply (outcome : Except ε α) (memory : Memory σ) :
    (MonadExcept.ofExcept outcome : Run σ ε α) memory = (outcome, memory) := by
  cases outcome with
  | ok value => rfl
  | error error => rfl

theorem ofExcept_ok {outcome : Except ε α} {memory after : Memory σ} {value : α}
    (h : (MonadExcept.ofExcept outcome : Run σ ε α) memory = (.ok value, after)) :
    outcome = .ok value := by
  rw [ofExcept_apply] at h
  exact congrArg Prod.fst h

theorem ofExcept_bind_ok {outcome : Except ε α} {next : α → Run σ ε β} {memory after : Memory σ}
    {result : β} (h : (MonadExcept.ofExcept outcome >>= next) memory = (.ok result, after)) :
    ∃ value, outcome = .ok value ∧ next value memory = (.ok result, after) := by
  obtain ⟨value, between, found, h⟩ := bind_ok h
  rw [ofExcept_apply] at found
  cases found
  exact ⟨value, rfl, h⟩

theorem map_eq_ok_iff {f : α → β} {action : Run σ ε α} {memory after : Memory σ} {result : β} :
    (f <$> action) memory = (.ok result, after) ↔
      ∃ value, action memory = (.ok value, after) ∧ f value = result := by
  rw [map_eq_pure_bind]
  constructor
  · intro h
    obtain ⟨value, between, found, h⟩ := bind_ok h
    cases h
    exact ⟨value, found, rfl⟩
  · rintro ⟨value, found, rfl⟩
    rw [bind_apply, found]
    rfl

theorem map_ofExcept (f : α → β) (outcome : Except ε α) :
    f <$> (MonadExcept.ofExcept outcome : Run σ ε α) = MonadExcept.ofExcept (outcome.map f) := by
  cases outcome with
  | ok value => rfl
  | error error => rfl

theorem ofExcept_map_bind {γ : Type} (f : α → β) (outcome : Except ε α) (next : β → Run σ ε γ) :
    (MonadExcept.ofExcept (outcome.map f) >>= next) =
      (MonadExcept.ofExcept outcome : Run σ ε α) >>= fun value => next (f value) := by
  cases outcome with
  | ok value => rfl
  | error error => rfl

theorem adapt_apply (f : ε → ε') (action : Run σ ε α) (memory : Memory σ) :
    ExceptT.adapt f action memory = ((action memory).1.mapError f, (action memory).2) := rfl

theorem adapt_ok {f : ε → ε'} {action : Run σ ε α} {memory after : Memory σ} {result : α}
    (h : ExceptT.adapt f action memory = (.ok result, after)) :
    action memory = (.ok result, after) := by
  rw [adapt_apply] at h
  rcases found : action memory with ⟨cause | value, between⟩
  · rw [found] at h
    cases h
  · rw [found] at h
    cases h
    rfl

theorem adapt_error {f : ε → ε'} {action : Run σ ε α} {memory after : Memory σ} {error : ε'}
    (h : ExceptT.adapt f action memory = (.error error, after)) :
    ∃ cause, action memory = (.error cause, after) ∧ f cause = error := by
  rw [adapt_apply] at h
  rcases found : action memory with ⟨cause | value, between⟩
  · rw [found] at h
    cases h
    exact ⟨cause, rfl, rfl⟩
  · rw [found] at h
    cases h

theorem adapt_bind (f : ε → ε') (action : Run σ ε α) (next : α → Run σ ε β) :
    ExceptT.adapt f (action >>= next) =
      ExceptT.adapt f action >>= fun value => (ExceptT.adapt f (next value) : Run σ ε' β) := by
  funext memory
  rw [adapt_apply, bind_apply, bind_apply, adapt_apply]
  rcases action memory with ⟨_ | _, _⟩ <;> rfl

/-! ### Outcomes -/

/-- Whether the computation, in any memory, gives such a result or fails with such an error. -/
def Yields (action : Run σ ε α) (result : α → Prop) (failure : ε → Prop) : Prop :=
  ∀ memory,
    match (action memory).1 with
    | .ok value => result value
    | .error error => failure error

variable {result : α → Prop} {failure : ε → Prop}

theorem yields_pure {value : α} (holds : result value) :
    Yields (pure value : Run σ ε α) result failure := fun _ => holds

theorem yields_throw {error : ε} (holds : failure error) :
    Yields (throw error : Run σ ε α) result failure := fun _ => holds

theorem yields_get : Yields (get : Run σ ε (Memory σ)) (fun _ => True) failure := fun _ => trivial

theorem yields_set (memory : Memory σ) :
    Yields (set memory : Run σ ε Unit) (fun _ => True) failure := fun _ => trivial

theorem Yields.ok {action : Run σ ε α} (yields : Yields action result failure)
    {memory after : Memory σ} {value : α} (h : action memory = (.ok value, after)) :
    result value := by
  have outcome := yields memory
  rw [h] at outcome
  exact outcome

theorem Yields.error {action : Run σ ε α} (yields : Yields action result failure)
    {memory after : Memory σ} {error : ε} (h : action memory = (.error error, after)) :
    failure error := by
  have outcome := yields memory
  rw [h] at outcome
  exact outcome

theorem Yields.bind {action : Run σ ε α} {next : α → Run σ ε β} {final : β → Prop}
    (yields : Yields action result failure)
    (continued : ∀ value, result value → Yields (next value) final failure) :
    Yields (action >>= next) final failure := by
  intro memory
  have first := yields memory
  rw [bind_apply]
  rcases found : action memory with ⟨error | value, after⟩
  · rw [found] at first
    exact first
  · rw [found] at first
    exact continued value first after

theorem Yields.adapt {f : ε → ε'} {action : Run σ ε α} {failed : ε' → Prop}
    (yields : Yields action result fun error => failed (f error)) :
    Yields (ExceptT.adapt f action : Run σ ε' α) result failed := by
  intro memory
  have first := yields memory
  rw [adapt_apply]
  rcases found : action memory with ⟨error | value, after⟩
  · rw [found] at first
    exact first
  · rw [found] at first
    exact first

theorem Yields.imp {action : Run σ ε α} {other : α → Prop} {failed : ε → Prop}
    (yields : Yields action result failure) (weaker : ∀ value, result value → other value)
    (worse : ∀ error, failure error → failed error) : Yields action other failed := by
  intro memory
  have first := yields memory
  split at first
  · exact weaker _ first
  · exact worse _ first

theorem Yields.weaken {action : Run σ ε α} {other : α → Prop}
    (yields : Yields action result failure) (weaker : ∀ value, result value → other value) :
    Yields action other failure :=
  yields.imp weaker fun _ => id

end EventScript.Run
