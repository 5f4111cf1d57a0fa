/-!
# Outcomes of steps that may fail

What a success or a failure says about the steps that it comes from.
-/

namespace EventScript

variable {ε ε' α β γ : Type}

theorem bind_ok {x : Except ε α} {f : α → Except ε β} {result : β} (h : x >>= f = .ok result) :
    ∃ value, x = .ok value ∧ f value = .ok result := by
  cases x with
  | error error => cases h
  | ok value => exact ⟨value, rfl, h⟩

theorem map_ok {x : Except ε α} {f : α → β} {result : β} (h : x.map f = .ok result) :
    ∃ value, x = .ok value ∧ f value = result := by
  cases x with
  | error error => cases h
  | ok value =>
    cases h
    exact ⟨value, rfl, rfl⟩

theorem mapError_ok {x : Except ε α} {f : ε → ε'} {result : α} (h : x.mapError f = .ok result) :
    x = .ok result := by
  cases x with
  | error error => cases h
  | ok value =>
    cases h
    rfl

theorem bind_error {x : Except ε α} {f : α → Except ε β} {error : ε}
    (h : x >>= f = .error error) :
    x = .error error ∨ ∃ value, x = .ok value ∧ f value = .error error := by
  cases x with
  | error other =>
    cases h
    exact .inl rfl
  | ok value => exact .inr ⟨value, rfl, h⟩

theorem map_error {x : Except ε α} {f : α → β} {error : ε} (h : x.map f = .error error) :
    x = .error error := by
  cases x with
  | error other =>
    cases h
    rfl
  | ok value => cases h

theorem mapError_error {x : Except ε α} {f : ε → ε'} {error : ε'} (h : x.mapError f = .error error) :
    ∃ cause, x = .error cause ∧ f cause = error := by
  cases x with
  | error cause =>
    cases h
    exact ⟨cause, rfl, rfl⟩
  | ok value => cases h

/-! ### Walks over lists -/

theorem foldlM_keeps {f : α → β → Except ε α} {items : List β} {invariant : α → Prop}
    (steps : ∀ item ∈ items, ∀ state next, invariant state → f state item = .ok next →
      invariant next)
    {state final : α} (holds : invariant state) (h : items.foldlM f state = .ok final) :
    invariant final := by
  induction items generalizing state with
  | nil =>
    cases h
    exact holds
  | cons item items ih =>
    rw [List.foldlM_cons] at h
    obtain ⟨next, stepped, h⟩ := bind_ok h
    have holds := steps item List.mem_cons_self state next holds stepped
    exact ih (fun other member => steps other (List.mem_cons_of_mem item member)) holds h

/-- A walk that succeeds wherever another one does. -/
theorem foldlM_simulates {f : α → γ → Except ε α} {g : β → γ → Except ε β} {items : List γ}
    {related : α → β → Prop}
    (steps : ∀ a b item next, related a b → f a item = .ok next →
      ∃ other, g b item = .ok other ∧ related next other)
    {a final : α} {b : β} (holds : related a b) (h : items.foldlM f a = .ok final) :
    ∃ other, items.foldlM g b = .ok other ∧ related final other := by
  induction items generalizing a b with
  | nil =>
    cases h
    exact ⟨b, rfl, holds⟩
  | cons item items ih =>
    rw [List.foldlM_cons] at h
    obtain ⟨next, first, h⟩ := bind_ok h
    obtain ⟨other, second, holds⟩ := steps a b item next holds first
    obtain ⟨last, rest, holds⟩ := ih holds h
    refine ⟨last, ?_, holds⟩
    rw [List.foldlM_cons, second]
    exact rest

/-- A walk over a list that fails does so at one of its items. -/
theorem foldlM_error {f : α → β → Except ε α} {items : List β} {state : α} {error : ε}
    (h : items.foldlM f state = .error error) :
    ∃ before item after next, items = before ++ item :: after ∧
      before.foldlM f state = .ok next ∧ f next item = .error error := by
  induction items generalizing state with
  | nil => cases h
  | cons item items ih =>
    rw [List.foldlM_cons] at h
    rcases bind_error h with failed | ⟨next, stepped, h⟩
    · exact ⟨[], item, items, state, rfl, rfl, failed⟩
    · obtain ⟨before, other, after, last, rfl, walked, failed⟩ := ih h
      refine ⟨item :: before, other, after, last, rfl, ?_, failed⟩
      rw [List.foldlM_cons, stepped]
      exact walked

/-! ### Outcomes by evaluation -/

theorem eq_ok_of_toOption {x : Except ε α} {result : α} (h : x.toOption = some result) :
    x = .ok result := by
  cases x with
  | error error => cases h
  | ok value =>
    cases h
    rfl

def error? : Except ε α → Option ε
  | .ok _ => none
  | .error error => some error

theorem eq_error_of_error? {x : Except ε α} {error : ε} (h : error? x = some error) :
    x = .error error := by
  cases x with
  | error other =>
    cases h
    rfl
  | ok value => cases h

/-! ### Two computations -/

/-- Two computations that fail alike, or give results that are related. -/
inductive Agree (related : α → β → Prop) : Except ε α → Except ε β → Prop where
  | ok {a : α} {b : β} : related a b → Agree related (.ok a) (.ok b)
  | error (error : ε) : Agree related (.error error) (.error error)

theorem Agree.bind {δ : Type} {related : α → β → Prop} {next : γ → δ → Prop}
    {x : Except ε α} {y : Except ε β} {f : α → Except ε γ} {g : β → Except ε δ}
    (agree : Agree related x y) (continued : ∀ a b, related a b → Agree next (f a) (g b)) :
    Agree next (x >>= f) (y >>= g) := by
  cases agree with
  | ok holds => exact continued _ _ holds
  | error error => exact .error error

/-- Both go on from the same computation. -/
theorem Agree.after {δ : Type} {next : γ → δ → Prop} (x : Except ε α) {f : α → Except ε γ}
    {g : α → Except ε δ} (continued : ∀ a, Agree next (f a) (g a)) :
    Agree next (x >>= f) (x >>= g) := by
  cases x with
  | ok a => exact continued a
  | error error => exact .error error

theorem Agree.foldlM {items : List γ} {related : α → β → Prop} {f : α → γ → Except ε α}
    {g : β → γ → Except ε β} (steps : ∀ a b item, related a b → Agree related (f a item) (g b item))
    {a : α} {b : β} (holds : related a b) :
    Agree related (items.foldlM f a) (items.foldlM g b) := by
  induction items generalizing a b with
  | nil => exact .ok holds
  | cons item items ih =>
    rw [List.foldlM_cons, List.foldlM_cons]
    exact (steps a b item holds).bind fun _ _ holds => ih holds

theorem Agree.eq_map {f : α → β} {x : Except ε α} {y : Except ε β}
    (agree : Agree (fun a b => f a = b) x y) : y = x.map f := by
  cases agree with
  | ok equal => rw [← equal]; rfl
  | error error => rfl

/-- Two computations that both fail, or give results that are related. -/
inductive Alike (related : α → β → Prop) : Except ε α → Except ε β → Prop where
  | ok {a : α} {b : β} : related a b → Alike related (.ok a) (.ok b)
  | error (first second : ε) : Alike related (.error first) (.error second)

namespace Alike

variable {δ : Type} {related : α → β → Prop} {next : γ → δ → Prop}

theorem bind {x : Except ε α} {y : Except ε β} {f : α → Except ε γ} {g : β → Except ε δ}
    (alike : Alike related x y) (continued : ∀ a b, related a b → Alike next (f a) (g b)) :
    Alike next (x >>= f) (y >>= g) := by
  cases alike with
  | ok holds => exact continued _ _ holds
  | error first second => exact .error first second

theorem map {x : Except ε α} {y : Except ε β} {f : α → γ} {g : β → δ}
    (alike : Alike related x y) (mapped : ∀ a b, related a b → next (f a) (g b)) :
    Alike next (x.map f) (y.map g) := by
  cases alike with
  | ok holds => exact .ok (mapped _ _ holds)
  | error first second => exact .error first second

theorem imp {weaker : α → β → Prop} {x : Except ε α} {y : Except ε β} (alike : Alike related x y)
    (implied : ∀ a b, related a b → weaker a b) : Alike weaker x y := by
  cases alike with
  | ok holds => exact .ok (implied _ _ holds)
  | error first second => exact .error first second

/-- Both go on from the same computation. -/
theorem after (x : Except ε α) {f : α → Except ε γ} {g : α → Except ε δ}
    (continued : ∀ a, Alike next (f a) (g a)) : Alike next (x >>= f) (x >>= g) := by
  cases x with
  | ok a => exact continued a
  | error error => exact .error error error

theorem of_iff {x y : Except ε α} (same : ∀ value, x = .ok value ↔ y = .ok value) :
    Alike Eq x y := by
  cases x with
  | ok value =>
    rw [(same value).mp rfl]
    exact .ok rfl
  | error first =>
    cases y with
    | ok value => cases (same value).mpr rfl
    | error second => exact .error first second

/-- Two computations that a third one is alike to are so to one another. -/
theorem join {common : α → γ} {common' : β → γ} {x : Except ε α} {y : Except ε β} {z : Except ε γ}
    (first : Alike (fun a c => common a = c) x z) (second : Alike (fun b c => common' b = c) y z) :
    Alike (fun a b => common a = common' b) x y := by
  cases first with
  | ok same =>
    cases second with
    | ok same' => exact .ok (same.trans same'.symm)
  | error =>
    cases second with
    | error => exact .error _ _

theorem toOption_eq {x : Except ε α} {y : Except ε β} {f : α → γ} {g : β → γ}
    (alike : Alike (fun a b => f a = g b) x y) : x.toOption.map f = y.toOption.map g := by
  cases alike with
  | ok same => exact congrArg some same
  | error => rfl

end Alike

/-- Two computations from a state, which is in order if `start` holds. The first one has the outcome
of the second one, or it is refused for a reason and the second one gives no result in order; and a
result in order comes from a state in order only. -/
structure Narrows (reason : ε → Prop) (start : Prop) (inOrder : α → Prop)
    (first second : Except ε α) : Prop where
  outcome : first = second ∨ ∃ error, first = .error error ∧ reason error ∧
    ∀ value, second = .ok value → ¬ inOrder value
  back : ∀ value, second = .ok value → inOrder value → start

namespace Narrows

variable {reason : ε → Prop} {start : Prop} {inOrder : α → Prop} {final : β → Prop}

theorem refl {x : Except ε α} (back : ∀ value, x = .ok value → inOrder value → start) :
    Narrows reason start inOrder x x := ⟨.inl rfl, back⟩

theorem bind {x y : Except ε α} {f g : α → Except ε β}
    (narrows : Narrows reason start inOrder x y)
    (continued : ∀ value, Narrows reason (inOrder value) final (f value) (g value)) :
    Narrows reason start final (x >>= f) (y >>= g) := by
  constructor
  · rcases narrows.outcome with rfl | ⟨error, rfl, refused, bad⟩
    · cases x with
      | error error => exact .inl rfl
      | ok value => exact (continued value).outcome
    · refine .inr ⟨error, rfl, refused, ?_⟩
      intro result succeeds fine
      obtain ⟨value, given, succeeds⟩ := bind_ok succeeds
      exact bad value given ((continued value).back result succeeds fine)
  · intro result succeeds fine
    obtain ⟨value, given, succeeds⟩ := bind_ok succeeds
    exact narrows.back value given ((continued value).back result succeeds fine)

theorem map {x y : Except ε α} (f : α → β) (narrows : Narrows reason start inOrder x y)
    (before : ∀ value, final (f value) → inOrder value) :
    Narrows reason start final (x.map f) (y.map f) := by
  have bound : ∀ z : Except ε α, z.map f = z >>= fun value => .ok (f value) := by
    intro z
    cases z with
    | error error => rfl
    | ok value => rfl
  rw [bound, bound]
  apply narrows.bind
  intro value
  apply refl
  rintro _ ⟨⟩ fine
  exact before value fine

/-- Both go on from the same computation. -/
theorem after {x : Except ε α} {f g : α → Except ε β}
    (continued : ∀ value, x = .ok value → Narrows reason start final (f value) (g value)) :
    Narrows reason start final (x >>= f) (x >>= g) := by
  cases x with
  | error error => exact .refl nofun
  | ok value => exact continued value rfl

theorem foldlM {items : List β} {f g : α → β → Except ε α} {state : α}
    (steps : ∀ state item, Narrows reason (inOrder state) inOrder (f state item) (g state item)) :
    Narrows reason (inOrder state) inOrder (items.foldlM f state) (items.foldlM g state) := by
  induction items generalizing state with
  | nil =>
    apply refl
    rintro _ ⟨⟩ fine
    exact fine
  | cons item items ih =>
    rw [List.foldlM_cons, List.foldlM_cons]
    exact (steps state item).bind fun next => ih

end Narrows

end EventScript
