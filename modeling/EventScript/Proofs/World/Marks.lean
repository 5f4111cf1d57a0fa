import EventScript.Block
import Mathlib.Data.Nat.Find

/-!
# Marks

What happened to the subscription of one instance to one event, operation by operation, and what
that tells: whether it stands, since when, and with which block.
-/

namespace EventScript

/-- What an operation means for the subscription of an instance to an event. -/
inductive Mark where
  | joined (block : Block)
  | ended
  | other

def StandsSince (marks : List Mark) (place : Nat) : Prop :=
  ∀ later : Nat, place < later → marks[later]? ≠ some .ended

/-- The instance subscribed, and the subscription did not end later. -/
def Standing (marks : List Mark) : Prop :=
  ∃ (place : Nat) (block : Block), marks[place]? = some (.joined block) ∧ StandsSince marks place

def LastBlock (marks : List Mark) (block : Block) : Prop :=
  ∃ place : Nat, marks[place]? = some (.joined block) ∧
    ∀ later : Nat, place < later → ∀ other : Block, marks[later]? ≠ some (.joined other)

/-- The place at which the instance first subscribed since a subscription of it last ended. -/
structure BeganAt (marks : List Mark) (place : Nat) : Prop where
  joined : ∃ block : Block, marks[place]? = some (.joined block)
  stands : StandsSince marks place
  first : ∀ earlier : Nat, earlier < place →
    ∀ block : Block, marks[earlier]? = some (.joined block) →
      ∃ between : Nat, earlier < between ∧ between < place ∧ marks[between]? = some .ended

/-- There is only one such place, so that these places tell an order. -/
theorem BeganAt.unique {marks : List Mark} {first second : Nat} (one : BeganAt marks first)
    (other : BeganAt marks second) : first = second := by
  have notBefore : ∀ {earlier later}, BeganAt marks earlier → BeganAt marks later →
      ¬earlier < later := by
    intro earlier later early late before
    obtain ⟨block, joined⟩ := early.joined
    obtain ⟨between, after, -, ended⟩ := late.first earlier before block joined
    exact early.stands between after ended
  have := notBefore one other
  have := notBefore other one
  omega

theorem Standing.began {marks : List Mark} (standing : Standing marks) :
    ∃ place, BeganAt marks place := by
  classical
  have exists_joined : ∃ place : Nat,
      (∃ block : Block, marks[place]? = some (.joined block)) ∧ StandsSince marks place := by
    obtain ⟨place, block, joined, stands⟩ := standing
    exact ⟨place, ⟨block, joined⟩, stands⟩
  obtain ⟨joined, stands⟩ := Nat.find_spec exists_joined
  refine ⟨Nat.find exists_joined, joined, stands, fun earlier before block early => ?_⟩
  by_contra none
  refine Nat.find_min exists_joined before ⟨⟨block, early⟩, fun later after ended => ?_⟩
  -- An end after the earlier place comes before the least one, at it, or after it.
  rcases Nat.lt_trichotomy later (Nat.find exists_joined) with soon | rfl | since
  · exact none ⟨later, after, soon, ended⟩
  · obtain ⟨other, joined⟩ := joined
    rw [ended] at joined
    cases joined
  · exact stands later since ended

theorem getElem?_snoc {marks : List Mark} {mark found : Mark} {place : Nat} :
    (marks ++ [mark])[place]? = some found ↔
      marks[place]? = some found ∨ place = marks.length ∧ mark = found := by
  by_cases inside : place < marks.length
  · rw [List.getElem?_append_left inside]
    constructor
    · exact .inl
    · rintro (h | ⟨rfl, -⟩)
      · exact h
      · exact absurd inside (Nat.lt_irrefl _)
  · have outside : marks[place]? = none := List.getElem?_eq_none (Nat.le_of_not_lt inside)
    rw [List.getElem?_append_right (Nat.le_of_not_lt inside), List.getElem?_singleton, outside]
    constructor
    · intro h
      split at h
      · exact .inr ⟨by omega, Option.some.inj h⟩
      · cases h
    · rintro (h | ⟨rfl, rfl⟩)
      · cases h
      · simp

theorem getElem?_snoc_of_lt {marks : List Mark} {mark : Mark} {place : Nat}
    (beyond : marks.length < place) : (marks ++ [mark])[place]? = none := by
  refine List.getElem?_eq_none ?_
  rw [List.length_append]
  exact beyond

theorem lt_length_of_getElem? {marks : List Mark} {mark : Mark} {place : Nat}
    (h : marks[place]? = some mark) : place < marks.length :=
  (List.getElem?_eq_some_iff.mp h).1

theorem BeganAt.lt_length {marks : List Mark} {place : Nat} (began : BeganAt marks place) :
    place < marks.length := by
  obtain ⟨block, joined⟩ := began.joined
  exact lt_length_of_getElem? joined

theorem StandsSince.snoc {marks : List Mark} {mark : Mark} {place : Nat}
    (stands : StandsSince marks place) (goesOn : mark ≠ .ended) :
    StandsSince (marks ++ [mark]) place := by
  intro later after found
  rcases getElem?_snoc.mp found with inside | ⟨-, same⟩
  · exact stands later after inside
  · exact goesOn same

theorem Standing.snoc {marks : List Mark} {mark : Mark} (standing : Standing marks)
    (goesOn : mark ≠ .ended) : Standing (marks ++ [mark]) := by
  obtain ⟨place, block, joined, stands⟩ := standing
  exact ⟨place, block, getElem?_snoc.mpr (.inl joined), stands.snoc goesOn⟩

theorem standing_snoc_other {marks : List Mark} :
    Standing (marks ++ [.other]) ↔ Standing marks := by
  constructor
  · rintro ⟨place, block, joined, stands⟩
    rcases getElem?_snoc.mp joined with inside | ⟨-, same⟩
    · refine ⟨place, block, inside, fun later after found => ?_⟩
      exact stands later after (getElem?_snoc.mpr (.inl found))
    · cases same
  · intro standing
    exact standing.snoc Mark.noConfusion

theorem standing_snoc_joined (marks : List Mark) (block : Block) :
    Standing (marks ++ [.joined block]) := by
  refine ⟨marks.length, block, getElem?_snoc.mpr (.inr ⟨rfl, rfl⟩), fun later after found => ?_⟩
  rw [getElem?_snoc_of_lt after] at found
  cases found

theorem not_standing_snoc_ended (marks : List Mark) : ¬Standing (marks ++ [.ended]) := by
  rintro ⟨place, block, joined, stands⟩
  rcases getElem?_snoc.mp joined with inside | ⟨-, same⟩
  · exact stands marks.length (lt_length_of_getElem? inside) (getElem?_snoc.mpr (.inr ⟨rfl, rfl⟩))
  · cases same

theorem LastBlock.snoc_other {marks : List Mark} {block : Block} (last : LastBlock marks block) :
    LastBlock (marks ++ [.other]) block := by
  obtain ⟨place, joined, final⟩ := last
  refine ⟨place, getElem?_snoc.mpr (.inl joined), fun later after other found => ?_⟩
  rcases getElem?_snoc.mp found with inside | ⟨-, same⟩
  · exact final later after other inside
  · cases same

theorem lastBlock_snoc_joined (marks : List Mark) (block : Block) :
    LastBlock (marks ++ [.joined block]) block := by
  refine ⟨marks.length, getElem?_snoc.mpr (.inr ⟨rfl, rfl⟩), fun later after other found => ?_⟩
  rw [getElem?_snoc_of_lt after] at found
  cases found

theorem BeganAt.snoc {marks : List Mark} {mark : Mark} {place : Nat} (began : BeganAt marks place)
    (goesOn : mark ≠ .ended) : BeganAt (marks ++ [mark]) place where
  joined := by
    obtain ⟨block, joined⟩ := began.joined
    exact ⟨block, getElem?_snoc.mpr (.inl joined)⟩
  stands := began.stands.snoc goesOn
  first := by
    intro earlier before block found
    rcases getElem?_snoc.mp found with inside | ⟨rfl, -⟩
    · obtain ⟨between, after, soon, ended⟩ := began.first earlier before block inside
      exact ⟨between, after, soon, getElem?_snoc.mpr (.inl ended)⟩
    · exact absurd before (Nat.lt_asymm began.lt_length)

theorem beganAt_length {marks : List Mark} (absent : ¬Standing marks) (block : Block) :
    BeganAt (marks ++ [.joined block]) marks.length where
  joined := ⟨block, getElem?_snoc.mpr (.inr ⟨rfl, rfl⟩)⟩
  stands := by
    intro later after found
    rw [getElem?_snoc_of_lt after] at found
    cases found
  first := by
    intro earlier before other found
    rcases getElem?_snoc.mp found with inside | ⟨rfl, -⟩
    · by_contra none
      refine absent ⟨earlier, other, inside, fun later after ended => none ?_⟩
      exact ⟨later, after, lt_length_of_getElem? ended, getElem?_snoc.mpr (.inl ended)⟩
    · exact absurd before (Nat.lt_irrefl _)

end EventScript
