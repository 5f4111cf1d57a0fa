import EventScript.Event
import EventScript.Proofs.Text.Words

/-!
# Names of events

What the name of an event says: which names have an alarm number, which name another object, and
that the kinds of events follow these. A plus sign in front of an alarm number is read over.
-/

namespace EventScript

/-- The number that a run of ASCII digits spells, with any number of zeros in front. -/
def Number.Spells (digits : List Char) (n : Nat) : Prop :=
  digits ≠ [] ∧ (∀ c ∈ digits, c.isDigit = true) ∧ digitsValue digits = n

theorem Number.Spells.head {c : Char} {digits : List Char} {n : Nat}
    (spells : Number.Spells (c :: digits) n) : c.isDigit = true :=
  spells.2.1 c List.mem_cons_self

/-! ### Numbers and prefixes -/

theorem spells_iff {digits : List Char} {n : Nat} :
    (if digits.isEmpty || !digits.all Char.isDigit then none
      else some (Number.digitsValue digits)) = some n ↔ Number.Spells digits n := by
  have refused : (digits.isEmpty || !digits.all Char.isDigit) = true ↔
      ¬ (digits ≠ [] ∧ ∀ c ∈ digits, c.isDigit = true) := by
    rw [Bool.or_eq_true, List.isEmpty_iff, Bool.not_eq_true', ← Bool.not_eq_true,
      List.all_eq_true, not_and_or, not_ne_iff]
  rw [Option.ite_none_left_eq_some, refused, not_not, Option.some.injEq, and_assoc]
  exact Iff.rfl

theorem unsigned?_eq_some_iff {text : List Char} {n : Nat} :
    unsigned? text = some n ↔
      ∃ digits, Number.Spells digits n ∧ (text = digits ∨ text = '+' :: digits) := by
  unfold unsigned?
  dsimp only
  rw [spells_iff]
  constructor
  · intro spells
    split at spells
    · next rest => exact ⟨rest, spells, .inr rfl⟩
    · exact ⟨_, spells, .inl rfl⟩
  · rintro ⟨digits, spells, rfl | rfl⟩
    · split
      · -- A plus sign is no digit.
        cases spells.head
      · exact spells
    · exact spells

theorem nameAfter?_eq_some_iff {start name : String} {rest : List Char} :
    nameAfter? start name = some rest ↔ name.toList = start.toList ++ rest :=
  Text.after?_eq_some_iff

theorem alarmNumber?_eq_some_iff {name : String} {n : Nat} :
    alarmNumber? name = some n ↔ ∃ digits, Number.Spells digits n ∧ n < alarmCount ∧
      (name.toList = "alarm".toList ++ digits ∨ name.toList = "alarm+".toList ++ digits) := by
  unfold alarmNumber?
  rw [Option.filter_eq_some_iff, Option.bind_eq_some_iff]
  constructor
  · rintro ⟨⟨rest, begun, number⟩, small⟩
    rw [nameAfter?_eq_some_iff] at begun
    obtain ⟨digits, spells, rfl | rfl⟩ := unsigned?_eq_some_iff.mp number
    · exact ⟨_, spells, of_decide_eq_true small, .inl begun⟩
    · exact ⟨digits, spells, of_decide_eq_true small, .inr begun⟩
  · rintro ⟨digits, spells, small, begun | begun⟩
    · exact ⟨⟨digits, nameAfter?_eq_some_iff.mpr begun,
        unsigned?_eq_some_iff.mpr ⟨digits, spells, .inl rfl⟩⟩, decide_eq_true small⟩
    · exact ⟨⟨'+' :: digits, nameAfter?_eq_some_iff.mpr begun,
        unsigned?_eq_some_iff.mpr ⟨digits, spells, .inr rfl⟩⟩, decide_eq_true small⟩

theorem collisionWith?_eq_some_iff {name other : String} :
    collisionWith? name = some other ↔ other ≠ "" ∧ name = "collision_" ++ other := by
  unfold collisionWith?
  simp only [Option.map_eq_some_iff, Option.filter_eq_some_iff, nameAfter?_eq_some_iff]
  constructor
  · rintro ⟨rest, ⟨begun, nonempty⟩, rfl⟩
    refine ⟨?_, ?_⟩
    · rintro none
      rw [String.ofList_eq_empty_iff] at none
      simp [none] at nonempty
    · exact String.toList_inj.mp (begun.trans (by simp))
  · rintro ⟨nonempty, rfl⟩
    refine ⟨other.toList, ⟨String.toList_append, ?_⟩, String.ofList_toList⟩
    simpa using nonempty

/-! ### Kinds -/

namespace EventKind

/-- A name is none of those that do not begin as it does. -/
theorem not_contains {names : List String} {start name : String} {rest : List Char}
    (begun : nameAfter? start name = some rest)
    (apart : ∀ other ∈ names, nameAfter? start other = none) : names.contains name = false := by
  rw [← Bool.not_eq_true, List.contains_iff_mem]
  intro member
  rw [apart name member] at begun
  cases begun

theorem ofName_alarm {name : String} {n : Nat} (alarm : alarmNumber? name = some n) :
    ofName name = .alarm := by
  obtain ⟨rest, begun, -⟩ := Option.bind_eq_some_iff.mp (Option.filter_eq_some_iff.mp alarm).1
  unfold ofName
  rw [not_contains begun (by decide), not_contains begun (by decide),
    not_contains begun (by decide), alarm]
  rfl

theorem ofName_collision {name other : String} (collides : collisionWith? name = some other) :
    ofName name = .collision := by
  obtain ⟨nonempty, rfl⟩ := collisionWith?_eq_some_iff.mp collides
  have begun : nameAfter? "collision_" ("collision_" ++ other) = some other.toList :=
    nameAfter?_eq_some_iff.mpr String.toList_append
  have noAlarm : nameAfter? "alarm" ("collision_" ++ other) = none := by
    simp [nameAfter?, Text.after?]
  have noMouse : nameAfter? "mouse_" ("collision_" ++ other) = none := by
    simp [nameAfter?, Text.after?]
  have noKey : nameAfter? "kb_" ("collision_" ++ other) = none := by
    simp [nameAfter?, Text.after?]
  unfold ofName alarmNumber?
  rw [not_contains begun (by decide), not_contains begun (by decide),
    not_contains begun (by decide), noAlarm, noMouse, noKey, collides]
  rfl

theorem ofName_eq_alarm_iff {name : String} :
    ofName name = .alarm ↔ ∃ n, alarmNumber? name = some n := by
  constructor
  · intro kind
    unfold ofName at kind
    exact Option.isSome_iff_exists.mp (by grind)
  · rintro ⟨n, alarm⟩
    exact ofName_alarm alarm

theorem ofName_eq_collision_iff {name : String} :
    ofName name = .collision ↔ ∃ other, collisionWith? name = some other := by
  constructor
  · intro kind
    unfold ofName at kind
    exact Option.isSome_iff_exists.mp (by grind)
  · rintro ⟨other, collides⟩
    exact ofName_collision collides

end EventKind

/-- An event has the alarm number `n` if its name is `alarm`, with or without a plus sign behind it,
and digits that spell `n`, which is below 12. It is an alarm if it has an alarm number, and a
collision if it has another object, whose name is all that follows `collision_` and is not empty. -/
theorem Event.kind_of_name (event : Event) :
    (∀ n, alarmNumber? event.name = some n ↔ ∃ digits, Number.Spells digits n ∧ n < alarmCount ∧
      (event.name.toList = "alarm".toList ++ digits ∨
        event.name.toList = "alarm+".toList ++ digits)) ∧
      (event.kind = .alarm ↔ ∃ n, alarmNumber? event.name = some n) ∧
      (event.kind = .collision ↔ ∃ other, collisionWith? event.name = some other) ∧
      ∀ other, collisionWith? event.name = some other ↔
        other ≠ "" ∧ event.name = "collision_" ++ other :=
  ⟨fun _ => alarmNumber?_eq_some_iff, EventKind.ofName_eq_alarm_iff,
    EventKind.ofName_eq_collision_iff, fun _ => collisionWith?_eq_some_iff⟩

/-- A name with a sign behind `alarm` is the name of an alarm, although no run of digits follows. -/
theorem Event.signed_alarm :
    alarmNumber? "alarm+3" = some 3 ∧ (Event.named "alarm+3").kind = .alarm ∧
      ¬ ∃ digits, Number.Spells digits 3 ∧ 3 < alarmCount ∧
        "alarm+3".toList = "alarm".toList ++ digits := by
  refine ⟨by decide, by decide, ?_⟩
  rintro ⟨digits, spells, -, same⟩
  have signed : digits = ['+', '3'] := by
    simpa using same.symm
  subst signed
  cases spells.head

end EventScript
