import Mathlib.Data.List.TakeWhile
import EventScript.Proofs.Token.LineEnds

/-!
# Numerals

Which characters spell which numeral. `Numeral.scan` finds the longest that stand at the front of a
text.
-/

namespace EventScript

/-- Whether of all that is so at the front of the text this is the longest. -/
structure IsLongest (p : List Char → Prop) (text front : List Char) : Prop where
  holds : p front
  starts : front <+: text
  longest : ∀ other, p other → other <+: text → other.length ≤ front.length

/-- Longest parts make up the longest whole if the second part starts with nothing that the first
one may hold. -/
theorem IsLongest.append {p q : List Char → Prop} {text first second : List Char}
    (front : IsLongest p text first) (back : IsLongest q (text.drop first.length) second)
    (apart : ∀ c ∈ first, ∀ rest, ¬ q (c :: rest)) :
    IsLongest (fun whole => ∃ a b, whole = a ++ b ∧ p a ∧ q b) text (first ++ second) := by
  obtain ⟨behind, rfl⟩ := front.starts
  rw [List.drop_left] at back
  refine ⟨⟨first, second, rfl, front.holds, back.holds⟩, ?_, ?_⟩
  · exact (List.prefix_append_right_inj first).mpr back.starts
  · rintro _ ⟨a, b, rfl, holdsFirst, holdsSecond⟩ starts
    have starts' := (List.prefix_append a b).trans starts
    have shorter := front.longest a holdsFirst starts'
    obtain ⟨more, rfl⟩ := List.prefix_of_prefix_length_le starts' (List.prefix_append ..) shorter
    rw [List.append_assoc, List.prefix_append_right_inj] at starts
    simp only [List.length_append]
    -- Behind a shorter first part the second would have to start within the longest one.
    cases more with
    | nil =>
      have within := back.longest b holdsSecond starts
      omega
    | cons c more =>
      cases b with
      | nil =>
        simp only [List.length_nil]
        omega
      | cons d b =>
        obtain ⟨rfl, -⟩ := List.cons_prefix_cons.mp starts
        exact absurd holdsSecond (apart d (by simp) b)

namespace Number

def IsDigits (digits : List Char) : Prop := digits ≠ [] ∧ ∀ c ∈ digits, c.isDigit = true

inductive SpellsFraction : List Char → List Char → Prop where
  | none : SpellsFraction [] []
  | some {digits : List Char} : IsDigits digits → SpellsFraction ('.' :: digits) digits

inductive SpellsSign : List Char → Bool → Prop where
  | none : SpellsSign [] false
  | plus : SpellsSign ['+'] false
  | minus : SpellsSign ['-'] true

inductive SpellsExponent : List Char → Option Exponent → Prop where
  | none : SpellsExponent [] none
  | some {letter : Char} {sign digits : List Char} {negative : Bool} :
      letter = 'e' ∨ letter = 'E' → SpellsSign sign negative → IsDigits digits →
      SpellsExponent (letter :: (sign ++ digits)) (some ⟨negative, digits⟩)

inductive Numeral.Spelled : Numeral → List Char → Prop where
  | mk {whole fraction digits exponent : List Char} {value : Option Exponent} :
      IsDigits whole → SpellsFraction fraction digits → SpellsExponent exponent value →
      Spelled ⟨whole, digits, value⟩ (whole ++ (fraction ++ exponent))

theorem Numeral.Spelled.exists_cons {numeral : Numeral} {front : List Char}
    (spelt : numeral.Spelled front) : ∃ c rest, front = c :: rest ∧ c.isDigit = true := by
  obtain ⟨⟨nonempty, digits⟩, -, -⟩ := spelt
  obtain ⟨c, rest, rfl⟩ := List.exists_cons_of_ne_nil nonempty
  exact ⟨c, _, rfl, digits c List.mem_cons_self⟩

theorem isLongest_takeWhile {text : List Char} (starts : text.takeWhile Char.isDigit ≠ []) :
    IsLongest IsDigits text (text.takeWhile Char.isDigit) := by
  refine ⟨⟨starts, fun c member => List.mem_takeWhile_imp member⟩, List.takeWhile_prefix _, ?_⟩
  rintro other ⟨-, digits⟩ ⟨rest, rfl⟩
  rw [List.takeWhile_append_of_pos digits, List.length_append]
  omega

theorem exists_fraction (text : List Char) :
    ∃ front, SpellsFraction front (fractionDigits text) ∧
      IsLongest (fun other => ∃ digits, SpellsFraction other digits) text front := by
  by_cases none : fractionDigits text = []
  · rw [none]
    refine ⟨[], .none, ⟨_, .none⟩, List.nil_prefix, ?_⟩
    rintro other ⟨digits, spelt⟩ ⟨rest, rfl⟩
    cases spelt with
    | none => exact Nat.le_refl _
    | some isDigits =>
      rw [List.cons_append, fractionDigits, List.takeWhile_append_of_pos isDigits.2] at none
      exact absurd (List.append_eq_nil_iff.mp none).1 isDigits.1
  · cases text with
    | nil => exact absurd rfl none
    | cons c rest =>
      by_cases point : c = '.'
      · subst point
        rw [fractionDigits] at none ⊢
        have digits := isLongest_takeWhile none
        refine ⟨_, .some digits.holds, ⟨_, .some digits.holds⟩, ?_, ?_⟩
        · exact List.cons_prefix_cons.mpr ⟨rfl, digits.starts⟩
        · rintro other ⟨_, spelt⟩ starts
          cases spelt with
          | none => simp
          | some isDigits =>
            have within := digits.longest _ isDigits (List.cons_prefix_cons.mp starts).2
            exact Nat.succ_le_succ within
      · refine absurd ?_ none
        simp [fractionDigits, point]

theorem exists_sign (text : List Char) :
    ∃ sign, SpellsSign sign (signPart text).1 ∧ sign.length = (signPart text).2 ∧ sign <+: text := by
  unfold signPart
  split
  · exact ⟨_, .plus, rfl, by simp⟩
  · exact ⟨_, .minus, rfl, by simp⟩
  · exact ⟨_, .none, rfl, by simp⟩

theorem signPart_of_spelled {sign digits : List Char} {negative : Bool}
    (spelt : SpellsSign sign negative) (isDigits : IsDigits digits) (rest : List Char) :
    signPart (sign ++ (digits ++ rest)) = (negative, sign.length) := by
  cases spelt with
  | plus => rfl
  | minus => rfl
  | none =>
    obtain ⟨nonempty, all⟩ := isDigits
    obtain ⟨c, digits, rfl⟩ := List.exists_cons_of_ne_nil nonempty
    have digit := all c List.mem_cons_self
    rw [List.nil_append, List.cons_append]
    unfold signPart
    split
    · next same =>
      cases same
      cases digit
    · next same =>
      cases same
      cases digit
    · rfl

theorem exponentPart_of_spelled {letter : Char} {sign digits : List Char} {negative : Bool}
    (isLetter : letter = 'e' ∨ letter = 'E') (spelt : SpellsSign sign negative)
    (isDigits : IsDigits digits) (rest : List Char) :
    exponentPart (letter :: (sign ++ (digits ++ rest))) =
      some (⟨negative, digits ++ rest.takeWhile Char.isDigit⟩,
        1 + sign.length + (digits ++ rest.takeWhile Char.isDigit).length) := by
  have goesOn : (!(digits ++ rest.takeWhile Char.isDigit).isEmpty) = true := by
    simp [isDigits.1]
  rw [exponentPart, signPart_of_spelled spelt isDigits]
  dsimp only
  rw [List.drop_left, List.takeWhile_append_of_pos isDigits.2, if_pos ⟨isLetter, goesOn⟩]

theorem exists_exponent (text : List Char) :
    ∃ front, SpellsExponent front ((exponentPart text).map Prod.fst) ∧
      front.length = ((exponentPart text).map Prod.snd).getD 0 ∧
      IsLongest (fun other => ∃ value, SpellsExponent other value) text front := by
  have longest (other rest : List Char) (spelt : ∃ value, SpellsExponent other value) :
      other.length ≤ ((exponentPart (other ++ rest)).map Prod.snd).getD 0 := by
    obtain ⟨value, spelt⟩ := spelt
    cases spelt with
    | none => exact Nat.zero_le _
    | some isLetter spelt isDigits =>
      rw [List.cons_append, List.append_assoc, exponentPart_of_spelled isLetter spelt isDigits]
      simp
      omega
  have isLongest {front : List Char} (spelt : ∃ value, SpellsExponent front value)
      (starts : front <+: text)
      (width : front.length = ((exponentPart text).map Prod.snd).getD 0) :
      IsLongest (fun other => ∃ value, SpellsExponent other value) text front := by
    refine ⟨spelt, starts, ?_⟩
    rintro other also ⟨rest, rfl⟩
    rw [width]
    exact longest other rest also
  cases found : exponentPart text with
  | none =>
    rw [found] at isLongest
    exact ⟨[], .none, rfl, isLongest ⟨_, .none⟩ List.nil_prefix rfl⟩
  | some read =>
    cases text with
    | nil => cases found
    | cons c rest =>
      rw [found] at isLongest
      obtain ⟨sign, spelt, width, starts⟩ := exists_sign rest
      obtain ⟨behind, rfl⟩ := starts
      rw [exponentPart] at found
      dsimp only at found
      rw [← width, List.drop_left] at found
      split at found
      · next taken =>
        cases found
        have nonempty : behind.takeWhile Char.isDigit ≠ [] := by simpa using taken.2
        have digits := isLongest_takeWhile nonempty
        have whole := SpellsExponent.some taken.1 spelt digits.holds
        have length : (c :: (sign ++ behind.takeWhile Char.isDigit)).length =
            1 + sign.length + (behind.takeWhile Char.isDigit).length := by
          simp
          omega
        refine ⟨_, whole, length, isLongest ⟨_, whole⟩ ?_ length⟩
        exact List.cons_prefix_cons.mpr
          ⟨rfl, (List.prefix_append_right_inj sign).mpr digits.starts⟩
      · cases found

theorem SpellsFraction.point_or_digit {fraction digits : List Char}
    (spelt : SpellsFraction fraction digits) : ∀ c ∈ fraction, c = '.' ∨ c.isDigit = true := by
  cases spelt with
  | none => simp
  | some isDigits =>
    intro c member
    rcases List.mem_cons.mp member with rfl | member
    · exact .inl rfl
    · exact .inr (isDigits.2 c member)

theorem not_spellsExponent_cons {c : Char} (other : c = '.' ∨ c.isDigit = true)
    {rest : List Char} {value : Option Exponent} : ¬ SpellsExponent (c :: rest) value := by
  intro spelt
  cases spelt with
  | some isLetter =>
    rcases isLetter with rfl | rfl <;> rcases other with other | other <;> cases other

theorem SpellsFraction.length_eq {fraction digits : List Char}
    (spelt : SpellsFraction fraction digits) : fraction.length = fractionWidth digits := by
  cases spelt with
  | none => rfl
  | some isDigits => simp [fractionWidth, isDigits.1]

/-- The scan in parts, the fraction given by the characters it takes up. -/
theorem scan_parts {text fraction : List Char}
    (spelt : SpellsFraction fraction
      (fractionDigits (text.drop (text.takeWhile Char.isDigit).length))) :
    Numeral.scan text =
      (⟨text.takeWhile Char.isDigit,
          fractionDigits (text.drop (text.takeWhile Char.isDigit).length),
          (exponentPart
            (text.drop ((text.takeWhile Char.isDigit).length + fraction.length))).map Prod.fst⟩,
        (text.takeWhile Char.isDigit).length + fraction.length +
          ((exponentPart (text.drop ((text.takeWhile Char.isDigit).length + fraction.length))).map
            Prod.snd).getD 0) := by
  unfold Numeral.scan
  dsimp only
  rw [← spelt.length_eq]
  split
  · next found =>
    rw [found]
    rfl
  · next found =>
    rw [found]
    rfl

/-- What of a text `Numeral.scan` reads spells its numeral, and no longer front spells one. -/
theorem exists_scanned {text : List Char} (starts : text.takeWhile Char.isDigit ≠ []) :
    ∃ front, (Numeral.scan text).1.Spelled front ∧ front.length = (Numeral.scan text).2 ∧
      IsLongest (fun other => ∃ numeral : Numeral, numeral.Spelled other) text front := by
  have whole := isLongest_takeWhile starts
  obtain ⟨fraction, spelt, isLongest⟩ :=
    exists_fraction (text.drop (text.takeWhile Char.isDigit).length)
  obtain ⟨exponent, spelt', width, isLongest'⟩ :=
    exists_exponent (text.drop ((text.takeWhile Char.isDigit).length + fraction.length))
  rw [← List.drop_drop] at isLongest'
  have behind := isLongest.append isLongest' fun c member rest ⟨_, spelt'⟩ =>
    not_spellsExponent_cons (spelt.point_or_digit c member) spelt'
  have all := whole.append behind ?_
  · rw [scan_parts spelt, ← width]
    refine ⟨_, .mk whole.holds spelt spelt', ?_, ⟨_, .mk whole.holds spelt spelt'⟩, all.starts, ?_⟩
    · simp only [List.length_append]
      omega
    · rintro _ ⟨_, ⟨isDigits, spelt, spelt'⟩⟩ starts
      exact all.longest _ ⟨_, _, rfl, isDigits, _, _, rfl, ⟨_, spelt⟩, ⟨_, spelt'⟩⟩ starts
  · -- A fraction starts with a point and an exponent with a letter, so the digits end before them.
    rintro c member rest ⟨a, b, same, ⟨_, spelt⟩, ⟨_, spelt'⟩⟩
    have digit := whole.holds.2 c member
    cases spelt with
    | none =>
      subst same
      exact not_spellsExponent_cons (.inr digit) spelt'
    | some =>
      obtain ⟨rfl, -⟩ := List.cons.inj same
      cases digit

theorem takeWhile_isDigit_append {digits behind : List Char} (isDigits : IsDigits digits)
    (stops : ∀ c ∈ behind.head?, c.isDigit = false) :
    (digits ++ behind).takeWhile Char.isDigit = digits := by
  rw [List.takeWhile_append_of_pos isDigits.2]
  cases behind with
  | nil => simp
  | cons c behind => simp [stops c rfl]

theorem SpellsExponent.stops {exponent : List Char} {value : Option Exponent}
    (spelt : SpellsExponent exponent value) : ∀ c ∈ exponent.head?, c ≠ '.' ∧ c.isDigit = false := by
  cases spelt with
  | none => nofun
  | some isLetter =>
    intro c head
    cases head
    rcases isLetter with rfl | rfl <;> decide

theorem SpellsFraction.fractionDigits_eq {fraction digits exponent : List Char}
    (spelt : SpellsFraction fraction digits)
    (stops : ∀ c ∈ exponent.head?, c ≠ '.' ∧ c.isDigit = false) :
    fractionDigits (fraction ++ exponent) = digits := by
  cases spelt with
  | some isDigits =>
    exact takeWhile_isDigit_append isDigits fun c head => (stops c head).2
  | none =>
    cases exponent with
    | nil => rfl
    | cons c rest =>
      have noPoint := (stops c rfl).1
      simp [fractionDigits, noPoint]

theorem SpellsExponent.exponentPart_eq {exponent : List Char} {value : Option Exponent}
    (spelt : SpellsExponent exponent value) :
    (exponentPart exponent).map Prod.fst = value := by
  cases spelt with
  | none => rfl
  | some isLetter sign isDigits =>
    have read := exponentPart_of_spelled isLetter sign isDigits []
    simp only [List.append_nil, List.takeWhile_nil] at read
    rw [read]
    rfl

/-- A numeral that characters spell is the one that is scanned off them. -/
theorem Numeral.Spelled.scan_eq {numeral : Numeral} {front : List Char}
    (spelt : numeral.Spelled front) : (Numeral.scan front).1 = numeral := by
  obtain @⟨whole, fraction, digits, exponent, value, isDigits, spelt, spelt'⟩ := spelt
  have stops : ∀ c ∈ (fraction ++ exponent).head?, c.isDigit = false := by
    cases spelt with
    | none => exact fun c head => (spelt'.stops c head).2
    | some =>
      intro c head
      cases head
      rfl
  have first := takeWhile_isDigit_append isDigits stops
  have second := spelt.fractionDigits_eq spelt'.stops
  rw [scan_parts (by rw [first, List.drop_left, second]; exact spelt), first, List.drop_left, second,
    ← List.drop_drop, List.drop_left, List.drop_left, spelt'.exponentPart_eq]

theorem Numeral.Spelled.unique {numeral other : Numeral} {front : List Char}
    (first : numeral.Spelled front) (second : other.Spelled front) : numeral = other :=
  first.scan_eq.symm.trans second.scan_eq

end Number

end EventScript
