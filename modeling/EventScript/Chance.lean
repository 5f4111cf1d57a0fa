/-!
# Chance and time

What a script can learn about the world outside: draws of chance and the time of day. Both come
from a state that the program around the scripts sets up.
-/

namespace EventScript

structure Chance where
  seed : Nat := 0
  /-- Seconds since the epoch. -/
  clock : Nat := 0

namespace Chance

def modulus : Nat := 18446744073709551616

/-- The next seed of a linear congruential sequence. -/
def advance (seed : Nat) : Nat := (1442695040888963407 + 6364136223846793005 * seed) % modulus

theorem advance_lt (seed : Nat) : advance seed < modulus := Nat.mod_lt _ (by decide)

/-- A number from 0 to `bound`, taken from the high digits of the next seed. -/
def draw (chance : Chance) (bound : Nat) : Fin (bound + 1) × Chance :=
  let seed := advance chance.seed
  (⟨seed * (bound + 1) / modulus, Nat.div_lt_of_lt_mul
      (Nat.mul_lt_mul_of_pos_right (advance_lt chance.seed) bound.succ_pos)⟩,
    { chance with seed })

end Chance

end EventScript
