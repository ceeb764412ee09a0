/-
**The exact value of a binary64 number.**

A finite binary64 number is a sign and `significand · 2 ^ exponent`, so it has an exact decimal
value and can be compared with any decimal by natural arithmetic alone. Everything that prints a
number starts from this value, never from the number's own printer.

* `Binary.ofFloat?` reads the value off the 64 bits; infinities and NaN have none.
* `roundQuotient` is the nearest integer to a quotient, with a half going to the even neighbour:
  `roundQuotient_near` says that twice its distance from the quotient is at most the divisor.
-/

namespace JobPool

/-- The exact value of a finite binary64 number. -/
structure Binary where
  negative : Bool
  significand : Nat
  exponent : Int
  /-- The gap to the next number towards zero is half the gap to the next one away from it. -/
  narrowBelow : Bool
  deriving DecidableEq, Repr

namespace Binary

/-- The value that the 64 bits of a finite number stand for. -/
def ofBits (bits : UInt64) : Binary :=
  let scale := (bits >>> 52 &&& 0x7ff).toNat
  let fraction := (bits &&& 0xfffffffffffff).toNat
  let negative := bits >>> 63 == 1
  if scale = 0 then ⟨negative, fraction, -1074, false⟩
  else ⟨negative, 1 <<< 52 + fraction, (scale : Int) - 1075, fraction == 0 && decide (1 < scale)⟩

/-- The value of a finite number, none for the infinities and NaN. -/
def ofFloat? (number : Float) : Option Binary :=
  if number.isFinite then some (ofBits number.toBits) else none

/-- The magnitude is `numerator / denominator`. -/
def numerator (value : Binary) : Nat := value.significand <<< value.exponent.toNat

/-- The magnitude is `numerator / denominator`. -/
def denominator (value : Binary) : Nat := 1 <<< (-value.exponent).toNat

theorem denominator_pos (value : Binary) : 0 < value.denominator := by
  rw [denominator, Nat.one_shiftLeft]
  exact Nat.two_pow_pos _

end Binary

/-- The integer nearest to `numerator / denominator`, a half going to the even neighbour. -/
def roundQuotient (numerator denominator : Nat) : Nat :=
  let floor := numerator / denominator
  let twice := 2 * (numerator % denominator)
  if twice < denominator then floor
  else if denominator < twice then floor + 1
  else floor + floor % 2

/-- The rounded quotient is within half a unit of the quotient. -/
theorem roundQuotient_near (numerator denominator : Nat) (positive : 0 < denominator) :
    2 * numerator ≤ (2 * roundQuotient numerator denominator + 1) * denominator ∧
      2 * roundQuotient numerator denominator * denominator ≤ 2 * numerator + denominator := by
  have split := Nat.div_add_mod numerator denominator
  have small := Nat.mod_lt numerator positive
  generalize numerator / denominator = floor at *
  generalize numerator % denominator = rest at *
  have expand : ∀ n : Nat, (2 * n + 1) * denominator = 2 * (denominator * n) + denominator := by
    intro n
    rw [Nat.add_mul, Nat.one_mul, Nat.mul_assoc, Nat.mul_comm n]
  have expand' : ∀ n : Nat, 2 * n * denominator = 2 * (denominator * n) := by
    intro n
    rw [Nat.mul_assoc, Nat.mul_comm n]
  have unfolded : roundQuotient numerator denominator = floor ∧ 2 * rest ≤ denominator ∨
      roundQuotient numerator denominator = floor + 1 ∧ denominator ≤ 2 * rest := by
    have quotient : numerator / denominator = floor := by
      rw [← split, Nat.mul_add_div positive, Nat.div_eq_of_lt small, Nat.add_zero]
    have remainder : numerator % denominator = rest := by
      rw [← split, Nat.mul_add_mod, Nat.mod_eq_of_lt small]
    simp only [roundQuotient, quotient, remainder]
    split
    · exact Or.inl ⟨rfl, by omega⟩
    · split
      · exact Or.inr ⟨rfl, by omega⟩
      · rcases Nat.mod_two_eq_zero_or_one floor with even | odd
        · exact Or.inl ⟨by omega, by omega⟩
        · exact Or.inr ⟨by omega, by omega⟩
  rcases unfolded with ⟨equal, bound⟩ | ⟨equal, bound⟩
  · rw [equal, expand, expand']
    omega
  · rw [equal, expand, expand', Nat.mul_add, Nat.mul_one]
    omega

end JobPool
