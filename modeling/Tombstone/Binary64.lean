/-!
# Numbers of 53 significant bits

Decimal numbers are held in binary with 53 significant bits: the nearest such number is taken, and
of two equally near ones the even one. Numbers from 2¹⁰²⁴ on cannot be held.
-/

namespace Tombstone.Binary64

/-- The number of bits that a number can have. -/
def precision : Nat := 53

/-- Numbers that round to this bound or beyond cannot be held. -/
def bound : Nat := 1 <<< 1024

/-- The quotient of two numbers, rounded to the nearest whole number, a half to the even one. -/
def roundDiv (numerator denominator : Nat) : Nat :=
  let quotient := numerator / denominator
  let twice := 2 * (numerator % denominator)
  if twice < denominator then quotient
  else if denominator < twice then quotient + 1
  else quotient + quotient % 2

/-- The whole number of at most 53 significant bits that is nearest to a whole number. -/
def round (number : Nat) : Nat :=
  let excess := Nat.log2 number + 1 - precision
  roundDiv number (1 <<< excess) <<< excess

/-- Whether a significand times a power of ten cannot be held. Both factors are rounded, and so is
their product; the largest power of ten that can be held is 10³⁰⁸. -/
def overflows (significand exponent : Nat) : Bool :=
  significand ≠ 0 &&
    (308 < exponent || bound ≤ round (round significand * round (Nat.pow 10 exponent)))

/--
The 2⁶⁴-fold of the number nearest to a fraction between zero and one, rounded down. Fractions below
2⁻⁶⁴ give zero.
-/
def scaledFraction (numerator denominator : Nat) : Nat :=
  if numerator = 0 then 0
  else
    let shift := precision + Nat.log2 denominator - Nat.log2 numerator
    let quotient := (numerator <<< shift) / denominator
    let places := if Nat.log2 quotient + 1 ≤ precision then shift else shift - 1
    let rounded := roundDiv (numerator <<< places) denominator
    (rounded <<< 64) >>> places

end Tombstone.Binary64
