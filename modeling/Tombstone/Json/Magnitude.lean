import Tombstone.Binary64
import Tombstone.Digits
import Tombstone.Json.Token

/-!
# The numbers that JSON texts denote

Only plain whole numbers of 64 bits are numbers of their own. Every other number is taken for a
binary number with an exponent, and is malformed when it is too large for one. Its significand is
made of as many leading digits as fit 64 bits, and the digits left over before the point count in
its exponent.
-/

namespace Tombstone.Json

namespace NumberText

/-- The first number that 64 bits cannot hold. -/
def wordBound : Nat := UInt64.size

/-- The first exponent that is too large to be counted. -/
def exponentBound : Nat := numeralBound 2 31

def decimal (digits : List Char) : Nat := Nat.ofDigitChars 10 digits 0

/-- The number, if it is written as whole and not negative. -/
def plain? (text : NumberText) : Option Nat :=
  if text.negative || text.fraction.isSome || text.exponent.isSome then none
  else some (decimal text.whole)

/-- A significand with the number of digits that it lacks, and whether it takes further digits. -/
structure Significand where
  /-- The number that the digits taken denote. -/
  value : Nat := 0
  /-- The number of digits that were not taken. -/
  missing : Nat := 0
  /-- The number of digits that were taken. -/
  taken : Nat := 0
  isOpen : Bool := true

/-- Takes one more digit, unless 64 bits cannot hold the outcome. -/
def Significand.push (significand : Significand) (digit : Char) : Significand :=
  let value := significand.value * 10 + (digit.toNat - 48)
  if significand.isOpen && value < wordBound then
    { significand with value, taken := significand.taken + 1 }
  else { significand with missing := significand.missing + 1, isOpen := false }

/-- The significand of the digits before the point. -/
def wholeSignificand (text : NumberText) : Significand := text.whole.foldl Significand.push {}

/-- The significand of all digits. Digits after the point are taken even if some before it were not.
-/
def significand (text : NumberText) : Significand :=
  (text.fraction.getD []).foldl Significand.push { value := text.wholeSignificand.value }

/-- Whether the number is too large to be held in binary. -/
def isTooLarge (text : NumberText) : Bool :=
  let value := text.significand.value
  let (isNegative, digits) := text.exponent.getD (false, [])
  let exponent := decimal digits
  if exponentBound ≤ exponent then value ≠ 0 && !isNegative
  else
    let up := text.wholeSignificand.missing + if isNegative then 0 else exponent
    let down := text.significand.taken + if isNegative then exponent else 0
    down ≤ up && Binary64.overflows value (up - down)

end NumberText

end Tombstone.Json
