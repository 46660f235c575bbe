/-!
# Fixed-width numerals

Numerals of a fixed number of digits, most significant digit first, padded with zeros: the text
forms of entity ids are such numerals to base 16 and base 32. Reading a written numeral gives the
number back as long as it fits the width.
-/

namespace Tombstone

/-- The `width` least significant digits of a number to a base, most significant digit first. -/
def numeral (base : Nat) : Nat → Nat → List Nat
  | 0, _ => []
  | width + 1, number => numeral base width (number / base) ++ [number % base]

/-- The number that digits denote to a base, most significant digit first. -/
def readNumeral (base : Nat) (digits : List Nat) : Nat :=
  digits.foldl (fun number digit => number * base + digit) 0

/-- The first number that `width` digits to a base cannot hold. -/
def numeralBound (base width : Nat) : Nat := Nat.pow base width

@[simp]
theorem numeralBound_zero (base : Nat) : numeralBound base 0 = 1 := rfl

theorem numeralBound_succ (base width : Nat) :
    numeralBound base (width + 1) = numeralBound base width * base := rfl

@[simp]
theorem length_numeral (base width number : Nat) : (numeral base width number).length = width := by
  induction width generalizing number with
  | zero => rfl
  | succ width ih => simp [numeral, ih]

theorem readNumeral_numeral {base width number : Nat} (fits : number < numeralBound base width) :
    readNumeral base (numeral base width number) = number := by
  induction width generalizing number with
  | zero =>
      simp only [numeralBound_zero, Nat.lt_one_iff] at fits
      simp [numeral, readNumeral, fits]
  | succ width ih =>
      have quotient : number / base < numeralBound base width := by
        apply Nat.div_lt_of_lt_mul
        rw [numeralBound_succ, Nat.mul_comm] at fits
        exact fits
      have reading : readNumeral base (numeral base (width + 1) number) =
          readNumeral base (numeral base width (number / base)) * base + number % base := by
        simp [numeral, readNumeral, List.foldl_append]
      rw [reading, ih quotient, Nat.mul_comm]
      exact Nat.div_add_mod number base

theorem lt_of_mem_numeral {base width number digit : Nat} (positive : 0 < base)
    (digit_mem : digit ∈ numeral base width number) : digit < base := by
  induction width generalizing number with
  | zero => cases digit_mem
  | succ width ih =>
      rcases List.mem_append.mp digit_mem with before | last
      · exact ih before
      · rw [List.mem_singleton.mp last]
        exact Nat.mod_lt number positive

/-- The text of digits in an alphabet; a digit that the alphabet lacks is shown as a question mark.
-/
def spell (alphabet : List Char) (digits : List Nat) : List Char :=
  digits.map fun digit => alphabet.getD digit '?'

/-- The digits that a text spells in an alphabet, if every character of it is in the alphabet. -/
def unspell? (alphabet : List Char) (text : List Char) : Option (List Nat) :=
  text.mapM fun char => alphabet.idxOf? char

/-- Digits that an alphabet tells apart are read from their text. -/
theorem unspell?_spell {alphabet : List Char} {digits : List Nat}
    (told : ∀ digit ∈ digits, alphabet.idxOf? (alphabet.getD digit '?') = some digit) :
    unspell? alphabet (spell alphabet digits) = some digits := by
  rw [unspell?, spell]
  induction digits with
  | nil => rfl
  | cons digit rest ih =>
      rcases List.forall_mem_cons.mp told with ⟨toldFirst, toldRest⟩
      rw [List.map_cons, List.mapM_cons, toldFirst, ih toldRest]
      rfl

end Tombstone
