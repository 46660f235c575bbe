import Tombstone.Json.Token

/-!
# Numbers in JSON texts

A number has a sign or none, digits without a superfluous leading zero, and maybe a fraction and an
exponent. Where a digit is missing at the end of the text, the number is cut off; where something
else stands in its place, it is malformed.
-/

namespace Tombstone.Json

/-- The fault of a number in which a digit is missing. -/
def missingDigit : List Char → Fault
  | [] => .cutOff
  | _ :: _ => .malformed

/-- Reads the digits that have to follow here. -/
def scanDigits (text : List Char) : Except Fault (List Char × List Char) :=
  match text.takeWhile Char.isDigit with
  | [] => .error (missingDigit text)
  | digits => .ok (digits, text.dropWhile Char.isDigit)

/-- Reads the digits before the point; only a lone zero may start with a zero. -/
def scanWhole (text : List Char) : Except Fault (List Char × List Char) :=
  match text with
  | '0' :: next :: rest => if next.isDigit then .error .malformed else .ok (['0'], next :: rest)
  | _ => scanDigits text

/-- Reads the fraction, if a point follows. -/
def scanFraction (text : List Char) : Except Fault (Option (List Char) × List Char) :=
  match text with
  | '.' :: rest => do
      let (digits, rest) ← scanDigits rest
      return (some digits, rest)
  | _ => return (none, text)

/-- Reads the sign of an exponent; whether it is a minus sign. -/
def scanSign : List Char → Bool × List Char
  | '+' :: rest => (false, rest)
  | '-' :: rest => (true, rest)
  | text => (false, text)

/-- Reads the exponent, if its letter follows. -/
def scanExponent (text : List Char) : Except Fault (Option (Bool × List Char) × List Char) :=
  match text with
  | letter :: rest =>
      if letter = 'e' || letter = 'E' then do
        let (negative, rest) := scanSign rest
        let (digits, rest) ← scanDigits rest
        return (some (negative, digits), rest)
      else return (none, text)
  | [] => return (none, text)

/-- Reads a number after its sign. -/
def scanMagnitude (negative : Bool) (text : List Char) :
    Except Fault (NumberText × List Char) := do
  let (whole, rest) ← scanWhole text
  let (fraction, rest) ← scanFraction rest
  let (exponent, rest) ← scanExponent rest
  return ({ negative, whole, fraction, exponent }, rest)

def scanNumber (text : List Char) : Except Fault (NumberText × List Char) :=
  match text with
  | '-' :: rest => scanMagnitude true rest
  | _ => scanMagnitude false text

theorem length_lt_of_scanDigits {text digits rest : List Char}
    (scanned : scanDigits text = .ok (digits, rest)) : rest.length < text.length := by
  unfold scanDigits at scanned
  split at scanned
  · cases scanned
  · next found nonempty =>
      cases scanned
      have parts := congrArg List.length
        (List.takeWhile_append_dropWhile (p := Char.isDigit) (l := text))
      rw [List.length_append] at parts
      have positive : 0 < (text.takeWhile Char.isDigit).length :=
        List.length_pos_iff.2 nonempty
      omega

theorem length_lt_of_scanWhole {text digits rest : List Char}
    (scanned : scanWhole text = .ok (digits, rest)) : rest.length < text.length := by
  unfold scanWhole at scanned
  split at scanned
  · split at scanned
    · cases scanned
    · cases scanned
      simp
  · exact length_lt_of_scanDigits scanned

theorem length_le_of_scanFraction {text rest : List Char} {fraction : Option (List Char)}
    (scanned : scanFraction text = .ok (fraction, rest)) : rest.length ≤ text.length := by
  unfold scanFraction at scanned
  split at scanned
  · next after =>
      cases digits : scanDigits after with
      | error fault => simp [digits, bind, Except.bind] at scanned
      | ok found =>
          simp only [digits, bind, Except.bind, pure, Except.pure, Except.ok.injEq,
            Prod.mk.injEq] at scanned
          have shorter := length_lt_of_scanDigits digits
          simp only [← scanned.2, List.length_cons]
          omega
  · cases scanned
    exact Nat.le_refl _

theorem length_scanSign_le (text : List Char) : (scanSign text).2.length ≤ text.length := by
  unfold scanSign
  split <;> simp

theorem length_le_of_scanExponent {text rest : List Char} {exponent : Option (Bool × List Char)}
    (scanned : scanExponent text = .ok (exponent, rest)) : rest.length ≤ text.length := by
  unfold scanExponent at scanned
  split at scanned
  · next letter after =>
      split at scanned
      · have sign := length_scanSign_le after
        cases digits : scanDigits (scanSign after).2 with
        | error fault => simp [digits, bind, Except.bind] at scanned
        | ok found =>
            simp only [digits, bind, Except.bind, pure, Except.pure, Except.ok.injEq,
              Prod.mk.injEq] at scanned
            have shorter := length_lt_of_scanDigits digits
            simp only [← scanned.2, List.length_cons]
            omega
      · cases scanned
        exact Nat.le_refl _
  · cases scanned
    exact Nat.le_refl _

theorem length_lt_of_scanMagnitude {negative : Bool} {text rest : List Char} {number : NumberText}
    (scanned : scanMagnitude negative text = .ok (number, rest)) : rest.length < text.length := by
  unfold scanMagnitude at scanned
  cases whole : scanWhole text with
  | error fault => simp [whole, bind, Except.bind] at scanned
  | ok first =>
      cases fraction : scanFraction first.2 with
      | error fault => simp [whole, fraction, bind, Except.bind] at scanned
      | ok second =>
          cases exponent : scanExponent second.2 with
          | error fault => simp [whole, fraction, exponent, bind, Except.bind] at scanned
          | ok third =>
              simp only [whole, fraction, exponent, bind, Except.bind, pure, Except.pure,
                Except.ok.injEq, Prod.mk.injEq] at scanned
              have one := length_lt_of_scanWhole whole
              have two := length_le_of_scanFraction fraction
              have three := length_le_of_scanExponent exponent
              rw [← scanned.2]
              omega

theorem length_lt_of_scanNumber {text rest : List Char} {number : NumberText}
    (scanned : scanNumber text = .ok (number, rest)) : rest.length < text.length := by
  unfold scanNumber at scanned
  split at scanned
  · have shorter := length_lt_of_scanMagnitude scanned
    simp only [List.length_cons]
    omega
  · exact length_lt_of_scanMagnitude scanned

end Tombstone.Json
