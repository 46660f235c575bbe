import Tombstone.Json.NumberText
import Tombstone.Json.StringText

/-!
# Cutting JSON texts into tokens

The tokens of a text are found from left to right, each as long as it can be, with blanks between
them left out. The list ends with the text, or with the first token that carries a fault.
-/

namespace Tombstone.Json

def scanWord (word : Word) : List Char → List Char → Except Fault (Word × List Char)
  | [], text => .ok (word, text)
  | _ :: _, [] => .error .cutOff
  | wanted :: more, char :: text =>
      if char = wanted then scanWord word more text else .error .malformed

theorem length_le_of_scanWord {word found : Word} {wanted text rest : List Char}
    (scanned : scanWord word wanted text = .ok (found, rest)) : rest.length ≤ text.length := by
  fun_induction scanWord word wanted text with
  | case1 text =>
      cases scanned
      exact Nat.le_refl _
  | case2 => cases scanned
  | case3 wanted more text ih =>
      have shorter := ih scanned
      simp only [List.length_cons]
      omega
  | case4 => cases scanned

/-- The token of a scanned word, and the text after it. -/
def wordToken : Except Fault (Word × List Char) → Token × Option (List Char)
  | .ok (word, rest) => (.word (.ok word), some rest)
  | .error fault => (.word (.error fault), none)

/-- The token of a scanned number, and the text after it. -/
def numberToken : Except Fault (NumberText × List Char) → Token × Option (List Char)
  | .ok (number, rest) => (.number (.ok number), some rest)
  | .error fault => (.number (.error fault), none)

/-- The token of the string whose opening quote stands before `text`, and the text after it. -/
def stringToken (text : List Char) : Token × Option (List Char) :=
  match skipString text with
  | .ok rest => (.quoted (scanString text) (.ok ()), some rest)
  | .error fault => (.quoted (scanString text) (.error fault), none)

/-- The first token of a text that starts with a token, and the text after it; none after a token
with a fault. -/
def firstToken (char : Char) (rest : List Char) : Token × Option (List Char) :=
  match char with
  | '[' => (.openBracket, some rest)
  | ']' => (.closeBracket, some rest)
  | '\x7b' => (.openBrace, some rest)
  | '\x7d' => (.closeBrace, some rest)
  | ',' => (.comma, some rest)
  | ':' => (.colon, some rest)
  | '"' => stringToken rest
  | 'n' => wordToken (scanWord .null ['u', 'l', 'l'] rest)
  | 't' => wordToken (scanWord .true ['r', 'u', 'e'] rest)
  | 'f' => wordToken (scanWord .false ['a', 'l', 's', 'e'] rest)
  | _ =>
      if char = '-' || char.isDigit then numberToken (scanNumber (char :: rest))
      else (.stray, none)

theorem length_le_of_wordToken {text after : List Char} {word : Word} {wanted : List Char}
    {token : Token} (found : wordToken (scanWord word wanted text) = (token, some after)) :
    after.length ≤ text.length := by
  cases scanned : scanWord word wanted text with
  | error fault => simp [scanned, wordToken] at found
  | ok result =>
      simp only [scanned, wordToken, Prod.mk.injEq, Option.some.injEq] at found
      rw [← found.2]
      exact length_le_of_scanWord scanned

theorem length_le_of_firstToken {char : Char} {rest after : List Char} {token : Token}
    (found : firstToken char rest = (token, some after)) : after.length ≤ rest.length := by
  unfold firstToken at found
  split at found
  case h_7 =>
    unfold stringToken at found
    split at found
    · next skipped =>
        cases found
        exact Nat.le_of_lt (length_lt_of_skipString skipped)
    · cases found
  case h_8 => exact length_le_of_wordToken found
  case h_9 => exact length_le_of_wordToken found
  case h_10 => exact length_le_of_wordToken found
  case h_11 =>
    split at found
    · cases scanned : scanNumber (char :: rest) with
      | error fault => simp [scanned, numberToken] at found
      | ok result =>
          simp only [scanned, numberToken, Prod.mk.injEq, Option.some.injEq] at found
          have shorter := length_lt_of_scanNumber scanned
          rw [← found.2]
          simp only [List.length_cons] at shorter
          omega
    · cases found
  all_goals
    cases found
    exact Nat.le_refl _

/-- The tokens of a text, up to the first one with a fault. -/
def tokens (text : List Char) : List Token :=
  match text with
  | [] => []
  | char :: rest =>
      if isBlank char then tokens rest
      else
        match _found : firstToken char rest with
        | (token, none) => [token]
        | (token, some after) => token :: tokens after
termination_by text.length
decreasing_by
  · simp
  · have shorter := length_le_of_firstToken _found
    simp only [List.length_cons]
    omega

end Tombstone.Json
