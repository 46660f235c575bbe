/-!
# Tokens of JSON texts

A text is cut into tokens before it is read. A token that is not written properly ends the list and
carries its fault, because the fault only counts when reading comes to that token: a reader that
meets the token where another one belongs never looks into it. A string carries two outcomes, one
for readers that need its characters and one for readers that skip it, since the latter let a lone
surrogate pass.
-/

namespace Tombstone.Json

/-- Why a text cannot be read. -/
inductive Fault where
  /-- It is not written according to the grammar. -/
  | malformed
  /-- It is well written up to a value of another kind than the one that is wanted. -/
  | mistyped
  | cutOff
  deriving DecidableEq, Repr

/-- A number as it is written. -/
structure NumberText where
  /-- Whether a minus sign stands in front. -/
  negative : Bool
  /-- The digits before the point. -/
  whole : List Char
  /-- The digits after the point, if there is one. -/
  fraction : Option (List Char)
  /-- The sign and the digits of the exponent, if there is one. -/
  exponent : Option (Bool × List Char)
  deriving DecidableEq, Repr

/-- The words of the grammar. -/
inductive Word where
  | null
  | true
  | false
  deriving DecidableEq, Repr

/-- A piece of a text. -/
inductive Token where
  | openBracket
  | closeBracket
  | openBrace
  | closeBrace
  | comma
  | colon
  /-- A number, or the fault that reading it meets; skipping it fails whenever reading does. -/
  | number (text : Except Fault NumberText)
  /-- A string: its characters, and whether it can be skipped. -/
  | quoted (content : Except Fault (List Char)) (skipping : Except Fault Unit)
  | word (text : Except Fault Word)
  /-- A character that starts no token. -/
  | stray

/-- Blanks between tokens. -/
def isBlank (char : Char) : Bool := char = ' ' || char = '\n' || char = '\t' || char = '\r'

end Tombstone.Json
