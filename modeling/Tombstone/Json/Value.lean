/-!
# Writing JSON texts

The values that are written are whole numbers, strings, the word for nothing, and objects. They are
written without any blank, or with each member of an object on a line of its own.
-/

namespace Tombstone.Json

/-- A value to be written. -/
inductive Value where
  | null
  | number (count : Nat)
  | string (text : String)
  /-- An object with its members in order. -/
  | object (members : List (String × Value))

namespace Value

/-- A character inside a string: quotes, backslashes and control characters are escaped. -/
def escape (char : Char) : List Char :=
  match char with
  | '"' => ['\\', '"']
  | '\\' => ['\\', '\\']
  | '\x08' => ['\\', 'b']
  | '\x0c' => ['\\', 'f']
  | '\n' => ['\\', 'n']
  | '\r' => ['\\', 'r']
  | '\t' => ['\\', 't']
  | _ =>
      if char.toNat < 0x20 then
        ['\\', 'u', '0', '0', Nat.digitChar (char.toNat / 16), Nat.digitChar (char.toNat % 16)]
      else [char]

/-- A string between quotes. -/
def quote (text : String) : List Char := '"' :: text.toList.flatMap escape ++ ['"']

/-- The characters between the members of an object, and around them. -/
structure Spacing where
  /-- What stands before the first member and between members, given the depth of nesting. -/
  indent : Nat → List Char
  afterColon : List Char

/-- No blanks. -/
def compactSpacing : Spacing := { indent := fun _ => [], afterColon := [] }

/-- Each member on a line of its own, indented by two blanks for each level. -/
def prettySpacing : Spacing :=
  { indent := fun depth => '\n' :: List.replicate (2 * depth) ' ', afterColon := [' '] }

mutual

/-- The text of a value at a depth of nesting. -/
def chars (spacing : Spacing) (depth : Nat) : Value → List Char
  | .null => ['n', 'u', 'l', 'l']
  | .number count => Nat.toDigits 10 count
  | .string text => quote text
  | .object [] => ['\x7b', '\x7d']
  | .object (member :: members) =>
      '\x7b' :: spacing.indent (depth + 1) ++ memberChars spacing (depth + 1) member ++
        moreChars spacing (depth + 1) members ++ spacing.indent depth ++ ['\x7d']

/-- The text of a member of an object. -/
def memberChars (spacing : Spacing) (depth : Nat) : String × Value → List Char
  | (name, value) => quote name ++ ':' :: spacing.afterColon ++ chars spacing depth value

/-- The text of the members after the first one. -/
def moreChars (spacing : Spacing) (depth : Nat) : List (String × Value) → List Char
  | [] => []
  | member :: members =>
      ',' :: spacing.indent depth ++ memberChars spacing depth member ++
        moreChars spacing depth members

end

/-- The text without blanks. -/
def compact (value : Value) : String := String.ofList (value.chars compactSpacing 0)

/-- The text with each member on a line of its own. -/
def pretty (value : Value) : String := String.ofList (value.chars prettySpacing 0)

/-- The value of an optional value: nothing if there is none. -/
def ofOption {α : Type} (write : α → Value) : Option α → Value
  | none => .null
  | some value => write value

end Value

end Tombstone.Json
