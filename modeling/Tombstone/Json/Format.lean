import Tombstone.Json.Reader
import Tombstone.Json.Value

/-!
# Formats

A format says how the values of a type are read from a text and written to one. Records are written
as objects with their fields in order.
-/

namespace Tombstone.Json

/-- How the values of a type are read and written. -/
structure Format (α : Type) where
  read : Reader α
  /-- The text to be written for a value. -/
  write : α → Value

namespace Format

variable {α β : Type}

/-- Reads a text that is a value and nothing else. -/
def parse (format : Format α) (text : String) : Except Fault α := format.read.document text

/-- Writes a value without blanks. -/
def compact (format : Format α) (value : α) : String := (format.write value).compact

/-- Writes a value with each member on a line of its own. -/
def pretty (format : Format α) (value : α) : String := (format.write value).pretty

/-- Reads a text and writes its value without blanks. -/
def normalize (format : Format α) (text : String) : Except Fault String :=
  (format.parse text).map format.compact

/-- The format of the values that a reversible change leads to. -/
def convert (format : Format α) (make : α → β) (take : β → α) : Format β :=
  { read := format.read.map make, write := fun value => format.write (take value) }

/-- Whole numbers below a bound, which is at most the number of 64-bit words. -/
def natBelow (bound : Nat) : Format Nat := { read := Reader.natBelow bound, write := .number }

/-- Whole numbers of 64 bits. -/
def word64 : Format Nat := natBelow UInt64.size

def string : Format String := { read := Reader.string, write := .string }

def option (format : Format α) : Format (Option α) :=
  { read := Reader.option format.read, write := Value.ofOption format.write }

/-- Values chosen by a name, each written as its name. -/
def names (choices : List (String × α)) (name : α → String) : Format α :=
  { read := Reader.choice (choices.map fun choice => (choice.1, .plain choice.2))
    write := fun value => .string (name value) }

/-- A field of a record: its key, its format, how it is put into the record and taken out of it, and
whether it has to be there. -/
structure Member (α : Type) where
  field : Reader.Field α
  write : α → Value

/-- A field with a format of its own. -/
def member (name : String) (format : Format β) (put : β → α → α) (take : α → β)
    (required : Bool) : Member α :=
  { field := { name, read := format.read.map put, required }
    write := fun value => format.write (take value) }

/-- A field that has to be there. -/
def required (name : String) (format : Format β) (put : β → α → α) (take : α → β) : Member α :=
  member name format put take true

/-- A field that may be missing from an object. -/
def optional (name : String) (format : Format β) (put : β → α → α) (take : α → β) : Member α :=
  member name format put take false

/-- The layout of a record with these fields. -/
def layout (members : List (Member α)) (start : α) : Reader.Layout α :=
  { fields := members.map (·.field), start }

/-- The object that is written for a record with these fields. -/
def objectOf (members : List (Member α)) (value : α) : Value :=
  .object (members.map fun member => (member.field.name, member.write value))

/-- Records with these fields, read on top of `start`. -/
def record (members : List (Member α)) (start : α) : Format α :=
  { read := (layout members start).read, write := objectOf members }

end Format

end Tombstone.Json
