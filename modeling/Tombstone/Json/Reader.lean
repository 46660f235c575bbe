import Tombstone.Json.Lexer
import Tombstone.Json.Magnitude

/-!
# Reading values from tokens

A reader takes the tokens of its value off the front of a list of tokens and gives what is left. It
stops at the first fault in reading order: a text that is cut off, a token that does not belong
where it stands, or a value of another kind than the one that is wanted.
-/

namespace Tombstone.Json

/-- Takes the tokens of a value off the front of a list of tokens. -/
abbrev Reader (α : Type) := List Token → Except Fault (α × List Token)

namespace Reader

variable {α β : Type}

def map (change : α → β) (reader : Reader α) : Reader β := fun tokens => do
  let (value, rest) ← reader tokens
  return (change value, rest)

/-- The fault of a value of another kind: first the value itself has to be well written. -/
def faultOfOther : Token → Fault
  | .number (.ok text) => if text.isTooLarge then .malformed else .mistyped
  | .number (.error fault) => fault
  | .quoted (.ok _) _ => .mistyped
  | .quoted (.error fault) _ => fault
  | .word (.ok _) => .mistyped
  | .word (.error fault) => fault
  | .openBracket | .openBrace => .mistyped
  | .closeBracket | .closeBrace | .comma | .colon | .stray => .malformed

/-- Reads a whole number below `bound`, which is at most the number of 64-bit words. -/
def natBelow (bound : Nat) : Reader Nat
  | [] => .error .cutOff
  | .number (.ok text) :: rest =>
      match text.plain? with
      | some number =>
          if number < bound then .ok (number, rest)
          else .error (faultOfOther (.number (.ok text)))
      | none => .error (faultOfOther (.number (.ok text)))
  | token :: _ => .error (faultOfOther token)

/-- Reads a whole number of 128 bits, which nothing but plain digits can spell. -/
def nat128 : Reader Nat
  | [] => .error .cutOff
  | .number (.ok text) :: rest =>
      match text.plain? with
      | some number => if number < numeralBound 2 128 then .ok (number, rest) else .error .malformed
      | none => .error .malformed
  | _ :: _ => .error .malformed

def string : Reader String
  | [] => .error .cutOff
  | .quoted (.ok chars) _ :: rest => .ok (String.ofList chars, rest)
  | token :: _ => .error (faultOfOther token)

def null : Reader Unit
  | [] => .error .cutOff
  | .word (.ok .null) :: rest => .ok ((), rest)
  | token :: _ => .error (faultOfOther token)

/-- Reads a value, or the word for nothing in its place. -/
def option (reader : Reader α) : Reader (Option α)
  | .word (.ok .null) :: rest => .ok (none, rest)
  | tokens => reader.map some tokens

def colon : Reader Unit
  | [] => .error .cutOff
  | .colon :: rest => .ok ((), rest)
  | _ :: _ => .error .malformed

/-! ## Skipping -/

/-- Where skipping is. -/
inductive SkipPlace where
  /-- Before a value. -/
  | value
  /-- After an opening bracket. -/
  | firstItem
  /-- After an opening brace. -/
  | firstKey
  /-- Before a key. -/
  | key
  /-- After a key. -/
  | colon
  /-- After a value inside a list or an object. -/
  | next

/-- What encloses the place where skipping is. -/
inductive Enclosure where
  | list
  | object

/-- What skipping does at a token. -/
inductive SkipStep where
  | go (place : SkipPlace) (enclosures : List Enclosure)
  | stop (fault : Fault)

/-- What skipping does at the token where a value starts. -/
def skipValueStart (token : Token) (enclosures : List Enclosure) : SkipStep :=
  match token with
  | .number (.ok _) => .go .next enclosures
  | .quoted _ (.ok _) => .go .next enclosures
  | .quoted _ (.error fault) => .stop fault
  | .word (.ok _) => .go .next enclosures
  | .word (.error fault) => .stop fault
  | .openBracket => .go .firstItem (.list :: enclosures)
  | .openBrace => .go .firstKey (.object :: enclosures)
  | _ => .stop .malformed

/-- What skipping does at the token where a key stands. -/
def skipKey (token : Token) (enclosures : List Enclosure) : SkipStep :=
  match token with
  | .quoted _ (.ok _) => .go .colon enclosures
  | .quoted _ (.error fault) => .stop fault
  | _ => .stop .malformed

def skipStep (place : SkipPlace) (enclosures : List Enclosure) (token : Token) : SkipStep :=
  match place with
  | .value => skipValueStart token enclosures
  | .firstItem =>
      match token with
      | .closeBracket => .go .next enclosures.tail
      | _ => skipValueStart token enclosures
  | .firstKey =>
      match token with
      | .closeBrace => .go .next enclosures.tail
      | _ => skipKey token enclosures
  | .key => skipKey token enclosures
  | .colon =>
      match token with
      | .colon => .go .value enclosures
      | _ => .stop .malformed
  | .next =>
      match enclosures, token with
      | .list :: _, .comma => .go .value enclosures
      | .list :: outer, .closeBracket => .go .next outer
      | .object :: _, .comma => .go .key enclosures
      | .object :: outer, .closeBrace => .go .next outer
      | _, _ => .stop .malformed

/-- Skips the tokens from a place up to the end of the outermost enclosure. -/
def skipFrom (place : SkipPlace) (enclosures : List Enclosure) (tokens : List Token) :
    Except Fault (List Token) :=
  match place, enclosures, tokens with
  | .next, [], tokens => .ok tokens
  | _, _, [] => .error .cutOff
  | place, enclosures, token :: rest =>
      match skipStep place enclosures token with
      | .go place enclosures => skipFrom place enclosures rest
      | .stop fault => .error fault

/-- Skips a value of any kind and depth. -/
def skip : Reader Unit := fun tokens => do
  let rest ← skipFrom .value [] tokens
  return ((), rest)

/-! ## Choices -/

/-- What a name in a choice stands for. -/
inductive Variant (α : Type) where
  /-- A value of its own, written as its name alone. -/
  | plain (value : α)
  /-- A value that holds a text, written as an object with the name as its only key. -/
  | text (make : String → α)

def findVariant (variants : List (String × Variant α)) (name : String) : Option (Variant α) :=
  variants.lookup name

/-- Reads what stands beside the name of a variant in an object. -/
def variantContent : Variant α → Reader α
  | .plain value => null.map fun _ => value
  | .text make => string.map make

/-- Reads the key of an object, which has to be a string. -/
def key : Reader String
  | [] => .error .cutOff
  | .quoted content _ :: rest => do return (String.ofList (← content), rest)
  | _ :: _ => .error .malformed

/-- Reads a value that is chosen by a name. -/
def choice (variants : List (String × Variant α)) : Reader α
  | [] => .error .cutOff
  | .quoted (.error fault) _ :: _ => .error fault
  | .quoted (.ok chars) _ :: rest =>
      match findVariant variants (String.ofList chars) with
      | some (.plain value) => .ok (value, rest)
      | _ => .error .mistyped
  | .openBrace :: rest => do
      let (name, rest) ← key rest
      match findVariant variants name with
      | none => throw .mistyped
      | some variant =>
          let ((), rest) ← colon rest
          let (value, rest) ← variantContent variant rest
          match rest with
          | [] => throw .cutOff
          | .closeBrace :: rest => return (value, rest)
          | _ => throw .malformed
  | _ :: _ => .error .malformed

/-! ## Records -/

/-- A field of a record that is read on top of a value `α` of the record. -/
structure Field (α : Type) where
  name : String
  /-- Reads what the field changes in the record. -/
  read : Reader (α → α)
  /-- Whether an object has to have the field. -/
  required : Bool

/-- How a record is written: as an object with the fields in any order, or as a list of the fields
in their order. -/
structure Layout (α : Type) where
  /-- The fields, in order. -/
  fields : List (Field α)
  /-- The record without any field read. -/
  start : α
  /-- Whether a list may end before the last field. -/
  shortLists : Bool := false
  /-- Whether keys of no field are skipped with their values. -/
  skipsUnknown : Bool := true
  /-- Whether the values read go together. -/
  isValid : α → Bool := fun _ => true

namespace Layout

def find? (layout : Layout α) (name : String) : Option (Field α) :=
  layout.fields.find? fun field => field.name = name

/-- Whether the fields that an object has to have are among those seen. -/
def isComplete (layout : Layout α) (seen : List String) : Bool :=
  layout.fields.all fun field => !field.required || seen.contains field.name

/-- Reads a key's value into the record; the key must not have been seen before. -/
def member (layout : Layout α) (seen : List String) (value : α) (name : String) :
    Reader (List String × α) := fun tokens =>
  match layout.find? name with
  | some field =>
      if seen.contains name then .error .mistyped
      else do
        let ((), rest) ← colon tokens
        let (change, rest) ← field.read rest
        return ((name :: seen, change value), rest)
  | none =>
      if layout.skipsUnknown then do
        let ((), rest) ← colon tokens
        let ((), rest) ← skip rest
        return ((seen, value), rest)
      else .error .mistyped

/-- What has been read of an object: the fields seen, and the record so far. -/
abbrev Progress (α : Type) := List String × α

/-- The record of an object that is read to its end. -/
def finish (layout : Layout α) (progress : Progress α) : Reader α := fun rest =>
  if layout.isComplete progress.1 && layout.isValid progress.2 then .ok (progress.2, rest)
  else .error .mistyped

/-- Reads a key, or the end of the object. A comma stands before every key but the first. -/
def nextKey (isFirst : Bool) : Reader (Option (List Char))
  | [] => .error .cutOff
  | .closeBrace :: rest => .ok (none, rest)
  | token :: rest =>
      match isFirst, token, rest with
      | true, .quoted content _, rest => do return (some (← content), rest)
      | false, .comma, [] => .error .cutOff
      | false, .comma, .quoted content _ :: rest => do return (some (← content), rest)
      | _, _, _ => .error .malformed

/-- Reads the members of an object after its opening brace, at most `bound` of them. -/
def members (layout : Layout α) (bound : Nat) (isFirst : Bool) (progress : Progress α) : Reader α :=
  fun tokens =>
    match bound with
    | 0 => .error .cutOff
    | bound + 1 => do
        let (key, rest) ← nextKey isFirst tokens
        match key with
        | none => layout.finish progress rest
        | some chars =>
            let (progress, rest) ←
              layout.member progress.1 progress.2 (String.ofList chars) rest
            members layout bound false progress rest

/-- Reads the end of a list whose fields have all been read. -/
def listEnd : Reader Unit
  | [] => .error .cutOff
  | .closeBracket :: rest => .ok ((), rest)
  | _ :: _ => .error .malformed

/-- Reads up to the start of an item; whether there is one. A comma stands before every item but the
first. -/
def nextItem (isFirst : Bool) : Reader Bool
  | [] => .error .cutOff
  | .closeBracket :: rest => .ok (false, rest)
  | token :: rest =>
      match isFirst, token, rest with
      | true, token, rest => .ok (true, token :: rest)
      | false, .comma, .closeBracket :: _ => .error .malformed
      | false, .comma, rest => .ok (true, rest)
      | false, _, _ => .error .malformed

/-- Reads the items of a list after its opening bracket, one for each of the fields. -/
def items (layout : Layout α) (fields : List (Field α)) (isFirst : Bool) (value : α) : Reader α :=
  fun tokens =>
    match fields with
    | [] =>
        if layout.isValid value then do
          let ((), rest) ← listEnd tokens
          return (value, rest)
        else .error .mistyped
    | field :: more => do
        let (hasItem, rest) ← nextItem isFirst tokens
        if hasItem then
          let (change, rest) ← field.read rest
          items layout more false (change value) rest
        else if layout.shortLists && layout.isValid value then return (value, rest)
        else throw .mistyped

def read (layout : Layout α) : Reader α
  | [] => .error .cutOff
  | .openBracket :: rest => layout.items layout.fields true layout.start rest
  | .openBrace :: rest => layout.members (rest.length + 1) true ([], layout.start) rest
  | token :: _ => .error (faultOfOther token)

end Layout

/-- Reads a text that is a value and nothing else. -/
def document (reader : Reader α) (text : String) : Except Fault α := do
  let (value, rest) ← reader (tokens text.toList)
  match rest with
  | [] => return value
  | _ => throw .malformed

end Reader

end Tombstone.Json
