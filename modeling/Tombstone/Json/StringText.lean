import Tombstone.Json.Token

/-!
# Strings in JSON texts

A string is a sequence of pieces, each of which is a plain character or an escape, up to the closing
quote. Read for its characters, the halves of a surrogate pair have to come together; skipped, any
four hexadecimal digits will do.
-/

namespace Tombstone.Json

/-- What the next piece of a string is. -/
inductive StringPiece where
  /-- The closing quote, and the text after it. -/
  | close (rest : List Char)
  /-- A character, and the text after it. -/
  | char (char : Char) (rest : List Char)
  | fault (fault : Fault)

/-- The value of a hexadecimal digit of either case. -/
def hexValue? (char : Char) : Option Nat :=
  if '0' ≤ char && char ≤ '9' then some (char.toNat - 48)
  else if 'a' ≤ char && char ≤ 'f' then some (char.toNat - 87)
  else if 'A' ≤ char && char ≤ 'F' then some (char.toNat - 55)
  else none

/-- The number that four hexadecimal digits denote. -/
def hexUnit? (first second third fourth : Char) : Option Nat := do
  let a ← hexValue? first
  let b ← hexValue? second
  let c ← hexValue? third
  let d ← hexValue? fourth
  return ((a * 16 + b) * 16 + c) * 16 + d

/-- Reads four hexadecimal digits. A text of fewer than four bytes is cut off here. -/
def scanHex (text : List Char) : Except Fault (Nat × List Char) :=
  match text with
  | first :: second :: third :: fourth :: rest =>
      match hexUnit? first second third fourth with
      | some unit => .ok (unit, rest)
      | none => .error .malformed
  | _ => .error (if (String.ofList text).utf8ByteSize < 4 then .cutOff else .malformed)

/-- The character of a one-letter escape. -/
def shortEscape? (char : Char) : Option Char :=
  match char with
  | '"' => some '"'
  | '\\' => some '\\'
  | '/' => some '/'
  | 'b' => some '\x08'
  | 'f' => some '\x0c'
  | 'n' => some '\n'
  | 'r' => some '\r'
  | 't' => some '\t'
  | _ => none

/-- Whether a 16-bit unit is the first half of a surrogate pair. -/
def isHighSurrogate (unit : Nat) : Bool := 0xD800 ≤ unit && unit ≤ 0xDBFF

/-- Whether a 16-bit unit is the second half of a surrogate pair. -/
def isLowSurrogate (unit : Nat) : Bool := 0xDC00 ≤ unit && unit ≤ 0xDFFF

/-- The piece after the first half of a surrogate pair: its second half has to follow. -/
def lowSurrogatePiece (high : Nat) (text : List Char) : StringPiece :=
  match text with
  | [] => .fault .cutOff
  | ['\\'] => .fault .cutOff
  | '\\' :: 'u' :: rest =>
      match scanHex rest with
      | .error fault => .fault fault
      | .ok (low, rest) =>
          if isLowSurrogate low then
            .char (Char.ofNat ((high - 0xD800) * 1024 + (low - 0xDC00) + 0x10000)) rest
          else .fault .malformed
  | _ => .fault .malformed

/-- The piece after a backslash. -/
def escapePiece (text : List Char) : StringPiece :=
  match text with
  | [] => .fault .cutOff
  | 'u' :: rest =>
      match scanHex rest with
      | .error fault => .fault fault
      | .ok (unit, rest) =>
          if isLowSurrogate unit then .fault .malformed
          else if isHighSurrogate unit then lowSurrogatePiece unit rest
          else .char (Char.ofNat unit) rest
  | letter :: rest =>
      match shortEscape? letter with
      | some char => .char char rest
      | none => .fault .malformed

/-- The piece after a backslash when the characters do not matter. -/
def skippedEscapePiece (text : List Char) : StringPiece :=
  match text with
  | [] => .fault .cutOff
  | 'u' :: rest =>
      match scanHex rest with
      | .error fault => .fault fault
      | .ok (_, rest) => .char 'u' rest
  | letter :: rest =>
      match shortEscape? letter with
      | some char => .char char rest
      | none => .fault .malformed

/-- The next piece of a string, given how pieces after a backslash are read. -/
def stringPiece (escape : List Char → StringPiece) (text : List Char) : StringPiece :=
  match text with
  | [] => .fault .cutOff
  | '"' :: rest => .close rest
  | '\\' :: rest => escape rest
  | char :: rest => if char.toNat < 0x20 then .fault .malformed else .char char rest

/-- Whether pieces after a backslash leave no more text than there was. -/
def Shrinks (escape : List Char → StringPiece) : Prop :=
  ∀ text char rest, escape text = .char char rest → rest.length ≤ text.length

theorem length_le_of_scanHex {text rest : List Char} {unit : Nat}
    (scanned : scanHex text = .ok (unit, rest)) : rest.length ≤ text.length := by
  unfold scanHex at scanned
  split at scanned
  · split at scanned
    · cases scanned
      simp only [List.length_cons]
      omega
    · cases scanned
  · cases scanned

theorem shrinks_lowSurrogatePiece (high : Nat) : Shrinks (lowSurrogatePiece high) := by
  intro text char rest piece
  unfold lowSurrogatePiece at piece
  split at piece
  · cases piece
  · cases piece
  · split at piece
    · cases piece
    · next scanned =>
        have shorter := length_le_of_scanHex scanned
        split at piece
        · injection piece with _ same
          simp only [← same, List.length_cons]
          omega
        · cases piece
  · cases piece

theorem shrinks_escapePiece : Shrinks escapePiece := by
  intro text char rest piece
  unfold escapePiece at piece
  split at piece
  · cases piece
  · split at piece
    · cases piece
    · next scanned =>
        have shorter := length_le_of_scanHex scanned
        split at piece
        · cases piece
        · split at piece
          · have pair := shrinks_lowSurrogatePiece _ _ _ _ piece
            simp only [List.length_cons]
            omega
          · cases piece
            simp only [List.length_cons]
            omega
  · split at piece
    · cases piece
      simp only [List.length_cons]
      omega
    · cases piece

theorem shrinks_skippedEscapePiece : Shrinks skippedEscapePiece := by
  intro text char rest piece
  unfold skippedEscapePiece at piece
  split at piece
  · cases piece
  · split at piece
    · cases piece
    · next scanned =>
        have shorter := length_le_of_scanHex scanned
        cases piece
        simp only [List.length_cons]
        omega
  · split at piece
    · cases piece
      simp only [List.length_cons]
      omega
    · cases piece

theorem length_lt_of_stringPiece {escape : List Char → StringPiece} (shrinks : Shrinks escape)
    {text rest : List Char} {char : Char} (piece : stringPiece escape text = .char char rest) :
    rest.length < text.length := by
  unfold stringPiece at piece
  split at piece
  · cases piece
  · cases piece
  · have shorter := shrinks _ _ _ piece
    simp only [List.length_cons]
    omega
  · split at piece
    · cases piece
    · cases piece
      simp

theorem skippedEscapePiece_ne_close (text rest : List Char) :
    skippedEscapePiece text ≠ .close rest := by
  unfold skippedEscapePiece
  repeat' split
  all_goals simp

theorem length_lt_of_close {text rest : List Char}
    (piece : stringPiece skippedEscapePiece text = .close rest) : rest.length < text.length := by
  unfold stringPiece at piece
  split at piece
  · cases piece
  · cases piece
    simp
  · exact absurd piece (skippedEscapePiece_ne_close _ _)
  · split at piece <;> cases piece

/-- Reads the characters of a string, after its opening quote. -/
def scanString (text : List Char) : Except Fault (List Char) :=
  match _piece : stringPiece escapePiece text with
  | .close _ => .ok []
  | .fault fault => .error fault
  | .char char rest => do
      let chars ← scanString rest
      return char :: chars
termination_by text.length
decreasing_by exact length_lt_of_stringPiece shrinks_escapePiece _piece

/-- Skips a string, after its opening quote; gives the text after the closing quote. -/
def skipString (text : List Char) : Except Fault (List Char) :=
  match _piece : stringPiece skippedEscapePiece text with
  | .close rest => .ok rest
  | .fault fault => .error fault
  | .char _ rest => skipString rest
termination_by text.length
decreasing_by exact length_lt_of_stringPiece shrinks_skippedEscapePiece _piece

theorem length_lt_of_skipString {text rest : List Char} (skipped : skipString text = .ok rest) :
    rest.length < text.length := by
  fun_induction skipString text with
  | case1 text after piece =>
      cases skipped
      exact length_lt_of_close piece
  | case2 text fault piece => cases skipped
  | case3 text char after piece ih =>
      have shorter := length_lt_of_stringPiece shrinks_skippedEscapePiece piece
      have rest := ih skipped
      omega

end Tombstone.Json
