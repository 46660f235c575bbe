import Tombstone.Digits

/-!
# Byte strings

Byte strings are lists of bytes. Numbers of a fixed width are written least or most significant byte
first, and reading what was written gives the number back as long as it fits the width. Splitting a
list into chunks loses nothing: the chunks concatenate to the list.
-/

namespace Tombstone

/-- A string of bytes. -/
abbrev Bytes := List UInt8

namespace Bytes

/-- The `width` least significant bytes of a number, least significant byte first. -/
def littleEndian : Nat → Nat → Bytes
  | 0, _ => []
  | width + 1, number => UInt8.ofNat (number % 256) :: littleEndian width (number / 256)

/-- The number that bytes denote, least significant byte first. -/
def readLittleEndian : Bytes → Nat
  | [] => 0
  | byte :: rest => byte.toNat + 256 * readLittleEndian rest

/-- The `width` least significant bytes of a number, most significant byte first. -/
def bigEndian (width number : Nat) : Bytes := (littleEndian width number).reverse

/-- The number that bytes denote, most significant byte first. -/
def readBigEndian (bytes : Bytes) : Nat := readLittleEndian bytes.reverse

@[simp]
theorem length_littleEndian (width number : Nat) : (littleEndian width number).length = width := by
  induction width generalizing number with
  | zero => rfl
  | succ width ih => simp [littleEndian, ih]

@[simp]
theorem length_bigEndian (width number : Nat) : (bigEndian width number).length = width := by
  simp [bigEndian]

theorem readLittleEndian_littleEndian {width number : Nat}
    (fits : number < numeralBound 256 width) :
    readLittleEndian (littleEndian width number) = number := by
  induction width generalizing number with
  | zero =>
      simp only [numeralBound_zero, Nat.lt_one_iff] at fits
      simp [littleEndian, readLittleEndian, fits]
  | succ width ih =>
      have quotient : number / 256 < numeralBound 256 width := by
        rw [numeralBound_succ] at fits
        omega
      have digit : (UInt8.ofNat (number % 256)).toNat = number % 256 := by
        rw [UInt8.toNat_ofNat']
        omega
      simp only [littleEndian, readLittleEndian, ih quotient, digit]
      omega

theorem littleEndian_readLittleEndian (bytes : Bytes) :
    littleEndian bytes.length (readLittleEndian bytes) = bytes := by
  induction bytes with
  | nil => rfl
  | cons byte rest ih =>
      have small : byte.toNat < 256 := byte.toNat_lt
      have digit : (byte.toNat + 256 * readLittleEndian rest) % 256 = byte.toNat := by omega
      have quotient : (byte.toNat + 256 * readLittleEndian rest) / 256 = readLittleEndian rest := by
        omega
      simp [littleEndian, readLittleEndian, digit, quotient, ih]

theorem readLittleEndian_lt (bytes : Bytes) :
    readLittleEndian bytes < numeralBound 256 bytes.length := by
  induction bytes with
  | nil => simp [readLittleEndian]
  | cons byte rest ih =>
      have small : byte.toNat < 256 := byte.toNat_lt
      simp only [readLittleEndian, List.length_cons, numeralBound_succ]
      omega

theorem readBigEndian_bigEndian {width number : Nat} (fits : number < numeralBound 256 width) :
    readBigEndian (bigEndian width number) = number := by
  simp [readBigEndian, bigEndian, readLittleEndian_littleEndian fits]

theorem bigEndian_readBigEndian (bytes : Bytes) :
    bigEndian bytes.length (readBigEndian bytes) = bytes := by
  have inverse := littleEndian_readLittleEndian bytes.reverse
  rw [List.length_reverse] at inverse
  simp [bigEndian, readBigEndian, inverse]

end Bytes

/--
Splits a list into chunks of `size` elements, the last of which may be shorter. The empty list has
no chunk; with `size` zero the list stays in one piece.
-/
def chunksOf {α : Type} (size : Nat) (items : List α) : List (List α) :=
  go items []
where
  /-- Continues after the chunks found so far, which are kept in reverse. -/
  go (items : List α) (found : List (List α)) : List (List α) :=
    match items with
    | [] => found.reverse
    | first :: rest =>
        if size = 0 then ((first :: rest) :: found).reverse
        else go ((first :: rest).drop size) ((first :: rest).take size :: found)
  termination_by items.length
  decreasing_by
    simp only [List.length_drop, List.length_cons]
    omega

theorem flatten_chunksOf_go {α : Type} (size : Nat) (items : List α) (found : List (List α)) :
    (chunksOf.go size items found).flatten = found.reverse.flatten ++ items := by
  fun_induction chunksOf.go size items found with
  | case1 found => simp
  | case2 found first rest => simp
  | case3 found first rest positive ih =>
      rw [ih]
      simp only [List.reverse_cons, List.flatten_append, List.flatten_cons, List.flatten_nil,
        List.append_nil, List.append_assoc, List.take_append_drop]

theorem flatten_chunksOf {α : Type} (size : Nat) (items : List α) :
    (chunksOf size items).flatten = items := by
  simp [chunksOf, flatten_chunksOf_go]

end Tombstone
