import Tombstone.Bytes
import Tombstone.Digits

/-!
# Entity ids

An entity is named by 128 bits. On the wire an id is 16 bytes, most significant first, so the order
of ids is the order of their bytes. The text forms are the 32 hexadecimal digits, with and without
hyphens, their first eight digits as a short form, and 26 digits of a base 32 alphabet without the
letters that look like digits.
-/

namespace Tombstone

/-- The name of an entity. -/
structure EntityId where
  /-- The 128 bits of the name. -/
  bits : BitVec 128
  deriving DecidableEq, Hashable, Repr, Inhabited

namespace EntityId

/-- The number of bytes of an id on the wire. -/
def width : Nat := 16

def toNat (id : EntityId) : Nat := id.bits.toNat

/-- The id with the 128 least significant bits of a number. -/
def ofNat (number : Nat) : EntityId := ⟨BitVec.ofNat 128 number⟩

/-- The id whose bits are all zero. -/
def nil : EntityId := ofNat 0

instance : LT EntityId := ⟨fun left right => left.toNat < right.toNat⟩

instance : LE EntityId := ⟨fun left right => left.toNat ≤ right.toNat⟩

instance (left right : EntityId) : Decidable (left < right) :=
  inferInstanceAs (Decidable (left.toNat < right.toNat))

instance (left right : EntityId) : Decidable (left ≤ right) :=
  inferInstanceAs (Decidable (left.toNat ≤ right.toNat))

/-- The id on the wire: 16 bytes, most significant first. -/
def toBytes (id : EntityId) : Bytes := Bytes.bigEndian width id.toNat

/-- The id that bytes denote, most significant first. -/
def ofBytes (bytes : Bytes) : EntityId := ofNat (Bytes.readBigEndian bytes)

theorem toNat_lt (id : EntityId) : id.toNat < numeralBound 256 width := id.bits.isLt

theorem toNat_inj {left right : EntityId} : left.toNat = right.toNat ↔ left = right := by
  constructor
  · intro equal
    cases left
    cases right
    exact congrArg EntityId.mk (BitVec.eq_of_toNat_eq equal)
  · intro equal
    rw [equal]

theorem toNat_ofNat {number : Nat} (fits : number < numeralBound 256 width) :
    (ofNat number).toNat = number := by
  simp only [ofNat, toNat, BitVec.toNat_ofNat]
  exact Nat.mod_eq_of_lt fits

@[simp]
theorem ofNat_toNat (id : EntityId) : ofNat id.toNat = id := by
  apply toNat_inj.1
  exact toNat_ofNat id.toNat_lt

@[simp]
theorem length_toBytes (id : EntityId) : id.toBytes.length = width := by
  simp [toBytes]

@[simp]
theorem ofBytes_toBytes (id : EntityId) : ofBytes id.toBytes = id := by
  simp [ofBytes, toBytes, Bytes.readBigEndian_bigEndian id.toNat_lt]

theorem toBytes_ofBytes {bytes : Bytes} (whole : bytes.length = width) :
    (ofBytes bytes).toBytes = bytes := by
  have fits : Bytes.readBigEndian bytes < numeralBound 256 width := by
    have bound := Bytes.readLittleEndian_lt bytes.reverse
    rw [List.length_reverse, whole] at bound
    exact bound
  rw [toBytes, ofBytes, toNat_ofNat fits, ← whole]
  exact Bytes.bigEndian_readBigEndian bytes

/-- The digits of hexadecimal numerals. -/
def hexAlphabet : List Char := "0123456789abcdef".toList

/-- The digits of base 32 numerals: the letters I, L, O and U are left out. -/
def base32Alphabet : List Char := "0123456789ABCDEFGHJKMNPQRSTVWXYZ".toList

/-- The id as 32 hexadecimal digits. -/
def hex (id : EntityId) : String := String.ofList (spell hexAlphabet (numeral 16 32 id.toNat))

/-- The short form: the first eight hexadecimal digits. -/
def short (id : EntityId) : String := String.ofList (id.hex.toList.take 8)

/-- The hexadecimal digits in groups of eight, four, four, four and twelve. -/
def display (id : EntityId) : String :=
  let digits := id.hex.toList
  let group (start length : Nat) : String := String.ofList ((digits.drop start).take length)
  String.intercalate "-" [group 0 8, group 8 4, group 12 4, group 16 4, group 20 12]

/-- The form for diagnostics, which shows the short form only. -/
def debug (id : EntityId) : String := "EntityId(" ++ id.short ++ "...)"

/-- The id as 26 digits to base 32. -/
def base32 (id : EntityId) : String := String.ofList (spell base32Alphabet (numeral 32 26 id.toNat))

/-- The id that 26 digits to base 32 denote, if they denote one. -/
def ofBase32? (text : String) : Option EntityId := do
  let digits ← unspell? base32Alphabet text.toList
  if digits.length = 26 ∧ readNumeral 32 digits < numeralBound 256 width then
    return ofNat (readNumeral 32 digits)
  none

/-- An id is read from its digits to base 32. -/
theorem ofBase32?_base32 (id : EntityId) : ofBase32? id.base32 = some id := by
  have fits : id.toNat < numeralBound 32 26 :=
    Nat.lt_of_lt_of_le id.toNat_lt (by decide)
  have told : ∀ digit ∈ numeral 32 26 id.toNat,
      base32Alphabet.idxOf? (base32Alphabet.getD digit '?') = some digit := by
    intro digit digit_mem
    have every : ∀ digit < 32, base32Alphabet.idxOf? (base32Alphabet.getD digit '?') =
        some digit := by
      decide
    exact every digit (lt_of_mem_numeral (by decide) digit_mem)
  simp [ofBase32?, base32, unspell?_spell told, readNumeral_numeral fits, id.toNat_lt]

end EntityId

end Tombstone
