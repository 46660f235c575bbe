import Tombstone.Config

/-!
# The extent of runs

Before a run starts, it sets a place aside for each thing that it was asked to keep. A list of
places has to be shorter, in bytes, than half of what 64 bits can address; a run that was asked for
more is not made.
-/

namespace Tombstone

/-- Why a run is not made. -/
inductive RunError where
  | config (error : ConfigError)
  /-- It was asked to keep more than can be addressed. -/
  | tooLarge
  deriving DecidableEq, Repr

namespace Extent

/-- The number of bytes that a list of places has to stay below. -/
def byteLimit : Nat := UInt64.size / 2

/-- Whether places of some width in bytes can be set aside. -/
def fits (width places : Nat) : Bool := places * width < byteLimit

def viewerBytes : Nat := 96

/-- The bytes of the place of a deletion and its time. -/
def recordBytes : Nat := 32

/-- The bytes of a count, and of what refers to something kept elsewhere. -/
def wordBytes : Nat := 8

end Extent

end Tombstone
