/-!
# Bounds of integers of fixed width

Integers here are unbounded. Where a format or a field takes only those that a number of bits holds,
it compares with these bounds.
-/

namespace TaskProbe

/-- The least signed integer of 64 bits. -/
def minInt64 : Int := -0x8000000000000000

/-- The greatest signed integer of 64 bits. -/
def maxInt64 : Int := 0x7FFFFFFFFFFFFFFF

/-- The greatest unsigned integer of 64 bits. -/
def maxUInt64 : Nat := 0xFFFFFFFFFFFFFFFF

/-- The least signed integer of 128 bits. -/
def minInt128 : Int := -0x80000000000000000000000000000000

/-- The greatest signed integer of 128 bits. -/
def maxInt128 : Int := 0x7FFFFFFFFFFFFFFFFFFFFFFFFFFFFFFF

/-- The greatest unsigned integer of 128 bits. -/
def maxUInt128 : Nat := 0xFFFFFFFFFFFFFFFFFFFFFFFFFFFFFFFF

end TaskProbe
