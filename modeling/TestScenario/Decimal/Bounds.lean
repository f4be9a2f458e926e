/-!
Powers of the two bases of numbers, and the bounds of whole numbers that fit into a word.
-/

namespace TestScenario.Decimal

/-- A power of two. -/
def pow2 (n : Nat) : Nat := Nat.pow 2 n

/-- A power of ten. -/
def pow10 (n : Nat) : Nat := Nat.pow 10 n

/-- The least signed number of 32 bits. -/
abbrev minInt32 : Int := -2147483648

/-- The greatest signed number of 32 bits. -/
abbrev maxInt32 : Int := 2147483647

/-- The least signed number of 64 bits. -/
abbrev minInt64 : Int := -9223372036854775808

/-- The greatest signed number of 64 bits. -/
abbrev maxInt64 : Int := 9223372036854775807

/-- The greatest unsigned number of 64 bits. -/
abbrev maxUInt64 : Int := 18446744073709551615

/-- The least signed number of 128 bits. -/
abbrev minInt128 : Int := -170141183460469231731687303715884105728

/-- The greatest unsigned number of 128 bits. -/
abbrev maxUInt128 : Int := 340282366920938463463374607431768211455

/-- The least number that no longer fits into 64 bits. -/
abbrev uint64Size : Nat := 18446744073709551616

/-- The least number that no longer fits into 32 bits. -/
abbrev uint32Size : Nat := 4294967296

/-- The least number that no longer fits into 16 bits. -/
abbrev uint16Size : Nat := 65536

end TestScenario.Decimal
