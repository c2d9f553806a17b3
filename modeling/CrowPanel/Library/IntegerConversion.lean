import CrowPanel.Library.Double

/-!
# Conversions to integer types

C converts a floating value to an integer type by cutting off the fraction.  The conversion is defined
only if the type has the integral part; otherwise nothing can be said about the program.
-/

namespace CrowPanel.Library

/-- An integer type of C, by its signedness and its width. -/
structure IntegerType where
  signed : Bool
  bits : ℕ
  deriving DecidableEq

namespace IntegerType

/-- The smallest value of the type. -/
def least (type : IntegerType) : ℤ :=
  if type.signed then -2 ^ (type.bits - 1) else 0

/-- The largest value of the type. -/
def greatest (type : IntegerType) : ℤ :=
  if type.signed then 2 ^ (type.bits - 1) - 1 else 2 ^ type.bits - 1

/-- The type has this value. -/
def Holds (type : IntegerType) (value : ℤ) : Prop :=
  type.least ≤ value ∧ value ≤ type.greatest

instance (type : IntegerType) (value : ℤ) : Decidable (type.Holds value) :=
  inferInstanceAs (Decidable (_ ∧ _))

/-- The conversion of a floating value, where it is defined. -/
def convert (type : IntegerType) (value : Double) : Option ℤ :=
  value.truncate.filter fun integral => type.Holds integral

theorem convert_eq_some_iff {type : IntegerType} {value : Double} {integral : ℤ} :
    type.convert value = some integral ↔
      value.truncate = some integral ∧ type.Holds integral := by
  simp [convert, Option.filter_eq_some_iff]

end IntegerType

namespace Double

/-- The integral part of a rational, cut off towards zero. -/
def integralPart (value : ℚ) : ℤ :=
  if 0 ≤ value then ⌊value⌋ else ⌈value⌉

@[simp] theorem truncate_finite (value : ℚ) :
    (finite value).truncate = some (integralPart value) := rfl

@[simp] theorem integralPart_intCast (value : ℤ) : integralPart value = value := by
  unfold integralPart
  split
  · exact Int.floor_intCast value
  · exact Int.ceil_intCast value

/-- A conversion is defined if and only if the type has the integral part. -/
theorem convert_finite_isSome_iff {type : IntegerType} {value : ℚ} :
    (type.convert (finite value)).isSome ↔ type.Holds (integralPart value) := by
  simp [Option.isSome_iff_exists, IntegerType.convert_eq_some_iff]

end Double

end CrowPanel.Library
