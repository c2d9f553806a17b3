import Mathlib.Data.Rat.Floor
import Mathlib.Tactic.Common

/-!
# Values of a C `double`

A `double` is a finite number, an infinity or not a number.  Finite values are kept as rationals:
nothing here rounds, values are only stored, compared, classified and truncated.
-/

namespace CrowPanel.Library

/-- The value of a C `double`. -/
inductive Double where
  | finite (value : ℚ)
  | infinity (negative : Bool)
  | nan
  deriving DecidableEq

namespace Double

instance : Inhabited Double := ⟨finite 0⟩

/-- The C macro `isfinite`. -/
def isFinite : Double → Bool
  | finite _ => true
  | _ => false

/-- Truncation towards zero; `none` for a value which has none. -/
def truncate : Double → Option ℤ
  | finite value => some (if 0 ≤ value then ⌊value⌋ else ⌈value⌉)
  | _ => none

/-- The comparison `<=` of C; it does not hold if one of the values is not a number. -/
def le : Double → Double → Bool
  | finite first, finite second => first ≤ second
  | infinity true, finite _ | infinity true, infinity _ => true
  | finite _, infinity false | infinity false, infinity false => true
  | _, _ => false

instance : LE Double := ⟨fun first second => le first second = true⟩

instance (first second : Double) : Decidable (first ≤ second) :=
  inferInstanceAs (Decidable (_ = true))

/-- Adding a finite number, exactly. -/
def addExact : Double → ℚ → Double
  | finite first, second => finite (first + second)
  | other, _ => other

@[simp] theorem finite_le_finite {first second : ℚ} :
    finite first ≤ finite second ↔ first ≤ second :=
  decide_eq_true_iff

end Double

end CrowPanel.Library
