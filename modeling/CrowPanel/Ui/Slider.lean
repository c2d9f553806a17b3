import CrowPanel.OpcUa.WriteConversion
import Mathlib.Tactic.Linarith
import Mathlib.Tactic.NormNum

/-!
# The slider of an integer tag

A slider of LVGL holds an `int32_t`, so the panel shows a hundred times the value of a tag on it and
divides by a hundred what it reads back.  Arithmetic on `double` is exact here.

## Strategy

`scaleNumeric` is rounding followed by saturation (`scaleNumeric_finite`), hence monotone, so the
value that is shown lies in the range of the slider and is stored as it is.  Reading it back gives the
value of the tag as long as nothing saturates; beyond that the slider stands at the end of `int32_t`,
and the tag gets the integral part of a hundredth of it.
-/

namespace CrowPanel.Ui

open Library DataModel OpcUa

/-! ## Scaling -/

/-- `INT32_MIN` -/
abbrev int32Min : ℤ := -2147483648

/-- `INT32_MAX` -/
abbrev int32Max : ℤ := 2147483647

/-- `EQUIPMENT_NUMERIC_SCALE` -/
abbrev equipmentNumericScale : ℚ := 100

/-- `lround`: the nearest integer, of two the one farther from zero. -/
def lround (value : ℚ) : ℤ :=
  if 0 ≤ value then ⌊value + 1 / 2⌋ else ⌈value - 1 / 2⌉

/-- `scale_numeric` -/
def scaleNumeric : Double → ℤ
  | .finite value =>
      let scaled := value * equipmentNumericScale
      if scaled ≤ int32Min then int32Min
      else if int32Max ≤ scaled then int32Max
      else lround scaled
  | .infinity negative => if negative then int32Min else int32Max
  | .nan => int32Max

theorem int32Min_le_int32Max : int32Min ≤ int32Max := by decide

theorem lround_mono {first second : ℚ} (hle : first ≤ second) : lround first ≤ lround second := by
  unfold lround
  by_cases hfirst : 0 ≤ first
  · rw [if_pos hfirst, if_pos (hfirst.trans hle)]
    exact Int.floor_mono (by linarith)
  · rw [if_neg hfirst]
    by_cases hsecond : 0 ≤ second
    · rw [if_pos hsecond]
      have hlow : ⌈first - 1 / 2⌉ ≤ 0 := Int.ceil_le.mpr (by push_cast; linarith)
      have hhigh : 0 ≤ ⌊second + 1 / 2⌋ := Int.floor_nonneg.mpr (by linarith)
      exact hlow.trans hhigh
    · rw [if_neg hsecond]
      exact Int.ceil_mono (by linarith)

@[simp] theorem lround_intCast (value : ℤ) : lround value = value := by
  unfold lround
  split
  · exact Int.floor_eq_iff.mpr ⟨by linarith, by linarith⟩
  · exact Int.ceil_eq_iff.mpr ⟨by linarith, by linarith⟩

/-- Scaling rounds and then saturates. -/
theorem scaleNumeric_finite (value : ℚ) :
    scaleNumeric (.finite value) =
      max int32Min (min int32Max (lround (value * equipmentNumericScale))) := by
  unfold scaleNumeric
  dsimp only
  have hmin : lround ((int32Min : ℤ) : ℚ) = int32Min := lround_intCast _
  have hmax : lround ((int32Max : ℤ) : ℚ) = int32Max := lround_intCast _
  have hrange := int32Min_le_int32Max
  split
  · next hlow =>
      have hrounded := lround_mono hlow
      rw [hmin] at hrounded
      omega
  · next hlow =>
      have hrounded := lround_mono (not_le.mp hlow).le
      rw [hmin] at hrounded
      split
      · next hhigh =>
          have hover := lround_mono hhigh
          rw [hmax] at hover
          omega
      · next hhigh =>
          have hunder := lround_mono (not_le.mp hhigh).le
          rw [hmax] at hunder
          omega

theorem scaleNumeric_intCast (value : ℤ) :
    scaleNumeric (.finite value) = max int32Min (min int32Max (100 * value)) := by
  have hscaled : (value : ℚ) * equipmentNumericScale = ((100 * value : ℤ) : ℚ) := by
    push_cast
    ring
  rw [scaleNumeric_finite, hscaled, lround_intCast]

theorem scaleNumeric_mem (value : Double) :
    int32Min ≤ scaleNumeric value ∧ scaleNumeric value ≤ int32Max := by
  cases value with
  | finite value =>
      have hrange := int32Min_le_int32Max
      rw [scaleNumeric_finite]
      omega
  | infinity negative => cases negative <;> decide
  | nan => decide

theorem scaleNumeric_mono {first second : Double} (hle : first ≤ second) :
    scaleNumeric first ≤ scaleNumeric second := by
  cases first with
  | finite first =>
      cases second with
      | finite second =>
          have hvalues : first ≤ second := Double.finite_le_finite.mp hle
          have hrounded := lround_mono
            (mul_le_mul_of_nonneg_right hvalues (by norm_num : (0 : ℚ) ≤ equipmentNumericScale))
          rw [scaleNumeric_finite, scaleNumeric_finite]
          omega
      | infinity negative =>
          cases negative with
          | true => cases hle
          | false => exact (scaleNumeric_mem _).2
      | nan => cases hle
  | infinity negative =>
      cases negative with
      | true => exact (scaleNumeric_mem second).1
      | false =>
          cases second with
          | infinity other =>
              cases other with
              | true => cases hle
              | false => exact le_rfl
          | finite | nan => cases hle
  | nan => cases hle

/-! ## The slider -/

/-- `numeric_range` -/
def numericRange (tag : Tag) : Double × Double :=
  let minimum := if tag.hasMinimum then tag.minimum else .finite 0
  let maximum := if tag.hasMaximum then tag.maximum else .finite 100
  (minimum, if maximum ≤ minimum then minimum.addExact 100 else maximum)

/-- The smallest and the largest value of a tag, where the server gives none the default. -/
def tagBounds (tag : Tag) : Double × Double :=
  (if tag.hasMinimum then tag.minimum else .finite 0,
    if tag.hasMaximum then tag.maximum else .finite 100)

/-- The number that `update_tag_binding` shows for a tag. -/
def shownNumber (tag : Tag) : Double :=
  if tag.dataType = .integer then .finite tag.value.integerValue else tag.value.numericValue

section

variable (setValue : ℤ → ℤ → ℤ → ℤ)

/-- Where a slider made for `created` stands when it shows `tag`.  `setValue` is what LVGL stores of
a value in a range. -/
def sliderValue (created tag : Tag) : ℤ :=
  let range := numericRange created
  setValue (scaleNumeric range.1) (scaleNumeric range.2) (scaleNumeric (shownNumber tag))

/-- The value that `numeric_slider_event` writes when the slider is released there. -/
def releasedValue (sliderValue : ℤ) : ℚ :=
  sliderValue / equipmentNumericScale

variable (undefinedConversion : IntegerType → Double → ℤ) (toFloat : Double → Double)

/-- Releasing the slider that shows the tag writes the value of the tag. -/
def ReleasesUnchanged (context : Context) (tagIndex : ℕ) (created tag : Tag) (target : NodeId) :
    Prop :=
  ∃ call sent, issuedWrite undefinedConversion toFloat context
      (numberRequest (some tagIndex) (.finite (releasedValue (sliderValue setValue created tag)))
        target) = some (call, sent) ∧
    sent.integer = some tag.value.integerValue

end

/-! ## Releasing the slider -/

variable {setValue : ℤ → ℤ → ℤ → ℤ} {undefinedConversion : IntegerType → Double → ℤ}
  {toFloat : Double → Double} {context : Context} {tagIndex : ℕ} {created tag : Tag}
  {builtin : BuiltinType} {type : IntegerType} {target : NodeId}

/-- The slider stores what it is given, because that lies in its range. -/
theorem sliderValue_eq
    (hstores : ∀ low high value, low ≤ value → value ≤ high → setValue low high value = value)
    (hbounds : tagBounds created = tagBounds tag) (hrange : ¬(tagBounds tag).2 ≤ (tagBounds tag).1)
    (hlow : (tagBounds tag).1 ≤ shownNumber tag) (hhigh : shownNumber tag ≤ (tagBounds tag).2) :
    sliderValue setValue created tag = scaleNumeric (shownNumber tag) := by
  have hnumericRange : numericRange created = tagBounds tag := by
    rw [← hbounds] at hrange ⊢
    exact Prod.ext rfl (if_neg hrange)
  unfold sliderValue
  rw [hnumericRange]
  apply hstores
  · exact scaleNumeric_mono hlow
  · exact scaleNumeric_mono hhigh

/-- The integral part of what is written back. -/
theorem integralPart_releasedValue (value : ℤ) :
    Double.integralPart (releasedValue (scaleNumeric (.finite value))) =
      max (-21474836) (min 21474836 value) := by
  rw [scaleNumeric_intCast]
  rcases lt_or_ge value (-21474836) with hlow | hlow
  · have hsaturated : max int32Min (min int32Max (100 * value)) = int32Min := by
      simp only [int32Min, int32Max]
      omega
    have hpart : Double.integralPart (releasedValue int32Min) = -21474836 := by decide +kernel
    rw [hsaturated, hpart]
    omega
  rcases lt_or_ge 21474836 value with hhigh | hhigh
  · have hsaturated : max int32Min (min int32Max (100 * value)) = int32Max := by
      simp only [int32Min, int32Max]
      omega
    have hpart : Double.integralPart (releasedValue int32Max) = 21474836 := by decide +kernel
    rw [hsaturated, hpart]
    omega
  · have hexact : max int32Min (min int32Max (100 * value)) = 100 * value := by
      simp only [int32Min, int32Max]
      omega
    have hreleased : releasedValue (100 * value) = (value : ℚ) := by
      unfold releasedValue
      push_cast
      exact mul_div_cancel_left₀ _ (by norm_num)
    rw [hexact, hreleased, Double.integralPart_intCast]
    omega

/-- All values between 0 and a value of the type are values of the type. -/
theorem holds_of_between {value other : ℤ} (hholds : type.Holds value)
    (hbetween : (0 ≤ other ∧ other ≤ value) ∨ (value ≤ other ∧ other ≤ 0)) : type.Holds other := by
  obtain ⟨hleast, hgreatest⟩ := hholds
  have hnonpos : type.least ≤ 0 := by
    unfold IntegerType.least
    split
    · exact neg_nonpos.mpr (by positivity)
    · exact le_rfl
  have hnonneg : 0 ≤ type.greatest := by
    unfold IntegerType.greatest
    split
    · exact Int.sub_nonneg_of_le (one_le_pow₀ (by norm_num))
    · exact Int.sub_nonneg_of_le (one_le_pow₀ (by norm_num))
  constructor <;> omega

/-- A number for a writable tag of an integer type is written. -/
theorem issuedWrite_eq_some {value : ℚ} (htag : context.dataModel.getTag tagIndex = some tag)
    (hwritable : tag.writable = true) (hmapped : tagIndex < context.tagNodeIds.length)
    (hbuiltin : context.tagBuiltinTypeIndices.getD tagIndex none = some builtin)
    (htype : builtin.integerType = some type) :
    ∃ call, issuedWrite undefinedConversion toFloat context
        (numberRequest (some tagIndex) (.finite value) target) =
      some (call, builtin.integerScalar (castTo undefinedConversion type (.finite value))) := by
  have hwrites : WriteRequestType.number.writes (some builtin) = some builtin := by
    cases builtin <;> cases htype <;> rfl
  have haccepts : Accepts context (numberRequest (some tagIndex) (.finite value) target) := by
    refine ⟨tagIndex, tag, rfl, hmapped, htag, hwritable, ?_⟩
    rw [hbuiltin]
    exact Option.isSome_iff_exists.mpr ⟨builtin, hwrites⟩
  obtain ⟨call, hcall, -, -⟩ := exists_processWriteRequest haccepts
  refine ⟨call, ?_⟩
  rw [issuedWrite, hcall, Option.map_some, type_of_processWriteRequest hbuiltin hcall,
    preparedValue_of_integerType htype]
  rfl

/-- Releasing a slider that was not moved writes the value that it shows if and only if the type of
the tag has that value and a hundred times it does not saturate. -/
theorem releasesUnchanged_iff
    (hstores : ∀ low high value, low ≤ value → value ≤ high → setValue low high value = value)
    (undefinedConversion : IntegerType → Double → ℤ) (toFloat : Double → Double) (target : NodeId)
    (htag : context.dataModel.getTag tagIndex = some tag) (hinteger : tag.dataType = .integer)
    (hwritable : tag.writable = true) (hmapped : tagIndex < context.tagNodeIds.length)
    (hbuiltin : context.tagBuiltinTypeIndices.getD tagIndex none = some builtin)
    (htype : builtin.integerType = some type) (hbounds : tagBounds created = tagBounds tag)
    (hrange : ¬(tagBounds tag).2 ≤ (tagBounds tag).1)
    (hlow : (tagBounds tag).1 ≤ .finite tag.value.integerValue)
    (hhigh : .finite tag.value.integerValue ≤ (tagBounds tag).2) :
    ReleasesUnchanged setValue undefinedConversion toFloat context tagIndex created tag target ↔
      type.Holds tag.value.integerValue ∧ -21474836 ≤ tag.value.integerValue ∧
        tag.value.integerValue ≤ 21474836 := by
  have hshown : shownNumber tag = .finite tag.value.integerValue := if_pos hinteger
  rw [← hshown] at hlow hhigh
  have hslider := sliderValue_eq hstores hbounds hrange hlow hhigh
  have hpart := integralPart_releasedValue tag.value.integerValue
  rw [← hshown, ← hslider] at hpart
  obtain ⟨call, hissued⟩ := @issuedWrite_eq_some undefinedConversion toFloat context tagIndex tag
    builtin type target (releasedValue (sliderValue setValue created tag)) htag hwritable hmapped
    hbuiltin htype
  unfold ReleasesUnchanged
  rw [hissued]
  constructor
  · rintro ⟨_, _, hsome, hsent⟩
    obtain ⟨rfl, rfl⟩ := Prod.mk.inj (Option.some.inj hsome)
    have hholds := holds_of_integer htype hsent
    -- the saturated value is closer to 0, so the type has it as well and it is what was sent
    have hsaturated : type.Holds (max (-21474836) (min 21474836 tag.value.integerValue)) :=
      holds_of_between hholds (by omega)
    have hcast : castTo undefinedConversion type
        (.finite (releasedValue (sliderValue setValue created tag))) = _ :=
      castTo_of_holds (hpart ▸ hsaturated)
    rw [hcast, hpart, integer_integerScalar htype hsaturated] at hsent
    have hsame := Option.some.inj hsent
    exact ⟨hholds, by omega⟩
  · rintro ⟨hholds, hbound⟩
    refine ⟨call, _, rfl, ?_⟩
    have hsame : max (-21474836) (min 21474836 tag.value.integerValue) =
        tag.value.integerValue := by omega
    rw [hsame] at hpart
    rw [castTo_of_holds (hpart ▸ hholds), hpart]
    exact integer_integerScalar htype hholds

/-- A counter of type Int32 that goes up to a hundred million. -/
private def counterTag (value : ℤ) : Tag where
  dataType := .integer
  writable := true
  hasMinimum := true
  hasMaximum := true
  minimum := .finite 0
  maximum := .finite 100000000
  valueValid := true
  value := { integerValue := value }

private def counterContext (value : ℤ) : Context where
  configuration := ⟨4, 4, 4⟩
  dataModel := { DataModel.empty 4 4 with tags := [counterTag value] }
  tagNodeIds := [⟨1, .numeric 7⟩]
  tagBuiltinTypeIndices := [some .int32]

/-- What LVGL stores of a value in a range. -/
private def clampValue (low high value : ℤ) : ℤ :=
  max low (min high value)

/-- The slider of the counter at thirty million writes another number, though it is a value of the
type and in the range of the tag. -/
theorem counterTag_changed :
    (tagBounds (counterTag 30000000)).1 ≤ .finite 30000000 ∧
      .finite 30000000 ≤ (tagBounds (counterTag 30000000)).2 ∧
      (IntegerType.mk true 32).Holds 30000000 ∧
      ¬ReleasesUnchanged clampValue (fun _ _ => 0) id (counterContext 30000000) 0
        (counterTag 30000000) (counterTag 30000000) ⟨1, .numeric 7⟩ := by
  refine ⟨by decide +kernel, by decide +kernel, by decide +kernel, ?_⟩
  rintro ⟨call, sent, hissued, hsent⟩
  have hwritten : (issuedWrite (fun _ _ => 0) id (counterContext 30000000)
      (numberRequest (some 0) (.finite (releasedValue
        (sliderValue clampValue (counterTag 30000000) (counterTag 30000000)))) ⟨1, .numeric 7⟩)).map
      (fun written => written.2.integer) = some (some 21474836) := by decide +kernel
  rw [hissued, Option.map_some, hsent] at hwritten
  exact absurd hwritten (by decide)

/-- At a thousand it writes a thousand. -/
theorem counterTag_unchanged :
    ReleasesUnchanged clampValue (fun _ _ => 0) id (counterContext 1000) 0 (counterTag 1000)
      (counterTag 1000) ⟨1, .numeric 7⟩ :=
  (@releasesUnchanged_iff clampValue (counterContext 1000) 0 (counterTag 1000) (counterTag 1000)
    .int32 ⟨true, 32⟩ (fun low high value hlow hhigh => by unfold clampValue; omega) (fun _ _ => 0)
    id ⟨1, .numeric 7⟩ rfl rfl rfl (by decide) rfl rfl rfl (by decide +kernel) (by decide +kernel)
    (by decide +kernel)).mpr (by decide +kernel)

end CrowPanel.Ui
