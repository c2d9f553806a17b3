import CrowPanel.Ui.Slider
import Mathlib.Tactic.Positivity
import Mathlib.Tactic.GCongr

/-!
# The scale of a trend

`update_chart_points` draws the samples of a window in a chart from 0 to 100.  The axis comes from the
bounds of the tag, or else from the samples, with a margin where the axis would be empty or where the
tag does not name both bounds.  Arithmetic on `double` is exact here.

## Strategy

The three parts of the function have one lemma each.  The range encloses the samples unless the tag
gives it (`chartRange_encloses`), the margins make it longer and never empty (`paddedRange_spec`), and on
an axis that is not empty the scale is monotone and stays within the chart (`chartValue_mono`,
`chartValue_mem`).
-/

namespace CrowPanel.Ui

/-! ## The function -/

/-- `sample_valid[index]` and `samples[index]` -/
structure TrendSample where
  valid : Bool
  value : ℚ

/-- The bounds of a `data_model_tag_t`. -/
structure TrendBounds where
  hasMinimum : Bool
  hasMaximum : Bool
  minimum : ℚ
  maximum : ℚ

/-- The local variables `minimum`, `maximum` and `range_valid` of `update_chart_points`. -/
structure ChartRange where
  minimum : ℚ := 0
  maximum : ℚ := 0
  valid : Bool := false
  deriving DecidableEq

/-- What is drawn: a number for each point, where `none` is `LV_CHART_POINT_NONE`, and the ends of the
axis, where `none` stands for the labels "--". -/
structure TrendChart where
  points : List (Option ℤ)
  axis : Option (ℚ × ℚ)
  deriving DecidableEq

/-- One pass of the loop that looks for the smallest and the largest sample. -/
def ChartRange.cover (range : ChartRange) (sample : TrendSample) : ChartRange :=
  if sample.valid = false then range
  else if range.valid = false then ⟨sample.value, sample.value, true⟩
  else
    { range with
      minimum := if sample.value < range.minimum then sample.value else range.minimum
      maximum := if range.maximum < sample.value then sample.value else range.maximum }

/-- The tag names a range. -/
def TrendBounds.Usable (tag : TrendBounds) : Prop :=
  tag.hasMinimum = true ∧ tag.hasMaximum = true ∧ tag.minimum < tag.maximum

instance (tag : TrendBounds) : Decidable tag.Usable :=
  inferInstanceAs (Decidable (_ ∧ _))

/-- The range before its margins. -/
def chartRange (samples : List TrendSample) (tag : TrendBounds) : ChartRange :=
  if tag.Usable then ⟨tag.minimum, tag.maximum, true⟩
  else samples.foldl ChartRange.cover {}

/-- `fmax(fabs(minimum) * 0.1, 1.0)` -/
def emptyPadding (minimum : ℚ) : ℚ :=
  max (|minimum| * (1 / 10)) 1

/-- The range with its margins. -/
def paddedRange (tag : TrendBounds) (range : ChartRange) : ChartRange :=
  if range.maximum ≤ range.minimum then
    let padding := emptyPadding range.minimum
    { range with minimum := range.minimum - padding, maximum := range.maximum + padding }
  else if ¬ (tag.hasMinimum = true ∧ tag.hasMaximum = true) then
    let padding := (range.maximum - range.minimum) * (1 / 10)
    { range with minimum := range.minimum - padding, maximum := range.maximum + padding }
  else range

/-- A division on `double`; there is no result for a divisor of zero. -/
def divide (dividend divisor : ℚ) : Option ℚ :=
  if divisor = 0 then none else some (dividend / divisor)

/-- The place of a value on an axis, before it is clipped. -/
def normalized (range : ChartRange) (value : ℚ) : Option ℚ :=
  divide ((value - range.minimum) * 100) (range.maximum - range.minimum)

/-- `normalized` is clipped to the chart. -/
def clipped (normalized : ℚ) : ℚ :=
  let normalized := if normalized < 0 then 0 else normalized
  if 100 < normalized then 100 else normalized

/-- The point of one sample in the last loop. -/
def chartPoint (range : ChartRange) (sample : TrendSample) : Option (Option ℤ) :=
  if sample.valid = true then
    (normalized range sample.value).map fun value => some (lround (clipped value))
  else some none

/-- `update_chart_points` on a window of samples; there is no result if it divides by zero. -/
def updateChartPoints (samples : List TrendSample) (tag : TrendBounds) : Option TrendChart :=
  let range := chartRange samples tag
  if range.valid = false then some ⟨samples.map fun _ => none, none⟩
  else
    let range := paddedRange tag range
    (samples.mapM (chartPoint range)).map fun points =>
      ⟨points, some (range.minimum, range.maximum)⟩

example : updateChartPoints [⟨true, 5⟩, ⟨false, 9⟩, ⟨true, 15⟩] ⟨false, false, 0, 0⟩ =
    some ⟨[some 8, none, some 92], some (4, 16)⟩ := by
  decide +kernel

/-! ## The range -/

section

variable {samples : List TrendSample} {tag : TrendBounds} {range : ChartRange}

/-- All valid samples lie in the range, and there is one if it is valid. -/
structure ChartRange.Encloses (range : ChartRange) (samples : List TrendSample) : Prop where
  valid : range.valid = true ↔ ∃ sample ∈ samples, sample.valid = true
  ordered : range.valid = true → range.minimum ≤ range.maximum
  within : ∀ sample ∈ samples, sample.valid = true →
    range.minimum ≤ sample.value ∧ sample.value ≤ range.maximum

theorem ChartRange.Encloses.cover (hrange : range.Encloses samples) (sample : TrendSample) :
    (range.cover sample).Encloses (samples ++ [sample]) := by
  unfold ChartRange.cover
  split
  · next hinvalid =>
      refine ⟨?_, hrange.ordered, fun other hother hvalid => ?_⟩
      · rw [hrange.valid]
        simp [hinvalid]
      · rcases List.mem_append.mp hother with hold | hnew
        · exact hrange.within other hold hvalid
        · obtain rfl := List.mem_singleton.mp hnew
          rw [hinvalid] at hvalid
          cases hvalid
  next hvalid =>
  rw [Bool.not_eq_false] at hvalid
  have hexists : ∃ other ∈ samples ++ [sample], other.valid = true :=
    ⟨sample, by simp, hvalid⟩
  split
  · next hfirst =>
      refine ⟨iff_of_true rfl hexists, fun _ => le_rfl, fun other hother hother' => ?_⟩
      rcases List.mem_append.mp hother with hold | hnew
      · rw [hrange.valid.mpr ⟨other, hold, hother'⟩] at hfirst
        cases hfirst
      · obtain rfl := List.mem_singleton.mp hnew
        exact ⟨le_rfl, le_rfl⟩
  next hlater =>
  rw [Bool.not_eq_false] at hlater
  have hordered := hrange.ordered hlater
  -- the new ends of the range lie around the old ones
  rw [← min_def_lt, ← max_def_lt]
  refine ⟨iff_of_true hlater hexists, fun _ => ?_, fun other hother hother' => ?_⟩
  · calc
      min sample.value range.minimum ≤ range.minimum := min_le_right _ _
      _ ≤ range.maximum := hordered
      _ ≤ max range.maximum sample.value := le_max_left _ _
  rcases List.mem_append.mp hother with hold | hnew
  · obtain ⟨hleft, hright⟩ := hrange.within other hold hother'
    exact ⟨(min_le_right _ _).trans hleft, hright.trans (le_max_left _ _)⟩
  · obtain rfl := List.mem_singleton.mp hnew
    exact ⟨min_le_left _ _, le_max_right _ _⟩

theorem encloses_foldl (samples : List TrendSample) :
    (samples.foldl ChartRange.cover {}).Encloses samples := by
  induction samples using List.reverseRecOn with
  | nil => exact ⟨by simp, by simp, by simp⟩
  | append_singleton samples sample ih =>
      rw [List.foldl_append, List.foldl_cons, List.foldl_nil]
      exact ih.cover sample

/-- Without a range of the tag, the range encloses the samples. -/
theorem chartRange_encloses (htag : ¬ tag.Usable) : (chartRange samples tag).Encloses samples := by
  rw [chartRange, if_neg htag]
  exact encloses_foldl samples

/-- A range that is valid runs from its minimum to its maximum. -/
theorem chartRange_ordered (hvalid : (chartRange samples tag).valid = true) :
    (chartRange samples tag).minimum ≤ (chartRange samples tag).maximum := by
  by_cases htag : tag.Usable
  · rw [chartRange, if_pos htag]
    exact htag.2.2.le
  · exact (chartRange_encloses htag).ordered hvalid

theorem one_le_emptyPadding (minimum : ℚ) : 1 ≤ emptyPadding minimum :=
  le_max_right _ _

/-- The margins make an axis that is not empty and that encloses what the range does. -/
theorem paddedRange_spec (tag : TrendBounds) (hordered : range.minimum ≤ range.maximum) :
    (paddedRange tag range).minimum < (paddedRange tag range).maximum ∧
      (paddedRange tag range).minimum ≤ range.minimum ∧
        range.maximum ≤ (paddedRange tag range).maximum := by
  unfold paddedRange
  split
  · have hpadding := one_le_emptyPadding range.minimum
    dsimp only
    refine ⟨?_, ?_, ?_⟩ <;> linarith
  · next hlonger =>
      have hlonger := not_le.mp hlonger
      split
      · dsimp only
        refine ⟨?_, ?_, ?_⟩ <;> linarith
      · exact ⟨hlonger, le_rfl, le_rfl⟩

/-! ## The scale -/

/-- The point of a value on an axis that is not empty. -/
def chartValue (range : ChartRange) (value : ℚ) : ℤ :=
  lround (clipped ((value - range.minimum) * 100 / (range.maximum - range.minimum)))

theorem clipped_eq (normalized : ℚ) : clipped normalized = min (max normalized 0) 100 := by
  unfold clipped
  dsimp only
  split_ifs with hlow hhigh hhigh
  · exact absurd hhigh (by norm_num)
  · rw [max_eq_right hlow.le, min_eq_left (by norm_num)]
  · rw [max_eq_left (not_lt.mp hlow), min_eq_right hhigh.le]
  · rw [max_eq_left (not_lt.mp hlow), min_eq_left (not_lt.mp hhigh)]

/-- Every point lies in the chart. -/
theorem chartValue_mem (range : ChartRange) (value : ℚ) :
    0 ≤ chartValue range value ∧ chartValue range value ≤ 100 := by
  have hclipped : ∀ normalized, 0 ≤ clipped normalized ∧ clipped normalized ≤ 100 := by
    intro normalized
    rw [clipped_eq]
    exact ⟨le_min (le_max_right _ _) (by norm_num), min_le_right _ _⟩
  obtain ⟨hlow, hhigh⟩ := hclipped
    ((value - range.minimum) * 100 / (range.maximum - range.minimum))
  have hzero := lround_intCast 0
  have hhundred := lround_intCast 100
  push_cast at hzero hhundred
  unfold chartValue
  constructor
  · rw [← hzero]
    exact lround_mono hlow
  · rw [← hhundred]
    exact lround_mono hhigh

/-- A larger value is never drawn lower. -/
theorem chartValue_mono (haxis : range.minimum < range.maximum) {first second : ℚ}
    (hle : first ≤ second) : chartValue range first ≤ chartValue range second := by
  have hspan : 0 < range.maximum - range.minimum := sub_pos.mpr haxis
  have hnormalized : (first - range.minimum) * 100 / (range.maximum - range.minimum) ≤
      (second - range.minimum) * 100 / (range.maximum - range.minimum) := by
    gcongr
  unfold chartValue
  rw [clipped_eq, clipped_eq]
  exact lround_mono (min_le_min_right _ (max_le_max_right _ hnormalized))

/-- Nothing is clipped of a value on the axis. -/
theorem chartValue_of_within (haxis : range.minimum < range.maximum) {value : ℚ}
    (hlow : range.minimum ≤ value) (hhigh : value ≤ range.maximum) :
    chartValue range value =
      lround ((value - range.minimum) * 100 / (range.maximum - range.minimum)) := by
  have hspan : 0 < range.maximum - range.minimum := sub_pos.mpr haxis
  have hnonneg : 0 ≤ (value - range.minimum) * 100 / (range.maximum - range.minimum) :=
    div_nonneg (mul_nonneg (sub_nonneg.mpr hlow) (by norm_num)) hspan.le
  have hle : (value - range.minimum) * 100 / (range.maximum - range.minimum) ≤ 100 := by
    rw [div_le_iff₀ hspan]
    linarith
  rw [chartValue, clipped_eq, max_eq_left hnonneg, min_eq_left hle]

/-- What is drawn for a sample. -/
def pointOf (range : ChartRange) (sample : TrendSample) : Option ℤ :=
  if sample.valid = true then some (chartValue range sample.value) else none

/-- On an axis that is not empty nothing is divided by zero. -/
theorem mapM_chartPoint (haxis : range.minimum < range.maximum) (samples : List TrendSample) :
    samples.mapM (chartPoint range) = some (samples.map (pointOf range)) := by
  have hspan : range.maximum - range.minimum ≠ 0 := (sub_pos.mpr haxis).ne'
  induction samples with
  | nil => rfl
  | cons sample samples ih =>
      have hpoint : chartPoint range sample = some (pointOf range sample) := by
        unfold chartPoint pointOf
        split
        · rw [normalized, divide, if_neg hspan]
          rfl
        · rfl
      rw [List.mapM_cons, hpoint, ih]
      rfl

/-- What a chart shows of a window of samples. -/
structure Draws (samples : List TrendSample) (chart : TrendChart) : Prop where
  length : chart.points.length = samples.length
  invalid : ∀ (index : ℕ) (sample : TrendSample), samples[index]? = some sample →
    sample.valid = false → chart.points[index]? = some none
  valid : ∀ (index : ℕ) (sample : TrendSample), samples[index]? = some sample →
    sample.valid = true →
      ∃ value, chart.points[index]? = some (some value) ∧ 0 ≤ value ∧ value ≤ 100
  monotone : ∀ (index other : ℕ) (sample later : TrendSample) (value higher : ℤ),
    samples[index]? = some sample → samples[other]? = some later → sample.value ≤ later.value →
      chart.points[index]? = some (some value) → chart.points[other]? = some (some higher) →
        value ≤ higher

/-- The samples are drawn where they lie on an axis that encloses them. -/
def Unclipped (samples : List TrendSample) (chart : TrendChart) : Prop :=
  ∀ (index : ℕ) (sample : TrendSample), samples[index]? = some sample → sample.valid = true →
    ∃ minimum maximum, chart.axis = some (minimum, maximum) ∧ minimum < maximum ∧
      minimum ≤ sample.value ∧ sample.value ≤ maximum ∧
      chart.points[index]? =
        some (some (lround ((sample.value - minimum) * 100 / (maximum - minimum))))

theorem draws_pointOf (haxis : range.minimum < range.maximum) (samples : List TrendSample) :
    Draws samples ⟨samples.map (pointOf range), some (range.minimum, range.maximum)⟩ where
  length := List.length_map _
  invalid := by
    intro index sample hsample hinvalid
    rw [List.getElem?_map, hsample, Option.map_some, pointOf, if_neg (by simp [hinvalid])]
  valid := by
    intro index sample hsample hvalid
    refine ⟨chartValue range sample.value, ?_, chartValue_mem range sample.value⟩
    rw [List.getElem?_map, hsample, Option.map_some, pointOf, if_pos hvalid]
  monotone := by
    intro index other sample later value higher hsample hlater hle hvalue hhigher
    rw [List.getElem?_map, hsample, Option.map_some, Option.some_inj, pointOf,
      Option.ite_none_right_eq_some] at hvalue
    rw [List.getElem?_map, hlater, Option.map_some, Option.some_inj, pointOf,
      Option.ite_none_right_eq_some] at hhigher
    rw [← Option.some_inj.mp hvalue.2, ← Option.some_inj.mp hhigher.2]
    exact chartValue_mono haxis hle

/-- A window without a valid sample. -/
theorem draws_none (hnone : ∀ sample ∈ samples, ¬ sample.valid = true) :
    Draws samples ⟨samples.map fun _ => none, none⟩ where
  length := List.length_map _
  invalid := by
    intro index sample hsample _
    rw [List.getElem?_map, hsample, Option.map_some]
  valid := by
    intro index sample hsample hvalid
    exact absurd hvalid (hnone sample (List.mem_of_getElem? hsample))
  monotone := by
    intro index other sample later value higher hsample _ _ hvalue
    rw [List.getElem?_map, hsample] at hvalue
    cases hvalue

/-- **The scale of a trend.**  For every window and every bounds the function divides by no zero, draws
every valid sample within the chart and no other, and never draws a larger sample lower.  Unless the
tag names a range, no sample is clipped. -/
theorem updateChartPoints_draws (samples : List TrendSample) (tag : TrendBounds) :
    ∃ chart, updateChartPoints samples tag = some chart ∧ Draws samples chart ∧
      (¬ tag.Usable → Unclipped samples chart) := by
  unfold updateChartPoints
  dsimp only
  split
  · next hinvalid =>
      have htag : ¬ tag.Usable := by
        intro htag
        rw [chartRange, if_pos htag] at hinvalid
        cases hinvalid
      have hnone : ∀ sample ∈ samples, ¬ sample.valid = true := by
        intro sample hsample hvalid
        rw [(chartRange_encloses htag).valid.mpr ⟨sample, hsample, hvalid⟩] at hinvalid
        cases hinvalid
      refine ⟨_, rfl, draws_none hnone, fun _ index sample hsample hvalid => ?_⟩
      exact absurd hvalid (hnone sample (List.mem_of_getElem? hsample))
  · next hvalid =>
      rw [Bool.not_eq_false] at hvalid
      obtain ⟨haxis, hlow, hhigh⟩ := paddedRange_spec tag (chartRange_ordered hvalid)
      refine ⟨_, by rw [mapM_chartPoint haxis]; rfl, draws_pointOf haxis samples, ?_⟩
      intro htag index sample hsample hsampleValid
      obtain ⟨hleft, hright⟩ := (chartRange_encloses htag).within sample
        (List.mem_of_getElem? hsample) hsampleValid
      refine ⟨_, _, rfl, haxis, hlow.trans hleft, hright.trans hhigh, ?_⟩
      rw [← chartValue_of_within haxis (hlow.trans hleft) (hright.trans hhigh),
        List.getElem?_map, hsample, Option.map_some, pointOf, if_pos hsampleValid]

end

end CrowPanel.Ui
