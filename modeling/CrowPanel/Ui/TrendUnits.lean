import CrowPanel.Ui.TrendHistory
import Mathlib.Tactic.FieldSimp

/-!
# Trends and units

The same signal can be published in another unit, or counted the other way round: its values and its
bounds are converted by an affine map.  The chart of the signal then stays the same, or it is turned
upside down, and so is the text if the tag names its range.

## Strategy

The axis before its margins converts as the samples do (`chartRange_convert`).  An axis whose ends are
equal is a margin around them, with every sample in its middle; on any other one the place of a sample
is a quotient of differences, which the conversion leaves alone (`position_convert`).  The text is a
function of two such quotients (`trendText_convert`).
-/

namespace CrowPanel.Ui

open Library

/-- An affine change of the unit; a negative factor reverses the scale. -/
structure UnitChange where
  factor : ℚ
  offset : ℚ
  factor_ne_zero : factor ≠ 0

namespace UnitChange

def convert (unit : UnitChange) (value : ℚ) : ℚ :=
  unit.factor * value + unit.offset

/-- The bounds in the new unit; they change places if the scale is reversed. -/
def bounds (unit : UnitChange) (tag : TrendBounds) : TrendBounds :=
  if 0 < unit.factor then
    ⟨tag.hasMinimum, tag.hasMaximum, unit.convert tag.minimum, unit.convert tag.maximum⟩
  else ⟨tag.hasMaximum, tag.hasMinimum, unit.convert tag.maximum, unit.convert tag.minimum⟩

def reading (unit : UnitChange) (reading : TrendReading) : TrendReading :=
  ⟨unit.bounds reading.bounds, reading.value.map unit.convert⟩

def sample (unit : UnitChange) (sample : TrendSample) : TrendSample :=
  if sample.valid then ⟨true, unit.convert sample.value⟩ else sample

/-- The axis in the new unit, if there is one. -/
def range (unit : UnitChange) (range : ChartRange) : ChartRange :=
  if range.valid then
    if 0 < unit.factor then ⟨unit.convert range.minimum, unit.convert range.maximum, true⟩
    else ⟨unit.convert range.maximum, unit.convert range.minimum, true⟩
  else range

/-- The text for the reversed scale. -/
def mirrored : TrendText → TrendText
  | .rising => .falling
  | .risingSlowly => .fallingSlowly
  | .falling => .rising
  | .fallingSlowly => .risingSlowly
  | text => text

def text (unit : UnitChange) (text : TrendText) : TrendText :=
  if 0 < unit.factor then text else mirrored text

/-- The same point, or its mirror image; halves are rounded up on both sides. -/
def SamePoint (unit : UnitChange) : Option ℤ → Option ℤ → Prop
  | none, none => True
  | some first, some second =>
      if 0 < unit.factor then second = first
      else 100 ≤ first + second ∧ first + second ≤ 101
  | _, _ => False

variable {unit : UnitChange} {samples : List TrendSample} {tag : TrendBounds} {first second : ℚ}

/-! ## The conversion -/

theorem convert_lt_iff (hpos : 0 < unit.factor) :
    unit.convert first < unit.convert second ↔ first < second := by
  rw [convert, convert, add_lt_add_iff_right, mul_lt_mul_iff_right₀ hpos]

theorem convert_lt_iff_of_neg (hneg : unit.factor < 0) :
    unit.convert first < unit.convert second ↔ second < first := by
  rw [convert, convert, add_lt_add_iff_right, mul_lt_mul_left_of_neg hneg]

theorem neg_of_not_pos (hpos : ¬0 < unit.factor) : unit.factor < 0 :=
  lt_of_le_of_ne (not_lt.mp hpos) unit.factor_ne_zero

theorem convert_sub : unit.convert first - unit.convert second = unit.factor * (first - second) := by
  rw [convert, convert]
  ring

@[simp] theorem sample_valid (sample : TrendSample) : (unit.sample sample).valid = sample.valid := by
  unfold UnitChange.sample
  split
  · next hvalid => rw [hvalid]
  · rfl

theorem sample_trendSample (value : Option ℚ) :
    unit.sample (trendSample value) = trendSample (value.map unit.convert) := by
  cases value with
  | none => rfl
  | some value => rfl

theorem bounds_usable : (unit.bounds tag).Usable ↔ tag.Usable := by
  unfold bounds TrendBounds.Usable
  split_ifs with hpos
  · rw [convert_lt_iff hpos]
  · rw [convert_lt_iff_of_neg (neg_of_not_pos hpos), and_left_comm]

/-! ## The axis -/

theorem monotone_convert (hpos : 0 < unit.factor) : Monotone unit.convert := by
  intro first second hle
  unfold convert
  have := mul_le_mul_of_nonneg_left hle hpos.le
  linarith

theorem antitone_convert (hneg : unit.factor < 0) : Antitone unit.convert := by
  intro first second hle
  unfold convert
  have := mul_le_mul_of_nonpos_left hle hneg.le
  linarith

/-- One pass of the loop over valid samples. -/
theorem cover_of_valid {range : ChartRange} {sample : TrendSample} (hrange : range.valid = true)
    (hsample : sample.valid = true) :
    range.cover sample = ⟨min range.minimum sample.value, max range.maximum sample.value, true⟩ := by
  have hsplit : ¬range.valid = false := by simp [hrange]
  rw [ChartRange.cover, if_neg (by simp [hsample]), if_neg hsplit, min_comm, min_def_lt, max_def_lt]
  simp [hrange]

theorem range_cover (range : ChartRange) (sample : TrendSample) :
    unit.range (range.cover sample) = (unit.range range).cover (unit.sample sample) := by
  cases hsample : sample.valid with
  | false =>
      have hskip : ∀ range : ChartRange, range.cover sample = range := by
        intro range
        rw [ChartRange.cover, if_pos hsample]
      have hsame : unit.sample sample = sample := by
        rw [UnitChange.sample, if_neg (by simp [hsample])]
      rw [hsame, hskip, hskip]
  | true =>
      have hconverted : unit.sample sample = ⟨true, unit.convert sample.value⟩ := by
        rw [UnitChange.sample, if_pos hsample]
      rw [hconverted]
      cases hrange : range.valid with
      | false =>
          have hbegin : range.cover sample = ⟨sample.value, sample.value, true⟩ := by
            rw [ChartRange.cover, if_neg (by simp [hsample]), if_pos hrange]
          have hsame : unit.range range = range := by
            rw [UnitChange.range, if_neg (by simp [hrange])]
          rw [hbegin, hsame, ChartRange.cover, if_neg (by simp), if_pos hrange, UnitChange.range,
            if_pos rfl]
          split_ifs
          · rfl
          · rfl
      | true =>
          rw [cover_of_valid hrange hsample, UnitChange.range, UnitChange.range, if_pos rfl,
            if_pos hrange]
          split_ifs with hpos
          · rw [cover_of_valid rfl rfl, (monotone_convert hpos).map_min,
              (monotone_convert hpos).map_max]
          · have hneg := neg_of_not_pos hpos
            rw [cover_of_valid rfl rfl, (antitone_convert hneg).map_min,
              (antitone_convert hneg).map_max]

/-- The axis before its margins converts as the samples do. -/
theorem chartRange_convert (unit : UnitChange) (samples : List TrendSample) (tag : TrendBounds) :
    chartRange (samples.map unit.sample) (unit.bounds tag) = unit.range (chartRange samples tag) := by
  by_cases htag : tag.Usable
  · rw [chartRange, chartRange, if_pos htag, if_pos (bounds_usable.mpr htag), UnitChange.range,
      if_pos rfl]
    unfold UnitChange.bounds
    split_ifs
    · rfl
    · rfl
  · rw [chartRange, chartRange, if_neg htag, if_neg (bounds_usable.not.mpr htag), List.foldl_map]
    have hfold : ∀ range : ChartRange,
        samples.foldl (fun range sample => range.cover (unit.sample sample)) (unit.range range) =
          unit.range (samples.foldl ChartRange.cover range) := by
      induction samples with
      | nil => exact fun range => rfl
      | cons sample samples ih =>
          intro range
          rw [List.foldl_cons, List.foldl_cons, ← range_cover, ih]
    exact hfold {}

/-! ## The place of a sample -/

/-- The place of a value on an axis, in percent. -/
def position (range : ChartRange) (value : ℚ) : ℚ :=
  (value - range.minimum) * 100 / (range.maximum - range.minimum)

/-- The place on the converted axis. -/
def place (unit : UnitChange) (position : ℚ) : ℚ :=
  if 0 < unit.factor then position else 100 - position

theorem position_range {range : ChartRange} (hvalid : range.valid = true)
    (haxis : range.minimum < range.maximum) (value : ℚ) :
    position (unit.range range) (unit.convert value) = unit.place (position range value) := by
  have hspan : range.maximum - range.minimum ≠ 0 := (sub_pos.mpr haxis).ne'
  have hfactor := unit.factor_ne_zero
  unfold UnitChange.range place position
  rw [if_pos hvalid]
  split_ifs with hpos
  · rw [convert_sub, convert_sub, mul_assoc, mul_div_mul_left _ _ hfactor]
  · have hspan' : range.minimum - range.maximum ≠ 0 := (sub_neg.mpr haxis).ne
    rw [convert_sub, convert_sub, mul_assoc, mul_div_mul_left _ _ hfactor]
    field_simp
    ring

/-- On an axis of one value its margins put the value in the middle. -/
theorem position_of_empty {range : ChartRange} (hempty : range.maximum = range.minimum) :
    position (paddedRange tag range) range.minimum = 50 := by
  have hpadding := one_le_emptyPadding range.minimum
  unfold position paddedRange
  rw [if_pos hempty.le]
  dsimp only
  rw [hempty]
  have hspan : range.minimum + emptyPadding range.minimum -
      (range.minimum - emptyPadding range.minimum) ≠ 0 := by linarith
  rw [div_eq_iff hspan]
  ring

/-- The margins of an axis that is not empty convert too. -/
theorem paddedRange_convert {range : ChartRange} (hvalid : range.valid = true)
    (haxis : range.minimum < range.maximum) :
    paddedRange (unit.bounds tag) (unit.range range) = unit.range (paddedRange tag range) := by
  have hlonger : ¬range.maximum ≤ range.minimum := not_le.mpr haxis
  have hlongerUnit : ¬(unit.range range).maximum ≤ (unit.range range).minimum := by
    rw [not_le, UnitChange.range, if_pos hvalid]
    split_ifs with hpos
    · exact (convert_lt_iff hpos).mpr haxis
    · exact (convert_lt_iff_of_neg (neg_of_not_pos hpos)).mpr haxis
  have hnamed : ((unit.bounds tag).hasMinimum = true ∧ (unit.bounds tag).hasMaximum = true) ↔
      (tag.hasMinimum = true ∧ tag.hasMaximum = true) := by
    unfold UnitChange.bounds
    split_ifs
    · exact Iff.rfl
    · exact and_comm
  rw [paddedRange, paddedRange, if_neg hlonger, if_neg hlongerUnit]
  by_cases hboth : tag.hasMinimum = true ∧ tag.hasMaximum = true
  · rw [if_neg (not_not.mpr hboth), if_neg (not_not.mpr (hnamed.mpr hboth))]
  · rw [if_pos hboth, if_pos (hnamed.not.mpr hboth)]
    simp only [UnitChange.range, hvalid, if_true, UnitChange.convert]
    split_ifs
    · congr 1
      · ring
      · ring
    · congr 1
      · ring
      · ring

theorem position_convert (unit : UnitChange) (hvalid : (chartRange samples tag).valid = true)
    {sample : TrendSample} (hsample : sample ∈ samples) (hsampleValid : sample.valid = true) :
    position (paddedRange (unit.bounds tag) (unit.range (chartRange samples tag)))
        (unit.convert sample.value) =
      unit.place (position (paddedRange tag (chartRange samples tag)) sample.value) := by
  have hordered := chartRange_ordered hvalid
  rcases hordered.eq_or_lt with hempty | haxis
  · have htag : ¬tag.Usable := by
      intro htag
      rw [chartRange, if_pos htag] at hempty
      exact htag.2.2.ne hempty
    obtain ⟨hlow, hhigh⟩ := (chartRange_encloses htag).within sample hsample hsampleValid
    have hvalue : sample.value = (chartRange samples tag).minimum :=
      le_antisymm (hhigh.trans hempty.ge) hlow
    have hunit : unit.convert sample.value = (unit.range (chartRange samples tag)).minimum ∧
        (unit.range (chartRange samples tag)).maximum =
          (unit.range (chartRange samples tag)).minimum := by
      rw [UnitChange.range, if_pos hvalid, hvalue]
      split_ifs
      · exact ⟨rfl, by rw [hempty]⟩
      · exact ⟨by rw [hempty], by rw [hempty]⟩
    rw [hunit.1, position_of_empty hunit.2, hvalue, position_of_empty hempty.symm, place]
    split_ifs
    · rfl
    · norm_num
  · have hpadded : (paddedRange tag (chartRange samples tag)).valid = true := by
      unfold paddedRange
      split_ifs
      · exact hvalid
      · exact hvalid
      · exact hvalid
    rw [paddedRange_convert hvalid haxis,
      position_range hpadded (paddedRange_spec tag hordered).1]

/-! ## The points -/

theorem clipped_mirror (position : ℚ) : clipped (100 - position) = 100 - clipped position := by
  rw [clipped_eq, clipped_eq]
  rcases le_total position 0 with hlow | hlow
  · rw [max_eq_right hlow, max_eq_left (by linarith), min_eq_right (by linarith),
      min_eq_left (by norm_num), sub_zero]
  · rw [max_eq_left hlow]
    rcases le_total position 100 with hhigh | hhigh
    · rw [min_eq_left hhigh, max_eq_left (by linarith), min_eq_left (by linarith)]
    · rw [min_eq_right hhigh, max_eq_right (by linarith), min_eq_left (by norm_num), sub_self]

/-- Rounding a place and its mirror image: halves are rounded up twice. -/
theorem lround_mirror {position : ℚ} (hlow : 0 ≤ position) (hhigh : position ≤ 100) :
    100 ≤ lround position + lround (100 - position) ∧
      lround position + lround (100 - position) ≤ 101 := by
  have hother : 0 ≤ 100 - position := by linarith
  rw [lround, lround, if_pos hlow, if_pos hother]
  have hfirst := Int.floor_le (position + 1 / 2)
  have hfirstLt := Int.lt_floor_add_one (position + 1 / 2)
  have hsecond := Int.floor_le (100 - position + 1 / 2)
  have hsecondLt := Int.lt_floor_add_one (100 - position + 1 / 2)
  constructor
  · have : (99 : ℚ) < (⌊position + 1 / 2⌋ + ⌊100 - position + 1 / 2⌋ : ℤ) := by
      push_cast
      linarith
    have : (99 : ℤ) < ⌊position + 1 / 2⌋ + ⌊100 - position + 1 / 2⌋ := by exact_mod_cast this
    omega
  · have : ((⌊position + 1 / 2⌋ + ⌊100 - position + 1 / 2⌋ : ℤ) : ℚ) ≤ 101 := by
      push_cast
      linarith
    exact_mod_cast this

theorem samePoint_convert (hvalid : (chartRange samples tag).valid = true) {sample : TrendSample}
    (hsample : sample ∈ samples) :
    unit.SamePoint (pointOf (paddedRange tag (chartRange samples tag)) sample)
      (pointOf (paddedRange (unit.bounds tag) (unit.range (chartRange samples tag)))
        (unit.sample sample)) := by
  cases hsampleValid : sample.valid with
  | false =>
      rw [pointOf, pointOf, sample_valid, if_neg (by simp [hsampleValid]),
        if_neg (by simp [hsampleValid])]
      trivial
  | true =>
      have hconverted : unit.sample sample = ⟨true, unit.convert sample.value⟩ := by
        rw [UnitChange.sample, if_pos hsampleValid]
      rw [pointOf, pointOf, if_pos hsampleValid, hconverted, if_pos rfl]
      have hposition := position_convert unit hvalid hsample hsampleValid
      generalize paddedRange tag (chartRange samples tag) = range at hposition ⊢
      generalize paddedRange (unit.bounds tag) (unit.range (chartRange samples tag)) = unitRange at *
      have hfirst : chartValue range sample.value = lround (clipped (position range sample.value)) :=
        rfl
      have hsecond : chartValue unitRange (unit.convert sample.value) =
          lround (clipped (unit.place (position range sample.value))) := by
        rw [← hposition]
        rfl
      rw [SamePoint, hfirst, hsecond, place]
      split_ifs
      · rfl
      · rw [clipped_mirror]
        refine lround_mirror ?_ ?_
        · rw [clipped_eq]
          exact le_min (le_max_right _ _) (by norm_num)
        · rw [clipped_eq]
          exact min_le_right _ _

/-- What `update_chart_points` draws. -/
theorem updateChartPoints_eq (samples : List TrendSample) (tag : TrendBounds)
    (hvalid : (chartRange samples tag).valid = true) :
    updateChartPoints samples tag =
      some ⟨samples.map (pointOf (paddedRange tag (chartRange samples tag))),
        some ((paddedRange tag (chartRange samples tag)).minimum,
          (paddedRange tag (chartRange samples tag)).maximum)⟩ := by
  have haxis := (paddedRange_spec tag (chartRange_ordered hvalid)).1
  rw [updateChartPoints]
  dsimp only
  rw [if_neg (by simp [hvalid]), mapM_chartPoint haxis]
  rfl

/-- **The chart of a signal does not depend on its unit.** -/
theorem points_convert (unit : UnitChange) {chart unitChart : TrendChart}
    (hchart : updateChartPoints samples tag = some chart)
    (hunit : updateChartPoints (samples.map unit.sample) (unit.bounds tag) = some unitChart) :
    List.Forall₂ unit.SamePoint chart.points unitChart.points := by
  have hrange := chartRange_convert unit samples tag
  cases hvalid : (chartRange samples tag).valid with
  | false =>
      have hunitValid : (chartRange (samples.map unit.sample) (unit.bounds tag)).valid = false := by
        rw [hrange, UnitChange.range, if_neg (by simp [hvalid]), hvalid]
      rw [updateChartPoints] at hchart hunit
      dsimp only at hchart hunit
      rw [if_pos hvalid] at hchart
      rw [if_pos hunitValid] at hunit
      obtain rfl := Option.some.inj hchart
      obtain rfl := Option.some.inj hunit
      rw [List.map_map, List.forall₂_map_left_iff, List.forall₂_map_right_iff, List.forall₂_same]
      exact fun _ _ => trivial
  | true =>
      have hunitValid : (chartRange (samples.map unit.sample) (unit.bounds tag)).valid = true := by
        rw [hrange, UnitChange.range, if_pos hvalid]
        split_ifs
        · rfl
        · rfl
      rw [updateChartPoints_eq _ _ hvalid] at hchart
      rw [updateChartPoints_eq _ _ hunitValid, hrange] at hunit
      obtain rfl := Option.some.inj hchart
      obtain rfl := Option.some.inj hunit
      rw [List.map_map, List.forall₂_map_left_iff, List.forall₂_map_right_iff, List.forall₂_same]
      exact fun sample hsample => samePoint_convert hvalid hsample

/-! ## The text -/

theorem describe_mirror (slope variation : ℚ) :
    describe (-slope) variation = mirrored (describe slope variation) := by
  unfold describe
  split_ifs
  all_goals first
    | rfl
    | (exfalso; linarith)

theorem foldl_convert {before after : ℚ → ℚ → ℚ}
    (hconvert : ∀ first second,
      after (unit.convert first) (unit.convert second) = unit.convert (before first second))
    (values : List ℚ) (start : ℚ) :
    (values.map unit.convert).foldl after (unit.convert start) =
      unit.convert (values.foldl before start) := by
  rw [List.foldl_map]
  exact List.foldl_hom unit.convert hconvert

/-- How far the values spread, and how far the last one is from the first. -/
theorem spread_convert (value : ℚ) (values : List ℚ) :
    (values.map unit.convert).foldl max (unit.convert value) -
        (values.map unit.convert).foldl min (unit.convert value) =
      |unit.factor| * (values.foldl max value - values.foldl min value) := by
  rcases lt_or_gt_of_ne unit.factor_ne_zero with hneg | hpos
  · rw [foldl_convert (fun _ _ => ((antitone_convert hneg).map_min).symm),
      foldl_convert (fun _ _ => ((antitone_convert hneg).map_max).symm), convert_sub, abs_of_neg hneg]
    ring
  · rw [foldl_convert (fun _ _ => ((monotone_convert hpos).map_max).symm),
      foldl_convert (fun _ _ => ((monotone_convert hpos).map_min).symm), convert_sub, abs_of_pos hpos]

theorem trendScale_convert (unit : UnitChange) (htag : tag.Usable) (last unitLast : ℚ) :
    trendScale (unit.bounds tag) unitLast = |unit.factor| * trendScale tag last := by
  rw [trendScale, trendScale, if_pos htag, if_pos (bounds_usable.mpr htag)]
  unfold UnitChange.bounds
  split_ifs with hpos
  · rw [convert_sub, abs_of_pos hpos]
  · rw [convert_sub, abs_of_neg (neg_of_not_pos hpos)]
    ring

/-- **The text of a tag that names its range does not depend on its unit.** -/
theorem trendText_convert (unit : UnitChange) (htag : tag.Usable) (values : List ℚ) :
    trendText (unit.bounds tag) (values.map unit.convert) = unit.text (trendText tag values) := by
  have hmirror : unit.text .collectingHistory = .collectingHistory := by
    unfold UnitChange.text
    split_ifs
    · rfl
    · rfl
  rcases values with _ | ⟨first, rest⟩
  · exact hmirror.symm
  · have hlast : ((first :: rest).map unit.convert).getLastD 0 =
        unit.convert ((first :: rest).getLastD 0) := by
      rw [List.map_cons, List.getLastD_cons, List.getLastD_cons, List.getLastD_map]
    have hscale := trendScale_convert unit htag ((first :: rest).getLastD 0)
      (unit.convert ((first :: rest).getLastD 0))
    have hfactor : |unit.factor| ≠ 0 := abs_ne_zero.mpr unit.factor_ne_zero
    unfold trendText
    rw [List.length_map, hlast]
    split_ifs
    · exact hmirror.symm
    · dsimp only
      rw [hscale, List.map_cons, List.headD_cons, List.headD_cons, List.max?_cons', List.max?_cons',
        List.min?_cons', List.min?_cons', Option.getD_some, Option.getD_some, Option.getD_some,
        Option.getD_some, spread_convert, mul_div_mul_left _ _ hfactor, convert_sub]
      unfold UnitChange.text
      split_ifs with hpos
      · rw [abs_of_pos hpos, mul_div_mul_left _ _ hpos.ne']
      · have hneg := neg_of_not_pos hpos
        rw [abs_of_neg hneg, ← describe_mirror, neg_mul, div_neg, mul_div_mul_left _ _ hneg.ne]

/-! ## Whole runs -/

theorem shownSamples_convert (unit : UnitChange) (readings : List TrendReading) :
    shownSamples (readings.map unit.reading) = (shownSamples readings).map unit.sample := by
  have hsample : ∀ reading : TrendReading,
      trendSample (unit.reading reading).value = unit.sample (trendSample reading.value) := by
    intro reading
    rw [sample_trendSample]
    rfl
  have hfill : unit.sample (trendSample none) = trendSample none := rfl
  rw [shownSamples, shownSamples, List.map_drop, List.map_append, List.map_replicate, hfill,
    List.map_map, List.map_map, List.length_map]
  simp only [Function.comp_def, hsample]

theorem recentValues_convert (unit : UnitChange) (readings : List TrendReading) :
    recentValues (readings.map unit.reading) = (recentValues readings).map unit.convert := by
  rw [recentValues, recentValues, List.length_map, ← List.map_drop, List.filterMap_map,
    List.map_filterMap]
  rfl

/-- The cards of a signal in two units, after the same readings. -/
structure Corresponds (unit : UnitChange) (readings : List TrendReading) (card unitCard : TrendCard) :
    Prop where
  value : unitCard.value = card.value.map unit.convert
  points : List.Forall₂ unit.SamePoint card.chart.points unitCard.chart.points
  text : ∀ last ∈ readings.getLast?, last.bounds.Usable → unitCard.text = unit.text card.text

/-- **Two units of one signal.**  Whatever is read of a tag, whenever it has no value or is gone, and
whether or not it names its range: a card for the same signal in another unit shows the same points,
upside down if the scale is reversed, and the same text if the tag names its range. -/
theorem unit_change (unit : UnitChange) (events : List (Option TrendReading)) :
    ∃ card unitCard, trendMachine.replay {} events = some card ∧
      trendMachine.replay {} (events.map (Option.map unit.reading)) = some unitCard ∧
      unit.Corresponds events.reduceOption card unitCard := by
  obtain ⟨card, hreplay, hreached⟩ := exists_run events
  obtain ⟨unitCard, hunitReplay, hunitReached⟩ := exists_run (events.map (Option.map unit.reading))
  rw [List.reduceOption_map] at hunitReached
  have hshows : card.Shows events.reduceOption := shows_of_reached hreached
  have hunit : unitCard.Shows (events.reduceOption.map unit.reading) := shows_of_reached hunitReached
  refine ⟨card, unitCard, hreplay, hunitReplay, ?_⟩
  rcases hread : events.reduceOption.getLast? with _ | last
  · have hnone := List.getLast?_eq_none_iff.mp hread
    have hcard := hshows.unread hnone
    have hunitCard := hunit.unread (by rw [hnone]; rfl)
    rw [hcard, hunitCard]
    refine ⟨rfl, ?_, ?_⟩
    · refine List.forall₂_same.mpr fun point hpoint => ?_
      rw [List.eq_of_mem_replicate hpoint]
      trivial
    · rw [hread]
      rintro last ⟨⟩
  · have hunitRead : (events.reduceOption.map unit.reading).getLast? = some (unit.reading last) := by
      rw [List.getLast?_map, hread]
      rfl
    refine ⟨?_, ?_, ?_⟩
    · have hvalue := hunit.value
      rw [hunitRead] at hvalue
      rw [hvalue, hshows.value, hread]
      rfl
    · have hchart := hshows.chart last hread
      have hunitChart := hunit.chart _ hunitRead
      rw [shownSamples_convert] at hunitChart
      exact unit.points_convert hchart hunitChart
    · intro other hother htag
      rw [hread] at hother
      obtain rfl := Option.some.inj hother
      rw [hshows.text last hread, hunit.text _ hunitRead, recentValues_convert]
      exact unit.trendText_convert htag _

/-- From how full a tank of 200 litres is, in percent, to the litres it can still take. -/
def headroom : UnitChange :=
  ⟨-2, 200, by norm_num⟩

/-- The tank fills up; the tag is gone for a while and then has no value. -/
def fillingReadings : List (Option TrendReading) :=
  let bounds : TrendBounds := ⟨true, true, 0, 100⟩
  [some ⟨bounds, some 20⟩, none, some ⟨bounds, none⟩, some ⟨bounds, some 25⟩, some ⟨bounds, some 30⟩,
    some ⟨bounds, some 35⟩]

theorem unit_change_headroom :
    ∃ card unitCard, trendMachine.replay {} fillingReadings = some card ∧
      trendMachine.replay {} (fillingReadings.map (Option.map headroom.reading)) = some unitCard ∧
      card.text = .rising ∧ unitCard.text = .falling ∧ unitCard.value = some 130 ∧
      List.Forall₂ headroom.SamePoint card.chart.points unitCard.chart.points := by
  obtain ⟨card, unitCard, hcard, hunitCard, hcorresponds⟩ :=
    unit_change headroom fillingReadings
  have hshown : (trendMachine.replay {} fillingReadings).map
      (fun card => (card.text, card.value)) = some (.rising, some 35) := by decide +kernel
  rw [hcard] at hshown
  obtain ⟨htext, hvalue⟩ := Prod.mk.inj (Option.some.inj hshown)
  have hmirrored := hcorresponds.text _ rfl (by decide +kernel)
  rw [htext] at hmirrored
  refine ⟨card, unitCard, hcard, hunitCard, htext, hmirrored.trans (by decide +kernel), ?_,
    hcorresponds.points⟩
  rw [hcorresponds.value, hvalue]
  decide +kernel

end UnitChange

end CrowPanel.Ui
