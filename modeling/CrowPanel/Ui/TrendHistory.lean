import CrowPanel.Library.Machine
import CrowPanel.Library.SlidingWindow
import CrowPanel.Ui.Refresh
import CrowPanel.Ui.TrendScaling

/-!
# The history behind a trend

Once a second `sample_binding` reads the tag of a chart, pushes the reading into the window of the last
sixty, draws the window and describes the last twelve readings in words.  A reading whose tag has gone
leaves everything as it is.  Arithmetic on `double` is exact here, and the bounds of a tag are finite.

## Strategy

The loop of `update_analysis` is related to the list of the values it has met (`Covers`), so that the
text is a function of that list (`updateAnalysis_eq`).  Over a run the window is the end of the readings,
so both the chart and the text are functions of the readings alone.
-/

namespace CrowPanel.Ui

open Library DataModel

/-! ## The window -/

/-- `TRENDS_POINT_COUNT` -/
abbrev trendsPointCount : ℕ := 60

/-- `TRENDS_ANALYSIS_POINTS` -/
abbrev trendsAnalysisPoints : ℕ := 12

/-- The arrays `samples` and `sample_valid`. -/
abbrev TrendWindow := SlidingWindow TrendSample trendsPointCount

/-- What `sample_binding` reads of a tag. -/
structure TrendReading where
  bounds : TrendBounds
  /-- what `tag_numeric_value` finds -/
  value : Option ℚ

/-- The entry of a window for a value; without one it holds the zero of its declaration. -/
def trendSample (value : Option ℚ) : TrendSample :=
  ⟨value.isSome, value.getD 0⟩

/-- `tag_numeric_value` -/
def tagNumericValue (tag : Tag) : Option ℚ :=
  if tag.valueValid && isTrendCandidate tag then
    if tag.dataType = .integer then some tag.value.integerValue
    else
      match tag.value.numericValue with
      | .finite value => some value
      | .infinity _ | .nan => none
  else none

/-- The reading of a tag with finite bounds. -/
def trendReading (tag : Tag) : Option TrendReading :=
  match tag.minimum, tag.maximum with
  | .finite minimum, .finite maximum =>
      some ⟨⟨tag.hasMinimum, tag.hasMaximum, minimum, maximum⟩, tagNumericValue tag⟩
  | _, _ => none

/-! ## The description -/

/-- The texts of the analysis, after `Live window  |  `. -/
inductive TrendText where
  | collectingHistory
  | stable
  | fluctuating
  | rising
  | risingSlowly
  | falling
  | fallingSlowly
  deriving DecidableEq

/-- The chain of conditions on `variation` and `slope`. -/
def describe (slope variation : ℚ) : TrendText :=
  if 20 / 100 < variation then .fluctuating
  else if 10 / 100 < slope then .rising
  else if 35 / 1000 < slope then .risingSlowly
  else if slope < -(10 / 100) then .falling
  else if slope < -(35 / 1000) then .fallingSlowly
  else .stable

/-- The local variables of the loop of `update_analysis`. -/
structure TrendAnalysis where
  firstIndex : ℕ := trendsPointCount
  lastIndex : ℕ := trendsPointCount
  validCount : ℕ := 0
  minimum : ℚ := 0
  maximum : ℚ := 0

/-- One pass of the loop. -/
def TrendAnalysis.cover (analysis : TrendAnalysis) (entry : TrendSample × ℕ) : TrendAnalysis :=
  let (sample, index) := entry
  if sample.valid = false then analysis
  else if analysis.validCount = 0 then
    { firstIndex := index
      lastIndex := index
      validCount := 1
      minimum := sample.value
      maximum := sample.value }
  else
    { analysis with
      lastIndex := index
      validCount := analysis.validCount + 1
      minimum := if sample.value < analysis.minimum then sample.value else analysis.minimum
      maximum := if analysis.maximum < sample.value then sample.value else analysis.maximum }

/-- The loop over the end of the window, with the index of each entry. -/
def analyze (window : TrendWindow) : TrendAnalysis :=
  (window.entries.zipIdx.drop (trendsPointCount - trendsAnalysisPoints)).foldl TrendAnalysis.cover {}

/-- `scale` -/
def trendScale (bounds : TrendBounds) (last : ℚ) : ℚ :=
  if bounds.Usable then bounds.maximum - bounds.minimum else max |last| 1

/-- The sample at an index. -/
def sampleAt (window : TrendWindow) (index : ℕ) : ℚ :=
  (window.entries[index]?).elim 0 TrendSample.value

/-- `update_analysis` -/
def updateAnalysis (window : TrendWindow) (bounds : TrendBounds) : TrendText :=
  let analysis := analyze window
  if analysis.validCount < 4 ∨ analysis.firstIndex = trendsPointCount ∨
      analysis.lastIndex = trendsPointCount then .collectingHistory
  else
    let first := sampleAt window analysis.firstIndex
    let last := sampleAt window analysis.lastIndex
    let scale := trendScale bounds last
    describe ((last - first) / scale) ((analysis.maximum - analysis.minimum) / scale)

/-! ## The card -/

/-- A `trend_binding_t` with what its card shows. -/
structure TrendCard where
  window : TrendWindow := .const (trendSample none)
  /-- the value next to `NOW`; without one it is "No value" -/
  value : Option ℚ := none
  chart : TrendChart := ⟨List.replicate trendsPointCount none, none⟩
  text : TrendText := .collectingHistory

/-- `sample_binding`; the tag may have gone. -/
def sampleBinding (card : TrendCard) : Option TrendReading → Option TrendCard
  | none => some card
  | some reading =>
      let window := card.window.push (trendSample reading.value)
      (updateChartPoints window.entries reading.bounds).map fun chart =>
        { window
          value := reading.value
          chart
          text := updateAnalysis window reading.bounds }

/-- The card of a tag, read once a second. -/
def trendMachine : Machine TrendCard (Option TrendReading) where
  start card := card = {}
  step := sampleBinding

/-- A window is drawn without a division by zero. -/
theorem exists_chart (samples : List TrendSample) (tag : TrendBounds) :
    ∃ chart, updateChartPoints samples tag = some chart ∧ Draws samples chart := by
  unfold updateChartPoints
  dsimp only
  split
  · next hinvalid =>
      refine ⟨_, rfl, draws_none fun sample hsample hvalid => ?_⟩
      -- a range named by the tag is valid
      by_cases htag : tag.Usable
      · rw [chartRange, if_pos htag] at hinvalid
        cases hinvalid
      · rw [(chartRange_encloses htag).valid.mpr ⟨sample, hsample, hvalid⟩] at hinvalid
        cases hinvalid
  · next hvalid =>
      rw [Bool.not_eq_false] at hvalid
      obtain ⟨haxis, -⟩ := paddedRange_spec tag (chartRange_ordered hvalid)
      exact ⟨_, by rw [mapM_chartPoint haxis]; rfl, draws_pointOf haxis samples⟩

/-- So a card can always be sampled. -/
theorem sampleBinding_isSome (card : TrendCard) (reading : Option TrendReading) :
    (sampleBinding card reading).isSome := by
  cases reading with
  | none => rfl
  | some reading =>
      obtain ⟨chart, hchart, -⟩ := exists_chart
        (card.window.push (trendSample reading.value)).entries reading.bounds
      simp only [sampleBinding, hchart]
      rfl

theorem tagNumericValue_isSome (tag : Tag) : (tagNumericValue tag).isSome = hasNumericValue tag := by
  unfold tagNumericValue hasNumericValue
  cases hcandidate : tag.valueValid && isTrendCandidate tag with
  | false => simp
  | true =>
      by_cases hinteger : tag.dataType = .integer
      · simp [hinteger]
      · cases hvalue : tag.value.numericValue with
        | finite value => simp [hinteger, Double.isFinite]
        | infinity negative => simp [hinteger, Double.isFinite]
        | nan => simp [hinteger, Double.isFinite]

/-- A card has a value when the label has one that the updates of the UI give it. -/
theorem sampleBinding_label {widget : TrendWidget} {world : World} {tag : Tag}
    {reading : TrendReading} {card next : TrendCard}
    (htag : (readTag widget.tagIndex).run world.model.records = some tag)
    (hreading : trendReading tag = some reading)
    (hnext : sampleBinding card (some reading) = some next) :
    next.value.isSome = (widget.sample.run world).label.isSome := by
  have hvalue : reading.value = tagNumericValue tag := by
    unfold trendReading at hreading
    split at hreading
    · rw [← Option.some.inj hreading]
    · cases hreading
  obtain ⟨chart, -, rfl⟩ := Option.map_eq_some_iff.mp hnext
  simp only [TrendWidget.sample, onRecords, Reads.run_bind, Reads.run_through, htag, Reads.run_pure]
  rw [hvalue, tagNumericValue_isSome]
  cases hasNumericValue tag with
  | false => rfl
  | true => rfl

/-! ## The loop and the list of the values -/

/-- The values of the valid samples. -/
def trendValues (samples : List TrendSample) : List ℚ :=
  (samples.filter TrendSample.valid).map TrendSample.value

/-- What the text says of the last values of a tag. -/
def trendText (bounds : TrendBounds) (values : List ℚ) : TrendText :=
  if values.length < 4 then .collectingHistory
  else
    let last := values.getLastD 0
    let scale := trendScale bounds last
    describe ((last - values.headD 0) / scale) ((values.max?.getD 0 - values.min?.getD 0) / scale)

example : trendText ⟨true, true, 0, 100⟩ [10, 13, 16, 19, 22, 25] = .rising := by
  decide +kernel

/-- The entries that the loop does not pass over. -/
def validEntries (entries : List (TrendSample × ℕ)) : List (TrendSample × ℕ) :=
  entries.filter fun entry => entry.1.valid

/-- The loop after its first valid sample. -/
theorem foldl_cover_of_pos (entries : List (TrendSample × ℕ)) {analysis : TrendAnalysis}
    (hcount : analysis.validCount ≠ 0) :
    entries.foldl TrendAnalysis.cover analysis =
      { firstIndex := analysis.firstIndex
        lastIndex := ((validEntries entries).map Prod.snd).getLastD analysis.lastIndex
        validCount := analysis.validCount + (validEntries entries).length
        minimum := ((validEntries entries).map fun entry => entry.1.value).foldl min analysis.minimum
        maximum := ((validEntries entries).map fun entry => entry.1.value).foldl max
          analysis.maximum } := by
  induction entries generalizing analysis with
  | nil => rfl
  | cons entry entries ih =>
      obtain ⟨sample, index⟩ := entry
      cases hvalid : sample.valid with
      | false =>
          have hskip : analysis.cover (sample, index) = analysis := by
            simp [TrendAnalysis.cover, hvalid]
          rw [List.foldl_cons, hskip, ih hcount]
          simp [validEntries, hvalid]
      | true =>
          have hmin : min analysis.minimum sample.value =
              if sample.value < analysis.minimum then sample.value else analysis.minimum := by
            rw [min_comm, min_def_lt]
          have hcover : analysis.cover (sample, index) =
              { analysis with
                lastIndex := index
                validCount := analysis.validCount + 1
                minimum := min analysis.minimum sample.value
                maximum := max analysis.maximum sample.value } := by
            simp [TrendAnalysis.cover, hvalid, hcount, hmin, max_def_lt]
          have hentries : validEntries ((sample, index) :: entries) =
              (sample, index) :: validEntries entries := by
            simp [validEntries, hvalid]
          rw [List.foldl_cons, hcover, ih (Nat.succ_ne_zero _), hentries]
          simp only [List.map_cons, List.getLastD_cons, List.length_cons, List.foldl_cons]
          rw [Nat.add_assoc, Nat.add_comm 1]

/-- The loop without any valid sample. -/
theorem foldl_cover_of_none (entries : List (TrendSample × ℕ)) (hnone : validEntries entries = []) :
    entries.foldl TrendAnalysis.cover {} = {} := by
  induction entries with
  | nil => rfl
  | cons entry entries ih =>
      rw [validEntries, List.filter_eq_nil_iff] at hnone
      have hskip : TrendAnalysis.cover {} entry = {} := by
        simp [TrendAnalysis.cover, hnone entry List.mem_cons_self]
      rw [List.foldl_cons, hskip]
      apply ih
      rw [validEntries, List.filter_eq_nil_iff]
      exact fun other hother => hnone other (List.mem_cons_of_mem _ hother)

/-- The loop as a whole: the first valid sample begins, the others follow. -/
theorem foldl_cover_of_some (entries : List (TrendSample × ℕ)) {entry : TrendSample × ℕ}
    {rest : List (TrendSample × ℕ)} (hvalid : validEntries entries = entry :: rest) :
    entries.foldl TrendAnalysis.cover {} =
      { firstIndex := entry.2
        lastIndex := (rest.map Prod.snd).getLastD entry.2
        validCount := 1 + rest.length
        minimum := (rest.map fun entry => entry.1.value).foldl min entry.1.value
        maximum := (rest.map fun entry => entry.1.value).foldl max entry.1.value } := by
  induction entries with
  | nil => cases hvalid
  | cons other entries ih =>
      cases hother : other.1.valid with
      | false =>
          have hskip : TrendAnalysis.cover {} other = {} := by
            simp [TrendAnalysis.cover, hother]
          rw [List.foldl_cons, hskip]
          apply ih
          simpa [validEntries, hother] using hvalid
      | true =>
          have hsplit : other = entry ∧ validEntries entries = rest := by
            simpa [validEntries, hother] using hvalid
          obtain ⟨rfl, rfl⟩ := hsplit
          have hbegin : TrendAnalysis.cover {} other =
              ⟨other.2, other.2, 1, other.1.value, other.1.value⟩ := by
            simp [TrendAnalysis.cover, hother]
          rw [List.foldl_cons, hbegin, foldl_cover_of_pos entries Nat.one_ne_zero]

theorem mem_analyzed {window : TrendWindow} {entry : TrendSample × ℕ}
    (hentry : entry ∈ window.entries.zipIdx.drop (trendsPointCount - trendsAnalysisPoints)) :
    sampleAt window entry.2 = entry.1.value ∧ entry.2 ≠ trendsPointCount := by
  have hindex : window.entries[entry.2]? = some entry.1 :=
    List.mem_zipIdx_iff_getElem?.mp (List.mem_of_mem_drop hentry)
  have hlt := (List.getElem?_eq_some_iff.mp hindex).1
  rw [window.length_entries] at hlt
  refine ⟨?_, hlt.ne⟩
  rw [sampleAt, hindex, Option.elim_some]

theorem validEntries_values (window : TrendWindow) :
    (validEntries (window.entries.zipIdx.drop (trendsPointCount - trendsAnalysisPoints))).map
        (fun entry => entry.1.value) =
      trendValues (window.recent trendsAnalysisPoints) := by
  have hfst : (window.entries.zipIdx.drop (trendsPointCount - trendsAnalysisPoints)).map Prod.fst =
      window.recent trendsAnalysisPoints := by
    rw [List.map_drop, List.zipIdx_map_fst]
    rfl
  rw [trendValues, ← hfst, List.filter_map, List.map_map]
  rfl

/-- `update_analysis` describes the values of the last twelve readings. -/
theorem updateAnalysis_eq (window : TrendWindow) (bounds : TrendBounds) :
    updateAnalysis window bounds =
      trendText bounds (trendValues (window.recent trendsAnalysisPoints)) := by
  rw [← validEntries_values]
  generalize hentries :
    window.entries.zipIdx.drop (trendsPointCount - trendsAnalysisPoints) = entries
  have hanalyze : analyze window = entries.foldl TrendAnalysis.cover {} := by
    rw [analyze, hentries]
  rcases hvalid : validEntries entries with _ | ⟨entry, rest⟩
  · rw [updateAnalysis, hanalyze, foldl_cover_of_none entries hvalid]
    rfl
  · have hanalyzed : ∀ other ∈ entry :: rest,
        sampleAt window other.2 = other.1.value ∧ other.2 ≠ trendsPointCount := by
      intro other hother
      rw [← hvalid, validEntries, List.mem_filter, ← hentries] at hother
      exact mem_analyzed hother.1
    obtain ⟨hfirst, hfirstIndex⟩ := hanalyzed entry List.mem_cons_self
    obtain ⟨hlast, hlastIndex⟩ := hanalyzed (rest.getLastD entry) List.getLastD_mem_cons
    have hlastValue : (rest.map fun entry => entry.1.value).getLastD entry.1.value =
        (rest.getLastD entry).1.value :=
      List.getLastD_map
    have hcount : (1 + rest.length < 4 ∨ entry.2 = trendsPointCount ∨
        (rest.getLastD entry).2 = trendsPointCount) ↔ rest.length + 1 < 4 := by
      rw [or_iff_left hlastIndex, or_iff_left hfirstIndex, Nat.add_comm]
    unfold updateAnalysis trendText
    rw [hanalyze, foldl_cover_of_some entries hvalid]
    simp only [List.getLastD_map, hcount, hfirst, hlast, List.map_cons, List.length_cons,
      List.length_map, List.getLastD_cons, hlastValue, List.headD_cons, List.max?_cons',
      List.min?_cons', Option.getD_some]

/-! ## Whole runs -/

/-- The card beside the readings that found its tag. -/
def trendRuns : Machine (TrendCard × List TrendReading) (Option TrendReading) :=
  trendMachine.withHistory [] fun _ reading readings => readings ++ reading.toList

/-- The samples of the last sixty readings, after samples that are not valid. -/
def shownSamples (readings : List TrendReading) : List TrendSample :=
  (List.replicate trendsPointCount (trendSample none) ++
    readings.map fun reading => trendSample reading.value).drop readings.length

/-- The values of the last twelve readings. -/
def recentValues (readings : List TrendReading) : List ℚ :=
  (readings.drop (readings.length - trendsAnalysisPoints)).filterMap TrendReading.value

/-- What a card shows of the readings. -/
structure TrendCard.Shows (card : TrendCard) (readings : List TrendReading) : Prop where
  unread : readings = [] → card = {}
  samples : card.window.entries = shownSamples readings
  value : card.value = readings.getLast?.bind TrendReading.value
  chart : ∀ last ∈ readings.getLast?,
    updateChartPoints (shownSamples readings) last.bounds = some card.chart
  text : ∀ last ∈ readings.getLast?, card.text = trendText last.bounds (recentValues readings)

theorem trendValues_map (readings : List TrendReading) :
    trendValues (readings.map fun reading => trendSample reading.value) =
      readings.filterMap TrendReading.value := by
  induction readings with
  | nil => rfl
  | cons reading readings ih =>
      rw [trendValues] at ih ⊢
      cases hvalue : reading.value with
      | none => simp [trendSample, hvalue, ← ih]
      | some value => simp [trendSample, hvalue, ← ih]

theorem trendValues_append (first second : List TrendSample) :
    trendValues (first ++ second) = trendValues first ++ trendValues second := by
  rw [trendValues, List.filter_append, List.map_append]
  rfl

/-- The samples that fill a window at first count for nothing. -/
theorem trendValues_recent (readings : List TrendReading) :
    trendValues (((SlidingWindow.const (trendSample none) : TrendWindow).pushAll
        (readings.map fun reading => trendSample reading.value)).recent trendsAnalysisPoints) =
      recentValues readings := by
  have hfill : ∀ count, trendValues (List.replicate count (trendSample none)) = [] := by
    intro count
    simp [trendValues, trendSample]
  have hcount : trendsAnalysisPoints ≤ trendsPointCount := by decide
  have hkept : trendsPointCount - (trendsPointCount - trendsAnalysisPoints) = trendsAnalysisPoints := rfl
  rw [SlidingWindow.recent_pushAll _ _ hcount, List.drop_append, trendValues_append, recentValues,
    SlidingWindow.recent, SlidingWindow.entries_const, List.drop_replicate, List.drop_replicate,
    hfill, List.nil_append, List.length_replicate, List.length_map, hkept, ← List.map_drop,
    trendValues_map]

theorem window_of_reached {state : TrendCard × List TrendReading}
    (hreached : trendRuns.Reachable state) :
    state.1.window = (SlidingWindow.const (trendSample none)).pushAll
      (state.2.map fun reading => trendSample reading.value) := by
  induction hreached with
  | start hstart =>
      obtain ⟨hcard, hreadings⟩ := hstart
      rw [hcard, hreadings]
      rfl
  | @step state next reading _ _ hstep ih =>
      obtain ⟨hmove, hnote⟩ := Machine.withHistory_step hstep
      rw [hnote]
      cases reading with
      | none =>
          have hsame : state.1 = next.1 := Option.some.inj hmove
          rw [Option.toList_none, List.append_nil, ← hsame, ih]
      | some reading =>
          obtain ⟨chart, -, hnext⟩ := Option.map_eq_some_iff.mp hmove
          rw [← hnext, Option.toList_some, List.map_append, List.map_singleton,
            SlidingWindow.pushAll_concat, ← ih]

theorem shows_of_reached {state : TrendCard × List TrendReading} (hreached : trendRuns.Reachable state) :
    state.1.Shows state.2 := by
  have hsamples : ∀ {state : TrendCard × List TrendReading}, trendRuns.Reachable state →
      state.1.window.entries = shownSamples state.2 := by
    intro state hreached
    rw [window_of_reached hreached, SlidingWindow.entries_pushAll, List.length_map]
    rfl
  induction hreached with
  | start hstart =>
      obtain ⟨hcard, hreadings⟩ := hstart
      rw [hcard, hreadings]
      refine ⟨fun _ => rfl, rfl, rfl, ?_, ?_⟩
      · rintro last ⟨⟩
      · rintro last ⟨⟩
  | @step state next reading hbefore hok hstep ih =>
      have hafter : trendRuns.Reachable next := .step hbefore hok hstep
      obtain ⟨hmove, hnote⟩ := Machine.withHistory_step hstep
      cases reading with
      | none =>
          have hsame : state.1 = next.1 := Option.some.inj hmove
          rwa [hnote, Option.toList_none, List.append_nil, ← hsame]
      | some reading =>
          obtain ⟨chart, hchart, hnext⟩ := Option.map_eq_some_iff.mp hmove
          have hlast : next.2.getLast? = some reading := by
            rw [hnote, Option.toList_some, List.getLast?_concat]
          have hwindow := window_of_reached hafter
          have hentries := hsamples hafter
          rw [← hnext] at hwindow hentries
          refine ⟨fun hnone => ?_, hsamples hafter, ?_, ?_, ?_⟩
          · rw [hnone] at hlast
            cases hlast
          · rw [hlast, ← hnext]
            rfl
          · rw [hlast]
            rintro last ⟨⟩
            rw [← hentries, hchart, ← hnext]
          · rw [hlast]
            rintro last ⟨⟩
            rw [← trendValues_recent, ← hwindow, ← hnext]
            exact updateAnalysis_eq _ _

/-- A card can be read any number of times. -/
theorem exists_run (events : List (Option TrendReading)) :
    ∃ card, trendMachine.replay {} events = some card ∧
      trendRuns.Reachable (card, events.reduceOption) := by
  induction events using List.reverseRecOn with
  | nil => exact ⟨{}, rfl, .start ⟨rfl, rfl⟩⟩
  | append_singleton events reading ih =>
      obtain ⟨card, hreplay, hreached⟩ := ih
      obtain ⟨next, hnext⟩ := Option.isSome_iff_exists.mp (sampleBinding_isSome card reading)
      have hstep : trendMachine.step card reading = some next := hnext
      have hmove : trendRuns.step (card, events.reduceOption) reading =
          some (next, (events ++ [reading]).reduceOption) := by
        simp only [trendRuns, Machine.withHistory, hstep, Option.map_some, List.reduceOption_append]
        cases reading with
        | none => rfl
        | some reading => rfl
      refine ⟨next, Machine.replay_trans hreplay ?_, .step hreached trivial hmove⟩
      rw [Machine.replay, hstep]
      rfl

/-- **A card shows the end of its readings.**  In every run the chart is drawn from the last sixty
readings that found the tag, and the text describes the values among the last twelve. -/
theorem card_shows (events : List (Option TrendReading)) :
    ∃ card, trendMachine.replay {} events = some card ∧ card.Shows events.reduceOption ∧
      (events.reduceOption ≠ [] → Draws (shownSamples events.reduceOption) card.chart) := by
  obtain ⟨card, hreplay, hreached⟩ := exists_run events
  have hshows := shows_of_reached hreached
  refine ⟨card, hreplay, hshows, fun hread => ?_⟩
  have hlast := List.getLast?_eq_getLast_of_ne_nil hread
  obtain ⟨chart, hchart, hdraws⟩ := exists_chart (shownSamples events.reduceOption)
    (events.reduceOption.getLast hread).bounds
  have hshown := hshows.chart _ hlast
  rw [hchart] at hshown
  rwa [← Option.some.inj hshown]

end CrowPanel.Ui
