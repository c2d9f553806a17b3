import CrowPanel.Simulator.AlarmCauses

/-!
# What clients can find in the variables

Clients may read a variable at any time.  They find what it was created with, what another client wrote
into it, or a value within the limits of the configuration; the one exception are the readings of sensors
whose fault a client has asked for.  Such a reading can leave the range that the configuration declares
for its variable: currents from -10 A are published, where 0 is declared as the minimum.  Numbers are
exact; a `Float` on the wire can be rounded to just past a limit.

## Strategy

Nothing but `publish` writes measurements, and it takes them from the records of the station, which are
within their limits in every state that is reached (`model_withinBounds`, `station_shows`).  The history
of `AlarmCauses` knows which sensor faults were asked for, and hours only need a bound of their own.
-/

namespace CrowPanel.Simulator

open Library OpcUa

/-- What a variable of the simulator can hold. -/
inductive InRange (configuration : EquipmentConfiguration) (requested : ℕ → Bool) :
    PublishedVariable → Variant → Prop
  | temperature {place : ℕ} {limits : CompressorConfiguration} {temperature : ℚ}
      (hplace : configuration.compressors[place]? = some limits)
      (hrange : temperature ∈ Set.Icc limits.stoppedTemperatureC limits.runningTemperatureC) :
      InRange configuration requested (.compressor place .temperature) (floatVariant temperature)
  | faultyTemperature {place : ℕ} {temperature : ℚ} (hrequested : requested place = true)
      (hrange : temperature ∈ Set.Icc (-40) 180) :
      InRange configuration requested (.compressor place .temperature) (floatVariant temperature)
  | motorCurrent {place : ℕ} {limits : CompressorConfiguration} {current : ℚ}
      (hplace : configuration.compressors[place]? = some limits)
      (hrange : current ∈ Set.Icc 0 limits.runningCurrentA) :
      InRange configuration requested (.compressor place .motorCurrent) (floatVariant current)
  | faultyMotorCurrent {place : ℕ} {current : ℚ} (hrequested : requested place = true)
      (hrange : current ∈ Set.Icc (-10) 60) :
      InRange configuration requested (.compressor place .motorCurrent) (floatVariant current)
  | runtime {place : ℕ} {hours : ℚ} (hrange : 0 ≤ hours) :
      InRange configuration requested (.compressor place .runtime) (floatVariant hours)
  | flag {place : ℕ} {signal : Signal} (value : Bool)
      (hsignal : signal = .runStatus ∨ signal = .runCommand ∨ signal = .alarmStatus) :
      InRange configuration requested (.compressor place signal) (.boolean value)
  | receiverPressure {pressure : ℚ}
      (hrange : pressure ∈
        Set.Icc configuration.station.minimumPressureBar configuration.station.maximumPressureBar) :
      InRange configuration requested (.station .receiverPressure) (floatVariant pressure)
  | dryerStatus (running : Bool) :
      InRange configuration requested (.station .dryerStatus) (.boolean running)
  | networkPressure {pressure : ℚ}
      (hrange : pressure ∈ Set.Icc 0 configuration.station.maximumPressureBar) :
      InRange configuration requested (.station .networkPressure) (floatVariant pressure)
  | airDemand {demand : ℚ} (hrange : demand ∈ Set.Icc 0 configuration.station.maximumDemandM3h) :
      InRange configuration requested (.station .airDemand) (floatVariant demand)
  | totalPower {power : ℚ}
      (hrange : power ∈
        Set.Icc 0 (configuration.compressors.map CompressorConfiguration.ratedPowerKw).sum) :
      InRange configuration requested (.station .totalPower) (floatVariant power)

variable {configuration : EquipmentConfiguration} {requested later : ℕ → Bool}
  {target : PublishedVariable} {value : Variant}

theorem InRange.mono (hgrows : ∀ place, requested place = true → later place = true)
    (hvalue : InRange configuration requested target value) :
    InRange configuration later target value := by
  cases hvalue with
  | temperature hplace hrange => exact .temperature hplace hrange
  | faultyTemperature hrequested hrange => exact .faultyTemperature (hgrows _ hrequested) hrange
  | motorCurrent hplace hrange => exact .motorCurrent hplace hrange
  | faultyMotorCurrent hrequested hrange => exact .faultyMotorCurrent (hgrows _ hrequested) hrange
  | runtime hrange => exact .runtime hrange
  | flag value hsignal => exact .flag value hsignal
  | receiverPressure hrange => exact .receiverPressure hrange
  | dryerStatus running => exact .dryerStatus running
  | networkPressure hrange => exact .networkPressure hrange
  | airDemand hrange => exact .airDemand hrange
  | totalPower hrange => exact .totalPower hrange

/-- A number drawn between two limits. -/
theorem uniform_mem_Icc {low high draw : ℚ} (hle : low ≤ high) (hdraw : draw ∈ Set.Icc 0 1) :
    uniform low high draw ∈ Set.Icc low high := by
  have hwidth : 0 ≤ high - low := sub_nonneg.mpr hle
  refine ⟨le_add_of_nonneg_right (mul_nonneg hwidth hdraw.1), ?_⟩
  calc low + (high - low) * draw
      ≤ low + (high - low) * 1 := by
        apply add_le_add_right
        exact mul_le_mul_of_nonneg_left hdraw.2 hwidth
    _ = high := by ring

/-! ## Hours -/

/-- The hours of every compressor are counted from 0. -/
def HoursCounted (model : StationModel) : Prop :=
  ∀ (place : ℕ) (part : CompressorModel),
    model.compressors[place]? = some part → 0 ≤ part.state.runtimeHours

theorem HoursCounted.update {model : StationModel} (hhours : HoursCounted model)
    {elapsedSeconds : ℚ} (helapsed : 0 ≤ elapsedSeconds) (slowSine fastSine : ℚ) :
    HoursCounted (model.update elapsedSeconds slowSine fastSine) := by
  intro place part hpart
  rw [StationModel.update, List.getElem?_map] at hpart
  obtain ⟨before, hbefore, rfl⟩ := Option.map_eq_some_iff.mp hpart
  have hcounted := hhours place before hbefore
  have hmore : 0 ≤ elapsedSeconds / 3600 := by positivity
  unfold CompressorModel.update
  dsimp only
  split_ifs
  · exact add_nonneg hcounted hmore
  · exact hcounted

theorem HoursCounted.operate {model : StationModel} (hhours : HoursCounted model) (operated : ℕ)
    (automaticMode manualRunCommand : Bool) :
    HoursCounted (model.operate operated automaticMode manualRunCommand) := by
  intro place part hpart
  rw [StationModel.operate, List.getElem?_modify] at hpart
  obtain ⟨before, hbefore, rfl⟩ := Option.map_eq_some_iff.mp hpart
  have hcounted := hhours place before hbefore
  split_ifs
  · exact hcounted
  · exact hcounted

namespace WholeSimulation

variable {whole next : WholeSimulation} {event : WholeEvent}

theorem hoursCounted (hreached : (machine configuration).ReachedBy Physical whole) :
    HoursCounted whole.model := by
  refine (model_reached hreached).invariant (fun model hstart => ?_)
    fun model event next _ hhours hphysical hstep => ?_
  · intro place part hpart
    obtain rfl : model = .init configuration := hstart
    rw [StationModel.init, List.getElem?_map] at hpart
    obtain ⟨limits, -, rfl⟩ := Option.map_eq_some_iff.mp hpart
    exact le_rfl
  · cases event with
    | update elapsedSeconds slowSine fastSine =>
        obtain rfl := Option.some.inj hstep
        exact hhours.update hphysical.1 slowSine fastSine
    | operate place automaticMode manualRunCommand =>
        obtain rfl := Option.some.inj hstep
        exact hhours.operate place automaticMode manualRunCommand

/-! ## What is written -/

/-- What `publish` writes is taken from records within their limits, or drawn for a faulty sensor. -/
theorem inRange_of_published (hbounds : whole.model.WithinBounds configuration)
    (hshows : whole.simulation.station.Shows whole.model) (hhours : HoursCounted whole.model)
    (hasked : Asked whole.simulation requested) {draw : ℚ} (hdraw : draw ∈ Set.Icc 0 1)
    (hvalue : whole.published draw target = some value) :
    InRange configuration requested target value := by
  cases target with
  | station signal =>
      obtain rfl := Option.some.inj hvalue
      cases signal with
      | receiverPressure => exact .receiverPressure hbounds.receiverPressure
      | dryerStatus => exact .dryerStatus _
      | networkPressure => exact .networkPressure hbounds.networkPressure
      | airDemand => exact .airDemand hbounds.demand
      | totalPower => exact .totalPower hbounds.totalPower
  | compressor place signal =>
      obtain ⟨compressor, hcompressor, hrest⟩ := Option.bind_eq_some_iff.mp hvalue
      obtain ⟨part, hpart, hsignal⟩ := Option.bind_eq_some_iff.mp hrest
      obtain ⟨limits, hlimits, -, htemperature, hcurrent⟩ := hshows.withinBounds hbounds hcompressor
      have hfaulty : compressor.sensorFaultCommand = true → requested place = true := by
        intro hcommand
        apply hasked.compressor
        rw [List.getElem?_map, hcompressor, Option.map_some]
        exact congrArg some hcommand
      cases signal with
      | temperature =>
          obtain rfl := Option.some.inj hsignal
          unfold displayedTemperature
          split_ifs with hcommand
          · exact .faultyTemperature (hfaulty hcommand) (uniform_mem_Icc (by norm_num) hdraw)
          · exact .temperature hlimits htemperature
      | motorCurrent =>
          obtain rfl := Option.some.inj hsignal
          unfold displayedCurrent
          split_ifs with hcommand
          · exact .faultyMotorCurrent (hfaulty hcommand) (uniform_mem_Icc (by norm_num) hdraw)
          · exact .motorCurrent hlimits hcurrent
      | runtime =>
          obtain rfl := Option.some.inj hsignal
          exact .runtime (hhours place part hpart)
      | runStatus =>
          obtain rfl := Option.some.inj hsignal
          exact .flag _ (.inl rfl)
      | runCommand =>
          obtain ⟨-, hautomatic⟩ := Option.ite_none_right_eq_some.mp hsignal
          obtain rfl := Option.some.inj hautomatic
          exact .flag _ (.inr (.inl rfl))
      | alarmStatus =>
          obtain rfl := Option.some.inj hsignal
          exact .flag _ (.inr (.inr rfl))

/-- An action of the cycle leaves a variable alone, or publishes it. -/
theorem valuesAfter_cases (whole : WholeSimulation) (draw : ℚ) (action : Action)
    (target : PublishedVariable) :
    whole.valuesAfter draw action target = whole.values target ∨
      whole.published draw target = some (whole.valuesAfter draw action target) := by
  have hwritten : ∀ written : PublishedVariable,
      writeValue whole.values written (whole.published draw written) target = whole.values target ∨
        whole.published draw target =
          some (writeValue whole.values written (whole.published draw written) target) := by
    intro written
    -- nothing is written into the run command of a compressor in manual mode
    cases hvalue : whole.published draw written with
    | none => exact .inl rfl
    | some value =>
        by_cases hsame : target = written
        · right
          have hheld : writeValue whole.values written (some value) written = value :=
            Function.update_self _ _ _
          rw [hsame, hvalue, hheld]
        · exact .inl (Function.update_of_ne hsame _ _)
  cases action with
  | publish place signal => exact hwritten (.compressor place signal)
  | publishStation signal => exact hwritten (.station signal)
  | _ => exact .inl rfl

/-- A client's write leaves a variable alone, or it is a run command. -/
theorem valuesWritten_cases (values : PublishedVariable → Variant) (write : ClientWrite)
    (target : PublishedVariable) :
    valuesWritten values write target = values target ∨
      ∃ place value, target = .compressor place .runCommand ∧
        valuesWritten values write target = .boolean value := by
  cases write with
  | runCommand place value =>
      by_cases hsame : target = .compressor place .runCommand
      · right
        refine ⟨place, value, hsame, ?_⟩
        rw [hsame]
        exact Function.update_self _ _ _
      · exact .inl (Function.update_of_ne hsame _ _)
  | _ => exact .inl rfl

/-! ## Runs -/

/-- The simulator beside the sensor faults that were asked for and the values that its variables were
created with. -/
def createdMachine (configuration : EquipmentConfiguration) :
    Machine ((WholeSimulation × (ℕ → Bool)) × (PublishedVariable → Variant)) WholeEvent :=
  (requestMachine configuration).withHistoryFrom (fun state => state.1.values)
    fun _ _ created => created

/-- **Published values are within their limits.**  In every run of the whole simulator, whatever clients
write and whenever one looks: a variable holds what it was created with, or a value in its range; the
range of the random generator is met only where a client has asked for a sensor fault. -/
theorem published_inRange (hvalid : configuration.Valid)
    {state : (WholeSimulation × (ℕ → Bool)) × (PublishedVariable → Variant)}
    (hreached : (createdMachine configuration).ReachedBy
      (fun state event => state.1.1.Physical event) state) (target : PublishedVariable) :
    let values := state.1.1.values
    values target = state.2 target ∨ InRange configuration state.1.2 target (values target) := by
  induction hreached with
  | start hstart =>
      left
      rw [hstart.2]
  | @step state next event hbefore hphysical hstep ih =>
      obtain ⟨hrequests, hcreated⟩ := Machine.withHistoryFrom_step hstep
      obtain ⟨hmove, hnote⟩ := Machine.withHistoryFrom_step hrequests
      have hasked : (requestMachine configuration).ReachedBy
          (fun state event => state.1.Physical event) state.1 :=
        Machine.ReachedBy.forgetFrom (fun _ _ hok => hok) hbefore
      have hwhole : (machine configuration).ReachedBy Physical state.1.1 :=
        Machine.ReachedBy.forgetFrom (fun _ _ hok => hok) hasked
      -- requests are not forgotten, so what was in its range stays there
      have hgrows : ∀ place, state.1.2 place = true → next.1.2 place = true := by
        intro place hplace
        rw [hnote]
        exact noteRequest_grows state.1.1 event hplace
      have hkept : next.1.1.values target = state.1.1.values target →
          next.1.1.values target = next.2 target ∨
            InRange configuration next.1.2 target (next.1.1.values target) := by
        intro hsame
        rw [hsame, hcreated]
        exact ih.imp_right fun hrange => hrange.mono hgrows
      cases event with
      | beginCycle =>
          obtain ⟨simulation, -, hwhole⟩ := Option.map_eq_some_iff.mp hmove
          exact hkept (by rw [← hwhole])
      | act slowSine fastSine draw =>
          obtain ⟨action, rest, -, -, -, hvalues⟩ := step_act hmove
          rcases valuesAfter_cases state.1.1 draw action target with hsame | hpublished
          · exact hkept (by rw [hvalues, hsame])
          · right
            rw [hvalues]
            refine (inRange_of_published (model_withinBounds hvalid hwhole) (station_shows hwhole)
              (hoursCounted hwhole) (causes_of_reached hvalid hasked).1 hphysical.2.2.2
              hpublished).mono hgrows
      | write write =>
          have hvalues : next.1.1.values = valuesWritten state.1.1.values write := by
            rw [← Option.some.inj hmove]
          rcases valuesWritten_cases state.1.1.values write target with
            hsame | ⟨place, value, rfl, hvalue⟩
          · exact hkept (by rw [hvalues, hsame])
          · right
            rw [hvalues, hvalue]
            exact .flag value (.inr (.inl rfl))

/-- A client asks for the fault of a sensor, and the simulator draws the least current for it. -/
private def drawnEvents : List WholeEvent :=
  .write (.sensorFaultCommand 1 true) :: .beginCycle :: List.replicate 19 (.act 0 0 0)

private def drawnStart : (WholeSimulation × (ℕ → Bool)) × (PublishedVariable → Variant) :=
  let whole := init StationModel.equipment alarmRules (1 / 10) fun _ => .boolean false
  ((whole, whole.firstRequests), whole.values)

private theorem drawnEvents_isSome :
    ((createdMachine StationModel.equipment).replay drawnStart drawnEvents).isSome := by
  decide +kernel

private def drawn : (WholeSimulation × (ℕ → Bool)) × (PublishedVariable → Variant) :=
  ((createdMachine StationModel.equipment).replay drawnStart drawnEvents).get drawnEvents_isSome

theorem published_inRange_faulty :
    drawn.1.1.values (.compressor 1 .motorCurrent) = floatVariant (-10) ∧
      InRange StationModel.equipment drawn.1.2 (.compressor 1 .motorCurrent)
        (drawn.1.1.values (.compressor 1 .motorCurrent)) := by
  have hstart : (createdMachine StationModel.equipment).start drawnStart :=
    ⟨⟨init_starts _ _ _ _, rfl⟩, rfl⟩
  have hreached : (createdMachine StationModel.equipment).ReachedBy
      (fun state event => state.1.1.Physical event) drawn :=
    Machine.ReachedBy.replay (.start hstart) (by decide +kernel)
      (Option.some_get drawnEvents_isSome).symm
  have hvalue : drawn.1.1.values (.compressor 1 .motorCurrent) = floatVariant (-10) := by
    have hdrawn : drawn.1.1.values (.compressor 1 .motorCurrent) =
        floatVariant (uniform (-10) 60 0) := rfl
    rw [hdrawn, uniform, mul_zero, add_zero]
  refine ⟨hvalue, ?_⟩
  rcases published_inRange StationModel.equipment_valid hreached (.compressor 1 .motorCurrent) with
    hcreated | hrange
  · have hfirst : drawn.2 (.compressor 1 .motorCurrent) = .boolean false := rfl
    rw [hvalue, hfirst] at hcreated
    cases hcreated
  · exact hrange

end WholeSimulation

end CrowPanel.Simulator
