import CrowPanel.DataModel.Alarms
import CrowPanel.OpcUa.Routing

/-!
# Alarm events

`event_notification_callback` takes an alarm out of the text of an event: its code stands in brackets,
its state after them.  The four fields of the event filter have the types which the callback checks;
an event of any other form is `none`.
-/

namespace CrowPanel.OpcUa

open Library DataModel

/-- The fields which `create_event_subscriptions` selects. -/
structure EventFields where
  sourceNode : NodeId
  sourceName : UaString
  message : UaString
  severity : UInt16
  deriving DecidableEq

/-- The alarm in an event; `none` where the callback ignores the event. -/
def EventFields.alarm (fields : EventFields) : Option Alarm :=
  let message := (uaStringToText alarmReasonLength fields.message).text
  match strchr message 0x5B with
  | none => none
  | some codeStart =>
      match strchr codeStart.tail 0x5D with
      | none => none
      | some codeEnd =>
          let alarmCode := codeStart.tail.take (codeStart.tail.length - codeEnd.length)
          let active := (strstr codeEnd (ascii " ACTIVE:")).isSome
          let cleared := (strstr codeEnd (ascii " CLEARED:")).isSome
          let reason := ((strstr codeEnd (ascii ":")).getD codeEnd).tail
          if alarmCode = [] then none
          else if active = false ∧ cleared = false then none
          else
            some
              { sourceNodeId := fields.sourceNode.text
                sourceName := uaStringToText nameLength fields.sourceName
                -- a longer code is cut
                alarmCode := .ofText alarmCodeLength alarmCode
                reason := .ofText alarmReasonLength (reason.dropWhile (· = 0x20))
                severity := fields.severity.toNat
                active }

/-- `event_notification_callback` -/
def eventNotificationCallback (model : DataModel) (eventFields : Option EventFields) : DataModel :=
  match eventFields.bind EventFields.alarm with
  | none => model
  | some alarm => (model.updateAlarm (some alarm)).2

/-! ## Messages with a code and a state -/

/-- What follows the code of an alarm in brackets. -/
def stateMark (active : Bool) : Text :=
  if active then ascii " ACTIVE:" else ascii " CLEARED:"

/-- A message which tells an alarm of a code: the code in brackets, then the state and some text without
the letter V, which would be needed for the mark of the other state. -/
def Tells (message code : Text) (active : Bool) : Prop :=
  ∃ rest, message = 0x5B :: (code ++ 0x5D :: (stateMark active ++ rest)) ∧ 0x56 ∉ rest

/-- A code which the panel keeps as it is. -/
structure PlainCode (code : Text) : Prop where
  ne_nil : code ≠ []
  noNul : 0 ∉ code
  noBracket : 0x5D ∉ code
  fits : code.length < alarmCodeLength

variable {fields : EventFields} {message code : Text} {active : Bool}

/-- The text of the message, cut or not, tells the same alarm. -/
theorem uaStringToText_tells (htells : Tells message code active) (hcode : PlainCode code) :
    Tells (uaStringToText alarmReasonLength (some message)).text code active := by
  obtain ⟨rest, rfl, hrest⟩ := htells
  have hsplit : 0x5B :: (code ++ 0x5D :: (stateMark active ++ rest)) =
      (0x5B :: (code ++ 0x5D :: stateMark active)) ++ rest := by simp
  have hmark : 0 ∉ stateMark active ∧ (stateMark active).length ≤ 9 := by
    cases active <;> decide
  have hnul : 0 ∉ (0x5B :: (code ++ 0x5D :: stateMark active) : Text) := by
    simp only [List.mem_cons, List.mem_append, not_or]
    exact ⟨by decide, hcode.noNul, by decide, hmark.1⟩
  have hfits : (0x5B :: (code ++ 0x5D :: stateMark active) : Text).length < alarmReasonLength := by
    have hlength : code.length < 48 := hcode.fits
    have hmarkLength := hmark.2
    have hsize : alarmReasonLength = 128 := rfl
    simp only [List.length_cons, List.length_append]
    omega
  obtain ⟨cut, hcut, hsubset⟩ := CharArray.ofText_append rest hnul hfits
  refine ⟨cut, ?_, fun hmem => hrest (hsubset _ hmem)⟩
  rw [uaStringToText, Option.getD_some, hsplit, hcut]
  simp

/-- The state is read off as it was written. -/
theorem strstr_active {rest : Text} (hrest : 0x56 ∉ rest) :
    (strstr (0x5D :: (stateMark active ++ rest)) (ascii " ACTIVE:")).isSome = active := by
  cases active with
  | true =>
      have hfound := strstr_prefix (ascii " ACTIVE:") rest
      exact strstr_append [0x5D] hfound
  | false =>
      have hnone : strstr (0x5D :: (stateMark false ++ rest)) (ascii " ACTIVE:") = none := by
        refine @strstr_eq_none _ _ 0x56 (by decide) ?_
        simp only [List.mem_cons, List.mem_append, not_or]
        exact ⟨by decide, by decide, hrest⟩
      rw [hnone]
      rfl

/-- The callback finds the alarm that a message tells of. -/
theorem alarm_of_tells (hmessage : fields.message = some message) (htells : Tells message code active)
    (hcode : PlainCode code) :
    ∃ alarm, fields.alarm = some alarm ∧ alarm.key = (fields.sourceNode.text.text, code) ∧
      alarm.active = active := by
  obtain ⟨rest, htext, hrest⟩ := uaStringToText_tells htells hcode
  have hstart : strchr (uaStringToText alarmReasonLength fields.message).text 0x5B =
      some (0x5B :: (code ++ 0x5D :: (stateMark active ++ rest))) := by
    rw [hmessage, htext]
    simp [strchr]
  have hend := strchr_append (stateMark active ++ rest) hcode.noBracket
  have htake : (code ++ 0x5D :: (stateMark active ++ rest)).take
      ((code ++ 0x5D :: (stateMark active ++ rest)).length -
        (0x5D :: (stateMark active ++ rest)).length) = code := by
    rw [List.length_append, Nat.add_sub_cancel, List.take_left]
  have hstate : ¬(active = false ∧
      (strstr (0x5D :: (stateMark active ++ rest)) (ascii " CLEARED:")).isSome = false) := by
    rintro ⟨rfl, hcleared⟩
    have hfound := strstr_prefix (ascii " CLEARED:") rest
    exact Bool.false_ne_true (hcleared.symm.trans (strstr_append [0x5D] hfound))
  unfold EventFields.alarm
  simp only [hstart, List.tail_cons, hend, htake, strstr_active hrest, if_neg hcode.ne_nil,
    if_neg hstate]
  refine ⟨_, rfl, ?_, rfl⟩
  simp only [Alarm.key, CharArray.ofText_text hcode.noNul hcode.fits]

/-- A report for which there is room is filed in the table of the panel. -/
theorem eventNotificationCallback_alarms {model : DataModel} {alarm : Alarm} {slots : List Alarm}
    (halarm : fields.alarm = some alarm) (hkey : alarm.key = (fields.sourceNode.text.text, code))
    (hcode : code ≠ [])
    (hreport : KeyedSlots.report Alarm.key Alarm.active maxAlarms model.alarms alarm = some slots) :
    (eventNotificationCallback model (some fields)).alarms = slots := by
  obtain ⟨hsource, hcodeText⟩ := Prod.mk.inj hkey
  have hids : alarm.sourceNodeId.text ≠ [] ∧ alarm.alarmCode.text ≠ [] := by
    rw [hsource, hcodeText]
    exact ⟨fields.sourceNode.text_ne_nil, hcode⟩
  rw [eventNotificationCallback, Option.bind_some, halarm]
  exact (updateAlarm_of_report hids hreport).2

/-- The callback changes no more than the alarms. -/
theorem eventNotificationCallback_tags (model : DataModel) (eventFields : Option EventFields) :
    (eventNotificationCallback model eventFields).tags = model.tags := by
  unfold eventNotificationCallback
  split <;> simp

/-! ## The table over the sessions of the client task -/

/-- A discovery empties the table, whether it succeeds or not. -/
theorem discoverAddressSpace_alarms (env : Environment) (context : Context) :
    (discoverAddressSpace env context).2.dataModel.alarms = [] := by
  obtain ⟨additions, hadditions, hmodel⟩ := discoverAddressSpace_dataModel env context
  have hcleared : context.dataModel.beginStructureUpdate.clear.alarms = [] := by
    simp [DataModel.clear]
  rw [hmodel]
  show (context.dataModel.beginStructureUpdate.clear.run _).alarms = []
  refine run_alarms_eq_nil (fun op hop alarm => ?_) hcleared
  rintro rfl
  rcases List.mem_append.mp hop with haddition | hend
  · exact hadditions _ haddition
  · split at hend <;> simp at hend

namespace ClientTask

variable {task next : ClientTask}

/-- How a step leads from one phase to the next.  The alarms are kept within a phase; a session begins
without any. -/
inductive PhaseStep (task next : ClientTask) : Prop
  | stay (hphase : next.place.phase = task.place.phase)
      (halarms : next.context.dataModel.alarms = task.context.dataModel.alarms)
  | create (hidle : task.place.phase = .idle) (hfresh : next.place.phase = .fresh)
  | begin (hfresh : task.place.phase = .fresh) (hsession : next.place.phase = .session)
      (halarms : next.context.dataModel.alarms = [])
  | leave (hidle : next.place.phase = .idle)

theorem monitorTag_context (task : ClientTask) (tagIndex : ℕ) (created : Bool) :
    (task.monitorTag tagIndex created).context = task.context := by
  rcases task.monitorTag_cases tagIndex created with hsame | hadded
  · rw [hsame]
  · rw [hadded]

theorem proceed_phaseStep {outcome : Bool} (hproceed : task.proceed outcome = some next) :
    PhaseStep task next := by
  unfold proceed at hproceed
  split at hproceed
  · next holds yes no hcondition =>
      obtain ⟨hyes, hno⟩ := condition_phase hcondition
      obtain rfl := Option.some.inj hproceed
      refine .stay ?_ rfl
      cases holds
      · exact hno
      · exact hyes
  · split at hproceed
    · next hplace =>
        obtain rfl := Option.some.inj hproceed
        exact .leave rfl
    · next hplace =>
        split at hproceed
        · obtain rfl := Option.some.inj hproceed
          exact .create (by rw [hplace]; rfl) rfl
        · obtain rfl := Option.some.inj hproceed
          exact .leave rfl
    · next hplace =>
        split at hproceed
        · obtain rfl := Option.some.inj hproceed
          exact .stay (by rw [hplace]; rfl) rfl
        · obtain rfl := Option.some.inj hproceed
          exact .leave rfl
    · next hplace =>
        obtain rfl := Option.some.inj hproceed
        refine .stay ?_ rfl
        rw [hplace]
        cases outcome <;> rfl
    · next tagIndex hplace =>
        split at hproceed
        · obtain rfl := Option.some.inj hproceed
          refine .stay (by rw [hplace]; rfl) ?_
          exact congrArg (fun context => context.dataModel.alarms)
            (task.monitorTag_context tagIndex outcome)
        · obtain rfl := Option.some.inj hproceed
          exact .stay (by rw [hplace]; rfl) rfl
    · obtain rfl := Option.some.inj hproceed
      exact .leave rfl
    · obtain rfl := Option.some.inj hproceed
      exact .leave rfl
    · cases hproceed

/-- Every step other than the delivery of an alarm is such a step. -/
theorem step_phaseStep {event : TaskEvent} (hevent : ∀ alarm, event ≠ .alarm alarm)
    (hstep : task.step event = some next) : PhaseStep task next := by
  cases event with
  | proceed outcome => exact proceed_phaseStep hstep
  | discover env =>
      simp only [step] at hstep
      split at hstep
      · next hplace =>
          obtain rfl := Option.some.inj hstep
          have halarms := discoverAddressSpace_alarms env task.context
          unfold runDiscovery
          rcases hdiscover : discoverAddressSpace env task.context with ⟨status, context⟩
          rw [hdiscover] at halarms
          dsimp only
          split
          · exact .begin (by rw [hplace]; rfl) rfl halarms
          · exact .leave rfl
      · cases hstep
  | notify item value =>
      obtain ⟨item, _, rfl⟩ := Option.map_eq_some_iff.mp hstep
      refine .stay rfl ?_
      show (dataChangeCallback task.context.dataModel item.context value).alarms = _
      rcases dataChangeCallback_tags task.context.dataModel item.context value with hsame | hupdate
      · rw [hsame]
      · obtain ⟨modelValue, valid, hupdate⟩ := hupdate
        have hkept : (task.context.dataModel.exec
            (.updateValue (item.context - 1) (some modelValue) valid)).2.alarms =
              task.context.dataModel.alarms := exec_alarms (by simp) (by simp) (by simp)
        rw [hupdate]
        exact hkept
  | alarm alarm => exact absurd rfl (hevent alarm)
  | start =>
      simp only [step] at hstep
      split at hstep
      · obtain rfl := Option.some.inj hstep
        exact .leave rfl
      · cases hstep
  | stop | pause | resume | setEndpoint =>
      obtain rfl := Option.some.inj hstep
      exact .stay rfl rfl

end ClientTask

end CrowPanel.OpcUa
