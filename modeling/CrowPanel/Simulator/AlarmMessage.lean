import CrowPanel.OpcUa.AlarmEvents
import CrowPanel.Simulator.Faults

/-!
# The text of an alarm event

The simulator tells code, state and description of an alarm in one text, and the panel takes them out
of it again.  Code and description come back as they were sent.  The state does not always: the panel
looks for the mark of an active alarm in the whole text after the code, and so in the description.
-/

namespace CrowPanel.Simulator

open Library DataModel OpcUa

variable {fields : EventFields} {code description : Text} {active : Bool}

/-- A text with a code, a state and a description, as the panel sees it. -/
def formatted (code : Text) (active : Bool) (description : Text) : Text :=
  0x5B :: (code ++ 0x5D :: (stateMark active ++ 0x20 :: description))

theorem eventMessage_eq (transition : AlarmTransition) :
    transition.eventMessage =
      formatted transition.alarmCode transition.active transition.message := by
  rw [AlarmTransition.eventMessage, formatted]
  cases transition.active <;> simp [stateMark, ascii]

/-! ## Reading the text -/

/-- The mark of an active alarm is found, wherever it is. -/
theorem strstr_active_formatted (active : Bool) (description : Text) :
    (strstr (0x5D :: (stateMark active ++ 0x20 :: description)) (ascii " ACTIVE:")).isSome =
      (active || (strstr (0x20 :: description) (ascii " ACTIVE:")).isSome) := by
  cases active with
  | true =>
      have hfound := strstr_prefix (ascii " ACTIVE:") (0x20 :: description)
      exact strstr_append [0x5D] hfound
  | false =>
      -- the mark of a cleared alarm holds no beginning of the other one
      have hskipped : strstr (0x5D :: (stateMark false ++ 0x20 :: description)) (ascii " ACTIVE:") =
          strstr (0x20 :: description) (ascii " ACTIVE:") := by
        simp [strstr, stateMark, ascii, List.isPrefixOf]
      rw [hskipped, Bool.false_or]

theorem strstr_cleared_formatted (description : Text) :
    (strstr (0x5D :: (stateMark false ++ 0x20 :: description)) (ascii " CLEARED:")).isSome := by
  have hfound := strstr_prefix (ascii " CLEARED:") (0x20 :: description)
  exact strstr_append [0x5D] hfound

/-- The first colon after the code ends the state. -/
theorem strstr_colon_formatted (active : Bool) (description : Text) :
    strstr (0x5D :: (stateMark active ++ 0x20 :: description)) (ascii ":") =
      some (0x3A :: 0x20 :: description) := by
  cases active <;> simp [strstr, stateMark, ascii, List.isPrefixOf]

/-- What the panel takes out of a text that fits into its buffer. -/
theorem alarm_formatted (hmessage : fields.message = some (formatted code active description))
    (hcode : PlainCode code) (hnul : 0 ∉ formatted code active description)
    (hfits : (formatted code active description).length < alarmReasonLength) :
    ∃ alarm, fields.alarm = some alarm ∧ alarm.alarmCode.text = code ∧
      alarm.reason = .ofText alarmReasonLength (description.dropWhile (· = 0x20)) ∧
      alarm.active = (active || (strstr (0x20 :: description) (ascii " ACTIVE:")).isSome) := by
  have htext : (uaStringToText alarmReasonLength fields.message).text =
      formatted code active description := by
    rw [hmessage, uaStringToText, Option.getD_some, CharArray.ofText_text hnul hfits]
  have hstart : strchr (formatted code active description) 0x5B =
      some (formatted code active description) := by
    simp [strchr, formatted]
  have hend := strchr_append (stateMark active ++ 0x20 :: description) hcode.noBracket
  have htake : (code ++ 0x5D :: (stateMark active ++ 0x20 :: description)).take
      ((code ++ 0x5D :: (stateMark active ++ 0x20 :: description)).length -
        (0x5D :: (stateMark active ++ 0x20 :: description)).length) = code := by
    rw [List.length_append, Nat.add_sub_cancel, List.take_left]
  have hstate : ¬((active || (strstr (0x20 :: description) (ascii " ACTIVE:")).isSome) = false ∧
      (strstr (0x5D :: (stateMark active ++ 0x20 :: description))
        (ascii " CLEARED:")).isSome = false) := by
    rintro ⟨hactive, hcleared⟩
    obtain rfl : active = false := (Bool.or_eq_false_iff.mp hactive).1
    rw [strstr_cleared_formatted] at hcleared
    cases hcleared
  have hspaces : (0x20 :: description).dropWhile (· = 0x20) = description.dropWhile (· = 0x20) := by
    simp
  unfold EventFields.alarm
  simp only [htext, hstart]
  simp only [formatted, List.tail_cons, hend, htake, strstr_active_formatted,
    strstr_colon_formatted, Option.getD_some, if_neg hcode.ne_nil, if_neg hstate, hspaces]
  exact ⟨_, rfl, CharArray.ofText_text hcode.noNul hcode.fits, rfl, rfl⟩

/-! ## Main theorem -/

/-- The panel takes code, state and description of the alarm out of the event. -/
def Recovers (fields : EventFields) (transition : AlarmTransition) : Prop :=
  ∃ alarm, fields.alarm = some alarm ∧ alarm.alarmCode.text = transition.alarmCode ∧
    alarm.active = transition.active ∧ alarm.reason.text = transition.message

/-- The description reads like the beginning of an active alarm, at its start or after a blank. -/
def SoundsActive (description : Text) : Prop :=
  (strstr (0x20 :: description) (ascii " ACTIVE:")).isSome

instance (description : Text) : Decidable (SoundsActive description) :=
  inferInstanceAs (Decidable (_ = true))

/-- The event of a transition is understood exactly if the alarm is active, or its description does not
sound like one that is. -/
theorem recovers_iff {transition : AlarmTransition}
    (hmessage : fields.message = some transition.eventMessage)
    (hcode : PlainCode transition.alarmCode) (hspace : transition.message.head? ≠ some 0x20)
    (hnul : 0 ∉ transition.eventMessage)
    (hfits : transition.eventMessage.length < alarmReasonLength) :
    Recovers fields transition ↔ (transition.active = true ∨ ¬SoundsActive transition.message) := by
  rw [eventMessage_eq] at hmessage hnul hfits
  obtain ⟨alarm, halarm, halarmCode, hreason, hactive⟩ := alarm_formatted hmessage hcode hnul hfits
  have hdescription : transition.message.dropWhile (· = 0x20) = transition.message := by
    cases htext : transition.message with
    | nil => rfl
    | cons byte bytes =>
        have hbyte : byte ≠ 0x20 := by simpa [htext] using hspace
        simp [hbyte]
  have hdescriptionNul : 0 ∉ transition.message := by
    intro hmem
    refine hnul ?_
    simp [formatted, hmem]
  have hdescriptionFits : transition.message.length < alarmReasonLength := by
    have hlength : transition.message.length ≤
        (formatted transition.alarmCode transition.active transition.message).length := by
      simp only [formatted, List.length_cons, List.length_append]
      omega
    omega
  have hreasonText : alarm.reason.text = transition.message := by
    rw [hreason, hdescription, CharArray.ofText_text hdescriptionNul hdescriptionFits]
  have hiff : Recovers fields transition ↔ alarm.active = transition.active := by
    constructor
    · rintro ⟨other, hother, -, hsame, -⟩
      obtain rfl : alarm = other := Option.some.inj (halarm.symm.trans hother)
      exact hsame
    · intro hsame
      exact ⟨alarm, halarm, halarmCode, hsame, hreasonText⟩
  rw [hiff, hactive, SoundsActive]
  cases transition.active <;> simp

/-- The transition by which a reset clears an alarm with some description. -/
def resetOf (description : Text) : AlarmTransition :=
  FaultManager.cleared
    { sourceIdentifier := ascii "compressor_1"
      sourceName := ascii "Compressor 1"
      alarmCode := sensorFault
      message := description
      severity := 600
      active := true }

/-- The event that tells of a transition. -/
def eventOf (transition : AlarmTransition) : EventFields where
  sourceNode := { namespaceIndex := 2, identifier := .numeric 7 }
  sourceName := some transition.sourceName
  message := some transition.eventMessage
  severity := transition.severity.toUInt16

theorem recovers_iff_reset : Recovers (eventOf (resetOf (ascii "sensor values are unreliable")))
    (resetOf (ascii "sensor values are unreliable")) := by
  refine (recovers_iff rfl ⟨?_, ?_, ?_, ?_⟩ ?_ ?_ ?_).mpr (Or.inr ?_) <;> decide +kernel

/-- A description which quotes the state of its alarm. -/
def quotingReset : AlarmTransition :=
  resetOf (ascii "alarm was ACTIVE: sensor")

/-- The panel takes the reset for an active alarm. -/
theorem quotingReset_misread :
    (eventOf quotingReset).message = some quotingReset.eventMessage ∧
      PlainCode quotingReset.alarmCode ∧ quotingReset.message.head? ≠ some 0x20 ∧
      0 ∉ quotingReset.eventMessage ∧ quotingReset.eventMessage.length < alarmReasonLength ∧
      quotingReset.active = false ∧
      (∃ alarm, (eventOf quotingReset).alarm = some alarm ∧ alarm.active = true) ∧
      ¬Recovers (eventOf quotingReset) quotingReset := by
  have hread : (eventOf quotingReset).alarm.map Alarm.active = some true := by decide +kernel
  obtain ⟨alarm, halarm, hactive⟩ := Option.map_eq_some_iff.mp hread
  refine ⟨rfl, ⟨?_, ?_, ?_, ?_⟩, ?_, ?_, ?_, rfl, ⟨alarm, halarm, hactive⟩, ?_⟩
  any_goals decide +kernel
  rintro ⟨other, hother, -, hsame, -⟩
  obtain rfl : alarm = other := Option.some.inj (halarm.symm.trans hother)
  rw [hactive] at hsame
  exact absurd hsame (by decide)

end CrowPanel.Simulator
