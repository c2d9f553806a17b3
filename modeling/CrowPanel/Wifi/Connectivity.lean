import CrowPanel.Library.CText
import CrowPanel.Library.Changes
import CrowPanel.Library.Machine

/-!
# The connectivity checker

`connectivity_task` checks the connection when it is told to and then once in a while.
`wifi_connectivity_start` and `wifi_connectivity_stop` are called from the event loop: each changes
`is_running` and then notifies the task, and the task may move in between.  The result of a check is
posted to the user interface when it differs from the status known so far.

A check reads the state of the driver, which is an argument of the step.  Only the task writes the
status and its detail, and nobody else reads both of them, so an update of the two is one step.

## Strategy

The reports of the checks are kept as a history variable, which makes the posted events the changes
of `Library.Changes`.  A second history counts what the task does for a start or after a stop: a start
is `due` until the task begins a check, and a report is `late` if it comes while nothing runs.  Both
are settled by where the task stands (`Prompt`).
-/

namespace CrowPanel.Wifi

open Library

/-- `wifi_connectivity_status_t` -/
inductive ConnectivityStatus where
  | unknown
  | noInternet
  | ok
  | weakSignal
  | routerProblem
  | ispProblem
  deriving DecidableEq

/-- What a check reads of the driver and of the network stack. -/
structure Surroundings where
  /-- `wifi_ctrl_is_connected` -/
  connected : Bool
  /-- `has_ip_address` -/
  hasIpAddress : Bool
  /-- `perform_ping_test` -/
  pingOk : Bool
  /-- `has_ip_address` after a ping that has failed -/
  stillHasIpAddress : Bool
  /-- `esp_wifi_sta_get_ap_info`, the signal strength; `none` where it fails -/
  apRssi : Option ℤ
  deriving DecidableEq

/-- `RSSI_WEAK_THRESHOLD` -/
def rssiWeakThreshold : ℤ :=
  -80

/-- `wifi_connectivity_get_rssi` -/
def Surroundings.rssi (surroundings : Surroundings) : ℤ :=
  surroundings.apRssi.getD 0

/-- The arguments of `update_status`. -/
structure StatusReport where
  status : ConnectivityStatus
  detail : Text
  deriving DecidableEq

/-- What `wifi_connectivity_check_now` finds of a station that is connected. -/
def connectedReport (activePingEnabled : Bool) (surroundings : Surroundings) : StatusReport :=
  if !surroundings.hasIpAddress then ⟨.noInternet, ascii "Connected (waiting for IP)"⟩
  else
    let pingOk := if activePingEnabled then surroundings.pingOk else true
    if pingOk then
      if surroundings.rssi ≤ rssiWeakThreshold then ⟨.weakSignal, ascii "Connected (weak signal)"⟩
      else ⟨.ok, ascii "Connected with LAN access"⟩
    else if surroundings.stillHasIpAddress then
      ⟨.ispProblem, ascii "ISP problem (IP, but no internet)"⟩
    else ⟨.routerProblem, ascii "Router problem (no IP)"⟩

/-- What it finds of a station that is not. -/
def notConnectedReport : StatusReport :=
  ⟨.noInternet, ascii "Not connected"⟩

/-- `app_settings_wifi_connectivity_status_data_t` -/
structure StatusPayload where
  status : ConnectivityStatus
  details : CharArray 64
  len : UInt8
  deriving DecidableEq

/-- The event that `on_wifi_connectivity_changed` posts; without a detail the text is empty. -/
def statusPayload (status : ConnectivityStatus) (details : Option Text) : StatusPayload :=
  match details with
  | none => ⟨status, .ofText 64 [], 0⟩
  | some details => ⟨status, .ofText 64 details, details.length.toUInt8⟩

/-! ## The task and its callers -/

/-- Where `connectivity_task` is. -/
inductive CheckerPlace where
  /-- at the top of its loop -/
  | loop
  /-- It waits for a notification, with nothing to do. -/
  | idle
  /-- at the beginning of `wifi_connectivity_check_now` -/
  | checking
  /-- `update_status` is to be called. -/
  | reporting (report : StatusReport)
  /-- It waits for a notification or the end of the interval. -/
  | resting
  deriving DecidableEq

/-- The fields of `connectivity_ctx_t` that are not about pings and intervals, with the place of the
task and the call in progress. -/
structure Checker where
  /-- `current_status` -/
  status : ConnectivityStatus := .unknown
  detail : Option Text := none
  isChecking : Bool := false
  isRunning : Bool := false
  activePingEnabled : Bool := false
  /-- The task has been notified since it waited last. -/
  notified : Bool := false
  place : CheckerPlace := .loop
  /-- A call of start or stop has changed `is_running` and is about to notify the task. -/
  notifying : Bool := false
  /-- The events handed to `esp_event_post` so far. -/
  posted : List StatusPayload := []
  deriving DecidableEq

inductive CheckerEvent where
  /-- `wifi_connectivity_start` -/
  | start
  /-- `wifi_connectivity_stop` -/
  | stop
  /-- The call in progress notifies the task. -/
  | notify
  /-- The task goes on, in these surroundings. -/
  | proceed (surroundings : Surroundings)
  /-- The interval ends for which the task rests. -/
  | timeout
  deriving DecidableEq

namespace Checker

/-- `update_status` -/
def updateStatus (checker : Checker) (report : StatusReport) : Checker :=
  if report.status ≠ checker.status then
    { checker with
      status := report.status
      detail := some report.detail
      posted := checker.posted ++ [statusPayload report.status (some report.detail)] }
  else checker

/-- `wifi_connectivity_check_now`, up to `update_status`.  The task is its only caller. -/
def checkNow (checker : Checker) (surroundings : Surroundings) : Checker :=
  if checker.isChecking then { checker with place := .resting }
  else if !surroundings.connected then { checker with place := .reporting notConnectedReport }
  else
    { checker with
      isChecking := true
      place := .reporting (connectedReport checker.activePingEnabled surroundings) }

/-- One step of `connectivity_task`; a wait is left only with a notification. -/
def proceed (checker : Checker) (surroundings : Surroundings) : Option Checker :=
  match checker.place with
  | .loop => some { checker with place := if checker.isRunning then .checking else .idle }
  | .idle => if checker.notified then some { checker with notified := false, place := .loop } else none
  | .checking => some (checker.checkNow surroundings)
  | .reporting report =>
      some { checker.updateStatus report with isChecking := false, place := .resting }
  | .resting =>
      if checker.notified then some { checker with notified := false, place := .loop } else none

def step (checker : Checker) : CheckerEvent → Option Checker
  | .start =>
      if checker.notifying then none
      else if checker.isRunning then some checker
      else some { checker with isRunning := true, notifying := true }
  | .stop =>
      if checker.notifying then none
      else if !checker.isRunning then some checker
      else some { checker with isRunning := false, notifying := true }
  | .notify =>
      if checker.notifying then some { checker with notified := true, notifying := false } else none
  | .proceed surroundings => checker.proceed surroundings
  | .timeout =>
      if checker.place = .resting ∧ checker.notified = false then
        some { checker with place := .loop }
      else none

/-- `wifi_connectivity_init` has succeeded, and the callback has been registered. -/
def machine : Machine Checker CheckerEvent where
  start checker := checker = {}
  step := step

/-- `wifi_connectivity_has_internet` -/
def hasInternet (checker : Checker) : Bool :=
  checker.status = .ok ∨ checker.status = .weakSignal

/-! ## What is posted -/

/-- Before the first report. -/
def unknownReport : StatusReport :=
  ⟨.unknown, []⟩

/-- The reports whose status differs from the one before. -/
abbrev statusChanges (reports : List StatusReport) : List StatusReport :=
  changes StatusReport.status unknownReport reports

/-- The last of them. -/
abbrev lastChange (reports : List StatusReport) : StatusReport :=
  current StatusReport.status unknownReport reports

/-- The reports handed to `update_status`. -/
def noteReport (checker : Checker) (event : CheckerEvent) (reports : List StatusReport) :
    List StatusReport :=
  match event, checker.place with
  | .proceed _, .reporting report => reports ++ [report]
  | _, _ => reports

/-- The checker with the reports of its checks. -/
def reportMachine : Machine (Checker × List StatusReport) CheckerEvent :=
  machine.withHistory [] noteReport

/-- The results of a check that makes no ping. -/
inductive PassiveReport : StatusReport → Prop
  | notConnected : PassiveReport notConnectedReport
  | waiting : PassiveReport ⟨.noInternet, ascii "Connected (waiting for IP)"⟩
  | weakSignal : PassiveReport ⟨.weakSignal, ascii "Connected (weak signal)"⟩
  | ok : PassiveReport ⟨.ok, ascii "Connected with LAN access"⟩

/-- What the checker has posted, given the reports. -/
structure Announced (checker : Checker) (reports : List StatusReport) : Prop where
  status : checker.status = (lastChange reports).status
  detail : reports ≠ [] → checker.detail = some (lastChange reports).detail
  posted : checker.posted =
    (statusChanges reports).map fun report => statusPayload report.status (some report.detail)
  passive : ∀ report ∈ reports, PassiveReport report
  place : ∀ report, checker.place = .reporting report → PassiveReport report
  noPing : checker.activePingEnabled = false

variable {checker next : Checker} {event : CheckerEvent} {reports : List StatusReport}

theorem connectedReport_passive (surroundings : Surroundings) :
    PassiveReport (connectedReport false surroundings) := by
  unfold connectedReport
  split
  · exact .waiting
  · simp only [Bool.false_eq_true, if_false, if_true]
    split
    · exact .weakSignal
    · exact .ok

/-- A report of a check is never about an unknown status. -/
theorem PassiveReport.known {report : StatusReport} (hpassive : PassiveReport report) :
    report.status ≠ .unknown := by
  cases hpassive <;> decide

/-- A step that is not a report leaves what has been posted. -/
theorem Announced.frame (hannounced : Announced checker reports)
    (hstatus : next.status = checker.status) (hdetail : next.detail = checker.detail)
    (hposted : next.posted = checker.posted)
    (hping : next.activePingEnabled = checker.activePingEnabled)
    (hplace : ∀ report, next.place = .reporting report → PassiveReport report) :
    Announced next reports where
  status := hstatus.trans hannounced.status
  detail := fun hreports => hdetail.trans (hannounced.detail hreports)
  posted := hposted.trans hannounced.posted
  passive := hannounced.passive
  place := hplace
  noPing := hping.trans hannounced.noPing

/-- A report is posted exactly if it changes the status. -/
theorem Announced.report {report : StatusReport} (hannounced : Announced checker reports)
    (hplace : checker.place = .reporting report) :
    Announced { checker.updateStatus report with isChecking := false, place := .resting }
      (reports ++ [report]) := by
  have hpassive := hannounced.place report hplace
  have hreports : ∀ other ∈ reports ++ [report], PassiveReport other := by
    intro other hother
    rcases List.mem_append.mp hother with hold | hnew
    · exact hannounced.passive other hold
    · exact List.mem_singleton.mp hnew ▸ hpassive
  by_cases hchange : (lastChange reports).status = report.status
  · have hsame : ¬report.status ≠ checker.status := not_not.mpr (by rw [hannounced.status, hchange])
    -- the very first report changes the unknown status, so there has been one before
    have hbefore : reports ≠ [] := by
      rintro rfl
      exact hpassive.known hchange.symm
    constructor
    · simpa [updateStatus, hsame, current_concat, hchange] using hannounced.status
    · simpa [updateStatus, hsame, current_concat, hchange] using hannounced.detail hbefore
    · simpa [updateStatus, hsame, changes_concat, hchange] using hannounced.posted
    · exact hreports
    · simp
    · simpa [updateStatus, hsame] using hannounced.noPing
  · have hnew : report.status ≠ checker.status := by
      rw [hannounced.status]
      exact Ne.symm hchange
    constructor
    · simp [updateStatus, hnew, current_concat, hchange]
    · simp [updateStatus, hnew, current_concat, hchange]
    · simp [updateStatus, hnew, changes_concat, hchange, hannounced.posted]
    · exact hreports
    · simp
    · simpa [updateStatus, hnew] using hannounced.noPing

theorem checkNow_announced (hannounced : Announced checker reports) (surroundings : Surroundings) :
    Announced (checker.checkNow surroundings) reports := by
  unfold checkNow
  split
  · exact hannounced.frame rfl rfl rfl rfl (by simp)
  split
  · refine hannounced.frame rfl rfl rfl rfl fun report hplace => ?_
    exact CheckerPlace.reporting.inj hplace ▸ .notConnected
  · refine hannounced.frame rfl rfl rfl rfl fun report hplace => ?_
    obtain rfl := CheckerPlace.reporting.inj hplace
    rw [hannounced.noPing]
    exact connectedReport_passive surroundings

theorem proceed_announced (hannounced : Announced checker reports) (surroundings : Surroundings)
    (hproceed : checker.proceed surroundings = some next) :
    Announced next (noteReport checker (.proceed surroundings) reports) := by
  cases hplace : checker.place with
  | loop =>
      obtain rfl : _ = next := by simpa [proceed, hplace] using hproceed
      simp only [noteReport, hplace]
      refine hannounced.frame rfl rfl rfl rfl fun report => ?_
      dsimp only
      split <;> simp
  | idle =>
      obtain ⟨-, rfl⟩ : checker.notified = true ∧ _ = next := by simpa [proceed, hplace] using hproceed
      simp only [noteReport, hplace]
      exact hannounced.frame rfl rfl rfl rfl (by simp)
  | checking =>
      obtain rfl : _ = next := by simpa [proceed, hplace] using hproceed
      simpa only [noteReport, hplace] using checkNow_announced hannounced surroundings
  | reporting report =>
      obtain rfl : _ = next := by simpa [proceed, hplace] using hproceed
      simpa only [noteReport, hplace] using hannounced.report hplace
  | resting =>
      obtain ⟨-, rfl⟩ : checker.notified = true ∧ _ = next := by simpa [proceed, hplace] using hproceed
      simp only [noteReport, hplace]
      exact hannounced.frame rfl rfl rfl rfl (by simp)

theorem step_announced (hannounced : Announced checker reports)
    (hstep : checker.step event = some next) :
    Announced next (noteReport checker event reports) := by
  cases event with
  | start =>
      simp only [step] at hstep
      split_ifs at hstep
      · exact Option.some.inj hstep ▸ hannounced
      · obtain rfl := Option.some.inj hstep
        exact hannounced.frame rfl rfl rfl rfl hannounced.place
  | stop =>
      simp only [step] at hstep
      split_ifs at hstep
      · exact Option.some.inj hstep ▸ hannounced
      · obtain rfl := Option.some.inj hstep
        exact hannounced.frame rfl rfl rfl rfl hannounced.place
  | notify =>
      obtain ⟨-, rfl⟩ : checker.notifying = true ∧ _ = next := by simpa [step] using hstep
      exact hannounced.frame rfl rfl rfl rfl hannounced.place
  | proceed surroundings => exact proceed_announced hannounced surroundings hstep
  | timeout =>
      obtain ⟨-, rfl⟩ : (checker.place = .resting ∧ checker.notified = false) ∧ _ = next := by
        simpa [step] using hstep
      exact hannounced.frame rfl rfl rfl rfl (by simp)

theorem announced (hreached : reportMachine.Reachable (checker, reports)) :
    Announced checker reports := by
  refine Machine.Reachable.invariant (I := fun state => Announced state.1 state.2) ?_ ?_ hreached
  · rintro ⟨checker, reports⟩ ⟨hstart, hreports⟩
    obtain rfl : checker = {} := hstart
    obtain rfl : reports = [] := hreports
    exact ⟨rfl, fun hne => absurd rfl hne, rfl, by simp, by simp, rfl⟩
  · rintro ⟨checker, reports⟩ event ⟨next, noted⟩ hannounced hstep
    obtain ⟨hnext, hnoted⟩ := Machine.withHistory_step hstep
    obtain rfl : noted = _ := hnoted
    exact step_announced hannounced hnext

/-- **What the user interface is told.**  In every run the events posted are the reports that change
the status, each with its detail, and no two in a row have the same status; the status is that of the
latest report; and as pings are never enabled, no check finds a router or an ISP problem. -/
theorem posted_changes (hreached : reportMachine.Reachable (checker, reports)) :
    checker.posted =
        (statusChanges reports).map (fun report => statusPayload report.status (some report.detail)) ∧
      (.unknown :: checker.posted.map StatusPayload.status).IsChain (· ≠ ·) ∧
      checker.status = (reports.getLastD unknownReport).status ∧
      (reports ≠ [] → checker.detail = some (lastChange reports).detail) ∧
      (checker.hasInternet = true ↔ (reports.getLastD unknownReport).status = .ok ∨
        (reports.getLastD unknownReport).status = .weakSignal) ∧
      ∀ report ∈ reports, PassiveReport report := by
  have hannounced := announced hreached
  have hstatus : checker.status = (reports.getLastD unknownReport).status :=
    hannounced.status.trans (key_current reports)
  refine ⟨hannounced.posted, ?_, hstatus, hannounced.detail, ?_, hannounced.passive⟩
  · have hchain : (unknownReport :: statusChanges reports).IsChain (Differs StatusReport.status) :=
      isChain_changes reports
    rw [hannounced.posted, List.map_map]
    exact (List.isChain_map StatusReport.status).mpr hchain
  · simp [hasInternet, hstatus]

/-- A weak signal that is found twice, and then a good one. -/
private def weakThenGood : List CheckerEvent :=
  let weak : Surroundings := ⟨true, true, false, false, some (-85)⟩
  let good : Surroundings := ⟨true, true, false, false, some (-50)⟩
  [.start, .proceed weak, .notify, .proceed weak, .proceed weak, .proceed weak, .proceed weak,
    .proceed weak, .proceed weak, .timeout, .proceed good, .proceed good, .proceed good]

/-- Both of them are posted, and the second report of the weak signal is not. -/
theorem posted_changes_weak_then_good :
    ∃ checker reports, reportMachine.replay ({}, []) weakThenGood = some (checker, reports) ∧
      reports.map StatusReport.status = [.weakSignal, .weakSignal, .ok] ∧
      checker.posted.map StatusPayload.status = [.weakSignal, .ok] ∧
      (.unknown :: checker.posted.map StatusPayload.status).IsChain (· ≠ ·) := by
  have hsome : (reportMachine.replay ({}, []) weakThenGood).isSome := by decide +kernel
  obtain ⟨⟨checker, reports⟩, hreplay⟩ := Option.isSome_iff_exists.mp hsome
  have hseen : (reportMachine.replay ({}, []) weakThenGood).map (fun state =>
      (state.2.map StatusReport.status, state.1.posted.map StatusPayload.status)) =
        some ([.weakSignal, .weakSignal, .ok], [.weakSignal, .ok]) := by decide +kernel
  rw [hreplay] at hseen
  obtain ⟨hreports, hposted⟩ := Prod.mk.inj (Option.some.inj hseen)
  have hstart : reportMachine.start ({}, []) := ⟨rfl, rfl⟩
  have hreached := Machine.reachable_of_replay hstart hreplay
  exact ⟨checker, reports, hreplay, hreports, hposted, (posted_changes hreached).2.1⟩

/-! ## Starts and stops -/

/-- What the task still owes to the last start, and what it has done since the last stop. -/
structure Debt where
  /-- No check has begun since the checker has been started. -/
  due : Bool := false
  /-- the reports since it has been stopped -/
  late : ℕ := 0
  deriving DecidableEq

def noteDebt (checker : Checker) (event : CheckerEvent) (debt : Debt) : Debt :=
  match event with
  | .start => if checker.isRunning then debt else { due := true }
  | .stop => if checker.isRunning then {} else debt
  | .notify | .timeout => debt
  | .proceed _ =>
      match checker.place with
      | .loop => if checker.isRunning then { debt with due := false } else debt
      | .reporting _ => if checker.isRunning then debt else { debt with late := debt.late + 1 }
      | _ => debt

/-- The checker with its debt. -/
def debtMachine : Machine (Checker × Debt) CheckerEvent :=
  machine.withHistory {} noteDebt

/-- A check is in progress. -/
def AtWork (checker : Checker) : Prop :=
  checker.place = .checking ∨ ∃ report, checker.place = .reporting report

/-- The task has something that will wake it. -/
def Awake (checker : Checker) : Prop :=
  checker.notifying = true ∨ checker.notified = true ∨ checker.place = .loop

/-- Where a started task and a stopped one can stand. -/
structure Prompt (checker : Checker) (debt : Debt) : Prop where
  due : debt.due = true → checker.isRunning = true ∧ checker.Awake
  idle : checker.isRunning = true → checker.place = .idle → checker.Awake
  running : checker.isRunning = true → debt.late = 0
  stopped : checker.isRunning = false → debt.late = 0 ∨ debt.late = 1 ∧ ¬checker.AtWork

variable {debt : Debt}

/-- The task moves on from a place that is not the top of its loop. -/
theorem Awake.moved (hawake : checker.Awake) (hnotifying : next.notifying = checker.notifying)
    (hnotified : next.notified = checker.notified) (hplace : checker.place ≠ .loop) :
    next.Awake := by
  rcases hawake with hcall | hbit | hloop
  · exact .inl (hnotifying.trans hcall)
  · exact .inr (.inl (hnotified.trans hbit))
  · exact absurd hloop hplace

theorem updateStatus_frame (checker : Checker) (report : StatusReport) :
    (checker.updateStatus report).isRunning = checker.isRunning ∧
      (checker.updateStatus report).notified = checker.notified ∧
      (checker.updateStatus report).notifying = checker.notifying := by
  unfold updateStatus
  split <;> simp

theorem checkNow_frame (checker : Checker) (surroundings : Surroundings) :
    (checker.checkNow surroundings).isRunning = checker.isRunning ∧
      (checker.checkNow surroundings).notified = checker.notified ∧
      (checker.checkNow surroundings).notifying = checker.notifying ∧
      (checker.checkNow surroundings).place ≠ .idle := by
  unfold checkNow
  split
  · simp
  split <;> simp

theorem Prompt.call (hprompt : Prompt checker debt) (running : Bool)
    (hstep : checker.step (if running then .start else .stop) = some next) :
    Prompt next (noteDebt checker (if running then .start else .stop) debt) := by
  by_cases hsame : checker.isRunning = running
  · obtain rfl : checker = next := by
      cases running <;> simp_all [step]
    cases running <;> simpa [noteDebt, hsame] using hprompt
  · have hnext : next = { checker with isRunning := running, notifying := true } := by
      cases running <;> simp_all [step]
    subst hnext
    cases running with
    | true =>
        have hstopped : checker.isRunning = false := by simpa using hsame
        simp only [noteDebt, if_true, hstopped, Bool.false_eq_true, if_false]
        exact ⟨fun _ => ⟨rfl, .inl rfl⟩, fun _ _ => .inl rfl, fun _ => rfl, by simp⟩
    | false =>
        have hrunning : checker.isRunning = true := by simpa using hsame
        simp only [noteDebt, Bool.false_eq_true, if_false, hrunning, if_true]
        exact ⟨by simp, by simp, by simp, fun _ => .inl rfl⟩

theorem Prompt.proceed (hprompt : Prompt checker debt) {surroundings : Surroundings}
    (hproceed : checker.proceed surroundings = some next) :
    Prompt next (noteDebt checker (.proceed surroundings) debt) := by
  cases hplace : checker.place with
  | loop =>
      obtain rfl : _ = next := by simpa [Checker.proceed, hplace] using hproceed
      cases hrunning : checker.isRunning with
      | true =>
          simp only [noteDebt, hplace, hrunning, if_true]
          exact ⟨by simp, by simp, fun _ => hprompt.running hrunning, by simp⟩
      | false =>
          -- a stopped checker has no start to serve, and the task goes to sleep
          have hdue : debt.due = false := by
            by_contra hdue
            simpa [hrunning] using (hprompt.due (by simpa using hdue)).1
          simp only [noteDebt, hplace, hrunning, Bool.false_eq_true, if_false]
          refine ⟨by simp [hdue], by simp, by simp, fun _ => ?_⟩
          exact (hprompt.stopped hrunning).imp_right fun hlate => ⟨hlate.1, by simp [AtWork]⟩
  | idle =>
      obtain ⟨-, rfl⟩ : checker.notified = true ∧ _ = next := by
        simpa [Checker.proceed, hplace] using hproceed
      simp only [noteDebt, hplace]
      refine ⟨fun hdue => ⟨(hprompt.due hdue).1, .inr (.inr rfl)⟩, by simp, hprompt.running, ?_⟩
      exact fun hstopped => (hprompt.stopped hstopped).imp_right fun hlate =>
        ⟨hlate.1, by simp [AtWork]⟩
  | checking =>
      obtain rfl : _ = next := by simpa [Checker.proceed, hplace] using hproceed
      obtain ⟨hrunning, hnotified, hnotifying, hmoved⟩ := checkNow_frame checker surroundings
      have hlate : checker.isRunning = false → debt.late = 0 := fun hstopped =>
        (hprompt.stopped hstopped).resolve_right fun hlate => hlate.2 (.inl hplace)
      simp only [noteDebt, hplace]
      constructor
      · intro hdue
        refine ⟨hrunning.trans (hprompt.due hdue).1, ?_⟩
        exact (hprompt.due hdue).2.moved hnotifying hnotified (by simp [hplace])
      · exact fun _ hidle => absurd hidle hmoved
      · exact fun hstarted => hprompt.running (hrunning ▸ hstarted)
      · exact fun hstopped => .inl (hlate (hrunning ▸ hstopped))
  | reporting report =>
      obtain rfl : _ = next := by simpa [Checker.proceed, hplace] using hproceed
      obtain ⟨hrunning, hnotified, hnotifying⟩ := updateStatus_frame checker report
      have hlate : checker.isRunning = false → debt.late = 0 := fun hstopped =>
        (hprompt.stopped hstopped).resolve_right fun hlate => hlate.2 (.inr ⟨report, hplace⟩)
      simp only [noteDebt, hplace]
      constructor
      · intro hdue
        have hdue : debt.due = true := by
          split at hdue <;> exact hdue
        refine ⟨hrunning.trans (hprompt.due hdue).1, ?_⟩
        exact (hprompt.due hdue).2.moved hnotifying hnotified (by simp [hplace])
      · intro _ hidle
        cases hidle
      · intro hstarted
        rw [if_pos (hrunning.symm.trans hstarted)]
        exact hprompt.running (hrunning ▸ hstarted)
      · -- the check in progress is the only one to report after a stop
        intro hstopped
        have hstopped : checker.isRunning = false := hrunning ▸ hstopped
        simp [hstopped, hlate hstopped, AtWork]
  | resting =>
      obtain ⟨-, rfl⟩ : checker.notified = true ∧ _ = next := by
        simpa [Checker.proceed, hplace] using hproceed
      simp only [noteDebt, hplace]
      refine ⟨fun hdue => ⟨(hprompt.due hdue).1, .inr (.inr rfl)⟩, by simp, hprompt.running, ?_⟩
      exact fun hstopped => (hprompt.stopped hstopped).imp_right fun hlate =>
        ⟨hlate.1, by simp [AtWork]⟩

theorem Prompt.step (hprompt : Prompt checker debt) (hstep : checker.step event = some next) :
    Prompt next (noteDebt checker event debt) := by
  cases event with
  | start => exact hprompt.call true hstep
  | stop => exact hprompt.call false hstep
  | proceed surroundings => exact hprompt.proceed hstep
  | notify =>
      obtain ⟨-, rfl⟩ : checker.notifying = true ∧ _ = next := by simpa [Checker.step] using hstep
      exact ⟨fun hdue => ⟨(hprompt.due hdue).1, .inr (.inl rfl)⟩, fun _ _ => .inr (.inl rfl),
        hprompt.running, hprompt.stopped⟩
  | timeout =>
      obtain ⟨-, rfl⟩ : (checker.place = .resting ∧ checker.notified = false) ∧ _ = next := by
        simpa [Checker.step] using hstep
      refine ⟨fun hdue => ⟨(hprompt.due hdue).1, .inr (.inr rfl)⟩, by simp, hprompt.running, ?_⟩
      exact fun hstopped => (hprompt.stopped hstopped).imp_right fun hlate =>
        ⟨hlate.1, by simp [AtWork]⟩

theorem prompt (hreached : debtMachine.Reachable (checker, debt)) : Prompt checker debt := by
  refine Machine.Reachable.invariant (I := fun state => Prompt state.1 state.2) ?_ ?_ hreached
  · rintro ⟨checker, debt⟩ ⟨hstart, hdebt⟩
    obtain rfl : checker = {} := hstart
    obtain rfl : debt = {} := hdebt
    exact ⟨by simp, by simp, by simp, by simp⟩
  · rintro ⟨checker, debt⟩ event ⟨next, noted⟩ hprompt hstep
    obtain ⟨hnext, hnoted⟩ := Machine.withHistory_step hstep
    obtain rfl : noted = _ := hnoted
    exact hprompt.step hnext

/-- The task waits, no notification is pending, and no call is in progress. -/
structure Quiet (checker : Checker) : Prop where
  waiting : checker.place = .idle ∨ checker.place = .resting
  notified : checker.notified = false
  notifying : checker.notifying = false

theorem Quiet.not_awake (hquiet : checker.Quiet) : ¬checker.Awake := by
  rintro (hcall | hbit | hloop)
  · rw [hquiet.notifying] at hcall
    cases hcall
  · rw [hquiet.notified] at hbit
    cases hbit
  · rcases hquiet.waiting with hidle | hresting
    · rw [hidle] at hloop
      cases hloop
    · rw [hresting] at hloop
      cases hloop

/-- **No start is missed.**  However the task and the callers of start and stop interleave, the task
does not come to rest before it has begun a check for the last start, a running checker does not
sleep without an interval, and a stopped one reports at most the check it was in. -/
theorem starts_served (hreached : debtMachine.Reachable (checker, debt)) :
    (checker.Quiet → debt.due = false ∧ (checker.isRunning = true → checker.place = .resting)) ∧
      (checker.isRunning = true → debt.late = 0) ∧ debt.late ≤ 1 ∧
      (checker.AtWork → debt.late = 0) := by
  have hprompt := prompt hreached
  refine ⟨fun hquiet => ⟨?_, fun hrunning => ?_⟩, hprompt.running, ?_, fun hwork => ?_⟩
  · by_contra hdue
    exact hquiet.not_awake (hprompt.due (by simpa using hdue)).2
  · exact hquiet.waiting.resolve_left fun hidle => hquiet.not_awake (hprompt.idle hrunning hidle)
  · cases hrunning : checker.isRunning with
    | true => exact (hprompt.running hrunning).trans_le (by omega)
    | false =>
        rcases hprompt.stopped hrunning with hnone | ⟨hone, -⟩
        · omega
        · omega
  · cases hrunning : checker.isRunning with
    | true => exact hprompt.running hrunning
    | false => exact (hprompt.stopped hrunning).resolve_right fun hlate => hlate.2 hwork

/-- A checker that is stopped and started again while a check is in progress. -/
private def restartedRun : List CheckerEvent :=
  let good : Surroundings := ⟨true, true, false, false, some (-50)⟩
  [.start, .proceed good, .proceed good, .notify, .stop, .notify, .start, .notify,
    .proceed good, .proceed good, .proceed good, .proceed good, .proceed good]

/-- The check for the second start comes after the one that was in progress. -/
theorem starts_served_restarted :
    ∃ checker debt, debtMachine.replay ({}, {}) restartedRun = some (checker, debt) ∧
      checker.Quiet ∧ debt.due = false ∧ checker.place = .resting := by
  have hsome : (debtMachine.replay ({}, {}) restartedRun).isSome := by decide +kernel
  obtain ⟨⟨checker, debt⟩, hreplay⟩ := Option.isSome_iff_exists.mp hsome
  have hseen : (debtMachine.replay ({}, {}) restartedRun).map (fun state =>
      (state.1.place, state.1.notified, state.1.notifying, state.1.isRunning)) =
        some (.resting, false, false, true) := by decide +kernel
  rw [hreplay] at hseen
  simp only [Option.map_some, Option.some.injEq, Prod.mk.injEq] at hseen
  obtain ⟨hplace, hnotified, hnotifying, hrunning⟩ := hseen
  have hquiet : checker.Quiet := ⟨.inr hplace, hnotified, hnotifying⟩
  have hstart : debtMachine.start ({}, {}) := ⟨rfl, rfl⟩
  have hserved := starts_served (Machine.reachable_of_replay hstart hreplay)
  exact ⟨checker, debt, hreplay, hquiet, (hserved.1 hquiet).1, (hserved.1 hquiet).2 hrunning⟩

end Checker

end CrowPanel.Wifi
