import CrowPanel.Library.Machine
import CrowPanel.Wifi.UserDisconnect

/-!
# The scanner task

A request to scan is recorded in `scan_requested`, and the scanner task is woken by a notification.
No request may be lost: while the interface is up and a scan is wanted, a task that is blocked at the
top of its loop has a notification waiting for it.

The handlers run under the mutex of the manager, and `ScanSection` lists what they do to the flags of
the scanner in one go.  Between two sections of the task any of them may run.

## Strategy

While the task is not at the top of its loop it will look at the flags again, or has decided to notify
itself (`ScannerPlace.looks`), and `Heard` says that otherwise a request has a notification.  Only a start of
the interface can break this: it notifies nobody, although a request may have been recorded while the
interface was down.  `StartHeard` is the condition under which it does not matter.
-/

namespace CrowPanel.Wifi

open Library

/-! ## The task -/

/-- Where `scanner_task` is. -/
inductive ScannerPlace where
  /-- At the top of the loop. -/
  | waiting
  /-- Notified, before it looks at the flags. -/
  | woken
  /-- In the delay after a scan that came too early. -/
  | delaying
  /-- Before `esp_wifi_scan_start`. -/
  | starting (currentTime : UInt32)
  /-- The scan has started. -/
  | started (currentTime : UInt32)
  /-- Waiting for the scan to end. -/
  | listening
  /-- Before the scan is declared to be over. -/
  | finishing
  /-- After its last section, before it notifies itself or does not. -/
  | decided (retry : Bool)
  deriving DecidableEq

/-- The manager and its scanner task. -/
structure Scanner where
  mgr : WifiMgr := {}
  lastScanTime : UInt32 := 0
  scanCooldownMs : UInt32 := 3000
  /-- A task notification is pending. -/
  notified : Bool := false
  place : ScannerPlace := .waiting
  deriving DecidableEq

/-- What the handlers do to the flags of the scanner, each under the mutex. -/
inductive ScanSection where
  | request (scanning : Bool)
  | staStart
  | staStop
  deriving DecidableEq

inductive ScannerEvent where
  | handler (done : ScanSection)
  /-- The task goes on; it may read the clock and ask the driver to scan. -/
  | task (currentTime : UInt32) (accepted : Bool)

namespace Scanner

/-- `set_scanning`, with its notification. -/
def setScanning (scanner : Scanner) (scanning : Bool) : Scanner :=
  let (_, mgr, effects) := scanner.mgr.setScanning scanning
  { scanner with mgr, notified := scanner.notified || effects.contains .notifyScanTask }

/-- The section of a handler. -/
def perform (scanner : Scanner) : ScanSection → Scanner
  | .request scanning => scanner.setScanning scanning
  | .staStart => { scanner with mgr := { scanner.mgr with interfaceStarted := true } }
  | .staStop =>
      { scanner with mgr := { scanner.mgr with interfaceStarted := false } }.setScanning false

/-- `scanner_task`, from one section or blocking call to the next. -/
def advance (scanner : Scanner) (currentTime : UInt32) (accepted : Bool) : Option Scanner :=
  match scanner.place with
  | .waiting =>
      if scanner.notified then some { scanner with notified := false, place := .woken } else none
  | .woken =>
      if scanner.mgr.interfaceStarted && scanner.mgr.scanRequested then
        let elapsedMs := currentTime - scanner.lastScanTime
        if scanner.scanCooldownMs ≤ elapsedMs then
          some
            { scanner with
              mgr := { scanner.mgr with scanning := true }
              place := .starting currentTime }
        else some { scanner with place := .delaying }
      else some { scanner with place := .waiting }
  | .delaying =>
      some
        { scanner with
          place := .decided (scanner.mgr.interfaceStarted && scanner.mgr.scanRequested) }
  | .starting currentTime =>
      some { scanner with place := if accepted then .started currentTime else .finishing }
  | .started currentTime => some { scanner with lastScanTime := currentTime, place := .listening }
  -- a notification ends the wait and is consumed; without one the wait ends after five seconds
  | .listening => some { scanner with notified := false, place := .finishing }
  | .finishing =>
      some
        { scanner with
          mgr := { scanner.mgr with scanning := false }
          place := .decided scanner.mgr.scanRequested }
  | .decided retry =>
      some { scanner with notified := scanner.notified || retry, place := .waiting }

def step (scanner : Scanner) : ScannerEvent → Option Scanner
  | .handler done => some (scanner.perform done)
  | .task currentTime accepted => scanner.advance currentTime accepted

/-- The manager and the task after `wifi_ctrl_init`. -/
def machine : Machine Scanner ScannerEvent where
  start scanner := ∃ wasEnabled saved, scanner = { mgr := WifiMgr.loadState wasEnabled saved }
  step := step

end Scanner

/-! ## The invariant -/

/-- The task will look at the flags, or notify itself, before it blocks at the top of its loop. -/
def ScannerPlace.looks : ScannerPlace → Bool
  | .waiting => false
  | .decided retry => retry
  | _ => true

/-- The task is between setting `scanning` and clearing it. -/
def ScannerPlace.scans : ScannerPlace → Bool
  | .starting _ | .started _ | .listening | .finishing => true
  | _ => false

/-- After a scan the task looks at the flags once more. -/
theorem ScannerPlace.looks_of_scans {place : ScannerPlace} (hscans : place.scans = true) :
    place.looks = true := by
  cases place with
  | starting | started | listening | finishing => rfl
  | waiting | woken | delaying | decided => cases hscans

namespace Scanner

variable {scanner next : Scanner}

/-- A scan is wanted and possible. -/
def Wanted (scanner : Scanner) : Prop :=
  scanner.mgr.interfaceStarted = true ∧ scanner.mgr.scanRequested = true

/-- The task knows, or will find out. -/
def Alert (scanner : Scanner) : Prop :=
  scanner.notified = true ∨ scanner.place.looks = true

/-- A wanted scan is known to the task. -/
structure Heard (scanner : Scanner) : Prop where
  scanning : scanner.mgr.scanning = scanner.place.scans
  alert : scanner.Wanted → scanner.Alert

/-- When the interface starts, a request from before is known to the task. -/
def StartHeard (scanner : Scanner) : ScannerEvent → Prop
  | .handler .staStart => scanner.mgr.scanRequested = true → scanner.Alert
  | _ => True

instance (scanner : Scanner) : Decidable scanner.Alert :=
  inferInstanceAs (Decidable (_ ∨ _))

instance (scanner : Scanner) : ∀ event, Decidable (scanner.StartHeard event)
  | .handler .staStart => inferInstanceAs (Decidable (_ → _))
  | .handler (.request _) | .handler .staStop | .task _ _ => inferInstanceAs (Decidable True)

@[simp] theorem setScanning_place (scanning : Bool) :
    (scanner.setScanning scanning).place = scanner.place := rfl

@[simp] theorem setScanning_mgr (scanning : Bool) :
    (scanner.setScanning scanning).mgr = { scanner.mgr with scanRequested := scanning } :=
  scanner.mgr.setScanning_mgr scanning

/-- A request to scan notifies the task, unless it cannot scan or scans already. -/
theorem setScanning_notified (hstarted : scanner.mgr.interfaceStarted = true)
    (hidle : scanner.mgr.scanning = false) : (scanner.setScanning true).notified = true := by
  simp [setScanning, WifiMgr.setScanning, hstarted, hidle]

theorem Heard.perform (hheard : scanner.Heard) {done : ScanSection}
    (hstart : scanner.StartHeard (.handler done)) : (scanner.perform done).Heard := by
  cases done with
  | request scanning =>
      refine ⟨by simpa [Scanner.perform] using hheard.scanning, fun hwanted => ?_⟩
      obtain ⟨hstarted, hrequested⟩ := hwanted
      simp only [Scanner.perform, setScanning_mgr] at hstarted hrequested
      obtain rfl := hrequested
      cases hscanning : scanner.mgr.scanning with
      | false => exact .inl (setScanning_notified hstarted hscanning)
      | true =>
          -- the task scans and will look at the flags when it is done
          have hscans := hheard.scanning.symm.trans hscanning
          right
          rw [Scanner.perform, setScanning_place]
          exact ScannerPlace.looks_of_scans hscans
  | staStart => exact ⟨hheard.scanning, fun hwanted => hstart hwanted.2⟩
  | staStop =>
      refine ⟨by simpa [Scanner.perform] using hheard.scanning, fun hwanted => ?_⟩
      simp [Wanted, Scanner.perform] at hwanted

theorem Heard.advance (hheard : scanner.Heard) {currentTime : UInt32} {accepted : Bool}
    (hstep : scanner.advance currentTime accepted = some next) : next.Heard := by
  obtain ⟨hscanning, halert⟩ := hheard
  obtain ⟨mgr, lastScanTime, scanCooldownMs, notified, place⟩ := scanner
  cases place with
  | waiting =>
      simp only [Scanner.advance, Option.ite_none_right_eq_some] at hstep
      obtain rfl := Option.some.inj hstep.2
      exact ⟨hscanning, fun _ => .inr rfl⟩
  | woken =>
      simp only [Scanner.advance] at hstep
      split_ifs at hstep with hwanted hcooled
      · obtain rfl := Option.some.inj hstep
        exact ⟨rfl, fun _ => .inr rfl⟩
      · obtain rfl := Option.some.inj hstep
        exact ⟨hscanning, fun _ => .inr rfl⟩
      · obtain rfl := Option.some.inj hstep
        exact ⟨hscanning, fun h => absurd (Bool.and_eq_true_iff.mpr h) hwanted⟩
  | delaying =>
      simp only [Scanner.advance] at hstep
      obtain rfl := Option.some.inj hstep
      exact ⟨hscanning, fun h => .inr (Bool.and_eq_true_iff.mpr h)⟩
  | starting time =>
      simp only [Scanner.advance] at hstep
      obtain rfl := Option.some.inj hstep
      cases accepted <;> exact ⟨hscanning, fun _ => .inr rfl⟩
  | started time | listening =>
      simp only [Scanner.advance] at hstep
      obtain rfl := Option.some.inj hstep
      exact ⟨hscanning, fun _ => .inr rfl⟩
  | finishing =>
      simp only [Scanner.advance] at hstep
      obtain rfl := Option.some.inj hstep
      exact ⟨rfl, fun h => .inr h.2⟩
  | decided retry =>
      simp only [Scanner.advance] at hstep
      obtain rfl := Option.some.inj hstep
      refine ⟨hscanning, fun h => .inl ?_⟩
      have hbefore := halert h
      simpa [Alert, ScannerPlace.looks] using hbefore

theorem Heard.step (hheard : scanner.Heard) {event : ScannerEvent}
    (hstart : scanner.StartHeard event) (hstep : machine.step scanner event = some next) :
    next.Heard := by
  cases event with
  | handler done =>
      obtain rfl := Option.some.inj hstep
      exact hheard.perform hstart
  | task currentTime accepted => exact hheard.advance hstep

theorem reachedBy_heard (hreached : machine.ReachedBy StartHeard scanner) : scanner.Heard := by
  refine hreached.invariant (fun scanner hstart => ?_) fun _ _ _ _ hheard hok hstep =>
    hheard.step hok hstep
  obtain ⟨wasEnabled, saved, rfl⟩ := hstart
  cases wasEnabled <;> cases saved <;> exact ⟨rfl, fun hwanted => absurd hwanted.1 nofun⟩

/-! ## Requests -/

/-- A scan is wanted, the task is blocked and nothing will wake it. -/
def Lost (scanner : Scanner) : Prop :=
  scanner.Wanted ∧ scanner.place = .waiting ∧ scanner.notified = false

instance (scanner : Scanner) : Decidable scanner.Lost :=
  inferInstanceAs (Decidable ((_ ∧ _) ∧ _ ∧ _))

theorem Heard.not_lost (hheard : scanner.Heard) : ¬ scanner.Lost := by
  rintro ⟨hwanted, hplace, hnotified⟩
  rcases hheard.alert hwanted with hyes | hlooks
  · exact absurd (hnotified.symm.trans hyes) nofun
  · rw [hplace] at hlooks
    cases hlooks

/-- A start that the task has not heard of leaves the request lost, now or when the task has gone on to
the top of its loop. -/
theorem lost_of_not_startHeard (hunheard : ¬ scanner.StartHeard (.handler .staStart)) :
    (scanner.perform .staStart).Lost ∨
      ∃ lost, (scanner.perform .staStart).advance 0 true = some lost ∧ lost.Lost := by
  obtain ⟨hrequested, hdeaf⟩ := Classical.not_imp.mp hunheard
  obtain ⟨hnotified, hlooks⟩ := not_or.mp hdeaf
  rw [Bool.not_eq_true] at hnotified hlooks
  obtain ⟨mgr, lastScanTime, scanCooldownMs, notified, place⟩ := scanner
  cases place with
  | waiting => exact .inl ⟨⟨rfl, hrequested⟩, rfl, hnotified⟩
  | decided retry =>
      obtain rfl : retry = false := hlooks
      exact .inr ⟨_, rfl, ⟨rfl, hrequested⟩, rfl, (Bool.or_false _).trans hnotified⟩
  | _ => cases hlooks

/-- **Scan requests.**  In every run in which each start of the interface finds no recorded request
that the task has not heard of, a wanted scan has a notification when the task is blocked at the top of
its loop.  Any other start loses the request. -/
theorem scan_requests_kept (hreached : machine.ReachedBy StartHeard scanner) :
    (scanner.mgr.interfaceStarted = true → scanner.mgr.scanRequested = true →
      scanner.place = .waiting → scanner.notified = true) ∧
    (¬ scanner.StartHeard (.handler .staStart) →
      (scanner.perform .staStart).Lost ∨
        ∃ lost, (scanner.perform .staStart).advance 0 true = some lost ∧ lost.Lost) := by
  refine ⟨fun hstarted hrequested hplace => ?_, lost_of_not_startHeard⟩
  by_contra hnotified
  exact (reachedBy_heard hreached).not_lost
    ⟨⟨hstarted, hrequested⟩, hplace, Bool.not_eq_true _ ▸ hnotified⟩

private def booted : Scanner where
  mgr := WifiMgr.loadState false none

theorem booted_start : machine.start booted :=
  ⟨false, none, rfl⟩

/-- A request while a scan is going on. -/
private def rescan : List ScannerEvent :=
  [.handler .staStart, .handler (.request true), .task 0 true, .task 3000 true, .task 0 true,
    .handler (.request true), .task 0 true, .task 0 true, .task 0 true, .task 0 true]

theorem scan_requests_kept_rescan :
    ∃ scanner, machine.replay booted rescan = some scanner ∧
      scanner.place = .waiting ∧ scanner.mgr.scanRequested = true ∧ scanner.notified = true := by
  have hreplay : machine.replay booted rescan = some ((machine.replay booted rescan).get rfl) :=
    (Option.some_get _).symm
  have hreached := Machine.ReachedBy.replay (.start booted_start)
    (show machine.Admitted StartHeard booted rescan by decide) hreplay
  exact ⟨_, hreplay, rfl, rfl, (scan_requests_kept hreached).1 rfl rfl rfl⟩

/-- A request comes before the interface has started. -/
private def earlyRequest : List ScannerEvent :=
  [.handler (.request true), .handler .staStart]

theorem early_request_lost :
    ¬ ∀ scanner : Scanner, machine.Reachable scanner → scanner.mgr.interfaceStarted = true →
      scanner.mgr.scanRequested = true → scanner.place = .waiting → scanner.notified = true := by
  intro hclaim
  have hreplay : machine.replay booted earlyRequest =
      some ((machine.replay booted earlyRequest).get rfl) :=
    (Option.some_get _).symm
  have hreached := Machine.reachable_of_replay booted_start hreplay
  exact absurd (hclaim _ hreached rfl rfl rfl) nofun

/-! ## The handlers -/

end Scanner

/-- The flags of the scanner. -/
def WifiMgr.scanFlags (mgr : WifiMgr) : Bool × Bool × Bool :=
  (mgr.interfaceStarted, mgr.scanRequested, mgr.scanning)

@[simp] theorem WifiMgr.scheduleStateSave_scanFlags (mgr : WifiMgr) :
    mgr.scheduleStateSave.scanFlags = mgr.scanFlags :=
  mgr.scheduleStateSave_field scanFlags fun _ _ _ => rfl

theorem WifiMgr.onUartCredentials_scanFlags {mgr : WifiMgr} {ssid : CharArray 33}
    {password : CharArray 64} {saved : Option (CharArray 32 × CharArray 64)}
    {answers : DriverAnswers} :
    (mgr.onUartCredentials ssid password saved answers).1.scanFlags = mgr.scanFlags := by
  simp only [WifiMgr.onUartCredentials]
  cases saved <;> dsimp only <;> split_ifs <;> rfl

namespace Scanner

/-- Every handler of the manager does to the flags what some sections do, one after the other. -/
theorem handle_sections (scanner : Scanner) (portalRunning : Bool) (event : LoopEvent) :
    ∃ sections : List ScanSection,
      (sections.foldl perform scanner).mgr.scanFlags =
        (scanner.mgr.handle portalRunning event).1.scanFlags := by
  cases event with
  | staStart answers =>
      simp only [WifiMgr.handle, WifiMgr.onStaStart]
      split
      · refine ⟨[.staStart, .request false], ?_⟩
        rw [WifiMgr.scheduleStateSave_scanFlags]
        simp [perform, WifiMgr.scanFlags, WifiMgr.setPendingSsid]
      · refine ⟨[.staStart], ?_⟩
        rw [WifiMgr.scheduleStateSave_scanFlags]
        rfl
  | staStop =>
      refine ⟨[.staStop], ?_⟩
      simp only [WifiMgr.handle, WifiMgr.onStaStop, WifiMgr.scheduleStateSave_scanFlags]
      simp [perform, WifiMgr.scanFlags]
  | staConnected ssid configPassword saved =>
      refine ⟨[], ?_⟩
      cases configPassword <;> cases saved <;>
        simp only [WifiMgr.handle, WifiMgr.onStaConnected, WifiMgr.scheduleStateSave_scanFlags] <;>
          split_ifs <;> rfl
  | staDisconnected ssid reason =>
      refine ⟨[], ?_⟩
      simp only [WifiMgr.handle, WifiMgr.onStaDisconnected, WifiMgr.scheduleStateSave_scanFlags]
      split <;> rfl
  | gotIp => exact ⟨[], rfl⟩
  | lostIp =>
      refine ⟨[], ?_⟩
      simp only [WifiMgr.handle, WifiMgr.onLostIp]
      split <;> rfl
  | enableRequest enabled =>
      rcases enabled with - | (- | -)
      · exact ⟨[], rfl⟩
      · simp only [WifiMgr.handle, WifiMgr.onEnableRequest]
        split
        · exact ⟨[.request false], by simp [perform, WifiMgr.scanFlags]⟩
        · exact ⟨[], rfl⟩
      · exact ⟨[], rfl⟩
  | scanEnableRequest enabled =>
      cases enabled with
      | none => exact ⟨[], rfl⟩
      | some enabled => exact ⟨[.request enabled], rfl⟩
  | setNetworkRequest ssid =>
      cases ssid <;> exact ⟨[], rfl⟩
  | connectRequest password answers =>
      simp only [WifiMgr.handle, WifiMgr.onConnectRequest]
      cases password <;> dsimp only <;> split_ifs
      · exact ⟨[], rfl⟩
      · exact ⟨[], rfl⟩
      · exact ⟨[.request false], by simp [perform, WifiMgr.scanFlags, WifiMgr.setPendingSsid]⟩
      · exact ⟨[], rfl⟩
      · exact ⟨[], rfl⟩
  | disconnectRequest answers =>
      refine ⟨[], ?_⟩
      simp only [WifiMgr.handle, WifiMgr.onDisconnectRequest]
      split <;> rfl
  | uartCredentials ssid password saved answers =>
      simp only [WifiMgr.handle, WifiMgr.onUartEvent]
      have hkept := @WifiMgr.onUartCredentials_scanFlags scanner.mgr ssid password saved answers
      split
      · exact ⟨[], hkept.symm⟩
      · refine ⟨[.request false], ?_⟩
        simp only [WifiMgr.scanFlags, Prod.mk.injEq] at hkept
        simp [perform, WifiMgr.scanFlags, WifiMgr.setPendingSsid, WifiMgr.onUartConnect, hkept]

end Scanner

end CrowPanel.Wifi
