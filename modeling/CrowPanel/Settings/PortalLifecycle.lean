import CrowPanel.Library.Machine
import Mathlib.Data.Multiset.AddSub
import Mathlib.Data.Multiset.Filter

/-!
# Starting and stopping the configuration portal

A start switches the Wi-Fi to APSTA, scans, and then starts the HTTP server and the DNS server.  It
returns at the first call of ESP-IDF that fails, or when it finds after the scan that it has been
cancelled.  Several starts and stops can be in progress at a time: whenever one of them waits for
ESP-IDF the others may move, so a step runs from the return of one such call to the next.

`httpd_start` cannot succeed while an earlier server of the portal still has the port; apart from
that ESP-IDF may answer as it likes.  `StepKind` says what a step can do.
-/

namespace CrowPanel.Settings

open Library

/-- `config_portal_access_mode_t`, without `CONFIG_PORTAL_ACCESS_NONE` -/
inductive AccessMode where
  | ap
  | localMode
  deriving DecidableEq

/-- `wifi_mode_t`, the modes that the panel uses -/
inductive WifiMode where
  | sta
  | apsta
  deriving DecidableEq

/-- What `dns_server_task` waits for. -/
inductive DnsTask where
  | socket
  | bind
  | serve
  deriving DecidableEq

/-- A start or a stop in progress, by the call of ESP-IDF that it waits for. -/
inductive Call where
  | apNetif
  | staNetif
  | setStorage
  | setMode
  | setConfig
  | scan
  | localNetif
  | localIpInfo
  | httpdStart (mode : AccessMode)
  /-- `httpd_register_uri_handler`, with what is still to register -/
  | register (mode : AccessMode) (uri : String) (rest : List String)
  | dnsServer
  /-- a stop, which waits for `httpd_stop` -/
  | httpdStop
  /-- a stop, which waits for `esp_wifi_set_mode(WIFI_MODE_STA)` -/
  | setModeSta
  deriving DecidableEq

namespace Call

def isStop : Call → Bool
  | .httpdStop | .setModeSta => true
  | _ => false

def opensServer : Call → Bool
  | .httpdStart _ => true
  | _ => false

def registers : Call → Bool
  | .register _ _ _ => true
  | _ => false

/-- The start has an HTTP server. -/
def usesServer : Call → Bool
  | .register _ _ _ | .dnsServer => true
  | _ => false

/-- The start has switched the Wi-Fi to APSTA. -/
def usesAccessPoint : Call → Bool
  | .setConfig | .scan | .httpdStart .ap | .register .ap _ _ | .dnsServer => true
  | _ => false

/-- The call has something to do with the servers. -/
def serving (call : Call) : Bool :=
  call.usesServer || call.isStop

end Call

/-- The static variables of `config_portal.c`, the Wi-Fi mode, and the calls in progress. -/
structure Portal where
  /-- `s_portal_running` -/
  running : Bool := false
  /-- `s_portal_starting` -/
  starting : Bool := false
  runtimeMode : Bool := false
  accessMode : Option AccessMode := none
  /-- `s_http_server` is not `NULL` -/
  httpServer : Bool := false
  dnsTask : Option DnsTask := none
  dnsRunning : Bool := false
  /-- `s_dns_sock` is open -/
  dnsSock : Bool := false
  wifiMode : WifiMode := .sta
  calls : Multiset Call := 0
  deriving DecidableEq

/-- What can happen next. -/
inductive PortalEvent where
  /-- `config_portal_start_runtime`, with what `wifi_ctrl_is_connected` says -/
  | start (connected : Bool)
  /-- `config_portal_stop` -/
  | stop
  /-- `config_portal_stop_async`; its task makes a `stop` of its own -/
  | stopAsync
  /-- the awaited call of ESP-IDF returns -/
  | resume (call : Call) (ok : Bool)
  /-- the call returns that `dns_server_task` waits for -/
  | dnsTask (ok : Bool)
  deriving DecidableEq

namespace Portal

/-- A start or a stop goes on to its next call of ESP-IDF. -/
def await (portal : Portal) (call : Call) : Portal :=
  { portal with calls := call ::ₘ portal.calls }

/-- A start returns with an error. -/
def failed (portal : Portal) : Portal :=
  { portal with starting := false }

/-- `stop_dns_server` -/
def stopDnsServer (portal : Portal) : Portal :=
  { portal with dnsRunning := false, dnsSock := false }

/-- The end of `start_ap_mode`. -/
def startedAp (portal : Portal) : Portal :=
  { portal with running := true, starting := false, accessMode := some .ap }

/-- The end of `start_local_mode`. -/
def startedLocal (portal : Portal) : Portal :=
  { portal with
    running := true
    starting := false
    runtimeMode := true
    accessMode := some .localMode }

/-- The end of `config_portal_stop`. -/
def stopped (portal : Portal) : Portal :=
  { portal with running := false, runtimeMode := false, accessMode := none }

/-- The rest of a start whose HTTP server has all its handlers. -/
def httpServerStarted (portal : Portal) : AccessMode → Portal
  | .ap => portal.await .dnsServer
  | .localMode => portal.startedLocal

/-- The URIs that `start_http_server` registers after the first, which is `/`. -/
def handlerUris : List String :=
  ["/generate_204", "/fwlink", "/hotspot-detect.html", "/connectivity-check.html", "/favicon.ico",
    "/save"]

/-- What a start or a stop does from the return of a call of ESP-IDF to the next one. -/
def resume (portal : Portal) (ok : Bool) : Call → Option Portal
  -- `start_ap_mode`
  | .apNetif => some (if ok then portal.await .staNetif else portal.failed)
  | .staNetif => some (if ok then portal.await .setStorage else portal.failed)
  | .setStorage => some (if ok then portal.await .setMode else portal.failed)
  | .setMode =>
      some (if ok then { portal with wifiMode := .apsta }.await .setConfig else portal.failed)
  | .setConfig => some (if ok then portal.await .scan else portal.failed)
  -- what the scan returns is ignored
  | .scan => some (if portal.starting then portal.await (.httpdStart .ap) else portal)
  -- `start_local_mode`
  | .localNetif =>
      some
        (if !portal.starting then portal
        else if ok then portal.await .localIpInfo
        else portal.failed)
  | .localIpInfo =>
      some
        (if !ok then portal.failed
        else if portal.starting then portal.await (.httpdStart .localMode)
        else portal)
  -- `start_http_server`
  | .httpdStart mode =>
      if !ok then some portal.failed
      else if portal.httpServer then none
      else some ({ portal with httpServer := true }.await (.register mode "/" handlerUris))
  | .register mode _ rest =>
      some
        (if !ok then portal.failed
        else
          match rest with
          | uri :: rest => portal.await (.register mode uri rest)
          | [] => portal.httpServerStarted mode)
  -- `start_dns_server`
  | .dnsServer =>
      some
        (if portal.dnsTask.isSome then portal.startedAp
        else if ok then { portal with dnsRunning := true, dnsTask := some .socket }.startedAp
        else { portal.stopDnsServer with httpServer := false }.failed)
  -- `config_portal_stop`
  | .httpdStop =>
      let portal := { portal with httpServer := false }
      some (if portal.accessMode = some .ap then portal.await .setModeSta else portal.stopped)
  | .setModeSta => some (if ok then { portal with wifiMode := .sta }.stopped else portal.stopped)

/-- `config_portal_start_runtime`, until it waits -/
def startRuntime (portal : Portal) (connected : Bool) : Portal :=
  if portal.running then portal
  else if portal.starting then portal
  else if connected then { portal with starting := true }.await .localNetif
  else { portal with starting := true, runtimeMode := true }.await .apNetif

/-- `config_portal_stop`, until it waits -/
def stop (portal : Portal) : Portal :=
  if !portal.running && !portal.starting then portal
  else if !portal.running then { portal with starting := false }
  else { portal.stopDnsServer with starting := false }.await .httpdStop

/-- `config_portal_stop_async`, without the task that it creates for a running portal -/
def stopAsync (portal : Portal) : Portal :=
  if !portal.running && !portal.starting then portal else { portal with starting := false }

/-- The loop of `dns_server_task`, until it waits for a packet again. -/
def dnsLoop (portal : Portal) : Portal :=
  if portal.dnsRunning then { portal with dnsTask := some .serve }
  else { portal with dnsSock := false, dnsTask := none }

/-- `dns_server_task` -/
def dnsServerTask (portal : Portal) (ok : Bool) : DnsTask → Portal
  | .socket =>
      if ok then { portal with dnsSock := true, dnsTask := some .bind }
      else { portal with dnsSock := false, dnsTask := none }
  | .bind => if ok then portal.dnsLoop else { portal with dnsSock := false, dnsTask := none }
  | .serve => portal.dnsLoop

def step (portal : Portal) : PortalEvent → Option Portal
  | .start connected => some (portal.startRuntime connected)
  | .stop => some portal.stop
  | .stopAsync => some portal.stopAsync
  | .resume call ok =>
      if call ∈ portal.calls then
        { portal with calls := portal.calls.erase call }.resume ok call
      else none
  | .dnsTask ok => portal.dnsTask.map (portal.dnsServerTask ok)

/-- The portal is off, and the Wi-Fi is in the mode that `wifi.c` has set. -/
def machine : Machine Portal PortalEvent where
  start portal := portal = {}
  step := step

/-! ## What the portal should leave behind -/

/-- `dns_server_task` can answer a query. -/
def DnsServing (portal : Portal) : Prop :=
  portal.dnsTask = some .serve ∧ portal.dnsSock = true

/-- No start is in progress. -/
def NoStart (portal : Portal) : Prop :=
  ∀ call ∈ portal.calls, call.isStop = true

/-- The servers are gone, and the Wi-Fi mode is not left at APSTA. -/
structure Released (portal : Portal) : Prop where
  httpServer : portal.httpServer = false
  dnsRunning : portal.dnsRunning = false
  dnsServing : ¬portal.DnsServing
  wifiMode : portal.wifiMode ≠ .apsta

/-- Somebody answers for the Wi-Fi mode, if only `calls` are in progress. -/
def Answered (portal : Portal) (calls : Multiset Call) : Prop :=
  portal.wifiMode = .sta ∨ (portal.running = true ∧ portal.accessMode = some .ap) ∨
    ∃ call ∈ calls, call.usesAccessPoint = true

/-- The start returns, and the portal does not run. -/
def givesUp (portal : Portal) (ok : Bool) : Call → Bool
  | .scan => !portal.starting
  | .dnsServer => portal.dnsTask.isNone && !ok
  | _ => !ok

/-- A step leaves nothing behind for which nobody answers: a start does not give up as the last
owner of the access point, and a stop gets the Wi-Fi out of APSTA; every handler can be registered;
and no server is started while a stop is in progress. -/
def Keeps (portal : Portal) : PortalEvent → Prop
  | .resume call ok =>
      (call.usesAccessPoint = true → portal.givesUp ok call = true →
        portal.Answered (portal.calls.erase call)) ∧
      (call = .setModeSta → ok = false → portal.stopped.Answered (portal.calls.erase call)) ∧
      (call.registers = true → ok = true) ∧
      (call.opensServer = true → ok = true → ∀ other ∈ portal.calls, other.isStop = false)
  | _ => True

instance (portal : Portal) (calls : Multiset Call) : Decidable (portal.Answered calls) :=
  have : Decidable (∃ call ∈ calls, call.usesAccessPoint = true) :=
    Multiset.decidableExistsMultiset
  inferInstanceAs (Decidable (_ ∨ _ ∧ _ ∨ _))

instance (portal : Portal) : ∀ event, Decidable (portal.Keeps event)
  | .resume call _ =>
      have : Decidable (∀ other ∈ portal.calls, other.isStop = false) :=
        Multiset.decidableForallMultiset
      inferInstanceAs (Decidable ((call.usesAccessPoint = true → _ → _) ∧ _ ∧ _ ∧ _))
  | .start _ | .stop | .stopAsync | .dnsTask _ => inferInstanceAs (Decidable True)

instance (portal : Portal) : Decidable portal.NoStart :=
  Multiset.decidableForallMultiset

/-! ## Steps -/

variable {portal next : Portal} {event : PortalEvent} {call : Call} {ok : Bool}

@[simp]
theorem await_calls (portal : Portal) (call : Call) :
    (portal.await call).calls = call ::ₘ portal.calls :=
  rfl

/-- A call that returns is taken out of the calls in progress. -/
theorem step_await (portal : Portal) (call : Call) (ok : Bool) :
    (portal.await call).step (.resume call ok) = portal.resume ok call := by
  simp [step, await]

theorem step_resume (hstep : portal.step (.resume call ok) = some next) :
    ∃ rest : Portal, portal = rest.await call ∧ rest.resume ok call = some next := by
  have hmem : call ∈ portal.calls := by
    by_contra hnot
    simp [step, hnot] at hstep
  refine ⟨{ portal with calls := portal.calls.erase call }, ?_, ?_⟩
  · simp [await, Multiset.cons_erase hmem]
  · simpa [step, hmem] using hstep

/-- What a step can do to the portal. -/
inductive StepKind (portal : Portal) : PortalEvent → Portal → Prop
  | idle {event : PortalEvent} : StepKind portal event portal
  | begins {connected runtimeMode : Bool} {call : Call} (hrunning : portal.running = false)
      (hcall : call = .localNetif ∨ call = .apNetif) :
      StepKind portal (.start connected)
        ({ portal with starting := true, runtimeMode := runtimeMode }.await call)
  | cancels {event : PortalEvent} : StepKind portal event { portal with starting := false }
  | closes (hrunning : portal.running = true) :
      StepKind portal .stop ({ portal.stopDnsServer with starting := false }.await .httpdStop)
  | dns {ok dnsSock : Bool} {dnsTask : Option DnsTask}
      (hserve : dnsTask = some .serve → portal.dnsRunning = true) :
      StepKind portal (.dnsTask ok) { portal with dnsTask := dnsTask, dnsSock := dnsSock }
  | resume {rest next : Portal} {call : Call} {ok : Bool} (hportal : portal = rest.await call)
      (hresume : rest.resume ok call = some next) : StepKind portal (.resume call ok) next

theorem stepKind_dnsServerTask (portal : Portal) (ok : Bool) (task : DnsTask) :
    portal.StepKind (.dnsTask ok) (portal.dnsServerTask ok task) := by
  have hloop : portal.StepKind (.dnsTask ok) portal.dnsLoop := by
    unfold dnsLoop
    split_ifs with hrunning
    · exact .dns fun _ => hrunning
    · exact .dns nofun
  cases task with
  | socket =>
      unfold dnsServerTask
      split_ifs
      · exact .dns nofun
      · exact .dns nofun
  | bind =>
      unfold dnsServerTask
      split_ifs
      · exact hloop
      · exact .dns nofun
  | serve => exact hloop

theorem stepKind_of_step (hstep : portal.step event = some next) : portal.StepKind event next := by
  cases event with
  | start connected =>
      obtain rfl : portal.startRuntime connected = next := by simpa [step] using hstep
      unfold startRuntime
      split_ifs with hrunning
      · exact .idle
      · exact .idle
      · exact .begins (by simpa using hrunning) (.inl rfl)
      · exact .begins (by simpa using hrunning) (.inr rfl)
  | stop =>
      obtain rfl : portal.stop = next := by simpa [step] using hstep
      unfold stop
      split_ifs with hneither hrunning
      · exact .idle
      · exact .cancels
      · exact .closes (by simpa using hrunning)
  | stopAsync =>
      obtain rfl : portal.stopAsync = next := by simpa [step] using hstep
      unfold stopAsync
      split_ifs
      · exact .idle
      · exact .cancels
  | dnsTask ok =>
      obtain ⟨task, -, rfl⟩ := Option.map_eq_some_iff.mp hstep
      exact stepKind_dnsServerTask portal ok task
  | resume call ok =>
      obtain ⟨rest, hportal, hresume⟩ := step_resume hstep
      exact .resume hportal hresume

/-- `httpd_start` fails, or it finds the port free. -/
theorem resume_httpdStart {mode : AccessMode}
    (hresume : portal.resume ok (.httpdStart mode) = some next) :
    (ok = false ∧ next = portal.failed) ∨
      (ok = true ∧ portal.httpServer = false ∧
        next = { portal with httpServer := true }.await (.register mode "/" handlerUris)) := by
  cases ok with
  | false => exact .inl ⟨rfl, (Option.some.inj hresume).symm⟩
  | true =>
      cases hserver : portal.httpServer with
      | true => simp [resume, hserver] at hresume
      | false =>
          refine .inr ⟨rfl, rfl, ?_⟩
          simpa [resume, hserver, eq_comm] using hresume

/-! ## A start that succeeds -/

/-- The handlers are registered, one after another. -/
def registering (mode : AccessMode) : String → List String → List PortalEvent
  | uri, [] => [.resume (.register mode uri []) true]
  | uri, next :: rest =>
      .resume (.register mode uri (next :: rest)) true :: registering mode next rest

/-- `start_http_server` succeeds. -/
def startingHttpServer (mode : AccessMode) : List PortalEvent :=
  .resume (.httpdStart mode) true :: registering mode "/" handlerUris

/-- A start to whose calls ESP-IDF always answers with success. -/
def fullStart : Bool → List PortalEvent
  | true =>
      [.start true, .resume .localNetif true, .resume .localIpInfo true] ++
        startingHttpServer .localMode
  | false =>
      [.start false, .resume .apNetif true, .resume .staNetif true, .resume .setStorage true,
        .resume .setMode true, .resume .setConfig true, .resume .scan true] ++
        startingHttpServer .ap ++ [.resume .dnsServer true]

theorem replay_cons_await {events : List PortalEvent}
    (hresume : portal.resume ok call = some next) :
    machine.replay (portal.await call) (.resume call ok :: events) =
      machine.replay next events := by
  have hstep : machine.step (portal.await call) (.resume call ok) = some next :=
    (step_await portal call ok).trans hresume
  simp only [Machine.replay, hstep, Option.bind_some]

theorem replay_registering (portal : Portal) (mode : AccessMode) (uri : String)
    (uris : List String) (events : List PortalEvent) :
    machine.replay (portal.await (.register mode uri uris)) (registering mode uri uris ++ events) =
      machine.replay (portal.httpServerStarted mode) events := by
  induction uris generalizing uri with
  | nil => exact replay_cons_await rfl
  | cons next uris ih =>
      calc machine.replay (portal.await (.register mode uri (next :: uris)))
            (registering mode uri (next :: uris) ++ events)
          = machine.replay (portal.await (.register mode next uris))
              (registering mode next uris ++ events) := replay_cons_await rfl
        _ = machine.replay (portal.httpServerStarted mode) events := ih next

theorem replay_startingHttpServer (hserver : portal.httpServer = false) (mode : AccessMode)
    (events : List PortalEvent) :
    machine.replay (portal.await (.httpdStart mode)) (startingHttpServer mode ++ events) =
      machine.replay ({ portal with httpServer := true }.httpServerStarted mode) events := by
  have hresume : portal.resume true (.httpdStart mode) =
      some ({ portal with httpServer := true }.await (.register mode "/" handlerUris)) := by
    simp [resume, hserver]
  rw [startingHttpServer, List.cons_append, replay_cons_await hresume, replay_registering]

theorem resume_dnsServer (portal : Portal) :
    ∃ last, portal.resume true .dnsServer = some last ∧ last.running = true := by
  by_cases htask : portal.dnsTask.isSome = true
  · exact ⟨portal.startedAp, by simp [resume, htask], rfl⟩
  · refine ⟨{ portal with dnsRunning := true, dnsTask := some .socket }.startedAp, ?_, rfl⟩
    simp [resume, htask]

theorem replay_fullStart_local (hrunning : portal.running = false)
    (hstarting : portal.starting = false) (hserver : portal.httpServer = false) :
    ∃ last, machine.replay portal (fullStart true) = some last ∧ last.running = true := by
  let began : Portal := { portal with starting := true }
  let opened : Portal := { began with httpServer := true }
  have hstart : machine.step portal (.start true) = some (began.await .localNetif) := by
    simp [machine, step, startRuntime, hrunning, hstarting, began]
  have hnetif : began.resume true .localNetif = some (began.await .localIpInfo) := rfl
  have hipInfo : began.resume true .localIpInfo = some (began.await (.httpdStart .localMode)) := rfl
  refine ⟨opened.startedLocal, ?_, rfl⟩
  calc machine.replay portal (fullStart true)
      = machine.replay (began.await (.httpdStart .localMode))
          (startingHttpServer .localMode ++ []) := by
        simp only [fullStart, List.cons_append, List.nil_append, List.append_nil]
        rw [Machine.replay, hstart, Option.bind_some, replay_cons_await hnetif,
          replay_cons_await hipInfo]
    _ = machine.replay (opened.httpServerStarted .localMode) [] :=
        @replay_startingHttpServer began hserver .localMode []

theorem replay_fullStart_ap (hrunning : portal.running = false)
    (hstarting : portal.starting = false) (hserver : portal.httpServer = false) :
    ∃ last, machine.replay portal (fullStart false) = some last ∧ last.running = true := by
  let began : Portal := { portal with starting := true, runtimeMode := true }
  let switched : Portal := { began with wifiMode := .apsta }
  let opened : Portal := { switched with httpServer := true }
  have hstart : machine.step portal (.start false) = some (began.await .apNetif) := by
    simp [machine, step, startRuntime, hrunning, hstarting, began]
  have happly (call after : Call) (hafter : began.resume true call = some (began.await after))
      (events : List PortalEvent) :
      machine.replay (began.await call) (.resume call true :: events) =
        machine.replay (began.await after) events := replay_cons_await hafter
  have hmode : began.resume true .setMode = some (switched.await .setConfig) := rfl
  have hconfig : switched.resume true .setConfig = some (switched.await .scan) := rfl
  have hscan : switched.resume true .scan = some (switched.await (.httpdStart .ap)) := rfl
  obtain ⟨last, hlast, hlastRunning⟩ := resume_dnsServer opened
  refine ⟨last, ?_, hlastRunning⟩
  calc machine.replay portal (fullStart false)
      = machine.replay (began.await .setMode)
          (.resume .setMode true :: .resume .setConfig true :: .resume .scan true ::
            (startingHttpServer .ap ++ [.resume .dnsServer true])) := by
        simp only [fullStart, List.cons_append, List.nil_append]
        rw [Machine.replay, hstart, Option.bind_some, happly .apNetif .staNetif rfl,
          happly .staNetif .setStorage rfl, happly .setStorage .setMode rfl]
    _ = machine.replay (switched.await (.httpdStart .ap))
          (startingHttpServer .ap ++ [.resume .dnsServer true]) := by
        rw [replay_cons_await hmode, replay_cons_await hconfig, replay_cons_await hscan]
    _ = machine.replay (opened.await .dnsServer) [.resume .dnsServer true] :=
        @replay_startingHttpServer switched hserver .ap _
    _ = machine.replay last [] := replay_cons_await hlast

/-- A start that finds the port free and is answered with success runs the portal. -/
theorem fullStart_runs (hrunning : portal.running = false) (hstarting : portal.starting = false)
    (hserver : portal.httpServer = false) (connected : Bool) :
    ∃ last, machine.replay portal (fullStart connected) = some last ∧ last.running = true := by
  cases connected with
  | true => exact replay_fullStart_local hrunning hstarting hserver
  | false => exact replay_fullStart_ap hrunning hstarting hserver

end Portal

end CrowPanel.Settings
