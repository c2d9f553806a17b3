import CrowPanel.Settings.PortalLifecycle

/-!
# The phases of the portal's servers

The servers live through four phases, `off`, `opening`, `on` and `closing`.  At most one start has
an HTTP server, and then no stop is in progress.  `InPhase` reads the phase from the variables of
the portal, and `inPhase_step` says that a step which keeps what it has leads from a phase to one
that may follow.

A start that cannot register a handler breaks this discipline: it leaves its server behind, and the
portal never runs again (`Orphaned.replay`).
-/

namespace CrowPanel.Settings.Portal

open Library

variable {portal next : Portal} {event : PortalEvent} {call : Call} {ok : Bool}

/-- The life of the two servers. -/
inductive Phase where
  | off
  | opening
  | on
  | closing
  deriving DecidableEq

/-- How the servers get from one phase to the next. -/
inductive Phase.Moves : Phase → Phase → Prop
  | stay (phase : Phase) : Moves phase phase
  | opens : Moves .off .opening
  /-- the DNS server cannot be started -/
  | givesUp : Moves .opening .off
  | opened : Moves .opening .on
  | closes : Moves .on .closing
  | closed : Moves .closing .off

/-- The calls in progress that have something to do with the servers. -/
def servingCalls (portal : Portal) : Multiset Call :=
  portal.calls.filter fun call => call.serving = true

/-- What a phase looks like in the variables of the portal. -/
def InPhase (portal : Portal) : Phase → Prop
  | .off =>
      portal.running = false ∧ portal.httpServer = false ∧ portal.dnsRunning = false ∧
        ∀ call ∈ portal.servingCalls, call.isStop = true
  | .opening =>
      portal.running = false ∧ portal.httpServer = true ∧ portal.dnsRunning = false ∧
        ∃ call, portal.servingCalls = {call} ∧ call.usesServer = true
  | .on => portal.running = true ∧ portal.httpServer = true ∧ portal.servingCalls = 0
  | .closing =>
      portal.running = true ∧ portal.dnsRunning = false ∧ portal.servingCalls ≠ 0 ∧
        (∀ call ∈ portal.servingCalls, call.isStop = true) ∧
        (.setModeSta ∈ portal.servingCalls → portal.httpServer = false)

variable {phase : Phase} {rest : Portal}

theorem servingCalls_await (hserving : call.serving = true) :
    (portal.await call).servingCalls = call ::ₘ portal.servingCalls :=
  Multiset.filter_cons_of_pos _ hserving

@[simp]
theorem servingCalls_await_of_not (hplain : call.serving = false) :
    (portal.await call).servingCalls = portal.servingCalls :=
  Multiset.filter_cons_of_neg _ (by simp [hplain])

/-- The phase depends on what concerns the servers. -/
theorem InPhase.congr (hphase : portal.InPhase phase) (hrunning : next.running = portal.running)
    (hserver : next.httpServer = portal.httpServer) (hdns : next.dnsRunning = portal.dnsRunning)
    (hcalls : next.servingCalls = portal.servingCalls) : next.InPhase phase := by
  cases phase <;> simpa only [InPhase, hrunning, hserver, hdns, hcalls] using hphase

theorem inPhase_await_iff (hplain : call.serving = false) :
    (portal.await call).InPhase phase ↔ portal.InPhase phase := by
  have hcalls : (portal.await call).servingCalls = portal.servingCalls :=
    servingCalls_await_of_not hplain
  exact ⟨fun h => h.congr rfl rfl rfl hcalls.symm, fun h => h.congr rfl rfl rfl hcalls⟩

/-- Until a start opens the HTTP server it does not touch what the phase depends on. -/
theorem resume_plain (hplain : call.serving = false) (hopens : call.opensServer = true → ok = false)
    (hresume : portal.resume ok call = some next) :
    next.running = portal.running ∧ next.httpServer = portal.httpServer ∧
      next.dnsRunning = portal.dnsRunning ∧ next.servingCalls = portal.servingCalls := by
  cases call with
  | register => cases hplain
  | dnsServer => cases hplain
  | httpdStop => cases hplain
  | setModeSta => cases hplain
  | httpdStart mode =>
      obtain rfl := hopens rfl
      obtain rfl : portal.failed = next := by simpa [resume] using hresume
      exact ⟨rfl, rfl, rfl, rfl⟩
  | _ =>
      simp only [resume, Option.some.injEq] at hresume
      subst hresume
      repeat' split
      all_goals first
        | exact ⟨rfl, rfl, rfl, servingCalls_await_of_not rfl⟩
        | exact ⟨rfl, rfl, rfl, rfl⟩

/-- With no stop in progress a free port means that the servers are off. -/
theorem InPhase.open (hphase : portal.InPhase phase) (hserver : portal.httpServer = false)
    (hstops : ∀ call ∈ portal.calls, call.isStop = false) :
    phase = .off ∧ portal.servingCalls = 0 := by
  have hnone : (∀ call ∈ portal.servingCalls, call.isStop = true) → portal.servingCalls = 0 := by
    intro hall
    refine Multiset.eq_zero_of_forall_notMem fun call hcall => ?_
    have hstop := hall call hcall
    rw [hstops call (Multiset.mem_of_mem_filter hcall)] at hstop
    cases hstop
  cases phase with
  | off => exact ⟨rfl, hnone hphase.2.2.2⟩
  | opening => simp [hserver, InPhase] at hphase
  | on => simp [hserver, InPhase] at hphase
  | closing => exact absurd (hnone hphase.2.2.2.1) hphase.2.2.1

/-- A start that has an HTTP server is the only call that has to do with the servers. -/
theorem InPhase.of_usesServer (hphase : (rest.await call).InPhase phase)
    (huses : call.usesServer = true) :
    phase = .opening ∧ rest.running = false ∧ rest.httpServer = true ∧ rest.dnsRunning = false ∧
      rest.servingCalls = 0 := by
  have hcalls : (rest.await call).servingCalls = call ::ₘ rest.servingCalls :=
    servingCalls_await (by simp [Call.serving, huses])
  have hstop : call.isStop ≠ true := by cases call <;> simp_all [Call.usesServer, Call.isStop]
  cases phase with
  | off => exact absurd (hphase.2.2.2 call (by simp [hcalls])) hstop
  | opening =>
      obtain ⟨hrunning, hserver, hdns, owner, howner, -⟩ := hphase
      rw [hcalls, eq_comm, Multiset.singleton_eq_cons_iff] at howner
      exact ⟨rfl, hrunning, hserver, hdns, howner.2⟩
  | on => simp [InPhase, hcalls] at hphase
  | closing => exact absurd (hphase.2.2.2.1 call (by simp [hcalls])) hstop

/-- A stop is in progress when the servers are closing, or when another stop has closed them. -/
theorem InPhase.of_isStop (hphase : (rest.await call).InPhase phase) (hstop : call.isStop = true) :
    rest.dnsRunning = false ∧ (∀ other ∈ rest.servingCalls, other.isStop = true) ∧
      (phase = .off ∧ rest.running = false ∧ rest.httpServer = false ∨
        phase = .closing ∧ rest.running = true ∧
          (.setModeSta ∈ call ::ₘ rest.servingCalls → rest.httpServer = false)) := by
  have hcalls : (rest.await call).servingCalls = call ::ₘ rest.servingCalls :=
    servingCalls_await (by simp [Call.serving, hstop])
  have hstops (hall : ∀ other ∈ (rest.await call).servingCalls, other.isStop = true) :
      ∀ other ∈ rest.servingCalls, other.isStop = true :=
    fun other hother => hall other (by simp [hcalls, hother])
  cases phase with
  | off =>
      obtain ⟨hrunning, hserver, hdns, hall⟩ := hphase
      exact ⟨hdns, hstops hall, .inl ⟨rfl, hrunning, hserver⟩⟩
  | opening =>
      obtain ⟨-, -, -, owner, howner, huses⟩ := hphase
      rw [hcalls, eq_comm, Multiset.singleton_eq_cons_iff] at howner
      obtain rfl := howner.1
      cases owner <;> simp [Call.usesServer, Call.isStop] at huses hstop
  | on => simp [InPhase, hcalls] at hphase
  | closing =>
      obtain ⟨hrunning, hdns, -, hall, hserver⟩ := hphase
      rw [hcalls] at hserver
      exact ⟨hdns, hstops hall, .inr ⟨rfl, hrunning, hserver⟩⟩

/-! ### What each call does to the phase -/

/-- A call has run, and the servers are in a phase that they may be in now. -/
def Moved (phase : Phase) (next : Portal) : Prop :=
  ∃ after, phase.Moves after ∧ next.InPhase after

theorem InPhase.moved (hphase : next.InPhase phase) : Moved phase next :=
  ⟨phase, .stay phase, hphase⟩

theorem moved_httpdStart {mode : AccessMode}
    (hphase : (rest.await (.httpdStart mode)).InPhase phase)
    (hstops : ∀ other ∈ rest.calls, other.isStop = false)
    (hresume : rest.resume true (.httpdStart mode) = some next) : Moved phase next := by
  have hrest : rest.InPhase phase := (inPhase_await_iff rfl).mp hphase
  obtain ⟨hok, -⟩ | ⟨-, hserver, rfl⟩ := resume_httpdStart hresume
  · cases hok
  · obtain ⟨rfl, hnone⟩ := hrest.open hserver hstops
    refine ⟨.opening, .opens, hrest.1, rfl, hrest.2.2.1, .register mode "/" handlerUris, ?_, rfl⟩
    rw [servingCalls_await rfl]
    exact congrArg (_ ::ₘ ·) hnone

theorem moved_register {mode : AccessMode} {uri : String} {uris : List String}
    (hphase : (rest.await (.register mode uri uris)).InPhase phase)
    (hresume : rest.resume true (.register mode uri uris) = some next) : Moved phase next := by
  obtain ⟨rfl, hrunning, hserver, hdns, hnone⟩ := hphase.of_usesServer rfl
  have hopening (call : Call) (huses : call.usesServer = true) :
      Moved .opening (rest.await call) := by
    refine ⟨.opening, .stay _, hrunning, hserver, hdns, call, ?_, huses⟩
    rw [servingCalls_await (by simp [Call.serving, huses]), hnone]
    rfl
  cases uris with
  | cons uri uris =>
      obtain rfl : rest.await (.register mode uri uris) = next := by simpa [resume] using hresume
      exact hopening _ rfl
  | nil =>
      obtain rfl : rest.httpServerStarted mode = next := by simpa [resume] using hresume
      cases mode with
      | ap => exact hopening _ rfl
      | localMode => exact ⟨.on, .opened, rfl, hserver, hnone⟩

theorem moved_dnsServer (hphase : (rest.await .dnsServer).InPhase phase)
    (hresume : rest.resume ok .dnsServer = some next) : Moved phase next := by
  obtain ⟨rfl, hrunning, hserver, -, hnone⟩ := hphase.of_usesServer rfl
  simp only [resume, Option.some.injEq] at hresume
  subst hresume
  split_ifs
  · exact ⟨.on, .opened, rfl, hserver, hnone⟩
  · exact ⟨.on, .opened, rfl, hserver, hnone⟩
  · refine ⟨.off, .givesUp, hrunning, rfl, rfl, fun call hcall => ?_⟩
    have hempty : call ∈ rest.servingCalls := hcall
    simp [hnone] at hempty

theorem moved_httpdStop (hphase : (rest.await .httpdStop).InPhase phase)
    (hresume : rest.resume ok .httpdStop = some next) : Moved phase next := by
  obtain ⟨hdns, hstops, hphases⟩ := hphase.of_isStop rfl
  have hall : ∀ call ∈ .setModeSta ::ₘ rest.servingCalls, call.isStop = true :=
    Multiset.forall_mem_cons.mpr ⟨rfl, hstops⟩
  simp only [resume, Option.some.injEq] at hresume
  subst hresume
  split_ifs
  · rcases hphases with ⟨rfl, hrunning, -⟩ | ⟨rfl, hrunning, -⟩
    · refine ⟨.off, .stay _, hrunning, rfl, hdns, ?_⟩
      rw [servingCalls_await rfl]
      exact hall
    · refine ⟨.closing, .stay _, hrunning, hdns, ?_, ?_, fun _ => rfl⟩
      · rw [servingCalls_await rfl]
        exact Multiset.cons_ne_zero
      · rw [servingCalls_await rfl]
        exact hall
  · have hoff : ({ rest with httpServer := false }.stopped).InPhase .off := ⟨rfl, rfl, hdns, hstops⟩
    rcases hphases with ⟨rfl, -, -⟩ | ⟨rfl, -, -⟩
    · exact ⟨.off, .stay _, hoff⟩
    · exact ⟨.off, .closed, hoff⟩

theorem moved_setModeSta (hphase : (rest.await .setModeSta).InPhase phase)
    (hresume : rest.resume ok .setModeSta = some next) : Moved phase next := by
  obtain ⟨hdns, hstops, hphases⟩ := hphase.of_isStop rfl
  have hserver : rest.httpServer = false := by
    rcases hphases with ⟨-, -, hserver⟩ | ⟨-, -, hserver⟩
    · exact hserver
    · exact hserver (Multiset.mem_cons_self _ _)
  have hoff : next.InPhase .off := by
    simp only [resume, Option.some.injEq] at hresume
    subst hresume
    split_ifs
    · exact ⟨rfl, hserver, hdns, hstops⟩
    · exact ⟨rfl, hserver, hdns, hstops⟩
  rcases hphases with ⟨rfl, -, -⟩ | ⟨rfl, -, -⟩
  · exact ⟨.off, .stay _, hoff⟩
  · exact ⟨.off, .closed, hoff⟩

/-- A stop that finds the portal running closes the servers. -/
theorem moved_closes (hphase : portal.InPhase phase) (hrunning : portal.running = true) :
    Moved phase ({ portal.stopDnsServer with starting := false }.await .httpdStop) := by
  have hcalls : ({ portal.stopDnsServer with starting := false }.await .httpdStop).servingCalls =
      .httpdStop ::ₘ portal.servingCalls := servingCalls_await rfl
  cases phase with
  | off => simp [hrunning, InPhase] at hphase
  | opening => simp [hrunning, InPhase] at hphase
  | on =>
      refine ⟨.closing, .closes, hrunning, rfl, ?_⟩
      rw [hcalls, hphase.2.2]
      refine ⟨by simp, fun call hcall => ?_, fun hcall => ?_⟩
      · rw [Multiset.mem_singleton.mp hcall]
        rfl
      · cases Multiset.mem_singleton.mp hcall
  | closing =>
      obtain ⟨-, -, -, hstops, hserver⟩ := hphase
      refine ⟨.closing, .stay _, hrunning, rfl, ?_⟩
      rw [hcalls]
      refine ⟨by simp, Multiset.forall_mem_cons.mpr ⟨rfl, hstops⟩, fun hcall => ?_⟩
      exact hserver (by simpa using hcall)

/-- The servers only move from one phase to the next. -/
theorem inPhase_step (hphase : portal.InPhase phase) (hkeeps : portal.Keeps event)
    (hstep : portal.step event = some next) : Moved phase next := by
  cases stepKind_of_step hstep with
  | idle => exact hphase.moved
  | begins _ hcall =>
      rcases hcall with rfl | rfl
      · exact ((inPhase_await_iff rfl).mpr hphase).moved
      · exact ((inPhase_await_iff rfl).mpr hphase).moved
  | cancels => exact (hphase.congr rfl rfl rfl rfl).moved
  | closes hrunning => exact moved_closes hphase hrunning
  | dns => exact (hphase.congr rfl rfl rfl rfl).moved
  | @resume rest _ call ok hportal hresume =>
      subst hportal
      obtain ⟨-, -, hregistered, hopens⟩ := hkeeps
      have hquiet (hplain : call.serving = false) (hopens : call.opensServer = true → ok = false) :
          Moved phase next := by
        obtain ⟨hrunning, hserver, hdns, hcalls⟩ := resume_plain hplain hopens hresume
        have hrest : rest.InPhase phase := (inPhase_await_iff hplain).mp hphase
        exact (hrest.congr hrunning hserver hdns hcalls).moved
      cases call with
      | httpdStart mode =>
          cases ok with
          | false => exact hquiet rfl fun _ => rfl
          | true =>
              refine moved_httpdStart hphase (fun other hother => ?_) hresume
              exact hopens rfl rfl other (Multiset.mem_cons_of_mem hother)
      | register mode uri uris =>
          obtain rfl := hregistered rfl
          exact moved_register hphase hresume
      | dnsServer => exact moved_dnsServer hphase hresume
      | httpdStop => exact moved_httpdStop hphase hresume
      | setModeSta => exact moved_setModeSta hphase hresume
      | _ => exact hquiet rfl nofun

/-! ## What a start leaves behind that gives up -/

/-- There is an HTTP server that no start uses and no stop will stop. -/
structure Orphaned (portal : Portal) : Prop where
  httpServer : portal.httpServer = true
  running : portal.running = false
  calls : portal.servingCalls = 0

/-- A start that cannot register a handler orphans its server. -/
theorem orphaned_of_unregistered {mode : AccessMode} {uri : String} {uris : List String}
    (hphase : (rest.await (.register mode uri uris)).InPhase phase)
    (hresume : rest.resume false (.register mode uri uris) = some next) : next.Orphaned := by
  obtain ⟨-, hrunning, hserver, -, hnone⟩ := hphase.of_usesServer rfl
  obtain rfl : rest.failed = next := by simpa [resume] using hresume
  exact ⟨hserver, hrunning, hnone⟩

theorem Orphaned.step (horphaned : portal.Orphaned) (hstep : portal.step event = some next) :
    next.Orphaned := by
  obtain ⟨hserver, hrunning, hcalls⟩ := horphaned
  cases stepKind_of_step hstep with
  | idle => exact ⟨hserver, hrunning, hcalls⟩
  | begins _ hcall =>
      rcases hcall with rfl | rfl
      · exact ⟨hserver, hrunning, (servingCalls_await_of_not rfl).trans hcalls⟩
      · exact ⟨hserver, hrunning, (servingCalls_await_of_not rfl).trans hcalls⟩
  | cancels => exact ⟨hserver, hrunning, hcalls⟩
  | closes hon => exact absurd (hon.symm.trans hrunning) (by decide)
  | dns => exact ⟨hserver, hrunning, hcalls⟩
  | @resume rest _ call ok hportal hresume =>
      subst hportal
      have hplain : call.serving = false := by
        by_contra hserving
        rw [servingCalls_await (by simpa using hserving)] at hcalls
        exact Multiset.cons_ne_zero hcalls
      have hopens : call.opensServer = true → ok = false := by
        intro hopens
        cases call with
        | httpdStart mode =>
            obtain ⟨hok, -⟩ | ⟨-, hfree, -⟩ := resume_httpdStart hresume
            · exact hok
            · exact absurd (hserver.symm.trans hfree) (by decide)
        | _ => cases hopens
      obtain ⟨hsameRunning, hsameServer, -, hsameCalls⟩ := resume_plain hplain hopens hresume
      refine ⟨hsameServer.trans hserver, hsameRunning.trans hrunning, ?_⟩
      rw [hsameCalls, ← servingCalls_await_of_not hplain, hcalls]

/-- An orphaned server keeps the portal from running for good. -/
theorem Orphaned.replay (horphaned : portal.Orphaned) {events : List PortalEvent}
    (hreplay : machine.replay portal events = some next) : next.running = false := by
  have hall : next.Orphaned := by
    induction events generalizing portal with
    | nil =>
        obtain rfl : portal = next := by simpa [Machine.replay] using hreplay
        exact horphaned
    | cons event events ih =>
        obtain ⟨middle, hstep, hrest⟩ := Option.bind_eq_some_iff.mp hreplay
        exact ih (horphaned.step hstep) hrest
  exact hall.running

end CrowPanel.Settings.Portal
