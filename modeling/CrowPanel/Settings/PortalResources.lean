import CrowPanel.Settings.PortalPhases

/-!
# What a start of the portal leaves behind

Whenever no start is in progress and the portal does not run, its servers should be gone and the
Wi-Fi should not be left at APSTA.

## Strategy

The servers are gone because their phase is `off`.  The Wi-Fi mode has several possible owners,
every start past `esp_wifi_set_mode` and the running access point.  As long as nobody is the last
owner to go without switching back, an owner is left (`answered_step`).

A start that gives up does not switch back.  `unregistered` is a run in which it leaves its HTTP
server behind as well.
-/

namespace CrowPanel.Settings.Portal

open Library

variable {portal next rest : Portal} {event : PortalEvent} {call : Call} {ok : Bool} {phase : Phase}

/-! ## Who answers for the Wi-Fi mode -/

variable {calls : Multiset Call}

theorem Answered.cons (hanswered : portal.Answered calls) : portal.Answered (call ::ₘ calls) := by
  rcases hanswered with hsta | hrunning | ⟨owner, howner, huses⟩
  · exact .inl hsta
  · exact .inr (.inl hrunning)
  · exact .inr (.inr ⟨owner, Multiset.mem_cons_of_mem howner, huses⟩)

theorem answered_cons_of_uses (huses : call.usesAccessPoint = true) :
    portal.Answered (call ::ₘ calls) :=
  .inr (.inr ⟨call, Multiset.mem_cons_self _ _, huses⟩)

theorem Answered.of_cons (hanswered : portal.Answered (call ::ₘ calls))
    (hnot : call.usesAccessPoint = false) : portal.Answered calls := by
  rcases hanswered with hsta | hrunning | ⟨owner, howner, huses⟩
  · exact .inl hsta
  · exact .inr (.inl hrunning)
  · rcases Multiset.mem_cons.mp howner with rfl | howner
    · rw [hnot] at huses
      cases huses
    · exact .inr (.inr ⟨owner, howner, huses⟩)

/-- What is answered for without the running access point is so in every state of the portal. -/
theorem Answered.of_not_ap (hanswered : portal.Answered calls)
    (hnot : ¬(portal.running = true ∧ portal.accessMode = some .ap))
    (hmode : next.wifiMode = portal.wifiMode) : next.Answered calls := by
  rcases hanswered with hsta | hrunning | hcall
  · exact .inl (hmode.trans hsta)
  · exact absurd hrunning hnot
  · exact .inr (.inr hcall)

/-- A start that has switched to APSTA goes on, leaves the access point running, or gives up. -/
theorem answered_resume_owner (huses : call.usesAccessPoint = true)
    (hgivesUp : portal.givesUp ok call = true → portal.Answered portal.calls)
    (hresume : portal.resume ok call = some next) : next.Answered next.calls := by
  cases call with
  | setConfig =>
      simp only [resume, Option.some.injEq] at hresume
      subst hresume
      cases ok with
      | true => exact answered_cons_of_uses rfl
      | false => exact hgivesUp rfl
  | scan =>
      simp only [resume, Option.some.injEq] at hresume
      subst hresume
      split_ifs with hstarting
      · exact answered_cons_of_uses rfl
      · exact hgivesUp (by simpa [givesUp] using hstarting)
  | httpdStart mode =>
      cases mode with
      | localMode => cases huses
      | ap =>
          obtain ⟨rfl, rfl⟩ | ⟨-, -, rfl⟩ := resume_httpdStart hresume
          · exact hgivesUp rfl
          · exact answered_cons_of_uses rfl
  | register mode uri uris =>
      cases mode with
      | localMode => cases huses
      | ap =>
          simp only [resume, Option.some.injEq] at hresume
          subst hresume
          split_ifs with hok
          · exact hgivesUp (by simpa [givesUp] using hok)
          · cases uris with
            | nil => exact answered_cons_of_uses rfl
            | cons => exact answered_cons_of_uses rfl
  | dnsServer =>
      simp only [resume, Option.some.injEq] at hresume
      subst hresume
      split_ifs with htask hok
      · exact .inr (.inl ⟨rfl, rfl⟩)
      · exact .inr (.inl ⟨rfl, rfl⟩)
      · refine hgivesUp ?_
        simp only [givesUp, Bool.and_eq_true, Bool.not_eq_true', Option.isNone_iff_eq_none]
        exact ⟨by simpa using htask, by simpa using hok⟩
  | _ => cases huses

/-- Any other call may use the access point, but it does not leave it behind. -/
theorem answered_resume_other (hanswered : portal.Answered portal.calls)
    (hnot : call.usesAccessPoint = false)
    (hopening : call.usesServer = true → portal.running = false)
    (hstop : call = .setModeSta → ok = false → portal.stopped.Answered portal.calls)
    (hresume : portal.resume ok call = some next) : next.Answered next.calls := by
  cases call with
  | setConfig => cases hnot
  | scan => cases hnot
  | dnsServer => cases hnot
  | setMode =>
      simp only [resume, Option.some.injEq] at hresume
      subst hresume
      split_ifs
      · exact answered_cons_of_uses rfl
      · exact hanswered
  | httpdStart mode =>
      obtain ⟨-, rfl⟩ | ⟨-, -, rfl⟩ := resume_httpdStart hresume
      · exact hanswered
      · exact Answered.cons hanswered
  | register mode uri uris =>
      cases mode with
      | ap => cases hnot
      | localMode =>
          simp only [resume, Option.some.injEq] at hresume
          subst hresume
          split_ifs
          · exact hanswered
          · cases uris with
            | cons => exact @Answered.cons portal _ _ hanswered
            | nil =>
                refine hanswered.of_not_ap (fun hap => ?_) rfl
                rw [hopening rfl] at hap
                cases hap.1
  | httpdStop =>
      simp only [resume, Option.some.injEq] at hresume
      subst hresume
      split_ifs with hap
      · exact @Answered.cons portal _ _ hanswered
      · exact hanswered.of_not_ap (fun hrunning => hap hrunning.2) rfl
  | setModeSta =>
      simp only [resume, Option.some.injEq] at hresume
      subst hresume
      cases ok with
      | true => exact .inl rfl
      | false => exact hstop rfl rfl
  -- the calls that are left neither start nor end the access point
  | _ =>
      simp only [resume, Option.some.injEq] at hresume
      subst hresume
      repeat' split
      all_goals first
        | exact @Answered.cons portal _ _ hanswered
        | exact hanswered

/-- As long as every step keeps what it has, somebody answers for APSTA. -/
theorem answered_step (hphase : portal.InPhase phase) (hanswered : portal.Answered portal.calls)
    (hkeeps : portal.Keeps event) (hstep : portal.step event = some next) :
    next.Answered next.calls := by
  cases stepKind_of_step hstep with
  | idle => exact hanswered
  | begins => exact @Answered.cons portal _ _ hanswered
  | cancels => exact hanswered
  | closes => exact @Answered.cons portal _ _ hanswered
  | dns => exact hanswered
  | @resume rest _ call ok hportal hresume =>
      subst hportal
      obtain ⟨hgivesUp, hstop, -⟩ := hkeeps
      rw [await_calls, Multiset.erase_cons_head] at hgivesUp hstop
      cases huses : call.usesAccessPoint with
      | true => exact answered_resume_owner huses (hgivesUp huses) hresume
      | false =>
          have hrest : rest.Answered rest.calls := hanswered.of_cons huses
          exact answered_resume_other hrest huses (fun h => (hphase.of_usesServer h).2.1) hstop
            hresume

/-! ## What holds in every run -/

/-- `s_portal_starting` belongs to a start in progress, and a task that serves without
`s_dns_running` has lost its socket. -/
structure Settled (portal : Portal) : Prop where
  starting : portal.starting = true → ∃ call ∈ portal.calls, call.isStop = false
  serving : portal.dnsTask = some .serve → portal.dnsRunning = true ∨ portal.dnsSock = false

theorem exists_start_await (hstart : call.isStop = false) :
    ∃ other ∈ (portal.await call).calls, other.isStop = false :=
  ⟨call, Multiset.mem_cons_self _ _, hstart⟩

/-- A start that goes on is in progress, and one that ends has not left `s_portal_starting` set. -/
theorem resume_of_start (hstart : call.isStop = false)
    (hresume : portal.resume ok call = some next) :
    next.starting = false ∨ ∃ other ∈ next.calls, other.isStop = false := by
  cases call with
  | httpdStop => cases hstart
  | setModeSta => cases hstart
  | httpdStart mode =>
      obtain ⟨-, rfl⟩ | ⟨-, -, rfl⟩ := resume_httpdStart hresume
      · exact .inl rfl
      · exact .inr (exists_start_await rfl)
  | register mode uri uris =>
      simp only [resume, Option.some.injEq] at hresume
      subst hresume
      split_ifs
      · exact .inl rfl
      · cases uris with
        | cons => exact .inr (exists_start_await rfl)
        | nil =>
            cases mode with
            | ap => exact .inr (exists_start_await rfl)
            | localMode => exact .inl rfl
  | _ =>
      simp only [resume, Option.some.injEq] at hresume
      subst hresume
      split_ifs
      all_goals first
        | exact .inr (exists_start_await rfl)
        | exact .inl rfl
        -- the start has found that it is cancelled
        | exact .inl (by simp_all)

theorem resume_of_stop (hstop : call.isStop = true) (hresume : portal.resume ok call = some next) :
    next.starting = portal.starting ∧ ∀ other ∈ portal.calls, other ∈ next.calls := by
  cases call with
  | httpdStop =>
      simp only [resume, Option.some.injEq] at hresume
      subst hresume
      split_ifs
      · exact ⟨rfl, fun _ hother => Multiset.mem_cons_of_mem hother⟩
      · exact ⟨rfl, fun _ hother => hother⟩
  | setModeSta =>
      simp only [resume, Option.some.injEq] at hresume
      subst hresume
      split_ifs
      · exact ⟨rfl, fun _ hother => hother⟩
      · exact ⟨rfl, fun _ hother => hother⟩
  | _ => cases hstop

/-- Apart from the start of the DNS server no call touches the task, its flag or its socket. -/
theorem resume_serving
    (hserving : portal.dnsTask = some .serve → portal.dnsRunning = true ∨ portal.dnsSock = false)
    (hresume : portal.resume ok call = some next) :
    next.dnsTask = some .serve → next.dnsRunning = true ∨ next.dnsSock = false := by
  cases call with
  | dnsServer =>
      simp only [resume, Option.some.injEq] at hresume
      subst hresume
      split_ifs
      · exact hserving
      · exact fun htask => by cases htask
      · exact fun _ => .inr rfl
  | httpdStart mode =>
      obtain ⟨-, rfl⟩ | ⟨-, -, rfl⟩ := resume_httpdStart hresume
      · exact hserving
      · exact hserving
  | register mode uri uris =>
      simp only [resume, Option.some.injEq] at hresume
      subst hresume
      split_ifs
      · exact hserving
      · cases uris with
        | cons => exact hserving
        | nil => cases mode <;> exact hserving
  | _ =>
      simp only [resume, Option.some.injEq] at hresume
      subst hresume
      repeat' split
      all_goals exact hserving

theorem Settled.step (hsettled : portal.Settled) (hstep : portal.step event = some next) :
    next.Settled := by
  cases stepKind_of_step hstep with
  | idle => exact hsettled
  | begins _ hcall =>
      rcases hcall with rfl | rfl
      · exact ⟨fun _ => exists_start_await rfl, hsettled.serving⟩
      · exact ⟨fun _ => exists_start_await rfl, hsettled.serving⟩
  | cancels => exact ⟨nofun, hsettled.serving⟩
  | closes => exact ⟨nofun, fun _ => .inr rfl⟩
  | dns hserve => exact ⟨hsettled.starting, fun htask => .inl (hserve htask)⟩
  | @resume rest _ call ok hportal hresume =>
      subst hportal
      refine ⟨fun hstarting => ?_, @resume_serving rest _ _ _ hsettled.serving hresume⟩
      cases hstop : call.isStop with
      | false =>
          rcases resume_of_start hstop hresume with hnot | hstart
          · rw [hnot] at hstarting
            cases hstarting
          · exact hstart
      | true =>
          obtain ⟨hsame, hcalls⟩ := resume_of_stop hstop hresume
          obtain ⟨other, hother, hstart⟩ := hsettled.starting (hsame ▸ hstarting)
          rcases Multiset.mem_cons.mp hother with rfl | hother
          · rw [hstop] at hstart
            cases hstart
          · exact ⟨other, hcalls other hother, hstart⟩

theorem settled_of_reached {kept : Portal → PortalEvent → Prop}
    (hreached : machine.ReachedBy kept portal) : portal.Settled := by
  refine hreached.invariant ?_ ?_
  · rintro portal rfl
    exact ⟨nofun, nofun⟩
  · exact fun _ _ _ _ hsettled _ hstep => hsettled.step hstep

/-- The invariant of the runs in which nothing is left behind. -/
structure Owned (portal : Portal) : Prop where
  phase : ∃ phase, portal.InPhase phase
  answered : portal.Answered portal.calls

theorem owned_of_reached (hreached : machine.ReachedBy Keeps portal) : portal.Owned := by
  refine hreached.invariant ?_ ?_
  · rintro portal rfl
    refine ⟨⟨.off, rfl, rfl, rfl, fun call hcall => ?_⟩, .inl rfl⟩
    simp [servingCalls] at hcall
  · rintro portal event next - ⟨⟨phase, hphase⟩, hanswered⟩ hkeeps hstep
    obtain ⟨after, -, hafter⟩ := inPhase_step hphase hkeeps hstep
    exact ⟨⟨after, hafter⟩, answered_step hphase hanswered hkeeps hstep⟩

theorem Owned.released (howned : portal.Owned) (hsettled : portal.Settled)
    (hnoStart : portal.NoStart) (hrunning : portal.running = false) : portal.Released := by
  obtain ⟨⟨phase, hphase⟩, hanswered⟩ := howned
  have hoff : portal.httpServer = false ∧ portal.dnsRunning = false := by
    cases phase with
    | off => exact ⟨hphase.2.1, hphase.2.2.1⟩
    | opening =>
        obtain ⟨-, -, -, call, hcalls, huses⟩ := hphase
        have hcall : call ∈ portal.servingCalls := hcalls ▸ Multiset.mem_singleton_self call
        have hstop := hnoStart call (Multiset.mem_of_mem_filter hcall)
        cases call <;> simp [Call.usesServer, Call.isStop] at huses hstop
    | on => simp [hrunning, InPhase] at hphase
    | closing => simp [hrunning, InPhase] at hphase
  refine ⟨hoff.1, hoff.2, ?_, fun hapsta => ?_⟩
  · rintro ⟨htask, hsock⟩
    rcases hsettled.serving htask with hdns | hclosed
    · simp [hoff.2] at hdns
    · simp [hsock] at hclosed
  · rcases hanswered with hsta | hrunning' | ⟨call, hcall, huses⟩
    · simp [hapsta] at hsta
    · simp [hrunning] at hrunning'
    · have hstop := hnoStart call hcall
      cases call <;> simp [Call.usesAccessPoint, Call.isStop] at huses hstop

/-- Whenever no start is in progress and the portal does not run, nothing is left behind, and a
later start can succeed. -/
theorem released_when_idle (hreached : machine.ReachedBy Keeps portal) (hnoStart : portal.NoStart)
    (hrunning : portal.running = false) :
    portal.Released ∧
      ∀ connected, ∃ last,
        machine.replay portal (fullStart connected) = some last ∧ last.running = true := by
  have hsettled : portal.Settled := settled_of_reached hreached
  have hreleased : portal.Released :=
    (owned_of_reached hreached).released hsettled hnoStart hrunning
  have hstarting : portal.starting = false := by
    by_contra hstarting
    obtain ⟨call, hcall, hstart⟩ := hsettled.starting (by simpa using hstarting)
    simp [hnoStart call hcall] at hstart
  exact ⟨hreleased, fullStart_runs hrunning hstarting hreleased.httpServer⟩

private def stopsAgain : List PortalEvent :=
  fullStart false ++
    [.dnsTask true, .dnsTask true, .start true, .stop, .resume .httpdStop true,
      .resume .setModeSta true]

private theorem stopsAgain_isSome : (machine.replay {} stopsAgain).isSome := by
  decide +kernel

private def stoppedPortal : Portal :=
  (machine.replay {} stopsAgain).get stopsAgain_isSome

private theorem stoppedPortal_reached : machine.ReachedBy Keeps stoppedPortal :=
  Machine.ReachedBy.replay (.start rfl) (by decide +kernel) (Option.some_get stopsAgain_isSome).symm

theorem released_when_idle_stopped :
    stoppedPortal.dnsTask = some .serve ∧ stoppedPortal.Released ∧
      ∀ connected, ∃ last,
        machine.replay stoppedPortal (fullStart connected) = some last ∧ last.running = true :=
  ⟨by decide +kernel,
    released_when_idle stoppedPortal_reached (by decide +kernel) (by decide +kernel)⟩

/-- The registration of the last handler fails. -/
private def unregistered : List PortalEvent :=
  [.start false, .resume .apNetif true, .resume .staNetif true, .resume .setStorage true,
    .resume .setMode true, .resume .setConfig true, .resume .scan true,
    .resume (.httpdStart .ap) true] ++
    (registering .ap "/" handlerUris).dropLast ++ [.resume (.register .ap "/save" []) false]

private theorem unregistered_isSome : (machine.replay {} unregistered).isSome := by
  decide +kernel

private def unregisteredPortal : Portal :=
  (machine.replay {} unregistered).get unregistered_isSome

/-- The start has failed, and its server and the access point are still there. -/
theorem unregistered_not_released :
    machine.Reachable unregisteredPortal ∧ unregisteredPortal.NoStart ∧
      unregisteredPortal.running = false ∧ unregisteredPortal.httpServer = true ∧
      unregisteredPortal.wifiMode = .apsta ∧ ¬unregisteredPortal.Released := by
  have hserver : unregisteredPortal.httpServer = true := by decide +kernel
  refine ⟨Machine.reachable_of_replay rfl (Option.some_get unregistered_isSome).symm,
    by decide +kernel, by decide +kernel, hserver, by decide +kernel, fun hreleased => ?_⟩
  exact absurd (hserver.symm.trans hreleased.httpServer) (by decide)

/-- A stop during the scan leaves the access point behind as well. -/
example :
    ((machine.replay {}
      [.start false, .resume .apNetif true, .resume .staNetif true, .resume .setStorage true,
        .resume .setMode true, .resume .setConfig true, .stop, .resume .scan true]).map
      fun portal => (portal.running, portal.calls, portal.wifiMode)) = some (false, 0, .apsta) := by
  decide +kernel

end CrowPanel.Settings.Portal
