import MultiTerminal.Orchestrator

/-!
# The orchestrator over whole runs

A run of a `MultiServiceOrchestrator` is its construction followed by any
sequence of calls, each with whatever tmux answers and on the clock
`sleep`. A call that raises is caught by the caller: the orchestrator
stays as the call left it (unchanged by `add_service` and `shutdown_all`,
with the ready flags already set by `wait_for_ready`).

Until the first `shutdown_all` the session's registry is the services
table seen through the window ids (`RegistryMirrorsServices`,
`run_registryMirrorsServices`): `add_service` adds a name to both or to
neither, and `wait_for_ready` changes only ready flags. So every service
stays a registered window (`ServicesRegistered`) and no later call raises
`Window '<name>' not found` (`run_servicesRegistered`).
`shutdown_all` ends this: `kill()` clears the registry while `services`
keeps its entries, and a graceful `shutdown_all` after it raises at its
first interrupt, before `kill-session` (`shutdownAll_after_shutdownAll`).
What holds over every run is the other direction: each registered window
is a service recorded under its id (`run_windowsAreServices`). After a
`shutdown_all`, `monitor_logs` raises until every service recorded before
it has been passed to `add_service` again with a directory that expands
(`monitorLogs_after_shutdownAll`).

A ready flag is set only on a service with a ready pattern, over every run
(`run_readyHasPattern`), and until the first `shutdown_all` no record is
replaced and no flag is cleared (`run_keepsServices`).

Which services are recorded and which windows are registered follows from
the calls and the host's expansion of their directories alone, never from
tmux or the clock (`run_liveNames`).

Each invariant is kept call by call through one description of what a
call can do (`OrchestratorOp.apply_cases`).
-/

namespace MultiTerminal

open TerminalSession Orchestrator

/-- A call on a `MultiServiceOrchestrator`, with tmux's answers to it. The
waits of `wait_for_ready` get `fuel` passes each. -/
inductive OrchestratorOp where
  | addService (name command : String) (workingDir readyPattern : Option String)
      (tmux : List String → String)
  | startAll (stagger : ℚ)
  | waitForReady (timeoutPerService : ℚ) (tmux : ℚ → List String → String) (fuel : ℕ)
  | monitorLogs (patterns : Option (List String)) (tmux : List String → String)
  | shutdownAll (graceful : Bool)

namespace OrchestratorOp

/-- The orchestrator and the clock after one call; `none` when a wait ran
out of fuel. -/
def apply (host : Host) (sleep : ℚ → ℚ → ℚ) :
    Orchestrator × ℚ → OrchestratorOp → Option (Orchestrator × ℚ)
  | (o, now), .addService name command workingDir readyPattern tmux =>
      match o.addService host name command workingDir readyPattern tmux with
      | .ok (o', _) => some (o', now)
      | .error _ => some (o, now)
  | (o, now), .startAll stagger => some (o, o.startAll stagger sleep now)
  | (o, now), .waitForReady timeoutPerService tmux fuel =>
      (o.waitForReady host timeoutPerService sleep tmux fuel now).map fun r => (r.1, r.2.2)
  | (o, now), .monitorLogs _ _ => some (o, now)
  | (o, now), .shutdownAll graceful =>
      some ((o.shutdownAll graceful sleep now).1, (o.shutdownAll graceful sleep now).2.2.2)

/-- Whether the call is `shutdown_all`. -/
def isShutdownAll : OrchestratorOp → Bool
  | .shutdownAll _ => true
  | _ => false

/-- The name an `add_service` call passes with a directory that expands. -/
def addedName (host : Host) : OrchestratorOp → Option String
  | .addService name _ workingDir _ _ => if host.expands workingDir then some name else none
  | _ => none

end OrchestratorOp

/-- The orchestrator and the clock after a sequence of calls; `none` when a
wait ran out of fuel. -/
def runOrchestrator (host : Host) (sleep : ℚ → ℚ → ℚ) :
    List OrchestratorOp → Orchestrator × ℚ → Option (Orchestrator × ℚ)
  | [], st => some st
  | op :: ops, st => (op.apply host sleep st).bind (runOrchestrator host sleep ops)

/-! ## What one call can do -/

namespace OrchestratorOp

/-- A call leaves the orchestrator as it was (an `add_service` only on a
registered name or a directory that does not expand), adds a service and
its window under a new name, sets the ready flags of services that have a
ready pattern, or - `shutdown_all` only - kills the session. -/
theorem apply_cases {host : Host} {sleep : ℚ → ℚ → ℚ} {o : Orchestrator} {now : ℚ}
    {st' : Orchestrator × ℚ} {op : OrchestratorOp}
    (happ : op.apply host sleep (o, now) = some st') :
    (st'.1 = o ∧ ∀ name, op.addedName host = some name → name ∈ o.session.windows.keys) ∨
    (∃ name command readyPattern, op.addedName host = some name ∧
      name ∉ o.session.windows.keys ∧ st'.1 =
      ⟨{ o.session with
          windows := o.session.windows.insert name (windowTarget o.session.name name) },
        o.services.insert name ⟨command, windowTarget o.session.name name, readyPattern, false⟩⟩) ∨
    (op.addedName host = none ∧ ∃ ready, ready.Sublist
      ((o.services.entries.filter fun e => (readyPatternOf e.2).isSome).map Prod.fst) ∧
      st'.1 = ⟨o.session, markReady o.services ready⟩) ∨
    (op.isShutdownAll = true ∧ st'.1 = ⟨o.session.kill.1, o.services⟩) := by
  cases op with
  | addService name command workingDir readyPattern tmux =>
      rcases addService_eq host o name command workingDir readyPattern tmux with
        ⟨hm, hadd⟩ | ⟨-, hex, _, -, hadd⟩ | ⟨hm, hex, calls, hadd⟩ <;>
        simp only [apply, hadd, Option.some.injEq] at happ <;> subst happ
      · refine .inl ⟨rfl, fun _ h => ?_⟩
        simp only [addedName] at h
        split at h <;> cases h
        exact hm
      · exact .inl ⟨rfl, fun _ h => by simp [addedName, hex] at h⟩
      · exact .inr (.inl ⟨name, command, readyPattern, by simp [addedName, hex], hm, rfl⟩)
  | waitForReady timeoutPerService tmux fuel =>
      obtain ⟨⟨o', r, t⟩, hwait, rfl⟩ := Option.map_eq_some'.mp happ
      obtain ⟨ready, err, hloop, rfl, -⟩ := waitForReady_eq hwait
      exact .inr (.inr (.inl ⟨rfl, ready, readyLoop_sublist hloop, rfl⟩))
  | shutdownAll graceful =>
      cases happ
      rcases shutdownAll_fst o graceful sleep now with hs | hs
      · exact .inl ⟨hs, fun _ h => by cases h⟩
      · exact .inr (.inr (.inr ⟨rfl, hs⟩))
  | startAll | monitorLogs => cases happ; exact .inl ⟨rfl, fun _ h => by cases h⟩

theorem apply_session_name {host : Host} {sleep : ℚ → ℚ → ℚ} {st st' : Orchestrator × ℚ}
    {op : OrchestratorOp} (h : op.apply host sleep st = some st') :
    st'.1.session.name = st.1.session.name := by
  obtain ⟨o, now⟩ := st
  rcases apply_cases h with ⟨h', -⟩ | ⟨_, _, _, -, -, h'⟩ | ⟨-, _, -, h'⟩ | ⟨-, h'⟩ <;>
    simp [h', kill]

end OrchestratorOp

theorem runOrchestrator_session_name {host : Host} {sleep : ℚ → ℚ → ℚ} :
    ∀ {ops : List OrchestratorOp} {st st' : Orchestrator × ℚ},
      runOrchestrator host sleep ops st = some st' → st'.1.session.name = st.1.session.name
  | [], _, _, h => by cases h; rfl
  | op :: ops, st, st', h => by
      obtain ⟨mid, hop, hrest⟩ := Option.bind_eq_some.mp h
      rw [runOrchestrator_session_name hrest, OrchestratorOp.apply_session_name hop]

/-! ## The registry mirrors the services -/

/-- Each service is registered in the session under the window id its
record holds. -/
def ServicesRegistered (o : Orchestrator) : Prop :=
  ∀ name config, o.services.get? name = some config →
    o.session.windows.get? name = some config.windowId

theorem ServicesRegistered.mem_keys {o : Orchestrator} (h : ServicesRegistered o) :
    ∀ name ∈ o.services.keys, name ∈ o.session.windows.keys := fun name hname => by
  obtain ⟨config, hget⟩ := o.services.mem_keys_iff.mp hname
  exact PyDict.mem_keys_of_get? (h name config hget)

/-- The session's registry is the services table seen through the window
ids: the same names, in the same order, under the ids the records hold. -/
def RegistryMirrorsServices (o : Orchestrator) : Prop :=
  o.session.windows = o.services.map fun _ config => config.windowId

theorem RegistryMirrorsServices.servicesRegistered {o : Orchestrator}
    (h : RegistryMirrorsServices o) : ServicesRegistered o := fun name config hget => by
  rw [h, PyDict.get?_map, hget]
  rfl

theorem RegistryMirrorsServices.init (sessionName workingDir : String) (hasSession : Bool) :
    RegistryMirrorsServices (Orchestrator.init sessionName workingDir hasSession).1 :=
  rfl

theorem RegistryMirrorsServices.addService {o : Orchestrator} (h : RegistryMirrorsServices o)
    (name command : String) (readyPattern : Option String) :
    RegistryMirrorsServices
      ⟨{ o.session with
          windows := o.session.windows.insert name (windowTarget o.session.name name) },
        o.services.insert name ⟨command, windowTarget o.session.name name,
            readyPattern, false⟩⟩ := by
  show o.session.windows.insert _ _ = _
  rw [h, PyDict.map_insert]

theorem RegistryMirrorsServices.markReady {o : Orchestrator} (h : RegistryMirrorsServices o)
    (ready : List String) : RegistryMirrorsServices ⟨o.session, markReady o.services ready⟩ :=
  h.trans (map_windowId_markReady o.services ready).symm

theorem OrchestratorOp.apply_registryMirrorsServices {host : Host} {sleep : ℚ → ℚ → ℚ}
    {st st' : Orchestrator × ℚ} {op : OrchestratorOp} (hop : op.isShutdownAll = false)
    (h : RegistryMirrorsServices st.1) (happ : op.apply host sleep st = some st') :
    RegistryMirrorsServices st'.1 := by
  obtain ⟨o, now⟩ := st
  rcases apply_cases happ with ⟨h', -⟩ | ⟨name, command, readyPattern, -, -, h'⟩ |
    ⟨-, ready, -, h'⟩ | ⟨hs, -⟩
  · exact h' ▸ h
  · exact h' ▸ h.addService name command readyPattern
  · exact h' ▸ h.markReady ready
  · exact absurd hs (by simp [hop])

theorem runOrchestrator_registryMirrorsServices {host : Host} {sleep : ℚ → ℚ → ℚ} :
    ∀ {ops : List OrchestratorOp} {st st' : Orchestrator × ℚ},
      (∀ op ∈ ops, op.isShutdownAll = false) → RegistryMirrorsServices st.1 →
      runOrchestrator host sleep ops st = some st' → RegistryMirrorsServices st'.1
  | [], _, _, _, h, hrun => by cases hrun; exact h
  | op :: ops, _, _, hops, h, hrun => by
      obtain ⟨mid, hop, hrest⟩ := Option.bind_eq_some.mp hrun
      exact runOrchestrator_registryMirrorsServices
        (fun op' h' => hops op' (List.mem_cons_of_mem _ h'))
        (OrchestratorOp.apply_registryMirrorsServices (hops op (List.mem_cons_self _ _)) h hop)
            hrest

/-- Until the first `shutdown_all` the session's registry is exactly the
services table seen through the window ids: the same names, in insertion
order, under the ids `add_service` recorded. -/
theorem run_registryMirrorsServices (host : Host) (sleep : ℚ → ℚ → ℚ)
    (sessionName workingDir : String) (hasSession : Bool) (now : ℚ) (ops : List OrchestratorOp)
    (hops : ∀ op ∈ ops, op.isShutdownAll = false) {o : Orchestrator} {t : ℚ}
    (hrun : runOrchestrator host sleep ops
      ((Orchestrator.init sessionName workingDir hasSession).1, now) = some (o, t)) :
    o.session.windows = o.services.map fun _ config => config.windowId :=
  runOrchestrator_registryMirrorsServices hops (RegistryMirrorsServices.init _ _ _) hrun

theorem run_registryMirrorsServices_api_web :
    ∃ o, runOrchestrator Host.literal exactSleep
      [.addService "api" "serve" none (some "ready") (fun _ => ""),
        .addService "web" "" none none (fun _ => ""), .addService "api" "" none none (fun _ => "")]
      ((Orchestrator.init "dev" "/src" false).1, 0) = some (o, 0) ∧
    o.session.windows = o.services.map fun _ config => config.windowId := by
  have hrun : runOrchestrator Host.literal exactSleep
      [.addService "api" "serve" none (some "ready") (fun _ => ""),
        .addService "web" "" none none (fun _ => ""), .addService "api" "" none none (fun _ => "")]
      ((Orchestrator.init "dev" "/src" false).1, 0) =
      some (⟨⟨"dev", "/src", (PyDict.empty.insert "api" "dev:api").insert "web" "dev:web"⟩,
        (PyDict.empty.insert "api" ⟨"serve", "dev:api", some "ready", false⟩).insert "web"
          ⟨"", "dev:web", none, false⟩⟩, 0) :=
    rfl
  exact ⟨_, hrun, run_registryMirrorsServices Host.literal exactSleep "dev" "/src" false 0 _
    (by decide) hrun⟩

/-- Until the first `shutdown_all`, every service stays a registered window
under the id its record holds, so neither `wait_for_ready` nor
`monitor_logs` nor `shutdown_all` raises, and `shutdown_all` kills the
session. -/
theorem run_servicesRegistered (host : Host) (sleep : ℚ → ℚ → ℚ)
    (sessionName workingDir : String) (hasSession : Bool) (now : ℚ) (ops : List OrchestratorOp)
    (hops : ∀ op ∈ ops, op.isShutdownAll = false) {o : Orchestrator} {t : ℚ}
    (hrun : runOrchestrator host sleep ops
      ((Orchestrator.init sessionName workingDir hasSession).1, now) = some (o, t)) :
    ServicesRegistered o ∧
    (∀ timeoutPerService tmux fuel now' o' r t',
      o.waitForReady host timeoutPerService sleep tmux fuel now' = some (o', r, t') →
        ∃ ready, r = .ok ready) ∧
    (∀ patterns tmux, ∃ result, o.monitorLogs host patterns tmux = .ok result) ∧
    (∀ graceful now', (o.shutdownAll graceful sleep now').2.1 = .ok () ∧
      ["kill-session", "-t", sessionName] ∈ (o.shutdownAll graceful sleep now').2.2.1) := by
  have h : ServicesRegistered o :=
    (runOrchestrator_registryMirrorsServices hops (RegistryMirrorsServices.init _ _ _)
      hrun).servicesRegistered
  have hname : o.session.name = sessionName := runOrchestrator_session_name hrun
  refine ⟨h, fun _ _ _ _ _ _ _ hwait => waitForReady_no_error h.mem_keys hwait,
    fun patterns tmux => (monitorLogs_eq host o patterns tmux h.mem_keys).imp fun _ hr => hr.1,
    fun graceful now' => ?_⟩
  rw [← hname]
  exact shutdownAll_of_registered o h.mem_keys graceful sleep now'

theorem run_servicesRegistered_api_web :
    ∃ o, runOrchestrator Host.literal exactSleep
      [.addService "api" "serve" none (some "ready") (fun _ => ""),
        .addService "web" "" none none (fun _ => ""), .addService "api" "" none none (fun _ => ""),
        .waitForReady 1 (fun _ _ => "ready") 1]
      ((Orchestrator.init "dev" "/src" false).1, 0) = some (o, 0) ∧
    ServicesRegistered o ∧
    (∀ timeoutPerService tmux fuel now' o' r t',
      o.waitForReady Host.literal timeoutPerService exactSleep tmux fuel now' = some (o', r, t') →
        ∃ ready, r = .ok ready) ∧
    (∀ patterns tmux, ∃ result, o.monitorLogs Host.literal patterns tmux = .ok result) ∧
    (∀ graceful now', (o.shutdownAll graceful exactSleep now').2.1 = .ok () ∧
      ["kill-session", "-t", "dev"] ∈ (o.shutdownAll graceful exactSleep now').2.2.1) := by
  have hrun : runOrchestrator Host.literal exactSleep
      [.addService "api" "serve" none (some "ready") (fun _ => ""),
        .addService "web" "" none none (fun _ => ""), .addService "api" "" none none (fun _ => ""),
        .waitForReady 1 (fun _ _ => "ready") 1]
      ((Orchestrator.init "dev" "/src" false).1, 0) =
      some (⟨⟨"dev", "/src", (PyDict.empty.insert "api" "dev:api").insert "web" "dev:web"⟩,
        (PyDict.empty.insert "api" ⟨"serve", "dev:api", some "ready", true⟩).insert "web"
          ⟨"", "dev:web", none, false⟩⟩, 0) := by
    with_unfolding_all rfl
  exact ⟨_, hrun, run_servicesRegistered Host.literal exactSleep "dev" "/src" false 0 _ (by decide)
    hrun⟩

/-! ## After `shutdown_all` -/

/-- `api` added, then `shutdown_all(graceful=False)`: the registry is empty
while `services` still holds `api`, and a graceful `shutdown_all` raises
`Window 'api' not found` at its first interrupt and never reaches
`kill-session`. -/
theorem shutdownAll_after_shutdownAll :
    runOrchestrator Host.literal exactSleep
        [.addService "api" "serve" none none (fun _ => ""), .shutdownAll false]
        ((Orchestrator.init "dev" "/src" false).1, 0) =
      some (⟨⟨"dev", "/src", .empty⟩,
        PyDict.empty.insert "api" ⟨"serve", "dev:api", none, false⟩⟩, 0) ∧
    ¬ ServicesRegistered ⟨⟨"dev", "/src", .empty⟩,
      PyDict.empty.insert "api" ⟨"serve", "dev:api", none, false⟩⟩ ∧
    (Orchestrator.shutdownAll ⟨⟨"dev", "/src", .empty⟩,
      PyDict.empty.insert "api" ⟨"serve", "dev:api", none, false⟩⟩ true exactSleep 0).2.1 =
        .error (.windowNotFound "api") ∧
    ["kill-session", "-t", "dev"] ∉ (Orchestrator.shutdownAll ⟨⟨"dev", "/src", .empty⟩,
      PyDict.empty.insert "api" ⟨"serve", "dev:api", none, false⟩⟩ true exactSleep 0).2.2.1 :=
  ⟨rfl, fun h => by simpa using h "api" _ rfl, rfl, by decide⟩

/-! ## After `shutdown_all`, until each service is added again

`kill()` empties the registry and leaves `services` as it was. A service
that is not a registered window stays so until `add_service` is called with
its name again and a directory that expands; that call succeeds, the name
being no window, and replaces the record. -/

/-- The service `name` is not a registered window. -/
def IsStale (o : Orchestrator) (name : String) : Prop :=
  name ∈ o.services.keys ∧ name ∉ o.session.windows.keys

theorem OrchestratorOp.apply_isStale {host : Host} {sleep : ℚ → ℚ → ℚ}
    {st st' : Orchestrator × ℚ} {op : OrchestratorOp} (hop : op.isShutdownAll = false)
    (happ : op.apply host sleep st = some st') (name : String) :
    IsStale st'.1 name ↔ IsStale st.1 name ∧ op.addedName host ≠ some name := by
  obtain ⟨o, now⟩ := st
  rcases apply_cases happ with ⟨h', hadded⟩ | ⟨added, command, readyPattern, hadd, hnew, h'⟩ |
    ⟨hnone, ready, -, h'⟩ | ⟨hs, -⟩
  · rw [h']
    exact ⟨fun hst => ⟨hst, fun heq => hst.2 (hadded name heq)⟩, And.left⟩
  · rw [h', hadd]
    by_cases h : name = added
    · subst h
      simp [IsStale, PyDict.mem_keys_insert]
    · simp [IsStale, PyDict.mem_keys_insert, h, Ne.symm h]
  · rw [h', hnone]
    simp [IsStale, markReady]
  · exact absurd hs (by simp [hop])

theorem runOrchestrator_isStale {host : Host} {sleep : ℚ → ℚ → ℚ} :
    ∀ {ops : List OrchestratorOp} {st st' : Orchestrator × ℚ},
      (∀ op ∈ ops, op.isShutdownAll = false) → runOrchestrator host sleep ops st = some st' →
      ∀ name, IsStale st'.1 name ↔
        IsStale st.1 name ∧ name ∉ ops.filterMap (OrchestratorOp.addedName host)
  | [], _, _, _, hrun, name => by cases hrun; simp
  | op :: _, _, _, hops, hrun, name => by
      obtain ⟨mid, hop, hrest⟩ := Option.bind_eq_some.mp hrun
      rw [runOrchestrator_isStale (fun op' h' => hops op' (List.mem_cons_of_mem _ h')) hrest,
        OrchestratorOp.apply_isStale (hops op (List.mem_cons_self _ _)) hop]
      cases h : op.addedName host <;> simp [List.filterMap_cons, h, and_assoc, eq_comm]

/-- After a `shutdown_all` that went through, and until the next one,
`monitor_logs` raises `Window '<name>' not found` for a service recorded
before the shutdown as long as one of them has not been passed to
`add_service` again with a directory that expands, and returns once every
one of them has been. -/
theorem monitorLogs_after_shutdownAll (host : Host) (sleep : ℚ → ℚ → ℚ) (o : Orchestrator)
    (graceful : Bool) (now : ℚ) (hkill : (o.shutdownAll graceful sleep now).2.1 = .ok ())
    (ops : List OrchestratorOp) (hops : ∀ op ∈ ops, op.isShutdownAll = false)
    {o' : Orchestrator} {t' : ℚ}
    (hrun : runOrchestrator host sleep ops
      ((o.shutdownAll graceful sleep now).1, (o.shutdownAll graceful sleep now).2.2.2) =
        some (o', t'))
    (patterns : Option (List String)) (tmux : List String → String) :
    ((∀ name ∈ o.services.keys, name ∈ ops.filterMap (OrchestratorOp.addedName host)) →
      ∃ result, o'.monitorLogs host patterns tmux = .ok result) ∧
    ((∃ name ∈ o.services.keys, name ∉ ops.filterMap (OrchestratorOp.addedName host)) →
      ∃ name ∈ o.services.keys, name ∉ ops.filterMap (OrchestratorOp.addedName host) ∧
        o'.monitorLogs host patterns tmux = .error (.windowNotFound name)) := by
  have hshut : (o.shutdownAll graceful sleep now).1 = ⟨o.session.kill.1, o.services⟩ := by
    cases graceful
    · rfl
    · cases hi : (interruptAll o.session o.services.keys).2 <;>
        simp [Orchestrator.shutdownAll, hi] at hkill ⊢
  have hstale : ∀ name, IsStale o' name ↔
      name ∈ o.services.keys ∧ name ∉ ops.filterMap (OrchestratorOp.addedName host) := fun name => by
    rw [runOrchestrator_isStale hops hrun name, hshut]
    simp [IsStale, kill]
  refine ⟨fun hall => (monitorLogs_isOk host o' patterns tmux).mpr fun name hname => ?_,
    fun ⟨name, hname, hnot⟩ => ?_⟩
  · by_contra hwin
    exact ((hstale name).mp ⟨hname, hwin⟩).2 (hall name ((hstale name).mp ⟨hname, hwin⟩).1)
  · cases hmon : o'.monitorLogs host patterns tmux with
    | ok result =>
        have hst := (hstale name).mpr ⟨hname, hnot⟩
        exact absurd ((monitorLogs_isOk host o' patterns tmux).mp ⟨result, hmon⟩ name hst.1)
          hst.2
    | error e =>
        obtain ⟨name', hname', hwin', rfl⟩ := monitorLogs_error hmon
        obtain ⟨h₁, h₂⟩ := (hstale name').mp ⟨hname', hwin'⟩
        exact ⟨name', h₁, h₂, rfl⟩

theorem monitorLogs_after_shutdownAll_web :
    ∃ o' t', runOrchestrator Host.literal exactSleep
        [.addService "api" "serve" none none (fun _ => ""),
          .addService "web" "vite" (some "~nobody/web") none (fun _ => "")]
        ((Orchestrator.shutdownAll ⟨⟨"dev", "/src", (PyDict.empty.insert "api" "dev:api").insert
          "web" "dev:web"⟩, (PyDict.empty.insert "api" ⟨"serve", "dev:api", none, false⟩).insert
          "web" ⟨"vite", "dev:web", none, false⟩⟩ false exactSleep 0).1, 0) = some (o', t') ∧
      o'.monitorLogs Host.literal none (fun _ => "") = .error (.windowNotFound "web") := by
  obtain ⟨o', t', hrun⟩ : ∃ o' t', runOrchestrator Host.literal exactSleep
      [.addService "api" "serve" none none (fun _ => ""),
        .addService "web" "vite" (some "~nobody/web") none (fun _ => "")]
      ((Orchestrator.shutdownAll ⟨⟨"dev", "/src", (PyDict.empty.insert "api" "dev:api").insert
        "web" "dev:web"⟩, (PyDict.empty.insert "api" ⟨"serve", "dev:api", none, false⟩).insert
        "web" ⟨"vite", "dev:web", none, false⟩⟩ false exactSleep 0).1, 0) = some (o', t') :=
    ⟨_, _, rfl⟩
  obtain ⟨name, hname, hnot, hmon⟩ := (monitorLogs_after_shutdownAll Host.literal exactSleep _ false 0
    rfl _ (by decide) hrun none fun _ => "").2 ⟨"web", by decide, by decide⟩
  have hadded : [OrchestratorOp.addService "api" "serve" none none (fun _ => ""),
      .addService "web" "vite" (some "~nobody/web") none (fun _ => "")].filterMap
        (OrchestratorOp.addedName Host.literal) = ["api"] := by
    decide
  have hweb : name = "web" := by
    change name ∈ ["api", "web"] at hname
    rw [hadded] at hnot
    simp only [List.mem_cons, List.mem_singleton, List.not_mem_nil, or_false] at hname hnot
    exact hname.resolve_left hnot
  exact ⟨o', t', hrun, hweb ▸ hmon⟩

/-! ## Over every run

One direction of the mirror survives `shutdown_all`, which only empties
the registry: every registered window is a service recorded under its id. -/

/-- Every registered window is a service recorded under the window's id. -/
def WindowsAreServices (o : Orchestrator) : Prop :=
  ∀ name windowId, o.session.windows.get? name = some windowId →
    (o.services.get? name).map ServiceConfig.windowId = some windowId

theorem WindowsAreServices.addService {o : Orchestrator} (h : WindowsAreServices o)
    (name command : String) (readyPattern : Option String) :
    WindowsAreServices
      ⟨{ o.session with
          windows := o.session.windows.insert name (windowTarget o.session.name name) },
        o.services.insert name
          ⟨command, windowTarget o.session.name name, readyPattern, false⟩⟩ := by
  intro name' windowId hget
  simp only [PyDict.get?_insert] at hget ⊢
  split at hget
  · cases hget; simp [*]
  · simp [*, h name' windowId hget]

theorem WindowsAreServices.markReady {o : Orchestrator} (h : WindowsAreServices o)
    (ready : List String) : WindowsAreServices ⟨o.session, markReady o.services ready⟩ :=
  fun name windowId hget => by
    have hid := congrArg (PyDict.get? · name) (map_windowId_markReady o.services ready)
    simp only [PyDict.get?_map] at hid
    exact hid.trans (h name windowId hget)

theorem OrchestratorOp.apply_windowsAreServices {host : Host} {sleep : ℚ → ℚ → ℚ}
    {st st' : Orchestrator × ℚ} {op : OrchestratorOp} (h : WindowsAreServices st.1)
    (happ : op.apply host sleep st = some st') : WindowsAreServices st'.1 := by
  obtain ⟨o, now⟩ := st
  rcases apply_cases happ with ⟨h', -⟩ | ⟨name, command, readyPattern, -, -, h'⟩ |
    ⟨-, ready, -, h'⟩ | ⟨-, h'⟩
  · exact h' ▸ h
  · exact h' ▸ h.addService name command readyPattern
  · exact h' ▸ h.markReady ready
  · intro name windowId hget
    simp [h', kill] at hget

theorem runOrchestrator_windowsAreServices {host : Host} {sleep : ℚ → ℚ → ℚ} :
    ∀ {ops : List OrchestratorOp} {st st' : Orchestrator × ℚ}, WindowsAreServices st.1 →
      runOrchestrator host sleep ops st = some st' → WindowsAreServices st'.1
  | [], _, _, h, hrun => by cases hrun; exact h
  | _ :: _, _, _, h, hrun => by
      obtain ⟨mid, hop, hrest⟩ := Option.bind_eq_some.mp hrun
      exact runOrchestrator_windowsAreServices (OrchestratorOp.apply_windowsAreServices h hop) hrest

/-- In every reachable state, `shutdown_all` included, each registered
window is a service recorded under the window's id. -/
theorem run_windowsAreServices (host : Host) (sleep : ℚ → ℚ → ℚ)
    (sessionName workingDir : String) (hasSession : Bool) (now : ℚ) (ops : List OrchestratorOp)
    {o : Orchestrator} {t : ℚ}
    (hrun : runOrchestrator host sleep ops
      ((Orchestrator.init sessionName workingDir hasSession).1, now) = some (o, t)) :
    ∀ name windowId, o.session.windows.get? name = some windowId →
      (o.services.get? name).map ServiceConfig.windowId = some windowId :=
  runOrchestrator_windowsAreServices
    (fun _ _ h => by simp [Orchestrator.init, TerminalSession.init] at h) hrun

theorem run_windowsAreServices_after_shutdown :
    ∃ o, runOrchestrator Host.literal exactSleep
      [.addService "api" "serve" none none (fun _ => ""), .shutdownAll true,
        .addService "web" "" none none (fun _ => "")]
      ((Orchestrator.init "dev" "/src" false).1, 0) = some (o, 2) ∧
    ∀ name windowId, o.session.windows.get? name = some windowId →
      (o.services.get? name).map ServiceConfig.windowId = some windowId := by
  have hrun : runOrchestrator Host.literal exactSleep
      [.addService "api" "serve" none none (fun _ => ""), .shutdownAll true,
        .addService "web" "" none none (fun _ => "")]
      ((Orchestrator.init "dev" "/src" false).1, 0) =
      some (⟨⟨"dev", "/src", PyDict.empty.insert "web" "dev:web"⟩,
        (PyDict.empty.insert "api" ⟨"serve", "dev:api", none, false⟩).insert "web"
          ⟨"", "dev:web", none, false⟩⟩, 2) := by
    with_unfolding_all rfl
  exact ⟨_, hrun, run_windowsAreServices Host.literal exactSleep "dev" "/src" false 0 _ hrun⟩

/-! ## Ready flags

A ready flag is set only by `wait_for_ready`, and only on a service whose
ready pattern it waited for; `add_service` writes a record that is not
ready, also when it replaces one after `shutdown_all`. -/

/-- Every service flagged ready has a ready pattern, set and not empty. -/
def ReadyHasPattern (o : Orchestrator) : Prop :=
  ∀ name config, o.services.get? name = some config → config.ready = true →
    (readyPatternOf config).isSome

theorem ReadyHasPattern.addService {o : Orchestrator} (h : ReadyHasPattern o)
    (session : TerminalSession) (name : String) (config : ServiceConfig)
    (hconfig : config.ready = false) :
    ReadyHasPattern ⟨session, o.services.insert name config⟩ := by
  intro name' config' hget hready
  simp only [PyDict.get?_insert] at hget
  split at hget
  · cases hget
    simp [hconfig] at hready
  · exact h name' config' hget hready

theorem ReadyHasPattern.markReady {o : Orchestrator} (h : ReadyHasPattern o)
    (session : TerminalSession) {ready : List String} (hready : ready.Sublist
      ((o.services.entries.filter fun e => (readyPatternOf e.2).isSome).map Prod.fst)) :
    ReadyHasPattern ⟨session, markReady o.services ready⟩ := by
  intro name config hget hflag
  obtain ⟨c, hc, rfl⟩ := Option.map_eq_some'.mp ((PyDict.get?_map _ _ _).symm.trans hget)
  by_cases hname : name ∈ ready
  · obtain ⟨⟨_, c'⟩, hmem, rfl⟩ := List.mem_map.mp (hready.subset hname)
    rw [List.mem_filter] at hmem
    obtain rfl : c' = c :=
      Option.some.inj ((o.services.get?_eq_some_iff.mpr hmem.1).symm.trans hc)
    simpa [hname, readyPatternOf] using hmem.2
  · simp only [hname, if_false] at hflag ⊢
    exact h name c hc hflag

theorem OrchestratorOp.apply_readyHasPattern {host : Host} {sleep : ℚ → ℚ → ℚ}
    {st st' : Orchestrator × ℚ} {op : OrchestratorOp} (h : ReadyHasPattern st.1)
    (happ : op.apply host sleep st = some st') : ReadyHasPattern st'.1 := by
  obtain ⟨o, now⟩ := st
  rcases apply_cases happ with ⟨h', -⟩ | ⟨name, command, readyPattern, -, -, h'⟩ |
    ⟨-, ready, hready, h'⟩ | ⟨-, h'⟩
  · exact h' ▸ h
  · exact h' ▸ h.addService _ name _ rfl
  · exact h' ▸ h.markReady _ hready
  · exact h' ▸ (h : ReadyHasPattern ⟨o.session.kill.1, o.services⟩)

theorem runOrchestrator_readyHasPattern {host : Host} {sleep : ℚ → ℚ → ℚ} :
    ∀ {ops : List OrchestratorOp} {st st' : Orchestrator × ℚ}, ReadyHasPattern st.1 →
      runOrchestrator host sleep ops st = some st' → ReadyHasPattern st'.1
  | [], _, _, h, hrun => by cases hrun; exact h
  | _ :: _, _, _, h, hrun => by
      obtain ⟨mid, hop, hrest⟩ := Option.bind_eq_some.mp hrun
      exact runOrchestrator_readyHasPattern (OrchestratorOp.apply_readyHasPattern h hop) hrest

/-- In every reachable state, `shutdown_all` included, a service whose
`ready` flag is set has a ready pattern, set and not empty. -/
theorem run_readyHasPattern (host : Host) (sleep : ℚ → ℚ → ℚ)
    (sessionName workingDir : String) (hasSession : Bool) (now : ℚ) (ops : List OrchestratorOp)
    {o : Orchestrator} {t : ℚ}
    (hrun : runOrchestrator host sleep ops
      ((Orchestrator.init sessionName workingDir hasSession).1, now) = some (o, t)) :
    ∀ name config, o.services.get? name = some config → config.ready = true →
      (readyPatternOf config).isSome :=
  runOrchestrator_readyHasPattern (fun _ _ h => by simp [Orchestrator.init] at h) hrun

theorem run_readyHasPattern_api_web :
    ∃ o t, runOrchestrator Host.literal exactSleep
      [.addService "api" "serve" none (some "ready") (fun _ => ""),
        .addService "web" "vite" none none (fun _ => ""),
        .waitForReady 5 (fun _ _ => "ready") 12]
      ((Orchestrator.init "dev" "/src" false).1, 0) = some (o, t) ∧
    ∀ name config, o.services.get? name = some config → config.ready = true →
      (readyPatternOf config).isSome := by
  obtain ⟨o, t, hrun⟩ : ∃ o t, runOrchestrator Host.literal exactSleep
      [.addService "api" "serve" none (some "ready") (fun _ => ""),
        .addService "web" "vite" none none (fun _ => ""),
        .waitForReady 5 (fun _ _ => "ready") 12]
      ((Orchestrator.init "dev" "/src" false).1, 0) = some (o, t) :=
    ⟨_, _, by with_unfolding_all rfl⟩
  exact ⟨o, t, hrun, run_readyHasPattern Host.literal exactSleep "dev" "/src" false 0 _ hrun⟩

/-! ## Service records until `shutdown_all`

While every service is a registered window, `add_service` on a service's
name raises, so no record is replaced, and `wait_for_ready` only sets
flags. -/

/-- `o'` still has every service of `o`, with the same command, window id
and ready pattern, and every ready flag `o` had set. -/
def KeepsServices (o o' : Orchestrator) : Prop :=
  ∀ name config, o.services.get? name = some config →
    ∃ config', o'.services.get? name = some config' ∧ config'.command = config.command ∧
      config'.windowId = config.windowId ∧ config'.readyPattern = config.readyPattern ∧
      (config.ready = true → config'.ready = true)

theorem KeepsServices.refl (o : Orchestrator) : KeepsServices o o :=
  fun _ config h => ⟨config, h, rfl, rfl, rfl, id⟩

theorem KeepsServices.trans {o₁ o₂ o₃ : Orchestrator} (h₁ : KeepsServices o₁ o₂)
    (h₂ : KeepsServices o₂ o₃) : KeepsServices o₁ o₃ := fun name c h => by
  obtain ⟨c₂, hget₂, hc₁, hw₁, hp₁, hr₁⟩ := h₁ name c h
  obtain ⟨c₃, hget₃, hc₂, hw₂, hp₂, hr₂⟩ := h₂ name c₂ hget₂
  exact ⟨c₃, hget₃, hc₂.trans hc₁, hw₂.trans hw₁, hp₂.trans hp₁, hr₂ ∘ hr₁⟩

theorem OrchestratorOp.apply_keepsServices {host : Host} {sleep : ℚ → ℚ → ℚ}
    {st st' : Orchestrator × ℚ} {op : OrchestratorOp} (hop : op.isShutdownAll = false)
    (hreg : ServicesRegistered st.1) (happ : op.apply host sleep st = some st') :
    KeepsServices st.1 st'.1 := by
  obtain ⟨o, now⟩ := st
  rcases apply_cases happ with ⟨h', -⟩ | ⟨name, command, readyPattern, -, hnew, h'⟩ |
    ⟨-, ready, -, h'⟩ | ⟨hs, -⟩
  · exact h' ▸ KeepsServices.refl o
  · rw [h']
    intro name' config hget
    have hne : name' ≠ name := fun heq =>
      hnew (heq ▸ hreg.mem_keys name' (PyDict.mem_keys_of_get? hget))
    exact ⟨config, by simp [hne, hget], rfl, rfl, rfl, id⟩
  · rw [h']
    intro name config hget
    refine ⟨if name ∈ ready then { config with ready := true } else config,
      by simp [markReady, hget], ?_⟩
    split <;> simp
  · exact absurd hs (by simp [hop])

theorem runOrchestrator_keepsServices {host : Host} {sleep : ℚ → ℚ → ℚ} :
    ∀ {ops : List OrchestratorOp} {st st' : Orchestrator × ℚ},
      (∀ op ∈ ops, op.isShutdownAll = false) → RegistryMirrorsServices st.1 →
      runOrchestrator host sleep ops st = some st' → KeepsServices st.1 st'.1
  | [], _, _, _, _, hrun => by cases hrun; exact .refl _
  | op :: _, _, _, hops, h, hrun => by
      obtain ⟨mid, hop, hrest⟩ := Option.bind_eq_some.mp hrun
      have hop' := hops op (List.mem_cons_self _ _)
      exact (OrchestratorOp.apply_keepsServices hop' h.servicesRegistered hop).trans
        (runOrchestrator_keepsServices (fun op' h' => hops op' (List.mem_cons_of_mem _ h'))
          (OrchestratorOp.apply_registryMirrorsServices hop' h hop) hrest)

/-- Until the first `shutdown_all`, every later state keeps each service of
every earlier one: the same command, window id and ready pattern, and a
ready flag once set stays set. -/
theorem run_keepsServices (host : Host) (sleep : ℚ → ℚ → ℚ)
    (sessionName workingDir : String) (hasSession : Bool) (now : ℚ)
    (ops₁ ops₂ : List OrchestratorOp) (hops : ∀ op ∈ ops₁ ++ ops₂, op.isShutdownAll = false)
    {o o' : Orchestrator} {t t' : ℚ}
    (h₁ : runOrchestrator host sleep ops₁
      ((Orchestrator.init sessionName workingDir hasSession).1, now) = some (o, t))
    (h₂ : runOrchestrator host sleep ops₂ (o, t) = some (o', t')) :
    ∀ name config, o.services.get? name = some config →
      ∃ config', o'.services.get? name = some config' ∧ config'.command = config.command ∧
        config'.windowId = config.windowId ∧ config'.readyPattern = config.readyPattern ∧
        (config.ready = true → config'.ready = true) :=
  runOrchestrator_keepsServices (fun op h => hops op (List.mem_append_right _ h))
    (runOrchestrator_registryMirrorsServices (fun op h => hops op (List.mem_append_left _ h))
      (RegistryMirrorsServices.init _ _ _) h₁) h₂

theorem run_keepsServices_api :
    ∃ o t o' t', runOrchestrator Host.literal exactSleep
      [.addService "api" "serve" none (some "ready") (fun _ => ""),
        .waitForReady 5 (fun _ _ => "ready") 12]
      ((Orchestrator.init "dev" "/src" false).1, 0) = some (o, t) ∧
    runOrchestrator Host.literal exactSleep
      [.addService "api" "serve --port 9" none none (fun _ => ""), .startAll 1]
      (o, t) = some (o', t') ∧
    ∀ name config, o.services.get? name = some config →
      ∃ config', o'.services.get? name = some config' ∧ config'.command = config.command ∧
        config'.windowId = config.windowId ∧ config'.readyPattern = config.readyPattern ∧
        (config.ready = true → config'.ready = true) := by
  have h₁ : runOrchestrator Host.literal exactSleep
      [.addService "api" "serve" none (some "ready") (fun _ => ""),
        .waitForReady 5 (fun _ _ => "ready") 12]
      ((Orchestrator.init "dev" "/src" false).1, 0) =
      some (⟨⟨"dev", "/src", PyDict.empty.insert "api" "dev:api"⟩,
        PyDict.empty.insert "api" ⟨"serve", "dev:api", some "ready", true⟩⟩, 0) := by
    with_unfolding_all rfl
  have h₂ : runOrchestrator Host.literal exactSleep
      [.addService "api" "serve --port 9" none none (fun _ => ""), .startAll 1]
      (⟨⟨"dev", "/src", PyDict.empty.insert "api" "dev:api"⟩,
        PyDict.empty.insert "api" ⟨"serve", "dev:api", some "ready", true⟩⟩, 0) =
      some (⟨⟨"dev", "/src", PyDict.empty.insert "api" "dev:api"⟩,
        PyDict.empty.insert "api" ⟨"serve", "dev:api", some "ready", true⟩⟩, 1) := by
    with_unfolding_all rfl
  exact ⟨_, _, _, _, h₁, h₂,
    run_keepsServices Host.literal exactSleep "dev" "/src" false 0 _ _ (by decide) h₁ h₂⟩

/-! ## The names, from the calls alone

Which services are recorded and which windows are registered follows from
the calls alone, never from tmux's answers or the clock: the abstract
orchestrator is the pair of name lists `OrchestratorOp.liveNames` computes,
and every run follows it (`run_liveNames`). -/

/-- The service names and the registered window names after the call, from
those before it: `add_service` on a name that is no window, with a directory
that expands, registers it (recording it unless it already is), and
`shutdown_all` clears the windows unless it is graceful and meets a service
that is no window. -/
def OrchestratorOp.liveNames (host : Host) (live : List String × List String) :
    OrchestratorOp → List String × List String
  | .addService name _ workingDir _ _ =>
      if name ∉ live.2 ∧ host.expands workingDir then
        (if name ∈ live.1 then live.1 else live.1 ++ [name], live.2 ++ [name])
      else live
  | .shutdownAll graceful =>
      if graceful ∧ ¬∀ name ∈ live.1, name ∈ live.2 then live else (live.1, [])
  | _ => live

theorem OrchestratorOp.liveNames_apply {host : Host} {sleep : ℚ → ℚ → ℚ} {o : Orchestrator}
    {now : ℚ} {st' : Orchestrator × ℚ} {op : OrchestratorOp}
    (happ : op.apply host sleep (o, now) = some st') :
    (st'.1.services.keys, st'.1.session.windows.keys) =
      op.liveNames host (o.services.keys, o.session.windows.keys) := by
  cases op with
  | addService name command workingDir readyPattern tmux =>
      rcases addService_eq host o name command workingDir readyPattern tmux with
        ⟨hm, hadd⟩ | ⟨-, hex, _, -, hadd⟩ | ⟨hm, hex, calls, hadd⟩ <;>
        simp only [apply, hadd, Option.some.injEq] at happ <;> subst happ
      · simp [liveNames, hm]
      · simp [liveNames, hex]
      · simp [liveNames, hm, hex, PyDict.keys_insert, PyDict.keys_insert_of_not_mem _ _ hm]
  | waitForReady timeoutPerService tmux fuel =>
      obtain ⟨⟨o', r, t⟩, hwait, rfl⟩ := Option.map_eq_some'.mp happ
      obtain ⟨ready, err, -, rfl, -⟩ := waitForReady_eq hwait
      simp [liveNames, markReady]
  | shutdownAll graceful =>
      cases happ
      simp only [shutdownAll_fst_eq, liveNames]
      split_ifs <;> rfl
  | startAll | monitorLogs => cases happ; rfl

theorem runOrchestrator_liveNames {host : Host} {sleep : ℚ → ℚ → ℚ} :
    ∀ {ops : List OrchestratorOp} {st st' : Orchestrator × ℚ},
      runOrchestrator host sleep ops st = some st' →
      (st'.1.services.keys, st'.1.session.windows.keys) =
        ops.foldl (OrchestratorOp.liveNames host) (st.1.services.keys, st.1.session.windows.keys)
  | [], _, _, h => by cases h; rfl
  | _ :: _, ⟨_, _⟩, _, h => by
      obtain ⟨mid, hop, hrest⟩ := Option.bind_eq_some.mp h
      rw [runOrchestrator_liveNames hrest, List.foldl_cons, OrchestratorOp.liveNames_apply hop]

/-- Over every run that returns, from the constructor on, the services
recorded and the windows registered, in their orders, are the names the
abstract orchestrator computes from the calls and the host's expansion of
their directories alone. -/
theorem run_liveNames (host : Host) (sleep : ℚ → ℚ → ℚ) (sessionName workingDir : String)
    (hasSession : Bool) (now : ℚ) (ops : List OrchestratorOp) {o : Orchestrator} {t : ℚ}
    (hrun : runOrchestrator host sleep ops
      ((Orchestrator.init sessionName workingDir hasSession).1, now) = some (o, t)) :
    (o.services.keys, o.session.windows.keys) =
      ops.foldl (OrchestratorOp.liveNames host) ([], []) :=
  runOrchestrator_liveNames hrun

theorem run_liveNames_api_web :
    ∃ o, runOrchestrator Host.literal exactSleep
      [.addService "api" "serve" none none (fun _ => ""), .addService "web" "vite" none none
        (fun _ => ""), .shutdownAll false, .addService "api" "serve" none none (fun _ => ""),
        .addService "web" "vite" (some "~nobody/web") none (fun _ => "")]
      ((Orchestrator.init "dev" "/src" false).1, 0) = some (o, 0) ∧
    (o.services.keys, o.session.windows.keys) =
      [.addService "api" "serve" none none (fun _ => ""), .addService "web" "vite" none none
        (fun _ => ""), .shutdownAll false, .addService "api" "serve" none none (fun _ => ""),
        .addService "web" "vite" (some "~nobody/web") none (fun _ => "")].foldl
        (OrchestratorOp.liveNames Host.literal) ([], []) := by
  have hrun : runOrchestrator Host.literal exactSleep
      [.addService "api" "serve" none none (fun _ => ""), .addService "web" "vite" none none
        (fun _ => ""), .shutdownAll false, .addService "api" "serve" none none (fun _ => ""),
        .addService "web" "vite" (some "~nobody/web") none (fun _ => "")]
      ((Orchestrator.init "dev" "/src" false).1, 0) =
      some (⟨⟨"dev", "/src", PyDict.empty.insert "api" "dev:api"⟩,
        (PyDict.empty.insert "api" ⟨"serve", "dev:api", none, false⟩).insert "web"
          ⟨"vite", "dev:web", none, false⟩⟩, 0) := by
    with_unfolding_all rfl
  exact ⟨_, hrun, run_liveNames Host.literal exactSleep "dev" "/src" false 0 _ hrun⟩

end MultiTerminal
