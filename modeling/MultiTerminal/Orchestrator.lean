import MultiTerminal.Poll

/-!
# The service orchestrator

`MultiServiceOrchestrator` keeps a `TerminalSession` and a service table,
`services`, mapping a service name to its record: the command, the window
id `add_window` returned, the optional ready pattern and the ready flag.
Every method is a loop over `services` in insertion order that calls the
session by service name, so each of them raises `Window '<name>' not found`
as soon as it meets a service that is not a registered window.

`wait_for_ready` and `shutdown_all` stop at the first error; what they did
before it stays done (the ready flags set, the interrupts sent). With every
service a registered window, a graceful `shutdown_all` interrupts each in
turn, sleeps 2 s and kills the session (`shutdownAll_true_eq`).
`wait_for_ready` reports services that have a ready pattern, in the order
they were added and each once, and flags exactly those
(`waitForReady_ready`), and when each of those windows shows its pattern at
the call it reports them all at once (`waitForReady_all_found`); on a clock whose sleeps last at least as asked,
it and both waits return (`waits_terminate`), and on one whose sleeps overrun
by at most `ε` it takes at most `timeout_per_service + 1/2 + ε` per service
with a ready pattern (`waitForReady_le`).
`monitor_logs` scans pattern by pattern, so a line matching two patterns
is reported twice and the report is grouped by pattern
(`monitorLogs_eq`, `count_matchedLines`).
-/

namespace MultiTerminal

open TerminalSession

/-- A service record `{"command", "window_id", "ready_pattern", "ready"}`. -/
structure ServiceConfig where
  command : String
  windowId : String
  readyPattern : Option String
  ready : Bool
deriving DecidableEq, Repr

/-- A `MultiServiceOrchestrator`. -/
structure Orchestrator where
  session : TerminalSession
  services : PyDict ServiceConfig

namespace Orchestrator

/-- `MultiServiceOrchestrator(session_name, working_dir)` once the session's
directory has resolved to `workingDir`. -/
def init (sessionName workingDir : String) (hasSession : Bool) :
    Orchestrator × List (List String) :=
  (⟨(TerminalSession.init sessionName workingDir hasSession).1, .empty⟩,
    (TerminalSession.init sessionName workingDir hasSession).2)

/-- `MultiServiceOrchestrator(session_name, working_dir)`: the session's
constructor, which raises when `working_dir` does not expand, and no services. -/
def create (host : Host) (sessionName workingDir : String) (hasSession : Bool) :
    Except SessionError (Orchestrator × List (List String)) :=
  (TerminalSession.create host sessionName workingDir hasSession).map fun r => (⟨r.1, .empty⟩, r.2)

/-- The constructor builds `init` on the resolved directory, so what holds
over runs from `init` holds from every orchestrator it returns. -/
theorem create_eq (host : Host) (sessionName workingDir : String) (hasSession : Bool) :
    create host sessionName workingDir hasSession =
      (host.expandUser workingDir).map fun dir => init sessionName (host.resolve dir) hasSession := by
  unfold create TerminalSession.create
  cases host.expandUser workingDir <;> rfl

/-- `add_service(name, command, working_dir, ready_pattern)`: a new window,
never a split, and a fresh record that is not ready. -/
def addService (host : Host) (o : Orchestrator) (name command : String)
    (workingDir readyPattern : Option String) (tmux : List String → String) :
    Except SessionError (Orchestrator × List (List String)) :=
  (o.session.addWindow host name command false "vertical" workingDir tmux).map
    fun (windowId, session, calls) =>
      (⟨session, o.services.insert name ⟨command, windowId, readyPattern, false⟩⟩, calls)

/-- `start_all(stagger)`: one sleep per service, nothing else; the clock after it. -/
def startAll (o : Orchestrator) (stagger : ℚ) (sleep : ℚ → ℚ → ℚ) (now : ℚ) : ℚ :=
  o.services.keys.foldl (fun t _ => sleep t stagger) now

theorem startAll_exactSleep (o : Orchestrator) (stagger now : ℚ) :
    o.startAll stagger exactSleep now = now + o.services.keys.length * stagger := by
  unfold startAll
  induction o.services.keys generalizing now with
  | nil => simp
  | cons _ names ih =>
      rw [List.foldl_cons, ih, exactSleep, List.length_cons, Nat.cast_succ]
      ring

/-- `if config["ready_pattern"]:` - the pattern when it is set and not empty. -/
def readyPatternOf (config : ServiceConfig) : Option String :=
  match config.readyPattern with
  | some pattern => if pattern = "" then none else some pattern
  | none => none

/-- The loop of `wait_for_ready` over the remaining services: the names that
became ready, the error that stopped it if one did, and the clock. -/
def readyLoop (host : Host) (session : TerminalSession) (timeout : ℚ) (sleep : ℚ → ℚ → ℚ)
    (tmux : ℚ → List String → String) (fuel : ℕ) :
    List (String × ServiceConfig) → ℚ → Option (List String × Option SessionError × ℚ)
  | [], now => some ([], none, now)
  | (name, config) :: rest, now =>
      match readyPatternOf config with
      | none => readyLoop host session timeout sleep tmux fuel rest now
      | some pattern =>
          match session.waitForPattern host name pattern timeout (1 / 2) sleep tmux now fuel with
          | none => none
          | some (.error e) => some ([], some e, now)
          | some (.ok (false, t)) => readyLoop host session timeout sleep tmux fuel rest t
          | some (.ok (true, t)) =>
              (readyLoop host session timeout sleep tmux fuel rest t).map
                fun r => (name :: r.1, r.2)

/-- `config["ready"] = True` for the services named. -/
def markReady (services : PyDict ServiceConfig) (names : List String) : PyDict ServiceConfig :=
  services.map fun name config => if name ∈ names then { config with ready := true } else config

/-- `wait_for_ready(timeout_per_service)` called at clock reading `now`, each
pattern wait given `fuel` passes: the orchestrator after it, its result and
the clock. -/
def waitForReady (host : Host) (o : Orchestrator) (timeoutPerService : ℚ)
    (sleep : ℚ → ℚ → ℚ) (tmux : ℚ → List String → String) (fuel : ℕ) (now : ℚ) :
    Option (Orchestrator × Except SessionError (List String) × ℚ) :=
  (readyLoop host o.session timeoutPerService sleep tmux fuel o.services.entries now).map
    fun (ready, err, t) =>
      (⟨o.session, markReady o.services ready⟩,
        (match err with
          | some e => .error e
          | none => .ok ready), t)

/-- The default of `monitor_logs`. -/
def defaultPatterns : List String := ["ERROR", "FATAL", "CRASH", "Exception"]

/-- The inner loops of `monitor_logs` for one capture: pattern by pattern,
every line that matches. -/
def matchedLines (host : Host) (patterns : List String) (output : String) : List String :=
  patterns.flatMap fun pattern => (pySplit output '\n').filter (host.search pattern)

/-- `monitor_logs(patterns)`: the dict `matches`, in insertion order. -/
def monitorLogs (host : Host) (o : Orchestrator) (patterns : Option (List String))
    (tmux : List String → String) : Except SessionError (List (String × List String)) :=
  o.services.keys.mapM fun name =>
    (o.session.captureOutput name 100 tmux).map
      fun output => (name, matchedLines host (patterns.getD defaultPatterns) output)

/-- The interrupt loop of `shutdown_all`: `send_keys(name, "C-c")` for each
service in turn, up to the first that raises. -/
def interruptAll (session : TerminalSession) : List String → List (List String) × Option SessionError
  | [] => ([], none)
  | name :: rest =>
      match session.sendKeys name "C-c" false with
      | .error e => ([], some e)
      | .ok calls => (calls ++ (interruptAll session rest).1, (interruptAll session rest).2)

/-- `shutdown_all(graceful)` at clock reading `now`: the orchestrator after it,
its outcome, the commands it ran and the clock. -/
def shutdownAll (o : Orchestrator) (graceful : Bool) (sleep : ℚ → ℚ → ℚ) (now : ℚ) :
    Orchestrator × Except SessionError Unit × List (List String) × ℚ :=
  let interrupted := if graceful then interruptAll o.session o.services.keys else ([], none)
  match interrupted.2 with
  | some e => (o, .error e, interrupted.1, now)
  | none =>
      (⟨o.session.kill.1, o.services⟩, .ok (), interrupted.1 ++ o.session.kill.2,
        if graceful then sleep now 2 else now)

/-! ## `add_service` and `shutdown_all` -/

theorem addService_eq (host : Host) (o : Orchestrator) (name command : String)
    (workingDir readyPattern : Option String) (tmux : List String → String) :
    (name ∈ o.session.windows.keys ∧
      o.addService host name command workingDir readyPattern tmux = .error (.windowExists name)) ∨
    (name ∉ o.session.windows.keys ∧ host.expands workingDir = false ∧ ∃ dir,
      workingDir = some dir ∧
      o.addService host name command workingDir readyPattern tmux = .error (.homeDirUnknown dir)) ∨
    (name ∉ o.session.windows.keys ∧ host.expands workingDir = true ∧ ∃ calls,
      o.addService host name command workingDir readyPattern tmux =
        .ok (⟨{ o.session with
            windows := o.session.windows.insert name (windowTarget o.session.name name) },
          o.services.insert name ⟨command, windowTarget o.session.name name, readyPattern, false⟩⟩,
          calls)) := by
  rcases addWindow_eq host o.session name command false "vertical" workingDir tmux with
    ⟨hm, h⟩ | ⟨hm, hex, dir, hdir, h⟩ | ⟨hm, hex, dir, sent, -, h⟩
  · exact .inl ⟨hm, by simp [addService, h]; rfl⟩
  · exact .inr (.inl ⟨hm, hex, dir, hdir, by simp [addService, h]; rfl⟩)
  · exact .inr (.inr ⟨hm, hex, _, by simp [addService, h]; rfl⟩)

theorem interruptAll_eq_none_iff {session : TerminalSession} :
    ∀ {names : List String},
      (interruptAll session names).2 = none ↔ ∀ name ∈ names, name ∈ session.windows.keys
  | [] => by simp [interruptAll]
  | name :: rest => by
      cases hget : session.windows.get? name with
      | none => simp [interruptAll, sendKeys, hget, (session.windows.get?_eq_none_iff).mp hget]
      | some windowId =>
          simp [interruptAll, sendKeys_of_get? hget, interruptAll_eq_none_iff,
            PyDict.mem_keys_of_get? hget]

theorem interruptAll_no_error {session : TerminalSession} {names : List String}
    (h : ∀ name ∈ names, name ∈ session.windows.keys) : (interruptAll session names).2 = none :=
  interruptAll_eq_none_iff.mpr h

theorem shutdownAll_false (o : Orchestrator) (sleep : ℚ → ℚ → ℚ) (now : ℚ) :
    o.shutdownAll false sleep now =
      (⟨o.session.kill.1, o.services⟩, .ok (), o.session.kill.2, now) :=
  rfl

theorem shutdownAll_fst (o : Orchestrator) (graceful : Bool) (sleep : ℚ → ℚ → ℚ) (now : ℚ) :
    (o.shutdownAll graceful sleep now).1 = o ∨
      (o.shutdownAll graceful sleep now).1 = ⟨o.session.kill.1, o.services⟩ := by
  cases graceful
  · exact .inr rfl
  · simp only [shutdownAll, ↓reduceIte]
    split
    · exact .inl rfl
    · exact .inr rfl

theorem shutdownAll_fst_eq (o : Orchestrator) (graceful : Bool) (sleep : ℚ → ℚ → ℚ) (now : ℚ) :
    (o.shutdownAll graceful sleep now).1 =
      if graceful ∧ ¬∀ name ∈ o.services.keys, name ∈ o.session.windows.keys then o
      else ⟨o.session.kill.1, o.services⟩ := by
  cases graceful
  · rfl
  · cases hi : (interruptAll o.session o.services.keys).2 <;>
      simp [shutdownAll, hi, ← interruptAll_eq_none_iff]

@[simp] theorem shutdownAll_session_name (o : Orchestrator) (graceful : Bool)
    (sleep : ℚ → ℚ → ℚ) (now : ℚ) :
    (o.shutdownAll graceful sleep now).1.session.name = o.session.name := by
  rcases shutdownAll_fst o graceful sleep now with h | h <;> simp [h, kill]

theorem shutdownAll_of_registered (o : Orchestrator)
    (hreg : ∀ name ∈ o.services.keys, name ∈ o.session.windows.keys) (graceful : Bool)
    (sleep : ℚ → ℚ → ℚ) (now : ℚ) :
    (o.shutdownAll graceful sleep now).2.1 = .ok () ∧
      ["kill-session", "-t", o.session.name] ∈ (o.shutdownAll graceful sleep now).2.2.1 := by
  cases graceful
  · simp [shutdownAll_false, kill]
  · simp [shutdownAll, interruptAll_no_error hreg, kill]

theorem interruptAll_eq {session : TerminalSession} :
    ∀ {names : List String}, (∀ name ∈ names, name ∈ session.windows.keys) →
      interruptAll session names = (names.filterMap fun name =>
        (session.windows.get? name).map fun windowId => ["send-keys", "-t", windowId, "C-c"], none)
  | [], _ => rfl
  | name :: rest, h => by
      obtain ⟨windowId, hget⟩ := session.windows.mem_keys_iff.mp (h name (List.mem_cons_self _ _))
      have ih := interruptAll_eq fun n hn => h n (List.mem_cons_of_mem _ hn)
      simp only [interruptAll, sendKeys_of_get? hget, ih, List.filterMap_cons, hget]
      rfl

/-- With every service a registered window, a graceful `shutdown_all` sends
`C-c` to each service's window in the order the services were added, sleeps
2 s and kills the session, keeping the service records. -/
theorem shutdownAll_true_eq (o : Orchestrator)
    (hreg : ∀ name ∈ o.services.keys, name ∈ o.session.windows.keys) (sleep : ℚ → ℚ → ℚ)
    (now : ℚ) :
    o.shutdownAll true sleep now = (⟨o.session.kill.1, o.services⟩, .ok (),
      (o.services.keys.filterMap fun name => (o.session.windows.get? name).map
        fun windowId => ["send-keys", "-t", windowId, "C-c"]) ++
        [["kill-session", "-t", o.session.name]], sleep now 2) := by
  simp [shutdownAll, interruptAll_eq hreg, kill]

theorem shutdownAll_true_eq_api_web :
    (Orchestrator.mk ⟨"dev", "/src", (PyDict.empty.insert "api" "dev:api").insert "web" "dev:web"⟩
      ((PyDict.empty.insert "api" ⟨"serve", "dev:api", none, false⟩).insert "web"
        ⟨"vite", "dev:web", none, false⟩)).shutdownAll true exactSleep 0 =
      (⟨⟨"dev", "/src", .empty⟩, (PyDict.empty.insert "api" ⟨"serve", "dev:api", none, false⟩).insert
        "web" ⟨"vite", "dev:web", none, false⟩⟩, .ok (),
        [["send-keys", "-t", "dev:api", "C-c"], ["send-keys", "-t", "dev:web", "C-c"],
          ["kill-session", "-t", "dev"]], exactSleep 0 2) :=
  shutdownAll_true_eq _ (by decide) exactSleep 0

/-! ## `wait_for_ready` -/

theorem waitForPattern_ne_error {host : Host} {session : TerminalSession} {windowName : String}
    (hw : windowName ∈ session.windows.keys) (pattern : String) (timeout interval : ℚ)
    (sleep : ℚ → ℚ → ℚ) (tmux : ℚ → List String → String) (now : ℚ) (fuel : ℕ)
    (e : SessionError) :
    session.waitForPattern host windowName pattern timeout interval sleep tmux now fuel ≠
      some (.error e) := by
  obtain ⟨windowId, hget⟩ := session.windows.mem_keys_iff.mp hw
  rw [waitForPattern_of_get? host hget]
  cases patternLoop _ _ _ _ _ _ <;> simp

section ReadyLoop

variable {host : Host} {session : TerminalSession} {timeout : ℚ} {sleep : ℚ → ℚ → ℚ}
  {tmux : ℚ → List String → String} {fuel : ℕ}

theorem readyLoop_finishes
    (h : ∀ name pattern now, ∃ r,
      session.waitForPattern host name pattern timeout (1 / 2) sleep tmux now fuel = some r) :
    ∀ (services : List (String × ServiceConfig)) (now : ℚ),
      ∃ r, readyLoop host session timeout sleep tmux fuel services now = some r
  | [], now => ⟨_, rfl⟩
  | (name, config) :: rest, now => by
      unfold readyLoop
      split
      · exact readyLoop_finishes h rest now
      · next pattern _ =>
          obtain ⟨r, hr⟩ := h name pattern now
          rw [hr]
          rcases r with e | ⟨_ | _, t⟩
          · exact ⟨_, rfl⟩
          · exact readyLoop_finishes h rest t
          · obtain ⟨r', hr'⟩ := readyLoop_finishes h rest t
            exact ⟨(name :: r'.1, r'.2), by simp [hr']⟩

theorem readyLoop_no_error :
    ∀ {services : List (String × ServiceConfig)} {now : ℚ} {ready : List String}
      {err : Option SessionError} {t : ℚ},
      (∀ e ∈ services, e.1 ∈ session.windows.keys) →
      readyLoop host session timeout sleep tmux fuel services now = some (ready, err, t) →
      err = none
  | [], _, _, _, _, _, hr => by cases hr; rfl
  | (name, config) :: rest, now, ready, err, t, hreg, hr => by
      have hrest : ∀ e ∈ rest, e.1 ∈ session.windows.keys :=
        fun e he => hreg e (List.mem_cons_of_mem _ he)
      unfold readyLoop at hr
      split at hr
      · exact readyLoop_no_error hrest hr
      · next pattern _ =>
          split at hr
          · cases hr
          · next e hw =>
              exact absurd hw (waitForPattern_ne_error (hreg _ (List.mem_cons_self _ _)) _ _ _ _ _
                _ _ e)
          · exact readyLoop_no_error hrest hr
          · obtain ⟨⟨_, _, _⟩, hr', ⟨⟩⟩ := Option.map_eq_some'.mp hr
            exact readyLoop_no_error hrest hr'

theorem readyLoop_sublist :
    ∀ {services : List (String × ServiceConfig)} {now : ℚ} {ready : List String}
      {err : Option SessionError} {t : ℚ},
      readyLoop host session timeout sleep tmux fuel services now = some (ready, err, t) →
      ready.Sublist ((services.filter fun e => (readyPatternOf e.2).isSome).map Prod.fst)
  | [], _, _, _, _, hr => by cases hr; exact .slnil
  | (name, config) :: rest, now, ready, err, t, hr => by
      unfold readyLoop at hr
      split at hr
      · next hpat => simpa [hpat] using readyLoop_sublist hr
      · next pattern hpat =>
          simp only [List.filter_cons, hpat, Option.isSome_some, if_true, List.map_cons]
          split at hr
          · cases hr
          · cases hr; exact List.nil_sublist _
          · exact (readyLoop_sublist hr).cons name
          · obtain ⟨⟨_, _, _⟩, hr', ⟨⟩⟩ := Option.map_eq_some'.mp hr
            exact (readyLoop_sublist hr').cons₂ name

theorem readyLoop_all_found (htimeout : 0 < timeout) {n : ℕ} {now : ℚ} :
    ∀ {services : List (String × ServiceConfig)},
      (∀ e ∈ services, ∀ pattern, readyPatternOf e.2 = some pattern → ∃ windowId,
        session.windows.get? e.1 = some windowId ∧
          host.search pattern (tmux now (captureCall windowId 100)) = true) →
      readyLoop host session timeout sleep tmux (n + 1) services now =
        some ((services.filter fun e => (readyPatternOf e.2).isSome).map Prod.fst, none, now)
  | [], _ => rfl
  | (name, config) :: rest, h => by
      have ih := readyLoop_all_found htimeout (n := n) fun e he => h e (List.mem_cons_of_mem _ he)
      unfold readyLoop
      cases hpat : readyPatternOf config with
      | none => simp [hpat, ih]
      | some pattern =>
          obtain ⟨windowId, hget, hsearch⟩ := h _ (List.mem_cons_self _ _) pattern hpat
          have hwait : session.waitForPattern host name pattern timeout (1 / 2) sleep tmux now
              (n + 1) = some (.ok (true, now)) := by
            simp [waitForPattern_of_get? host hget, patternLoop, htimeout, hsearch]
          simp only [hpat, hwait]
          simp [ih, List.filter_cons, hpat]

section Time

variable {ε : ℚ} (hsleep : ∀ t, sleep t (1 / 2) ≤ t + 1 / 2 + ε)
  (hbound : 0 ≤ timeout + 1 / 2 + ε)
include hsleep hbound

theorem waitForPattern_le {name pattern : String} {now x : ℚ} {b : Bool}
    (h : session.waitForPattern host name pattern timeout (1 / 2) sleep tmux now fuel =
      some (.ok (b, x))) :
    x ≤ now + (timeout + 1 / 2 + ε) := by
  rcases waitForPattern_returns h with rfl | ⟨y, rfl, hy⟩
  · linarith
  · linarith [hsleep y]

theorem readyLoop_le :
    ∀ {services : List (String × ServiceConfig)} {now : ℚ} {ready : List String}
      {err : Option SessionError} {t : ℚ},
      readyLoop host session timeout sleep tmux fuel services now = some (ready, err, t) →
      t ≤ now + (services.countP fun e => (readyPatternOf e.2).isSome) * (timeout + 1 / 2 + ε)
  | [], _, _, _, _, hr => by cases hr; simp
  | (name, config) :: rest, now, ready, err, t, hr => by
      unfold readyLoop at hr
      split at hr
      · next hpat => simpa [hpat] using readyLoop_le hr
      · next pattern hpat =>
          simp only [List.countP_cons, hpat, Option.isSome_some, if_true]
          push_cast
          split at hr
          · cases hr
          · cases hr
            exact le_add_of_nonneg_right (mul_nonneg (by positivity) hbound)
          · next x hw =>
              exact (readyLoop_le hr).trans <| (add_le_add_right (waitForPattern_le hsleep hbound hw)
                _).trans_eq (by ring)
          · next x hw =>
              obtain ⟨⟨_, _, _⟩, hr', ⟨⟩⟩ := Option.map_eq_some'.mp hr
              exact (readyLoop_le hr').trans <| (add_le_add_right (waitForPattern_le hsleep hbound hw)
                _).trans_eq (by ring)

end Time

end ReadyLoop

theorem map_windowId_markReady (services : PyDict ServiceConfig) (names : List String) :
    (markReady services names).map (fun _ config => config.windowId) =
      services.map fun _ config => config.windowId := by
  rw [markReady, PyDict.map_map]
  congr
  funext name config
  split <;> rfl

theorem waitForReady_eq {host : Host} {o o' : Orchestrator} {timeout : ℚ} {sleep : ℚ → ℚ → ℚ}
    {tmux : ℚ → List String → String} {fuel : ℕ} {now t : ℚ} {r : Except SessionError (List String)}
    (h : o.waitForReady host timeout sleep tmux fuel now = some (o', r, t)) :
    ∃ ready err, readyLoop host o.session timeout sleep tmux fuel o.services.entries now =
      some (ready, err, t) ∧ o' = ⟨o.session, markReady o.services ready⟩ ∧
      r = match err with
        | some e => .error e
        | none => .ok ready := by
  obtain ⟨⟨ready, err, t'⟩, hloop, heq⟩ := Option.map_eq_some'.mp h
  cases heq
  exact ⟨ready, err, hloop, rfl, rfl⟩

/-- `wait_for_ready` returns services that have a ready pattern, in the order
they were added and each once, and sets the ready flags of exactly those;
the session and every other field stay as they were. -/
theorem waitForReady_ready {host : Host} {o o' : Orchestrator} {timeout : ℚ}
    {sleep : ℚ → ℚ → ℚ} {tmux : ℚ → List String → String} {fuel : ℕ} {now t : ℚ}
    {ready : List String}
    (h : o.waitForReady host timeout sleep tmux fuel now = some (o', .ok ready, t)) :
    ready.Sublist ((o.services.entries.filter fun e => (readyPatternOf e.2).isSome).map Prod.fst) ∧
      ready.Nodup ∧ o'.session = o.session ∧
      ∀ name, o'.services.get? name = (o.services.get? name).map fun config =>
        if name ∈ ready then { config with ready := true } else config := by
  obtain ⟨ready', err, hloop, rfl, hr⟩ := waitForReady_eq h
  obtain rfl : ready' = ready := by
    cases err <;> simp_all
  have hsub := readyLoop_sublist hloop
  refine ⟨hsub, ?_, rfl, fun name => PyDict.get?_map _ _ _⟩
  exact (hsub.trans ((List.filter_sublist _).map Prod.fst)).nodup o.services.nodup

theorem waitForReady_ready_api :
    ∃ o', (Orchestrator.mk ⟨"dev", "/src", PyDict.empty.insert "api" "dev:api"⟩
      (PyDict.empty.insert "api" ⟨"serve", "dev:api", some "ready", false⟩)).waitForReady
        Host.literal 1 exactSleep (fun _ _ => "ready") 1 0 = some (o', .ok ["api"], 0) ∧
    ["api"].Sublist (((PyDict.empty.insert "api"
      (⟨"serve", "dev:api", some "ready", false⟩ : ServiceConfig)).entries.filter
        fun e => (readyPatternOf e.2).isSome).map Prod.fst) ∧
    ["api"].Nodup ∧ o'.session = ⟨"dev", "/src", PyDict.empty.insert "api" "dev:api"⟩ ∧
    ∀ name, o'.services.get? name =
      ((PyDict.empty.insert "api" (⟨"serve", "dev:api", some "ready", false⟩ : ServiceConfig)).get?
        name).map fun config =>
          if name ∈ ["api"] then { config with ready := true } else config := by
  have h : (Orchestrator.mk ⟨"dev", "/src", PyDict.empty.insert "api" "dev:api"⟩
      (PyDict.empty.insert "api" ⟨"serve", "dev:api", some "ready", false⟩)).waitForReady
        Host.literal 1 exactSleep (fun _ _ => "ready") 1 0 =
      some (⟨⟨"dev", "/src", PyDict.empty.insert "api" "dev:api"⟩,
        PyDict.empty.insert "api" ⟨"serve", "dev:api", some "ready", true⟩⟩, .ok ["api"], 0) := by
    with_unfolding_all rfl
  exact ⟨_, h, waitForReady_ready h⟩

theorem waitForReady_no_error {host : Host} {o o' : Orchestrator} {timeout : ℚ}
    {sleep : ℚ → ℚ → ℚ} {tmux : ℚ → List String → String} {fuel : ℕ} {now t : ℚ}
    {r : Except SessionError (List String)}
    (hreg : ∀ name ∈ o.services.keys, name ∈ o.session.windows.keys)
    (h : o.waitForReady host timeout sleep tmux fuel now = some (o', r, t)) :
    ∃ ready, r = .ok ready := by
  obtain ⟨ready, err, hloop, -, rfl⟩ := waitForReady_eq h
  have herr : err = none :=
    readyLoop_no_error (fun e he => hreg e.1 (List.mem_map_of_mem Prod.fst he)) hloop
  exact ⟨ready, by rw [herr]⟩

theorem waitForReady_finishes (host : Host) (o : Orchestrator) (timeoutPerService : ℚ)
    {sleep : ℚ → ℚ → ℚ} (hsleep : ∀ t, t + 1 / 2 ≤ sleep t (1 / 2))
    (tmux : ℚ → List String → String) (now : ℚ) :
    ∃ fuel r, o.waitForReady host timeoutPerService sleep tmux fuel now = some r := by
  obtain ⟨n, hn⟩ := exists_intervals_ge (by norm_num : (0 : ℚ) < 1 / 2) timeoutPerService
  obtain ⟨r, hr⟩ := readyLoop_finishes
    (fun name pattern now => waitForPattern_finishes host name pattern hn hsleep tmux now)
    o.services.entries now
  exact ⟨n + 1, _, by rw [waitForReady, hr]; rfl⟩

/-- On a clock whose half-second sleeps overrun by at most `ε`,
`wait_for_ready` returns, or raises, within `timeout_per_service + 1/2 + ε`
for each service whose ready pattern is set and not empty. -/
theorem waitForReady_le (host : Host) (o : Orchestrator) {timeoutPerService ε : ℚ}
    {sleep : ℚ → ℚ → ℚ} (hsleep : ∀ t, sleep t (1 / 2) ≤ t + 1 / 2 + ε)
    (htimeout : 0 ≤ timeoutPerService) (hε : 0 ≤ ε) {tmux : ℚ → List String → String}
    {fuel : ℕ} {now : ℚ} {o' : Orchestrator} {r : Except SessionError (List String)} {t : ℚ}
    (h : o.waitForReady host timeoutPerService sleep tmux fuel now = some (o', r, t)) :
    t - now ≤ (o.services.entries.countP fun e => (readyPatternOf e.2).isSome) *
      (timeoutPerService + 1 / 2 + ε) := by
  obtain ⟨ready, err, hloop, -, -⟩ := waitForReady_eq h
  linarith [readyLoop_le hsleep (by linarith) hloop]

/-- When every service with a ready pattern is a registered window showing
its pattern when `wait_for_ready` is called, it returns at once, reports
every such service in the order they were added, and flags each ready. -/
theorem waitForReady_all_found (host : Host) (o : Orchestrator) {timeoutPerService : ℚ}
    (htimeout : 0 < timeoutPerService) (sleep : ℚ → ℚ → ℚ) (tmux : ℚ → List String → String)
    (n : ℕ) (now : ℚ)
    (hfound : ∀ name config pattern, o.services.get? name = some config →
      readyPatternOf config = some pattern → ∃ windowId, o.session.windows.get? name = some windowId ∧
        host.search pattern (tmux now (captureCall windowId 100)) = true) :
    o.waitForReady host timeoutPerService sleep tmux (n + 1) now =
      some (⟨o.session, markReady o.services
          ((o.services.entries.filter fun e => (readyPatternOf e.2).isSome).map Prod.fst)⟩,
        .ok ((o.services.entries.filter fun e => (readyPatternOf e.2).isSome).map Prod.fst), now) := by
  rw [waitForReady, readyLoop_all_found htimeout fun e he pattern hpat =>
    hfound e.1 e.2 pattern (o.services.get?_eq_some_iff.mpr he) hpat]
  rfl

theorem waitForReady_all_found_api :
    (Orchestrator.mk ⟨"dev", "/src", (PyDict.empty.insert "api" "dev:api").insert "web" "dev:web"⟩
      ((PyDict.empty.insert "api" ⟨"serve", "dev:api", some "ready", false⟩).insert "web"
        ⟨"vite", "dev:web", none, false⟩)).waitForReady Host.literal 30 exactSleep
          (fun _ _ => "ready") 1 0 =
      some (⟨⟨"dev", "/src", (PyDict.empty.insert "api" "dev:api").insert "web" "dev:web"⟩,
          markReady ((PyDict.empty.insert "api" ⟨"serve", "dev:api", some "ready", false⟩).insert
            "web" ⟨"vite", "dev:web", none, false⟩) ["api"]⟩, .ok ["api"], 0) := by
  refine waitForReady_all_found Host.literal _ (by norm_num) exactSleep _ 0 0 ?_
  intro name config pattern hget hpat
  simp only [PyDict.get?_insert, PyDict.get?_empty] at hget
  split_ifs at hget with hweb hapi <;> cases hget
  · simp [readyPatternOf] at hpat
  · subst hapi
    simp only [readyPatternOf, if_neg (by decide : ¬"ready" = ""), Option.some.injEq] at hpat
    subst hpat
    exact ⟨"dev:api", rfl, by decide⟩

theorem waitForReady_le_server :
    ∃ o' r t, (Orchestrator.mk ⟨"dev", "/src", PyDict.empty.insert "server" "dev:server"⟩
      (PyDict.empty.insert "server" ⟨"npm start", "dev:server", some "ready", false⟩)).waitForReady
        Host.literal 2 exactSleep (fun _ _ => "") 10 0 = some (o', r, t) ∧
      t - 0 ≤ ((PyDict.empty.insert "server" ⟨"npm start", "dev:server", some "ready", false⟩ :
        PyDict ServiceConfig).entries.countP fun e => (readyPatternOf e.2).isSome) *
          (2 + 1 / 2 + 0) := by
  have h : (Orchestrator.mk ⟨"dev", "/src", PyDict.empty.insert "server" "dev:server"⟩
      (PyDict.empty.insert "server" ⟨"npm start", "dev:server", some "ready", false⟩)).waitForReady
        Host.literal 2 exactSleep (fun _ _ => "") 10 0 =
      some (⟨⟨"dev", "/src", PyDict.empty.insert "server" "dev:server"⟩,
        PyDict.empty.insert "server" ⟨"npm start", "dev:server", some "ready", false⟩⟩, .ok [], 2) := by
    with_unfolding_all rfl
  have hle := waitForReady_le Host.literal _ (fun t => by simp [exactSleep]) (by norm_num) le_rfl h
  exact ⟨_, _, _, h, hle⟩

/-- The three waits return on every clock whose sleeps last at least as long
as asked: `wait_for_pattern` and `wait_for_change` for every positive
interval, and `wait_for_ready`, which polls every half second. -/
theorem waits_terminate (host : Host) (s : TerminalSession) (o : Orchestrator)
    (sleep : ℚ → ℚ → ℚ) (tmux : ℚ → List String → String) (now : ℚ) :
    (∀ windowName pattern timeout interval, 0 < interval → (∀ t, t + interval ≤ sleep t interval) →
      ∃ fuel r, s.waitForPattern host windowName pattern timeout interval sleep tmux now fuel =
        some r) ∧
    (∀ windowName timeout interval, 0 < interval → (∀ t, t + interval ≤ sleep t interval) →
      ∃ fuel r, s.waitForChange windowName timeout interval sleep tmux now fuel = some r) ∧
    ((∀ t, t + 1 / 2 ≤ sleep t (1 / 2)) → ∀ timeoutPerService,
      ∃ fuel r, o.waitForReady host timeoutPerService sleep tmux fuel now = some r) := by
  refine ⟨fun windowName pattern timeout interval hint hsleep => ?_,
    fun windowName timeout interval hint hsleep => ?_,
    fun hsleep timeoutPerService => waitForReady_finishes host o timeoutPerService hsleep tmux now⟩
  · obtain ⟨n, hn⟩ := exists_intervals_ge hint timeout
    exact ⟨n + 1, waitForPattern_finishes host windowName pattern hn hsleep tmux now⟩
  · obtain ⟨n, hn⟩ := exists_intervals_ge hint timeout
    exact ⟨n + 1, waitForChange_finishes windowName hn hsleep tmux now⟩

theorem waits_terminate_exact :
    (∃ fuel r,
      (TerminalSession.mk "dev" "/src" (PyDict.empty.insert "server" "dev:server")).waitForPattern
      Host.literal "server" "ready" 30 (1 / 2) exactSleep (fun _ _ => "") 0 fuel = some r) ∧
    (∃ fuel r,
      (TerminalSession.mk "dev" "/src" (PyDict.empty.insert "server" "dev:server")).waitForChange
      "server" 30 (1 / 2) exactSleep (fun _ _ => "") 0 fuel = some r) ∧
    (∃ fuel r, (Orchestrator.mk ⟨"dev", "/src", PyDict.empty.insert "server" "dev:server"⟩
      (PyDict.empty.insert "server" ⟨"npm start", "dev:server", some "ready", false⟩)).waitForReady
        Host.literal 30 exactSleep (fun _ _ => "") fuel 0 = some r) := by
  have hsleep : ∀ t : ℚ, t + 1 / 2 ≤ exactSleep t (1 / 2) := fun t => le_refl _
  have h := waits_terminate Host.literal
    (TerminalSession.mk "dev" "/src" (PyDict.empty.insert "server" "dev:server"))
    (Orchestrator.mk ⟨"dev", "/src", PyDict.empty.insert "server" "dev:server"⟩
      (PyDict.empty.insert "server" ⟨"npm start", "dev:server", some "ready", false⟩))
    exactSleep (fun _ _ => "") 0
  exact ⟨h.1 _ _ _ _ (by norm_num) hsleep, h.2.1 _ _ _ (by norm_num) hsleep, h.2.2 hsleep 30⟩

/-! ## `monitor_logs` -/

theorem mapM_eq_ok {ε α β : Type} {f : α → Except ε β} {g : α → β} :
    ∀ {l : List α}, (∀ a ∈ l, f a = .ok (g a)) → l.mapM f = .ok (l.map g)
  | [], _ => rfl
  | a :: l, h => by
      rw [List.mapM_cons, h a (List.mem_cons_self a l),
        mapM_eq_ok fun b hb => h b (List.mem_cons_of_mem a hb)]
      rfl

theorem lookup_map_pair {γ : Type} (f : String → γ) {k : String} :
    ∀ {l : List String}, k ∈ l → (l.map fun a => (a, f a)).lookup k = some (f k)
  | a :: l, hk => by
      rw [List.map_cons, List.lookup_cons]
      by_cases hka : k = a
      · subst hka; simp
      · have hne : (k == a) = false := by simpa using hka
        simp only [hne]
        exact lookup_map_pair f ((List.mem_cons.mp hk).resolve_left hka)

/-- A line is reported once per pattern it matches, for each time it occurs
in the capture. -/
theorem count_matchedLines (host : Host) (patterns : List String) (output line : String) :
    (matchedLines host patterns output).count line =
      patterns.countP (fun pattern => host.search pattern line) *
        (pySplit output '\n').count line := by
  induction patterns with
  | nil => simp [matchedLines]
  | cons pattern patterns ih =>
      simp only [matchedLines, List.flatMap_cons, List.count_append, List.countP_cons] at ih ⊢
      rw [ih, Nat.add_comm, Nat.add_mul]
      by_cases h : host.search pattern line
      · simp [h, List.count_filter]
      · simp [h, List.count_eq_zero]

/-- With every service a registered window, `monitor_logs` returns one entry
per service, in order: the lines of its window's capture, pattern by
pattern, each with the lines that match that pattern. -/
theorem monitorLogs_eq (host : Host) (o : Orchestrator) (patterns : Option (List String))
    (tmux : List String → String)
    (hreg : ∀ name ∈ o.services.keys, name ∈ o.session.windows.keys) :
    ∃ result, o.monitorLogs host patterns tmux = .ok result ∧
      result.map Prod.fst = o.services.keys ∧
      ∀ name windowId, name ∈ o.services.keys → o.session.windows.get? name = some windowId →
        result.lookup name = some ((patterns.getD defaultPatterns).flatMap fun pattern =>
          (pySplit (tmux (captureCall windowId 100)) '\n').filter (host.search pattern)) := by
  let capture name := tmux (captureCall ((o.session.windows.get? name).getD "") 100)
  have hcap : ∀ name ∈ o.services.keys,
      o.session.captureOutput name 100 tmux = .ok (capture name) := by
    intro name hname
    obtain ⟨windowId, hget⟩ := o.session.windows.mem_keys_iff.mp (hreg name hname)
    simp [captureOutput, capture, hget]
  refine ⟨_, mapM_eq_ok fun name hname => by rw [hcap name hname]; rfl,
    by simp [Function.comp_def], ?_⟩
  intro name windowId hname hget
  rw [lookup_map_pair _ hname]
  simp [capture, hget, matchedLines]

theorem monitorLogs_eq_api :
    (∀ name ∈ (PyDict.empty.insert "api" (⟨"serve", "dev:api", none, false⟩ : ServiceConfig)).keys,
      name ∈ (PyDict.empty.insert "api" "dev:api").keys) ∧
    ∃ result, (Orchestrator.mk ⟨"dev", "/src", PyDict.empty.insert "api" "dev:api"⟩
      (PyDict.empty.insert "api" ⟨"serve", "dev:api", none, false⟩)).monitorLogs Host.literal none
        (fun _ => "GET /\nERROR: disk full") = .ok result ∧
      result.map Prod.fst = ["api"] ∧
      ∀ name windowId, name ∈ ["api"] →
        (PyDict.empty.insert "api" "dev:api").get? name = some windowId →
        result.lookup name = some (defaultPatterns.flatMap fun pattern =>
          (pySplit ((fun _ => "GET /\nERROR: disk full") (captureCall windowId 100)) '\n').filter
            (Host.literal.search pattern)) :=
  ⟨by decide, monitorLogs_eq Host.literal _ none _ (by decide)⟩

/-- The service `api` logged `FATAL ERROR: disk full`: under the default
patterns the line matches `ERROR` and `FATAL`, and is reported twice. -/
theorem monitorLogs_fatal_error_twice :
    (Orchestrator.mk ⟨"dev", "/src", PyDict.empty.insert "api" "dev:api"⟩
      (PyDict.empty.insert "api" ⟨"serve", "dev:api", none, false⟩)).monitorLogs Host.literal none
      (fun _ => "FATAL ERROR: disk full") =
      .ok [("api", ["FATAL ERROR: disk full", "FATAL ERROR: disk full"])] := by
  rfl

/-! ## When `monitor_logs` raises -/

theorem mapM_isOk {ε α β : Type} {f : α → Except ε β} :
    ∀ {l : List α}, (∃ bs, l.mapM f = .ok bs) ↔ ∀ a ∈ l, ∃ b, f a = .ok b
  | [] => iff_of_true ⟨[], rfl⟩ fun _ h => by cases h
  | a :: l => by
      rw [List.mapM_cons, List.forall_mem_cons, ← mapM_isOk]
      cases f a <;> cases l.mapM f <;> simp [bind, Except.bind, pure, Except.pure]

theorem mapM_eq_error {ε α β : Type} {f : α → Except ε β} {e : ε} :
    ∀ {l : List α}, l.mapM f = .error e → ∃ a ∈ l, f a = .error e
  | [], h => by cases h
  | a :: l, h => by
      rw [List.mapM_cons] at h
      cases ha : f a with
      | error e' =>
          rw [ha] at h
          cases h
          exact ⟨a, List.mem_cons_self a l, ha⟩
      | ok b =>
          rw [ha] at h
          cases hl : l.mapM f with
          | error e' =>
              rw [hl] at h
              cases h
              obtain ⟨x, hx, hfx⟩ := mapM_eq_error hl
              exact ⟨x, List.mem_cons_of_mem a hx, hfx⟩
          | ok bs => rw [hl] at h; cases h

/-- `monitor_logs` returns exactly when every service is a registered window. -/
theorem monitorLogs_isOk (host : Host) (o : Orchestrator) (patterns : Option (List String))
    (tmux : List String → String) :
    (∃ result, o.monitorLogs host patterns tmux = .ok result) ↔
      ∀ name ∈ o.services.keys, name ∈ o.session.windows.keys := by
  rw [monitorLogs, mapM_isOk]
  refine forall₂_congr fun name _ => ?_
  rw [PyDict.mem_keys_iff]
  cases hget : o.session.windows.get? name <;> simp [captureOutput, hget, Except.map]

theorem monitorLogs_error {host : Host} {o : Orchestrator} {patterns : Option (List String)}
    {tmux : List String → String} {e : SessionError}
    (h : o.monitorLogs host patterns tmux = .error e) :
    ∃ name ∈ o.services.keys, name ∉ o.session.windows.keys ∧ e = .windowNotFound name := by
  obtain ⟨name, hname, he⟩ := mapM_eq_error h
  cases hget : o.session.windows.get? name with
  | none =>
      simp only [captureOutput, hget] at he
      cases he
      exact ⟨name, hname, o.session.windows.get?_eq_none_iff.mp hget, rfl⟩
  | some windowId => simp only [captureOutput, hget] at he; cases he

end Orchestrator

end MultiTerminal
