import MultiTerminal.Poll

/-!
# The end-to-end test runner

`run_e2e_tests.py` is the caller that drives a `TerminalSession` through a
whole test run: it kills any old `choiros-e2e` session, opens four windows
(the backend, the frontend, the browser automation server and the test),
polls an HTTP health endpoint after each server starts, watches the test
window until it reports completion or `TEST_TIMEOUT` passes, and prints a
summary of every window.

The runner reads three things from outside, the fields of `Env`: tmux's
answers, the HTTP endpoints and the clock. A GET is `request url t`: the
status of the response, or `none` when `urlopen` raised one of the errors
the code catches, and the clock when the call returned. Printing, the
`data` directory and the screenshot listing change nothing the runner
reads back, and are left out. `main` runs in `ExceptT SessionError Option`:
`none` is fuel running out in one of its loops, `.error` an exception
escaping from the session.

`check_health_endpoint` says `True` only for a GET sent before its deadline
and answered 200, and `False` only past the deadline
(`checkHealthEndpoint_sound`). `main` never raises (`main_outcome`): each
window name is new when it is added, no directory it passes holds a `~`
(`targetDir_sessionAfter`), and every capture is of a registered window. It exits with 1, having
killed the session, when the backend or the frontend never answered 200,
and with 0 otherwise, leaving the four windows running. The exit code is
decided by those two health checks alone (`main_exitCode`): nothing tmux
shows, in particular nothing the test prints, changes it, since
`test_complete` is computed and never read. The tmux commands it runs are
fixed (`main_calls`): one `new-window` per window, in its directory, with its
command, and `kill-session` after a failed check. On a clock whose sleeps
last at least as asked and whose requests do not return before they are
sent, `main` returns (`main_terminates`); when sleeps overrun by at most
`ε` and requests take at most `δ`, it returns within `680 + 3δ + 9ε`
seconds (`main_le`).
-/

namespace MultiTerminal

namespace RunE2ETests

open TerminalSession

/-- The session the runner creates, after killing any old one. -/
def sessionName : String := "choiros-e2e"

/-- `BASE_DIR`. -/
def baseDir : String := "/Users/wiz/choiros-rs"

/-- `HEALTH_CHECK_TIMEOUT`. -/
def healthCheckTimeout : ℚ := 120

/-- `TEST_TIMEOUT`. -/
def testTimeout : ℚ := 300

/-- The command of window 1. -/
def backendCommand : String :=
  "export DATABASE_URL=\"./data/events.db\" && cargo run -p sandbox"

/-- The backend's health endpoint. -/
def backendHealthUrl : String := "http://localhost:8080/health"

/-- The frontend's health endpoint. -/
def frontendHealthUrl : String := "http://localhost:3000"

/-- The browser automation server's health endpoint. -/
def browserHealthUrl : String := "http://localhost:8000/health"

/-- What the runner reads from outside. `workingDir` is what
`Path(str(BASE_DIR)).expanduser().resolve()` gives, `hasSession` whether
`has-session` found a session, `tmux t args` tmux's stdout for `args` at
clock reading `t`, `request url t` a GET of `url` sent at `t` (its status,
or `none` for a caught error, and the clock when the call returned), and
`sleep now d` the clock when `time.sleep(d)` begun at `now` returns. -/
structure Env where
  workingDir : String
  hasSession : Bool
  tmux : ℚ → List String → String
  request : String → ℚ → Option ℕ × ℚ
  sleep : ℚ → ℚ → ℚ

/-! ## `check_health_endpoint` -/

section HealthLoop

variable (request : ℚ → Option ℕ × ℚ) (sleep : ℚ → ℚ → ℚ) (startTime timeout : ℚ)

/-- The `while` loop of `check_health_endpoint` at clock reading `now`: a GET
answered 200 returns `True` when the call returns; any other answer, or a
caught error, is followed by `time.sleep(1)`; `False` once the deadline
has passed. -/
def healthLoop : ℕ → ℚ → Option (Bool × ℚ)
  | 0, _ => none
  | fuel + 1, now =>
      if now - startTime < timeout then
        if (request now).1 = some 200 then some (true, (request now).2)
        else healthLoop fuel (sleep (request now).2 1)
      else some (false, now)

theorem healthLoop_eq_patternLoop : ∀ (n : ℕ) (now : ℚ),
    healthLoop request sleep startTime timeout n now =
      (patternLoop (fun t => (request t).1 = some 200) (fun t => sleep (request t).2 1)
        startTime timeout n now).map fun r => if r.1 then (true, (request r.2).2) else r
  | 0, _ => rfl
  | n + 1, now => by
      unfold healthLoop patternLoop
      split_ifs <;> simp_all [healthLoop_eq_patternLoop n]

theorem healthLoop_mono {n n' : ℕ} {now : ℚ} {r : Bool × ℚ}
    (h : healthLoop request sleep startTime timeout n now = some r) (hle : n ≤ n') :
    healthLoop request sleep startTime timeout n' now = some r := by
  rw [healthLoop_eq_patternLoop] at h ⊢
  obtain ⟨r', hr', rfl⟩ := Option.map_eq_some'.mp h
  rw [patternLoop_mono _ _ _ _ hr' hle]
  rfl

theorem healthLoop_finishes (hsleep : ∀ t, t + 1 ≤ sleep t 1)
    (hrequest : ∀ t, t ≤ (request t).2) {n : ℕ} (hn : timeout ≤ n) (now : ℚ)
    (hnow : startTime ≤ now) :
    ∃ r, healthLoop request sleep startTime timeout (n + 1) now = some r := by
  obtain ⟨r, hr⟩ := patternLoop_finishes (fun t => (request t).1 = some 200)
    (fun t => sleep (request t).2 1) startTime timeout
    (fun t => (add_le_add_right (hrequest t) 1).trans (hsleep _)) n now
    (by rw [mul_one]; linarith)
  exact ⟨_, by rw [healthLoop_eq_patternLoop, hr]; rfl⟩

theorem healthLoop_le {δ ε : ℚ} (hrequest : ∀ t, (request t).2 ≤ t + δ)
    (hsleep : ∀ t, sleep t 1 ≤ t + 1 + ε) (hbound : 0 ≤ timeout + (δ + 1 + ε)) (hε : 0 ≤ 1 + ε)
    {n : ℕ} {r : Bool × ℚ} (h : healthLoop request sleep startTime timeout n startTime = some r) :
    r.2 ≤ startTime + (timeout + (δ + 1 + ε)) := by
  rw [healthLoop_eq_patternLoop] at h
  obtain ⟨⟨_ | _, x⟩, hr, rfl⟩ := Option.map_eq_some'.mp h
  · show x ≤ _
    exact le_of_returns _ _ _ (fun t => by linarith [hsleep (request t).2, hrequest t]) hbound
      (patternLoop_returns _ _ _ _ hr)
  · show (request x).2 ≤ _
    linarith [hrequest x, (patternLoop_true _ _ _ _ hr).2]

end HealthLoop

/-- `check_health_endpoint(url, timeout)` called at clock reading `now`. -/
def checkHealthEndpoint (env : Env) (url : String) (timeout : ℚ) (fuel : ℕ) (now : ℚ) :
    Option (Bool × ℚ) :=
  healthLoop (env.request url) env.sleep now timeout fuel now

/-- `check_health_endpoint` says `True` only when a GET sent before the
deadline was answered 200, and returns when that GET returned; it says
`False` only once the deadline has passed. -/
theorem checkHealthEndpoint_sound (env : Env) (url : String) (timeout : ℚ) (fuel : ℕ) (now : ℚ)
    {b : Bool} {t : ℚ} (h : checkHealthEndpoint env url timeout fuel now = some (b, t)) :
    (b = true → ∃ t₀, t₀ - now < timeout ∧ env.request url t₀ = (some 200, t)) ∧
      (b = false → timeout ≤ t - now) := by
  rw [checkHealthEndpoint, healthLoop_eq_patternLoop] at h
  obtain ⟨⟨_ | _, t₀⟩, hr, heq⟩ := Option.map_eq_some'.mp h
  · cases heq
    exact ⟨nofun, fun _ => (patternLoop_false _ _ _ _ hr).1⟩
  · cases heq
    obtain ⟨h200, hlt⟩ := patternLoop_true _ _ _ _ hr
    exact ⟨fun _ => ⟨t₀, hlt, Prod.ext (of_decide_eq_true h200) rfl⟩, nofun⟩

theorem checkHealthEndpoint_sound_up :
    checkHealthEndpoint ⟨"/src", true, fun _ _ => "", fun _ t => (some 200, t), fun t d => t + d⟩
        backendHealthUrl healthCheckTimeout 1 0 = some (true, 0) ∧
      (true = true → ∃ t₀, t₀ - 0 < healthCheckTimeout ∧
        (⟨"/src", true, fun _ _ => "", fun _ t => (some 200, t), fun t d => t + d⟩ : Env).request
          backendHealthUrl t₀ = (some 200, 0)) ∧
      (true = false → healthCheckTimeout ≤ 0 - 0) := by
  have h : checkHealthEndpoint ⟨"/src", true, fun _ _ => "", fun _ t => (some 200, t),
      fun t d => t + d⟩ backendHealthUrl healthCheckTimeout 1 0 = some (true, 0) := by
    with_unfolding_all rfl
  exact ⟨h, checkHealthEndpoint_sound _ _ _ _ _ h⟩

/-! ## `main` -/

/-- What `main` has built so far: the session, the tmux commands run and
the clock. -/
structure Run where
  session : TerminalSession
  calls : List (List String)
  clock : ℚ

namespace Run

variable (host : Host) (env : Env)

/-- `time.sleep(d)`. -/
def sleep (r : Run) (d : ℚ) : Run := { r with clock := env.sleep r.clock d }

/-- `session.add_window(name, command, working_dir=workingDir)`. -/
def addWindow (r : Run) (name command : String) (workingDir : Option String) :
    Except SessionError Run :=
  (r.session.addWindow host name command false "vertical" workingDir (env.tmux r.clock)).map
    fun (_, session, sent) => { r with session := session, calls := r.calls ++ sent }

/-- `session.capture_output(name, lines)`. -/
def captureOutput (r : Run) (name : String) (lines : Int) : Except SessionError String :=
  r.session.captureOutput name lines (env.tmux r.clock)

/-- `session.kill()`. -/
def kill (r : Run) : Run :=
  { r with session := r.session.kill.1, calls := r.calls ++ r.session.kill.2 }

end Run

variable (host : Host) (env : Env)

/-- The cleanup `tmux kill-session -t choiros-e2e`, `time.sleep(1)` and
`TerminalSession("choiros-e2e", str(BASE_DIR))`. -/
def start (now : ℚ) : Run :=
  ⟨(init sessionName env.workingDir env.hasSession).1,
    ["kill-session", "-t", sessionName] :: (init sessionName env.workingDir env.hasSession).2,
    env.sleep now 1⟩

/-- Windows 1 and 2: open the server's window, wait 3 s and poll its health
endpoint; when it never answered 200, capture the window's last 50 lines
and kill the session before `return 1`. The Bool says whether `main` goes on. -/
def startServer (fuel : ℕ) (name command : String) (workingDir : Option String) (url : String)
    (r : Run) : ExceptT SessionError Option (Bool × Run) := do
  let r ← r.addWindow host env name command workingDir
  let r := r.sleep env 3
  let (healthy, t) ← checkHealthEndpoint env url healthCheckTimeout fuel r.clock
  let r := { r with clock := t }
  if healthy then return (true, r)
  let _ ← r.captureOutput env name 50
  return (false, r.kill)

/-- Window 3: the browser server's health check is printed and otherwise
ignored, then 5 s more. -/
def startBrowser (fuel : ℕ) (r : Run) : ExceptT SessionError Option Run := do
  let r ← r.addWindow host env "browser" "./skills/dev-browser/server.sh" none
  let r := r.sleep env 3
  let (_, t) ← checkHealthEndpoint env browserHealthUrl healthCheckTimeout fuel r.clock
  return { r with clock := t }.sleep env 5

/-- The `try` block of the monitoring loop: `list_windows()` shows the test
window and its last 100 lines report completion. An error inside it is
caught, and the loop goes on. -/
def testCompleted (r : Run) : Bool :=
  (r.session.listWindows (env.tmux r.clock)).any (fun w => w.name = "e2e-test") &&
    match r.captureOutput env "e2e-test" 100 with
    | .ok latest =>
        pyContains "Test completed successfully" latest || pyContains "All tests passed" latest
    | .error _ => false

/-- The monitoring `while` loop started at `startTime`: every 2 s capture the
test window (outside the `try`), and stop early on `testCompleted`. The Bool
is `test_complete`. -/
def monitorLoop (startTime : ℚ) : ℕ → Run → ExceptT SessionError Option (Bool × Run)
  | 0, _ => ExceptT.mk none
  | fuel + 1, r =>
      if r.clock - startTime < testTimeout then do
        let r := r.sleep env 2
        let _ ← r.captureOutput env "e2e-test" 30
        if testCompleted env r then return (true, r)
        monitorLoop startTime fuel r
      else return (false, r)

/-- Window 4: open the test's window and watch it. -/
def runTest (fuel : ℕ) (r : Run) : ExceptT SessionError Option Run := do
  let r ← r.addWindow host env "e2e-test" "npx tsx test_e2e_basic_chat_flow.ts"
    (some (baseDir ++ "/tests/e2e"))
  let (_, r) ← monitorLoop env r.clock fuel r
  return r

/-- The summary's captures, none inside a `try`. -/
def summary (r : Run) : Except SessionError Unit := do
  let _ ← r.captureOutput env "backend" 30
  let _ ← r.captureOutput env "frontend" 30
  let _ ← r.captureOutput env "browser" 30
  let _ ← r.captureOutput env "e2e-test" 50
  pure ()

/-- `main()` called at clock reading `now`, each loop given `fuel` passes:
the exit code and what the run built. -/
def main (fuel : ℕ) (now : ℚ) : ExceptT SessionError Option (ℕ × Run) := do
  let (backendReady, r) ← startServer host env fuel "backend" backendCommand none
    backendHealthUrl (start env now)
  if !backendReady then return (1, r)
  let (frontendReady, r) ← startServer host env fuel "frontend" "cargo run"
    (some (baseDir ++ "/sandbox-ui")) frontendHealthUrl r
  if !frontendReady then return (1, r)
  let r ← startBrowser host env fuel r
  let r ← runTest host env fuel r
  let _ ← summary env r
  return (0, r)

/-! ## What each block of `main` does -/

section Lift

variable {ε α : Type}

@[simp] theorem run_liftM_except (x : Except ε α) :
    (liftM x : ExceptT ε Option α).run = some x := by
  cases x <;> rfl

@[simp] theorem except_map_ok {β : Type} (f : α → β) (a : α) :
    (Except.ok a : Except ε α).map f = .ok (f a) :=
  rfl

@[simp] theorem run_liftM_option (x : Option α) :
    (liftM x : ExceptT ε Option α).run = x.map .ok := by
  cases x <;> rfl

end Lift

namespace Run

variable {host env}

theorem addWindow_fresh {s : TerminalSession} {name : String} (h : name ∉ s.windows.keys)
    (command : String) {workingDir : Option String} {dir : String}
    (hdir : targetDir host s workingDir = .ok dir) (calls : List (List String)) (clock : ℚ) :
    (⟨s, calls, clock⟩ : Run).addWindow host env name command workingDir =
      .ok ⟨{ s with windows := s.windows.insert name (windowTarget s.name name) },
        calls ++ newWindowCalls s name command dir, clock⟩ := by
  simp [addWindow, addWindow_false host h command "vertical" hdir]

end Run

theorem startServer_eq (fuel : ℕ) {s : TerminalSession} {name : String}
    (h : name ∉ s.windows.keys) (command : String) (workingDir : Option String) {dir : String}
    (hdir : targetDir host s workingDir = .ok dir) (url : String)
    (calls : List (List String)) (clock : ℚ) :
    (startServer host env fuel name command workingDir url ⟨s, calls, clock⟩).run =
      (checkHealthEndpoint env url healthCheckTimeout fuel (env.sleep clock 3)).map fun p =>
        .ok (p.1, if p.1 then
          ⟨{ s with windows := s.windows.insert name (windowTarget s.name name) },
            calls ++ newWindowCalls s name command dir, p.2⟩
          else (⟨{ s with windows := s.windows.insert name (windowTarget s.name name) },
            calls ++ newWindowCalls s name command dir, p.2⟩ : Run).kill) := by
  simp only [startServer, ExceptT.run_bind, run_liftM_except, Run.addWindow_fresh h command hdir,
    run_liftM_option, Run.sleep]
  rcases hc : checkHealthEndpoint env url healthCheckTimeout fuel (env.sleep clock 3) with
    _ | ⟨_ | _, t⟩
  · simp [hc]
  · simp [hc, Run.captureOutput, TerminalSession.captureOutput, ExceptT.run_bind,
      ExceptT.run_map]
  · simp [hc]

theorem startBrowser_eq (fuel : ℕ) {s : TerminalSession} (h : "browser" ∉ s.windows.keys)
    {dir : String} (hdir : targetDir host s none = .ok dir) (calls : List (List String))
    (clock : ℚ) :
    (startBrowser host env fuel ⟨s, calls, clock⟩).run =
      (checkHealthEndpoint env browserHealthUrl healthCheckTimeout fuel (env.sleep clock 3)).map
        fun p => .ok ⟨{ s with
          windows := s.windows.insert "browser" (windowTarget s.name "browser") },
          calls ++ newWindowCalls s "browser" "./skills/dev-browser/server.sh" dir,
          env.sleep p.2 5⟩ := by
  simp only [startBrowser, ExceptT.run_bind, run_liftM_except, Run.addWindow_fresh h _ hdir,
    run_liftM_option, Run.sleep]
  rcases hc : checkHealthEndpoint env browserHealthUrl healthCheckTimeout fuel
    (env.sleep clock 3) with _ | ⟨_, t⟩ <;> simp [hc]

theorem monitorLoop_eq {s : TerminalSession} (h : "e2e-test" ∈ s.windows.keys)
    (calls : List (List String)) (startTime : ℚ) : ∀ (n : ℕ) (clock : ℚ),
    (monitorLoop env startTime n ⟨s, calls, clock⟩).run =
      (changeLoop (fun t => testCompleted env ⟨s, calls, t⟩) (env.sleep · 2) startTime
        testTimeout n clock).map fun p => .ok (p.1, ⟨s, calls, p.2⟩)
  | 0, _ => rfl
  | n + 1, clock => by
      obtain ⟨windowId, hget⟩ := s.windows.mem_keys_iff.mp h
      unfold monitorLoop changeLoop
      split_ifs with hlt hdone
      · simp [ExceptT.run_bind, Run.sleep, Run.captureOutput, TerminalSession.captureOutput,
          hget, hdone]
      · simp [ExceptT.run_bind, Run.sleep, Run.captureOutput, TerminalSession.captureOutput,
          hget, hdone, monitorLoop_eq h calls startTime n]
      · rfl

theorem runTest_eq (fuel : ℕ) {s : TerminalSession} (h : "e2e-test" ∉ s.windows.keys)
    {dir : String} (hdir : targetDir host s (some (baseDir ++ "/tests/e2e")) = .ok dir)
    (calls : List (List String)) (clock : ℚ) :
    (runTest host env fuel ⟨s, calls, clock⟩).run =
      (changeLoop (fun t => testCompleted env ⟨{ s with
          windows := s.windows.insert "e2e-test" (windowTarget s.name "e2e-test") },
          calls ++ newWindowCalls s "e2e-test" "npx tsx test_e2e_basic_chat_flow.ts" dir, t⟩)
        (env.sleep · 2) clock testTimeout fuel clock).map fun p => .ok ⟨{ s with
          windows := s.windows.insert "e2e-test" (windowTarget s.name "e2e-test") },
          calls ++ newWindowCalls s "e2e-test" "npx tsx test_e2e_basic_chat_flow.ts" dir, p.2⟩ := by
  have hmem : "e2e-test" ∈ ({ s with
      windows := s.windows.insert "e2e-test" (windowTarget s.name "e2e-test") } :
        TerminalSession).windows.keys := by
    simp [PyDict.mem_keys_insert]
  simp only [runTest, ExceptT.run_bind, run_liftM_except, Run.addWindow_fresh h _ hdir]
  rcases hc : changeLoop _ (env.sleep · 2) clock testTimeout fuel clock with _ | ⟨_, t⟩ <;>
    simp [hc, monitorLoop_eq env hmem]

/-- The four windows `main` opens, in order. -/
def allWindows : List String := ["backend", "frontend", "browser", "e2e-test"]

/-- The session once the windows `names` are open, in order, each under
`choiros-e2e:<name>`. -/
def sessionAfter (names : List String) : TerminalSession :=
  ⟨sessionName, env.workingDir,
    names.foldl (fun w name => w.insert name (windowTarget sessionName name)) .empty⟩

theorem sessionAfter_append (names : List String) (name : String) :
    { sessionAfter env names with windows := ((sessionAfter env names).windows.insert name
        (windowTarget (sessionAfter env names).name name)) } =
      sessionAfter env (names ++ [name]) := by
  simp [sessionAfter, List.foldl_append]

/-- The directory a window of the runner (name, command and `working_dir`)
opens in: its `working_dir` expanded, or the session's. -/
def windowDir (w : String × String × Option String) : String :=
  match w.2.2 with
  | some dir => host.expanded dir
  | none => env.workingDir

theorem targetDir_sessionAfter (names : List String) (name command : String)
    {workingDir : Option String} (hw : ∀ dir, workingDir = some dir → '~' ∉ dir.data ∧ dir ≠ "") :
    targetDir host (sessionAfter env names) workingDir =
      .ok (windowDir host env (name, command, workingDir)) := by
  rcases workingDir with _ | dir
  · rfl
  · obtain ⟨htilde, hne⟩ := hw dir rfl
    rw [targetDir_of_not_mem host _ htilde, if_neg hne]
    rfl

/-- The tmux commands `main` has run once the windows `ws` are open, in
order: the cleanup `kill-session`, the session's creation, then each
window's `new-window` and command. -/
def callsAfter (ws : List (String × String × Option String)) : List (List String) :=
  (["kill-session", "-t", sessionName] :: ensureSession sessionName env.workingDir env.hasSession) ++
    ws.flatMap fun w => newWindowCalls (sessionAfter env []) w.1 w.2.1 (windowDir host env w)

theorem callsAfter_append (ws : List (String × String × Option String)) (names : List String)
    (name command : String) (workingDir : Option String) :
    callsAfter host env ws ++ newWindowCalls (sessionAfter env names) name command
        (windowDir host env (name, command, workingDir)) =
      callsAfter host env (ws ++ [(name, command, workingDir)]) := by
  simp only [callsAfter, List.flatMap_append, List.flatMap_singleton, List.append_assoc]
  rfl

theorem summary_ok (calls : List (List String)) (clock : ℚ) :
    summary env ⟨sessionAfter env allWindows, calls, clock⟩ = .ok () :=
  rfl

/-- Window 1 (name, command, `working_dir`): the backend, in the session's
directory. -/
def backendWindow : String × String × Option String := ("backend", backendCommand, none)

/-- Window 2: the frontend, in `sandbox-ui`. -/
def frontendWindow : String × String × Option String :=
  ("frontend", "cargo run", some (baseDir ++ "/sandbox-ui"))

/-- Window 3: the browser automation server, in the session's directory. -/
def browserWindow : String × String × Option String :=
  ("browser", "./skills/dev-browser/server.sh", none)

/-- Window 4: the test, in `tests/e2e`. -/
def testWindow : String × String × Option String :=
  ("e2e-test", "npx tsx test_e2e_basic_chat_flow.ts", some (baseDir ++ "/tests/e2e"))

/-- `main` is its three health checks and the monitoring loop: the session
and the commands run after each block are fixed, and no block raises. -/
theorem main_eq (fuel : ℕ) (now : ℚ) :
    (main host env fuel now).run =
      (checkHealthEndpoint env backendHealthUrl healthCheckTimeout fuel
        (env.sleep (env.sleep now 1) 3)).bind fun p₁ =>
      if p₁.1 then
        (checkHealthEndpoint env frontendHealthUrl healthCheckTimeout fuel
          (env.sleep p₁.2 3)).bind fun p₂ =>
        if p₂.1 then
          (checkHealthEndpoint env browserHealthUrl healthCheckTimeout fuel
            (env.sleep p₂.2 3)).bind fun p₃ =>
          (changeLoop (fun t => testCompleted env ⟨sessionAfter env allWindows,
              callsAfter host env [backendWindow, frontendWindow, browserWindow, testWindow], t⟩)
            (env.sleep · 2) (env.sleep p₃.2 5) testTimeout fuel (env.sleep p₃.2 5)).map
            fun p₄ => .ok (0, ⟨sessionAfter env allWindows,
              callsAfter host env [backendWindow, frontendWindow, browserWindow, testWindow], p₄.2⟩)
        else some (.ok (1, (⟨sessionAfter env ["backend", "frontend"],
          callsAfter host env [backendWindow, frontendWindow], p₂.2⟩ : Run).kill))
      else some (.ok (1, (⟨sessionAfter env ["backend"], callsAfter host env [backendWindow],
        p₁.2⟩ : Run).kill)) := by
  have hnone : ∀ dir, (none : Option String) = some dir → '~' ∉ dir.data ∧ dir ≠ "" :=
    fun _ h => by cases h
  have h₁ := startServer_eq host env fuel
    (show "backend" ∉ (sessionAfter env []).windows.keys by simp only [sessionAfter]; decide)
    backendCommand none (targetDir_sessionAfter host env [] "backend" backendCommand hnone)
    backendHealthUrl (callsAfter host env [])
  have h₂ := startServer_eq host env fuel
    (show "frontend" ∉ (sessionAfter env ["backend"]).windows.keys by
      simp only [sessionAfter]; decide)
    "cargo run" (some (baseDir ++ "/sandbox-ui"))
    (targetDir_sessionAfter host env ["backend"] "frontend" "cargo run"
      fun _ h => by cases h; decide)
    frontendHealthUrl (callsAfter host env [backendWindow])
  have h₃ := startBrowser_eq host env fuel
    (show "browser" ∉ (sessionAfter env ["backend", "frontend"]).windows.keys by
      simp only [sessionAfter]; decide)
    (targetDir_sessionAfter host env _ "browser" "./skills/dev-browser/server.sh" hnone)
    (callsAfter host env [backendWindow, frontendWindow])
  have h₄ := runTest_eq host env fuel
    (show "e2e-test" ∉ (sessionAfter env ["backend", "frontend", "browser"]).windows.keys by
      simp only [sessionAfter]; decide)
    (targetDir_sessionAfter host env _ "e2e-test" "npx tsx test_e2e_basic_chat_flow.ts"
      fun _ h => by cases h; decide)
    (callsAfter host env [backendWindow, frontendWindow, browserWindow])
  have hwindows : (("backend", backendCommand, none) : String × String × Option String) =
      backendWindow ∧ (("frontend", "cargo run", some (baseDir ++ "/sandbox-ui")) :
        String × String × Option String) = frontendWindow ∧
      (("browser", "./skills/dev-browser/server.sh", none) : String × String × Option String) =
        browserWindow ∧ (("e2e-test", "npx tsx test_e2e_basic_chat_flow.ts",
          some (baseDir ++ "/tests/e2e")) : String × String × Option String) = testWindow :=
    ⟨rfl, rfl, rfl, rfl⟩
  simp only [sessionAfter_append, callsAfter_append, List.nil_append, List.cons_append,
    List.singleton_append] at h₁ h₂ h₃ h₄
  simp only [hwindows] at h₁ h₂ h₃ h₄
  rw [show ["backend", "frontend", "browser", "e2e-test"] = allWindows from rfl] at h₄
  have hstart : start env now = ⟨sessionAfter env [], callsAfter host env [], env.sleep now 1⟩ := by
    simp [start, sessionAfter, callsAfter, init]
  simp only [main, ExceptT.run_bind, hstart, h₁]
  rcases hc₁ : checkHealthEndpoint env backendHealthUrl healthCheckTimeout fuel
    (env.sleep (env.sleep now 1) 3) with _ | ⟨_ | _, t₁⟩
  · simp [hc₁]
  · simp [hc₁]
  · rcases hc₂ : checkHealthEndpoint env frontendHealthUrl healthCheckTimeout fuel
      (env.sleep t₁ 3) with _ | ⟨_ | _, t₂⟩
    · simp [hc₁, h₂, hc₂, ExceptT.run_bind]
    · simp [hc₁, h₂, hc₂, ExceptT.run_bind]
    · rcases hc₃ : checkHealthEndpoint env browserHealthUrl healthCheckTimeout fuel
        (env.sleep t₂ 3) with _ | ⟨_, t₃⟩
      · simp [hc₁, h₂, hc₂, h₃, hc₃, ExceptT.run_bind]
      · rcases hc₄ : changeLoop (fun t => testCompleted env ⟨sessionAfter env allWindows,
          callsAfter host env [backendWindow, frontendWindow, browserWindow, testWindow], t⟩)
          (env.sleep · 2) (env.sleep t₃ 5) testTimeout fuel (env.sleep t₃ 5) with _ | ⟨_, t₄⟩ <;>
          simp [hc₁, h₂, hc₂, h₃, hc₃, h₄, hc₄, summary_ok, ExceptT.run_bind]

/-! ## What `main` guarantees -/

/-- The three ways `main` returns: the backend's check failed; it passed and
the frontend's failed; or both passed, the browser server's check returned
and the test was watched to its end. -/
theorem main_cases {fuel : ℕ} {now : ℚ} {res : Except SessionError (ℕ × Run)}
    (h : (main host env fuel now).run = some res) :
    (∃ t₁, checkHealthEndpoint env backendHealthUrl healthCheckTimeout fuel
        (env.sleep (env.sleep now 1) 3) = some (false, t₁) ∧
      res = .ok (1, (⟨sessionAfter env ["backend"], callsAfter host env [backendWindow], t₁⟩ :
        Run).kill)) ∨
    (∃ t₁ t₂, checkHealthEndpoint env backendHealthUrl healthCheckTimeout fuel
        (env.sleep (env.sleep now 1) 3) = some (true, t₁) ∧
      checkHealthEndpoint env frontendHealthUrl healthCheckTimeout fuel (env.sleep t₁ 3) =
        some (false, t₂) ∧
      res = .ok (1, (⟨sessionAfter env ["backend", "frontend"],
        callsAfter host env [backendWindow, frontendWindow], t₂⟩ : Run).kill)) ∨
    (∃ t₁ t₂ p₃ p₄, checkHealthEndpoint env backendHealthUrl healthCheckTimeout fuel
        (env.sleep (env.sleep now 1) 3) = some (true, t₁) ∧
      checkHealthEndpoint env frontendHealthUrl healthCheckTimeout fuel (env.sleep t₁ 3) =
        some (true, t₂) ∧
      checkHealthEndpoint env browserHealthUrl healthCheckTimeout fuel (env.sleep t₂ 3) =
        some p₃ ∧
      changeLoop (fun t => testCompleted env ⟨sessionAfter env allWindows,
          callsAfter host env [backendWindow, frontendWindow, browserWindow, testWindow], t⟩)
        (env.sleep · 2) (env.sleep p₃.2 5) testTimeout fuel (env.sleep p₃.2 5) = some p₄ ∧
      res = .ok (0, ⟨sessionAfter env allWindows,
        callsAfter host env [backendWindow, frontendWindow, browserWindow, testWindow], p₄.2⟩)) := by
  rw [main_eq, Option.bind_eq_some] at h
  obtain ⟨⟨_ | _, t₁⟩, hc₁, h⟩ := h
  · cases h
    exact .inl ⟨t₁, hc₁, rfl⟩
  rw [if_pos rfl, Option.bind_eq_some] at h
  obtain ⟨⟨_ | _, t₂⟩, hc₂, h⟩ := h
  · cases h
    exact .inr (.inl ⟨t₁, t₂, hc₁, hc₂, rfl⟩)
  rw [if_pos rfl, Option.bind_eq_some] at h
  obtain ⟨p₃, hc₃, h⟩ := h
  obtain ⟨p₄, hc₄, rfl⟩ := Option.map_eq_some'.mp h
  exact .inr (.inr ⟨t₁, t₂, p₃, p₄, hc₁, hc₂, hc₃, hc₄, rfl⟩)

/-- Whenever `main` returns, it returns normally: with 0 and the four windows
registered, in order, each under `choiros-e2e:<name>`; or with 1 after
`kill()`, its `kill-session` the last command run and the registry empty. -/
theorem main_outcome (fuel : ℕ) (now : ℚ) {res : Except SessionError (ℕ × Run)}
    (h : (main host env fuel now).run = some res) :
    ∃ code r, res = .ok (code, r) ∧
      ((code = 0 ∧ r.session.windows.entries =
          allWindows.map fun name => (name, windowTarget sessionName name)) ∨
        (code = 1 ∧ r.session.windows = .empty ∧
          r.calls.getLast? = some ["kill-session", "-t", sessionName])) := by
  rcases main_cases host env h with ⟨-, -, rfl⟩ | ⟨-, -, -, -, rfl⟩ |
    ⟨_, _, _, _, -, -, -, -, rfl⟩
  · exact ⟨1, _, rfl, .inr ⟨rfl, rfl, by simp [Run.kill, kill, sessionAfter]⟩⟩
  · exact ⟨1, _, rfl, .inr ⟨rfl, rfl, by simp [Run.kill, kill, sessionAfter]⟩⟩
  · exact ⟨0, _, rfl, .inl ⟨rfl, rfl⟩⟩

theorem main_outcome_backend_down :
    ∃ res, (main Host.literal ⟨"/src", true, fun _ _ => "", fun _ t => (none, t + 200),
      fun t d => t + d⟩ 200 0).run = some res ∧
      ∃ code r, res = .ok (code, r) ∧
        ((code = 0 ∧ r.session.windows.entries =
            allWindows.map fun name => (name, windowTarget sessionName name)) ∨
          (code = 1 ∧ r.session.windows = .empty ∧
            r.calls.getLast? = some ["kill-session", "-t", sessionName])) := by
  obtain ⟨res, h⟩ : ∃ res, (main Host.literal ⟨"/src", true, fun _ _ => "",
      fun _ t => (none, t + 200), fun t d => t + d⟩ 200 0).run = some res :=
    ⟨_, by with_unfolding_all rfl⟩
  exact ⟨res, h, main_outcome Host.literal _ 200 0 h⟩

/-- The exit code is decided by the two health checks alone: `main` returns
0 exactly when the backend answered 200 within `HEALTH_CHECK_TIMEOUT` of its
check, begun 1 + 3 s after `main` started, and the frontend did within its
own, begun 3 s after the backend's returned. Nothing tmux prints, the test's
output included, and not the browser server's check, changes it. -/
theorem main_exitCode (fuel : ℕ) (now : ℚ) {code : ℕ} {r : Run}
    (h : (main host env fuel now).run = some (.ok (code, r))) :
    code = 0 ↔ ∃ t₁ t₂,
      checkHealthEndpoint env backendHealthUrl healthCheckTimeout fuel
        (env.sleep (env.sleep now 1) 3) = some (true, t₁) ∧
      checkHealthEndpoint env frontendHealthUrl healthCheckTimeout fuel
        (env.sleep t₁ 3) = some (true, t₂) := by
  rcases main_cases host env h with ⟨t₁, hc₁, heq⟩ | ⟨t₁, t₂, hc₁, hc₂, heq⟩ |
    ⟨t₁, t₂, _, _, hc₁, hc₂, -, -, heq⟩ <;> cases heq
  · simp [hc₁]
  · simp [hc₁, hc₂]
  · exact iff_of_true rfl ⟨t₁, t₂, hc₁, hc₂⟩

theorem main_exitCode_all_up :
    ∃ code r, (main Host.literal ⟨"/src", true,
        fun _ args => if args.head? = some "list-windows" then "e2e-test:@4:1"
          else "All tests passed",
        fun _ t => (some 200, t), fun t d => t + d⟩ 200 0).run = some (.ok (code, r)) ∧
      (code = 0 ↔ ∃ t₁ t₂,
        checkHealthEndpoint ⟨"/src", true,
          fun _ args => if args.head? = some "list-windows" then "e2e-test:@4:1"
            else "All tests passed",
          fun _ t => (some 200, t), fun t d => t + d⟩ backendHealthUrl healthCheckTimeout 200
          ((0 + 1) + 3) = some (true, t₁) ∧
        checkHealthEndpoint ⟨"/src", true,
          fun _ args => if args.head? = some "list-windows" then "e2e-test:@4:1"
            else "All tests passed",
          fun _ t => (some 200, t), fun t d => t + d⟩ frontendHealthUrl healthCheckTimeout 200
          (t₁ + 3) = some (true, t₂)) := by
  obtain ⟨code, r, h⟩ : ∃ code r, (main Host.literal ⟨"/src", true,
      fun _ args => if args.head? = some "list-windows" then "e2e-test:@4:1"
        else "All tests passed",
      fun _ t => (some 200, t), fun t d => t + d⟩ 200 0).run = some (.ok (code, r)) :=
    ⟨_, _, by with_unfolding_all rfl⟩
  exact ⟨code, r, h, main_exitCode Host.literal _ 200 0 h⟩

/-- The tmux commands `main` runs, whatever tmux prints and the servers
answer: the cleanup `kill-session`, `has-session` (and `new-session`), then
for each window it opens, in order, `new-window` in the window's directory,
its command and `C-m`; after a failed health check, `kill-session` last.
`main` never splits a window and sends each window nothing but its command. -/
theorem main_calls (fuel : ℕ) (now : ℚ) {code : ℕ} {r : Run}
    (h : (main host env fuel now).run = some (.ok (code, r))) :
    (code = 0 ∧
      r.calls = callsAfter host env [backendWindow, frontendWindow, browserWindow, testWindow]) ∨
    (code = 1 ∧
      (r.calls = callsAfter host env [backendWindow] ++ [["kill-session", "-t", sessionName]] ∨
        r.calls = callsAfter host env [backendWindow, frontendWindow] ++
          [["kill-session", "-t", sessionName]])) := by
  rcases main_cases host env h with ⟨_, -, heq⟩ | ⟨_, _, -, -, heq⟩ |
    ⟨_, _, _, _, -, -, -, -, heq⟩ <;> cases heq
  · exact .inr ⟨rfl, .inl rfl⟩
  · exact .inr ⟨rfl, .inr rfl⟩
  · exact .inl ⟨rfl, rfl⟩

theorem main_calls_backend_down :
    ∃ code r, (main Host.literal ⟨"/src", true, fun _ _ => "", fun _ t => (none, t + 200),
        fun t d => t + d⟩ 200 0).run = some (.ok (code, r)) ∧
      ((code = 0 ∧ r.calls = callsAfter Host.literal ⟨"/src", true, fun _ _ => "",
          fun _ t => (none, t + 200), fun t d => t + d⟩
          [backendWindow, frontendWindow, browserWindow, testWindow]) ∨
        (code = 1 ∧
          (r.calls = callsAfter Host.literal ⟨"/src", true, fun _ _ => "",
              fun _ t => (none, t + 200), fun t d => t + d⟩ [backendWindow] ++
              [["kill-session", "-t", sessionName]] ∨
            r.calls = callsAfter Host.literal ⟨"/src", true, fun _ _ => "",
              fun _ t => (none, t + 200), fun t d => t + d⟩ [backendWindow, frontendWindow] ++
              [["kill-session", "-t", sessionName]]))) := by
  obtain ⟨code, r, h⟩ : ∃ code r, (main Host.literal ⟨"/src", true, fun _ _ => "",
      fun _ t => (none, t + 200), fun t d => t + d⟩ 200 0).run = some (.ok (code, r)) :=
    ⟨_, _, by with_unfolding_all rfl⟩
  exact ⟨code, r, h, main_calls Host.literal _ 200 0 h⟩

/-- On a clock whose sleeps last at least as asked, with requests that do not
return before they are sent, `main` returns: 151 passes finish each of its
loops, whatever tmux prints and the servers answer. -/
theorem main_terminates (hsleep : ∀ t d, 0 < d → t + d ≤ env.sleep t d)
    (hrequest : ∀ url t, t ≤ (env.request url t).2) (now : ℚ) :
    ∃ fuel res, (main host env fuel now).run = some res := by
  have hcheck : ∀ url now, ∃ p, checkHealthEndpoint env url healthCheckTimeout 151 now = some p :=
    fun url now => by
      obtain ⟨p, hp⟩ := healthLoop_finishes (env.request url) env.sleep now healthCheckTimeout
        (fun t => hsleep t 1 one_pos) (hrequest url) (n := 120)
        (by norm_num [healthCheckTimeout]) now le_rfl
      exact ⟨p, healthLoop_mono _ _ _ _ hp (by norm_num)⟩
  have heq := main_eq host env 151 now
  refine ⟨151, Option.isSome_iff_exists.mp ?_⟩
  rw [heq]
  obtain ⟨⟨_ | _, t₁⟩, hc₁⟩ := hcheck backendHealthUrl (env.sleep (env.sleep now 1) 3)
  · simp [hc₁]
  obtain ⟨⟨_ | _, t₂⟩, hc₂⟩ := hcheck frontendHealthUrl (env.sleep t₁ 3)
  · simp [hc₁, hc₂]
  obtain ⟨p₃, hc₃⟩ := hcheck browserHealthUrl (env.sleep t₂ 3)
  obtain ⟨p₄, hc₄⟩ := changeLoop_finishes
    (fun t => testCompleted env ⟨sessionAfter env allWindows,
      callsAfter host env [backendWindow, frontendWindow, browserWindow, testWindow], t⟩)
    (env.sleep · 2)
    (env.sleep p₃.2 5) testTimeout (fun t => hsleep t 2 two_pos) 150 (env.sleep p₃.2 5)
    (by norm_num [testTimeout])
  simp [hc₁, hc₂, hc₃, hc₄]

/-- On a clock whose sleeps overrun by at most `ε`, with GETs that take at
most `δ`, `main` returns within `680 + 3δ + 9ε` seconds of its call: the
cleanup's second, for each server 3 s and a health check of at most
`120 + δ + 1 + ε`, then 5 s and a monitoring loop of at most `300 + 2 + ε`. -/
theorem main_le {δ ε : ℚ} (hsleep : ∀ t d, 0 ≤ d → env.sleep t d ≤ t + d + ε)
    (hrequest : ∀ url t, (env.request url t).2 ≤ t + δ) (hδ : 0 ≤ δ) (hε : 0 ≤ ε) (fuel : ℕ)
    (now : ℚ) {code : ℕ} {r : Run} (h : (main host env fuel now).run = some (.ok (code, r))) :
    r.clock ≤ now + (680 + 3 * δ + 9 * ε) := by
  have hcheck : ∀ url t p, checkHealthEndpoint env url healthCheckTimeout fuel t = some p →
      p.2 ≤ t + (120 + (δ + 1 + ε)) := fun url t _ hc =>
    healthLoop_le (env.request url) env.sleep t healthCheckTimeout (hrequest url)
      (fun t => hsleep t 1 zero_le_one) (by unfold healthCheckTimeout; linarith) (by linarith) hc
  have h₀ := hsleep now 1 zero_le_one
  have h₁ := hsleep (env.sleep now 1) 3 (by norm_num)
  rcases main_cases host env h with ⟨t₁, hc₁, heq⟩ | ⟨t₁, t₂, hc₁, hc₂, heq⟩ |
    ⟨t₁, t₂, p₃, p₄, hc₁, hc₂, hc₃, hc₄, heq⟩ <;> cases heq
  · show t₁ ≤ _
    linarith [hcheck _ _ _ hc₁]
  · show t₂ ≤ _
    linarith [hcheck _ _ _ hc₁, hcheck _ _ _ hc₂, hsleep t₁ 3 (by norm_num)]
  · have h₄ := le_of_returns _ _ _ (fun t => (hsleep t 2 zero_le_two).trans_eq (add_assoc _ _ _))
      (by unfold testTimeout; linarith) (changeLoop_returns _ _ _ _ hc₄)
    linarith [hcheck _ _ _ hc₁, hcheck _ _ _ hc₂, hcheck _ _ _ hc₃, hsleep t₁ 3 (by norm_num),
      hsleep t₂ 3 (by norm_num), hsleep p₃.2 5 (by norm_num), show testTimeout = 300 from rfl]

theorem main_le_all_up :
    ∃ code r, (main Host.literal ⟨"/src", true,
        fun _ args => if args.head? = some "list-windows" then "e2e-test:@4:1"
          else "All tests passed",
        fun _ t => (some 200, t), fun t d => t + d⟩ 200 0).run = some (.ok (code, r)) ∧
      r.clock ≤ 0 + (680 + 3 * 0 + 9 * 0) := by
  obtain ⟨code, r, h⟩ : ∃ code r, (main Host.literal ⟨"/src", true,
      fun _ args => if args.head? = some "list-windows" then "e2e-test:@4:1"
        else "All tests passed",
      fun _ t => (some 200, t), fun t d => t + d⟩ 200 0).run = some (.ok (code, r)) :=
    ⟨_, _, by with_unfolding_all rfl⟩
  have hle := main_le Host.literal ⟨"/src", true,
      fun _ args => if args.head? = some "list-windows" then "e2e-test:@4:1"
        else "All tests passed",
      fun _ t => (some 200, t), fun t d => t + d⟩ (fun t d _ => (add_zero (t + d)).ge)
    (fun _ t => (add_zero t).ge) le_rfl le_rfl 200 0 h
  exact ⟨code, r, h, hle⟩

theorem main_terminates_exact :
    ∃ fuel res, (main Host.literal ⟨"/src", false, fun _ _ => "", fun _ t => (some 200, t),
      fun t d => t + d⟩ fuel 0).run = some res :=
  main_terminates Host.literal _ (fun _ _ _ => le_rfl) (fun _ _ => le_rfl) 0

end RunE2ETests

end MultiTerminal
