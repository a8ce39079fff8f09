import MultiTerminal.Dict
import MultiTerminal.Text

/-!
# The tmux session handle

`TerminalSession` of `skills/multi-terminal/scripts/terminal_session.py`:
a tmux session name, its working directory and the window registry,
`windows`, mapping a caller's window name to the tmux target it was
given. Every method is a function of the registry and of what tmux
prints.

tmux is the environment. Each call `_run_tmux(*args)` is recorded as its
argument list, and what a method reads back - the `has-session` return
code, the stdout of `list-panes`, `capture-pane` or `list-windows` - is
an argument of the function: `tmux args` is the stdout tmux prints for
`args` at the moment of the call. A method that writes the registry
returns the new session with the commands it ran; one that raises
returns the `SessionError`, and since every raise here comes before any
tmux command and any write, the registry is then unchanged.

The host's `re.search`, `Path.expanduser` and `Path.resolve` are the
fields of `Host`. `expanduser` is partial: it raises `RuntimeError` for a
`~` or `~user` whose home directory it cannot find, so the constructor
and `add_window` with a `working_dir` can raise it.
-/

namespace MultiTerminal

/-- The exceptions of the session and orchestrator code: the `ValueError`s
it raises itself, and the `RuntimeError` of `Path(path).expanduser()`. -/
inductive SessionError where
  | windowExists (name : String)
  | windowNotFound (name : String)
  | homeDirUnknown (path : String)
deriving DecidableEq, Repr

/-- The error's text: the source's for its `ValueError`s, pathlib's for
the `RuntimeError`. -/
def SessionError.message : SessionError → String
  | .windowExists name => "Window '" ++ name ++ "' already exists"
  | .windowNotFound name => "Window '" ++ name ++ "' not found"
  | .homeDirUnknown _ => "Could not determine home directory."

/-- What the Python host computes for the code. `search pattern text` is
whether `re.search(pattern, text, re.IGNORECASE)` is truthy.
`Path(p).expanduser()` (`Host.expandUser`) returns `expanded p` where
`homeKnown p` holds and raises `RuntimeError` elsewhere; it only raises on a
path that starts with `~`, so every path with no `~` expands. `resolve p` is
`str(Path(p).resolve())`. -/
structure Host where
  search : String → String → Bool
  homeKnown : String → Bool
  expanded : String → String
  resolve : String → String
  homeKnown_of_not_mem : ∀ p, '~' ∉ p.data → homeKnown p = true

/-- The host of the concrete runs below: `re.search` on literal patterns,
no home directory (a leading `~` raises, other paths are left alone) and
absolute paths, which `resolve` leaves alone. -/
def Host.literal : Host where
  search := literalSearch
  homeKnown p := p.data.head? != some '~'
  expanded := id
  resolve := id
  homeKnown_of_not_mem p hp := by
    simpa using fun h : p.data.head? = some '~' => hp (List.mem_of_mem_head? h)

/-- `Path(p).expanduser()`. -/
def Host.expandUser (host : Host) (p : String) : Except SessionError String :=
  if host.homeKnown p then .ok (host.expanded p) else .error (.homeDirUnknown p)

/-- Whether `add_window` gets past `target_dir` with this `working_dir`:
none or an empty one, which mean the session's directory, or one that
expands. -/
def Host.expands (host : Host) : Option String → Bool
  | some dir => dir = "" || host.homeKnown dir
  | none => true

/-- A `TerminalSession`: `workingDir` is `Path(working_dir).expanduser().resolve()`
as the host computed it at construction. -/
structure TerminalSession where
  name : String
  workingDir : String
  windows : PyDict String

namespace TerminalSession

/-- `_ensure_session`: probe with `has-session`, create the session when the
probe fails (`hasSession` is whether its return code was 0). -/
def ensureSession (name workingDir : String) (hasSession : Bool) : List (List String) :=
  ["has-session", "-t", name] ::
    if hasSession then [] else [["new-session", "-d", "-s", name, "-c", workingDir]]

/-- `TerminalSession(name, working_dir)` once the directory has resolved to
`workingDir`: an empty registry, whether or not tmux already had the session. -/
def init (name workingDir : String) (hasSession : Bool) : TerminalSession × List (List String) :=
  (⟨name, workingDir, .empty⟩, ensureSession name workingDir hasSession)

/-- `TerminalSession(name, working_dir)`: `Path(working_dir).expanduser().resolve()`,
which raises before any tmux command, then `init` on the directory it gives. -/
def create (host : Host) (name workingDir : String) (hasSession : Bool) :
    Except SessionError (TerminalSession × List (List String)) :=
  (host.expandUser workingDir).map fun dir => init name (host.resolve dir) hasSession

/-! ## Sending keys -/

/-- `key_map` of `send_keys`. -/
def keyMap : List (String × String) :=
  [("Enter", "C-m"), ("Return", "C-m"), ("Tab", "Tab"), ("Space", "Space"), ("C-c", "C-c"),
    ("C-d", "C-d"), ("C-z", "C-z"), ("C-l", "C-l"), ("Escape", "Escape")]

/-- The key argument literal mode sends for one character. -/
def literalKey (c : Char) : String :=
  if c = ' ' then "Space" else if c = '\n' then "Enter" else c.toString

/-- `send_keys(window_name, keys, literal)`: the `send-keys` commands it runs. -/
def sendKeys (s : TerminalSession) (windowName keys : String) (literal : Bool) :
    Except SessionError (List (List String)) :=
  match s.windows.get? windowName with
  | none => .error (.windowNotFound windowName)
  | some windowId =>
      let keys := (keyMap.lookup keys).getD keys
      if literal then .ok (keys.toList.map fun c => ["send-keys", "-t", windowId, literalKey c])
      else .ok [["send-keys", "-t", windowId, keys]]

theorem sendKeys_of_get? {s : TerminalSession} {windowName windowId : String}
    (h : s.windows.get? windowName = some windowId) (keys : String) (literal : Bool) :
    s.sendKeys windowName keys literal =
      .ok (if literal then ((keyMap.lookup keys).getD keys).toList.map
          (fun c => ["send-keys", "-t", windowId, literalKey c])
        else [["send-keys", "-t", windowId, (keyMap.lookup keys).getD keys]]) := by
  cases literal <;> simp [sendKeys, h]

theorem sendKeys_error {s : TerminalSession} {windowName keys : String} {literal : Bool}
    {e : SessionError} (h : s.sendKeys windowName keys literal = .error e) :
    e = .windowNotFound windowName ∧ windowName ∉ s.windows.keys := by
  unfold sendKeys at h
  split at h
  · next hn => exact ⟨by cases h; rfl, (s.windows.get?_eq_none_iff).mp hn⟩
  · split at h <;> cases h

/-! ## Adding, killing and reading windows -/

/-- `target_dir`: `Path(working_dir).expanduser()` when a directory is
given, else the session's. -/
def targetDir (host : Host) (s : TerminalSession) (workingDir : Option String) :
    Except SessionError String :=
  match workingDir with
  | some dir => if dir = "" then .ok s.workingDir else host.expandUser dir
  | none => .ok s.workingDir

@[simp] theorem targetDir_none (host : Host) (s : TerminalSession) :
    targetDir host s none = .ok s.workingDir :=
  rfl

theorem targetDir_cases (host : Host) (s : TerminalSession) (workingDir : Option String) :
    (host.expands workingDir = true ∧ ∃ dir, targetDir host s workingDir = .ok dir) ∨
      (host.expands workingDir = false ∧ ∃ dir, workingDir = some dir ∧
        targetDir host s workingDir = .error (.homeDirUnknown dir)) := by
  rcases workingDir with _ | dir
  · exact .inl ⟨rfl, _, rfl⟩
  · by_cases he : dir = ""
    · exact .inl ⟨by simp [Host.expands, he], s.workingDir, by simp [targetDir, he]⟩
    · cases hk : host.homeKnown dir
      · exact .inr ⟨by simp [Host.expands, he, hk], dir, rfl,
          by simp [targetDir, Host.expandUser, he, hk]⟩
      · exact .inl ⟨by simp [Host.expands, hk], host.expanded dir,
          by simp [targetDir, Host.expandUser, he, hk]⟩

theorem targetDir_of_not_mem (host : Host) (s : TerminalSession) {dir : String}
    (hdir : '~' ∉ dir.data) :
    targetDir host s (some dir) = .ok (if dir = "" then s.workingDir else host.expanded dir) := by
  by_cases he : dir = "" <;> simp [targetDir, Host.expandUser, he, host.homeKnown_of_not_mem dir hdir]

/-- `split_flag`. -/
def splitFlag (splitDirection : String) : String :=
  if splitDirection = "vertical" then "-v" else "-h"

/-- The `list-panes` command of the split path, on session `session`. -/
def listPanesCall (session : String) : List String :=
  ["list-panes", "-t", session, "-F", "#{pane_id}"]

/-- The tmux target `f"{self.name}:{window}"` a registry entry holds. -/
def windowTarget (session window : String) : String := session ++ ":" ++ window

theorem windowTarget_inj {session a b : String} :
    windowTarget session a = windowTarget session b ↔ a = b := by
  constructor
  · intro h
    have hdata := congrArg String.data h
    simp only [windowTarget, String.data_append, List.append_cancel_left_eq] at hdata
    exact String.ext hdata
  · rintro rfl; rfl

/-- `pane_id = result.stdout.strip().split("\n")[-1]`. -/
def newPaneId (stdout : String) : String := (pySplit (pyStrip stdout) '\n').getLastD ""

@[simp] theorem newPaneId_empty : newPaneId "" = "" := rfl

/-- The window id `add_window` registers and the commands that create the
window: a split of the last registered window when `split` is set and the
registry is not empty, a new window named `name` otherwise. -/
def placeWindow (s : TerminalSession) (name : String) (split : Bool) (splitDirection dir : String)
    (tmux : List String → String) : String × List (List String) :=
  match split, s.windows.values.getLast? with
  | true, some lastWindow =>
      (windowTarget s.name (newPaneId (tmux (listPanesCall s.name))),
        [["split-window", splitFlag splitDirection, "-t", lastWindow, "-c", dir],
          listPanesCall s.name])
  | _, _ => (windowTarget s.name name, [["new-window", "-t", s.name, "-n", name, "-c", dir]])

theorem placeWindow_fst (s : TerminalSession) (name : String) (split : Bool)
    (splitDirection dir : String) (tmux : List String → String) :
    (s.placeWindow name split splitDirection dir tmux).1 = windowTarget s.name name ∨
      split = true ∧ (s.placeWindow name split splitDirection dir tmux).1 =
        windowTarget s.name (newPaneId (tmux (listPanesCall s.name))) := by
  unfold placeWindow
  split
  · exact .inr ⟨rfl, rfl⟩
  · exact .inl rfl

/-- The `if command:` block of `add_window`: type the command, then Enter. -/
def runCommand (s : TerminalSession) (name command : String) :
    Except SessionError (List (List String)) :=
  if command = "" then .ok []
  else do
    let typed ← s.sendKeys name command false
    let entered ← s.sendKeys name "Enter" false
    pure (typed ++ entered)

/-- `add_window(name, command, split, split_direction, working_dir)`: the window id,
the session after it and the commands it ran. -/
def addWindow (host : Host) (s : TerminalSession) (name command : String) (split : Bool)
    (splitDirection : String) (workingDir : Option String) (tmux : List String → String) :
    Except SessionError (String × TerminalSession × List (List String)) :=
  if name ∈ s.windows.keys then .error (.windowExists name)
  else do
    let dir ← targetDir host s workingDir
    let (windowId, created) := s.placeWindow name split splitDirection dir tmux
    let s' := { s with windows := s.windows.insert name windowId }
    (s'.runCommand name command).map fun sent => (windowId, s', created ++ sent)

/-- `kill_window(window_name)`. -/
def killWindow (s : TerminalSession) (windowName : String) :
    Except SessionError (TerminalSession × List (List String)) :=
  match s.windows.get? windowName with
  | none => .error (.windowNotFound windowName)
  | some windowId =>
      .ok ({ s with windows := s.windows.erase windowName }, [["kill-window", "-t", windowId]])

/-- `kill()`: the session goes, and the registry is cleared. -/
def kill (s : TerminalSession) : TerminalSession × List (List String) :=
  ({ s with windows := .empty }, [["kill-session", "-t", s.name]])

/-- The `capture-pane` command of `capture_output`. -/
def captureCall (windowId : String) (lines : Int) : List String :=
  ["capture-pane", "-t", windowId, "-S", "-" ++ toString lines, "-p"]

/-- `capture_output(window_name, lines)`. -/
def captureOutput (s : TerminalSession) (windowName : String) (lines : Int)
    (tmux : List String → String) : Except SessionError String :=
  match s.windows.get? windowName with
  | none => .error (.windowNotFound windowName)
  | some windowId => .ok (tmux (captureCall windowId lines))

/-- One pass of `snapshot`: `snapshot[name] = self.capture_output(name)`. -/
def snapshotEach (s : TerminalSession) (tmux : List String → String) (snapshot : PyDict String)
    (name : String) : Except SessionError (PyDict String) :=
  snapshot.insert name <$> s.captureOutput name 100 tmux

/-- `snapshot()`: the loop over the registered names. -/
def snapshot (s : TerminalSession) (tmux : List String → String) :
    Except SessionError (PyDict String) :=
  s.windows.keys.foldlM (snapshotEach s tmux) PyDict.empty

/-- `attach()`. -/
def attach (s : TerminalSession) : List String := ["attach", "-t", s.name]

/-- `detach()`. -/
def detach (s : TerminalSession) : List String := ["detach", "-s", s.name]

/-! ## Listing windows -/

/-- One record of `list_windows`. -/
structure WindowInfo where
  name : String
  id : String
  active : Bool
deriving DecidableEq, Repr

/-- The `list-windows` command. -/
def listWindowsCall (s : TerminalSession) : List String :=
  ["list-windows", "-t", s.name, "-F", "#{window_name}:#{window_id}:#{window_active}"]

/-- The loop body of `list_windows` for one line: empty lines and lines
with fewer than two fields give no record. -/
def parseWindowLine (line : String) : Option WindowInfo :=
  if line = "" then none
  else
    match pySplit line ':' with
    | name :: id :: rest => some ⟨name, id, rest.head? == some "1"⟩
    | _ => none

/-- `list_windows()`. -/
def listWindows (s : TerminalSession) (tmux : List String → String) : List WindowInfo :=
  (pySplit (pyStrip (tmux s.listWindowsCall)) '\n').filterMap parseWindowLine

/-! ## What `add_window` does -/

/-- The commands of the `if command:` block on the window `windowId`: the
command through `key_map` (so a key name such as `Escape` is sent as that
key), then `C-m`. -/
def commandCalls (windowId command : String) : List (List String) :=
  if command = "" then []
  else [["send-keys", "-t", windowId, (keyMap.lookup command).getD command],
    ["send-keys", "-t", windowId, "C-m"]]

theorem runCommand_eq {s : TerminalSession} {name windowId : String}
    (h : s.windows.get? name = some windowId) (command : String) :
    s.runCommand name command = .ok (commandCalls windowId command) := by
  by_cases hc : command = ""
  · simp [runCommand, commandCalls, hc]
  · simp only [runCommand, commandCalls, hc, if_false, sendKeys_of_get? h]
    rfl

@[simp] theorem placeWindow_false (s : TerminalSession) (name splitDirection dir : String)
    (tmux : List String → String) :
    s.placeWindow name false splitDirection dir tmux =
      (windowTarget s.name name, [["new-window", "-t", s.name, "-n", name, "-c", dir]]) :=
  rfl

/-- `add_window` raises `Window '<name>' already exists` on a registered
name, and the `RuntimeError` of `expanduser` on a new name whose directory
does not expand; otherwise it registers `name` under the id `placeWindow`
chooses, and changes nothing else. -/
theorem addWindow_eq (host : Host) (s : TerminalSession) (name command : String) (split : Bool)
    (splitDirection : String) (workingDir : Option String) (tmux : List String → String) :
    (name ∈ s.windows.keys ∧ s.addWindow host name command split splitDirection workingDir tmux =
      .error (.windowExists name)) ∨
    (name ∉ s.windows.keys ∧ host.expands workingDir = false ∧ ∃ dir, workingDir = some dir ∧
      s.addWindow host name command split splitDirection workingDir tmux =
        .error (.homeDirUnknown dir)) ∨
    (name ∉ s.windows.keys ∧ host.expands workingDir = true ∧ ∃ dir sent,
      targetDir host s workingDir = .ok dir ∧
      s.addWindow host name command split splitDirection workingDir tmux =
        .ok ((s.placeWindow name split splitDirection dir tmux).1,
          { s with windows := (s.windows.insert name (s.placeWindow name split splitDirection dir
            tmux).1) }, (s.placeWindow name split splitDirection dir tmux).2 ++ sent)) := by
  by_cases hmem : name ∈ s.windows.keys
  · exact .inl ⟨hmem, by simp [addWindow, hmem]⟩
  rcases targetDir_cases host s workingDir with ⟨hex, dir, hdir⟩ | ⟨hex, dir, rfl, hdir⟩
  · refine .inr (.inr ⟨hmem, hex, dir, ?_⟩)
    have hget : ({ s with windows := (s.windows.insert name
        (s.placeWindow name split splitDirection dir tmux).1) } : TerminalSession).windows.get?
          name = some (s.placeWindow name split splitDirection dir tmux).1 := by simp
    exact ⟨_, hdir, by simp [addWindow, hmem, hdir, bind, Except.bind, runCommand_eq hget]; rfl⟩
  · exact .inr (.inl ⟨hmem, hex, dir, rfl, by simp [addWindow, hmem, hdir, bind, Except.bind]⟩)

/-- What `add_window(name, command)` runs without a split on a new name, in
the directory `dir`: `new-window`, then the command block. -/
def newWindowCalls (s : TerminalSession) (name command dir : String) : List (List String) :=
  ["new-window", "-t", s.name, "-n", name, "-c", dir] :: commandCalls (windowTarget s.name name) command

@[simp] theorem newWindowCalls_windows (s : TerminalSession) (windows : PyDict String)
    (name command dir : String) :
    newWindowCalls { s with windows := windows } name command dir =
      newWindowCalls s name command dir :=
  rfl

theorem addWindow_false (host : Host) {s : TerminalSession} {name : String}
    (h : name ∉ s.windows.keys) (command splitDirection : String) {workingDir : Option String}
    {dir : String} (hdir : targetDir host s workingDir = .ok dir) (tmux : List String → String) :
    s.addWindow host name command false splitDirection workingDir tmux =
      .ok (windowTarget s.name name,
        { s with windows := s.windows.insert name (windowTarget s.name name) },
        newWindowCalls s name command dir) := by
  have hget : ({ s with windows := s.windows.insert name (windowTarget s.name name) } :
      TerminalSession).windows.get? name = some (windowTarget s.name name) := by simp
  simp [addWindow, h, hdir, bind, Except.bind, runCommand_eq hget]
  rfl

/-! ## Snapshots -/

theorem foldlM_snapshotEach (s : TerminalSession) (tmux : List String → String) :
    ∀ (l : List (String × String)) (snapshot : PyDict String),
      l ⊆ s.windows.entries → (snapshot.keys ++ l.map Prod.fst).Nodup →
      ∃ d, (l.map Prod.fst).foldlM (snapshotEach s tmux) snapshot = .ok d ∧
        d.entries = snapshot.entries ++ l.map fun e => (e.1, tmux (captureCall e.2 100))
  | [], snapshot, _, _ => ⟨snapshot, rfl, by simp⟩
  | (name, windowId) :: l, snapshot, hsub, hnd => by
      have hname : name ∉ snapshot.keys := fun h =>
        (List.nodup_middle.mp hnd).not_mem (List.mem_append_left _ h)
      have hget : s.windows.get? name = some windowId :=
        s.windows.get?_eq_some_iff.mpr (hsub (List.mem_cons_self _ _))
      obtain ⟨d, hfold, hentries⟩ := foldlM_snapshotEach s tmux l
        (snapshot.insert name (tmux (captureCall windowId 100)))
        (fun _ he => hsub (List.mem_cons_of_mem _ he))
        (by simpa [PyDict.keys_insert_of_not_mem _ _ hname] using hnd)
      refine ⟨d, ?_, by simp [hentries, PyDict.entries_insert_of_not_mem _ _ hname]⟩
      simpa [snapshotEach, captureOutput, hget] using hfold

/-- `snapshot` never raises: it maps every registered window, in registry
order, to its capture. -/
theorem snapshot_eq (s : TerminalSession) (tmux : List String → String) :
    s.snapshot tmux = .ok (s.windows.map fun _ windowId => tmux (captureCall windowId 100)) := by
  obtain ⟨d, hfold, hentries⟩ := foldlM_snapshotEach s tmux s.windows.entries PyDict.empty
    (fun _ h => h) (by simpa using s.windows.nodup)
  rw [snapshot, PyDict.keys, hfold]
  exact congrArg _ (PyDict.ext_entries (by simpa [PyDict.map] using hentries))

end TerminalSession

end MultiTerminal
