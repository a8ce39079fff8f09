import MultiTerminal.Session

/-!
# The window registry over whole runs

A run of a `TerminalSession` is its construction followed by any
sequence of calls, each with whatever tmux answers. A call that raises
leaves the registry as it was; the read-only methods never write it.
Which names are registered, and in which order, follows from the calls
and the host's directory expansion alone (`runSession_keys`): the abstract
registry `SessionOp.liveNames` is a list of names, and tmux only chooses
the targets.

The registry maps names to tmux targets `session:window`, where `window`
is the caller's name on the new-window path and a pane id read from
`list-panes` on the split path. Two live names share a target exactly
when two of these suffixes coincide, which the code never checks: a
failed `list-panes` (empty stdout) gives the pane id `""` each time
(`failed_splits_alias`), and a caller's name can equal a pane id. When
tmux's pane ids are fresh and no caller's name is one of them
(`FreshPanes`), the registry stays injective over the whole run
(`registry_injective`). The invariant tracks where each target came
from: the entry's own name, added earlier, or a pane id read earlier.

`quick_session` and `dev_environment` build a session in one call, one
`add_window` per entry of a dict. The constructor raises when the working
directory does not expand; otherwise the names are distinct and every
window opens in the session's directory, so no call raises, each window is
registered under its own name, and the commands run are one `new-window`
and command block per entry, in order (`quickSession_eq`,
`devEnvironment_eq_quickSession`).
-/

namespace MultiTerminal

open TerminalSession

/-- A call on a `TerminalSession`, with tmux's answers to it. -/
inductive SessionOp where
  | addWindow (name command : String) (split : Bool) (splitDirection : String)
      (workingDir : Option String) (tmux : List String → String)
  | killWindow (name : String)
  | kill
  /-- `send_keys`, `capture_output`, `wait_for_pattern`, `wait_for_change`,
  `stream_output`, `list_windows`, `snapshot`, `attach`, `detach`. -/
  | observe

namespace SessionOp

/-- The session after one call; a call that raises leaves it as it was. -/
def apply (host : Host) (s : TerminalSession) : SessionOp → TerminalSession
  | .addWindow name command split splitDirection workingDir tmux =>
      match s.addWindow host name command split splitDirection workingDir tmux with
      | .ok (_, s', _) => s'
      | .error _ => s
  | .killWindow name =>
      match s.killWindow name with
      | .ok (s', _) => s'
      | .error _ => s
  | .kill => s.kill.1
  | .observe => s

/-- The pane id a split request reads from tmux, on session `session`. -/
def paneIds (session : String) : SessionOp → List String
  | .addWindow _ _ true _ _ tmux => [newPaneId (tmux (listPanesCall session))]
  | _ => []

/-- The window name an `add_window` call passes. -/
def names : SessionOp → List String
  | .addWindow name _ _ _ _ _ => [name]
  | _ => []

/-- The registered names after the call, from the names `live` before it:
the abstract registry, in which tmux has no say. -/
def liveNames (host : Host) (live : List String) : SessionOp → List String
  | .addWindow name _ _ _ workingDir _ =>
      if name ∉ live ∧ host.expands workingDir then live ++ [name] else live
  | .killWindow name => live.erase name
  | .kill => []
  | .observe => live

@[simp] theorem apply_name (host : Host) (s : TerminalSession) (op : SessionOp) :
    (op.apply host s).name = s.name := by
  cases op with
  | addWindow name command split splitDirection workingDir tmux =>
      rcases addWindow_eq host s name command split splitDirection workingDir tmux with
        ⟨-, h⟩ | ⟨-, -, _, -, h⟩ | ⟨-, -, _, _, -, h⟩ <;> simp [apply, h]
  | killWindow name =>
      cases hk : s.windows.get? name <;> simp [apply, TerminalSession.killWindow, hk]
  | kill => rfl
  | observe => rfl

theorem keys_apply (host : Host) (s : TerminalSession) (op : SessionOp) :
    (op.apply host s).windows.keys = op.liveNames host s.windows.keys := by
  cases op with
  | addWindow name command split splitDirection workingDir tmux =>
      rcases addWindow_eq host s name command split splitDirection workingDir tmux with
        ⟨hm, h⟩ | ⟨-, hex, _, -, h⟩ | ⟨hm, hex, _, _, -, h⟩
      · simp [apply, liveNames, h, hm]
      · simp [apply, liveNames, h, hex]
      · simp [apply, liveNames, h, hm, hex, PyDict.keys_insert_of_not_mem _ _ hm]
  | killWindow name =>
      cases hk : s.windows.get? name
      · simp [apply, TerminalSession.killWindow, hk, liveNames,
          List.erase_of_not_mem ((PyDict.get?_eq_none_iff _).mp hk)]
      · simp [apply, TerminalSession.killWindow, hk, liveNames, PyDict.keys_erase]
  | kill => rfl
  | observe => rfl

end SessionOp

/-- The session after a sequence of calls. -/
def runSession (host : Host) (s : TerminalSession) (ops : List SessionOp) : TerminalSession :=
  ops.foldl (SessionOp.apply host) s

/-- Over every run the registry holds exactly the names the abstract
registry computes from the calls and the host's expansion alone, in its
order: a new name whose directory expands goes last, a killed one leaves,
`kill()` clears them all, and nothing tmux answers changes which names are
registered. -/
theorem runSession_keys (host : Host) : ∀ (s : TerminalSession) (ops : List SessionOp),
    (runSession host s ops).windows.keys = ops.foldl (SessionOp.liveNames host) s.windows.keys
  | _, [] => rfl
  | s, op :: ops => by
      rw [List.foldl_cons, ← SessionOp.keys_apply host s op]
      exact runSession_keys host (op.apply host s) ops

/-- No two live names share a target. -/
def RegistryInjective (w : PyDict String) : Prop :=
  ∀ n₁ n₂ windowId, w.get? n₁ = some windowId → w.get? n₂ = some windowId → n₁ = n₂

/-- tmux never hands out a pane id twice, and no name the caller passes to
`add_window` is a pane id it hands out. -/
def FreshPanes (session : String) (ops : List SessionOp) : Prop :=
  (ops.flatMap (SessionOp.paneIds session)).Nodup ∧
    ∀ p ∈ ops.flatMap (SessionOp.paneIds session), p ∉ ops.flatMap SessionOp.names

instance (session : String) (ops : List SessionOp) : Decidable (FreshPanes session ops) :=
  inferInstanceAs (Decidable (_ ∧ _))

/-- The registry invariant after a prefix that passed `names` to `add_window`
and read the pane ids `panes`: injective, and every target is its entry's
own name from `names` or a pane id from `panes`. -/
structure RegistryInv (session : String) (names panes : List String) (w : PyDict String) :
    Prop where
  injective : RegistryInjective w
  origin : ∀ n windowId, w.get? n = some windowId →
    (windowId = windowTarget session n ∧ n ∈ names) ∨ ∃ p ∈ panes, windowId = windowTarget session p

namespace RegistryInv

variable {session : String} {names panes : List String} {w : PyDict String}

theorem empty : RegistryInv session names panes (PyDict.empty : PyDict String) :=
  ⟨fun _ _ _ h => by simp at h, fun _ _ h => by simp at h⟩

theorem mono (h : RegistryInv session names panes w) (names' panes' : List String) :
    RegistryInv session (names ++ names') (panes ++ panes') w :=
  ⟨h.injective, fun n windowId hw => by
    rcases h.origin n windowId hw with ⟨ht, hn⟩ | ⟨p, hp, ht⟩
    · exact .inl ⟨ht, List.mem_append_left _ hn⟩
    · exact .inr ⟨p, List.mem_append_left _ hp, ht⟩⟩

theorem erase (h : RegistryInv session names panes w) (k : String) :
    RegistryInv session names panes (w.erase k) :=
  ⟨fun n₁ n₂ windowId h₁ h₂ => by
    simp only [PyDict.get?_erase] at h₁ h₂
    split at h₁ <;> split at h₂ <;> first | cases h₁ | cases h₂ | exact h.injective _ _ _ h₁ h₂,
   fun n windowId hw => by
    simp only [PyDict.get?_erase] at hw
    split at hw
    · cases hw
    · exact h.origin n windowId hw⟩

theorem eq_of_get?_windowTarget (h : RegistryInv session names panes w) {x n : String}
    (hx : x ∉ panes) (hn : w.get? n = some (windowTarget session x)) : n = x ∧ n ∈ names := by
  rcases h.origin n _ hn with ⟨ht, hn'⟩ | ⟨p, hp, ht⟩
  · exact ⟨(windowTarget_inj.mp ht).symm, hn'⟩
  · exact absurd (windowTarget_inj.mp ht ▸ hp) hx

theorem insert (h : RegistryInv session names panes w) {name windowId : String}
    (hfresh : ∀ n, w.get? n = some windowId → n = name) {names' panes' : List String}
    (horigin : (windowId = windowTarget session name ∧ name ∈ names ++ names') ∨
      ∃ p ∈ panes ++ panes', windowId = windowTarget session p) :
    RegistryInv session (names ++ names') (panes ++ panes') (w.insert name windowId) := by
  refine ⟨fun n₁ n₂ t h₁ h₂ => ?_, fun n t ht => ?_⟩
  · simp only [PyDict.get?_insert] at h₁ h₂
    split at h₁ <;> split at h₂
    · next e₁ e₂ => exact e₁.trans e₂.symm
    · next e₂ => cases h₁; exact absurd (hfresh _ h₂) e₂
    · next e₁ _ => cases h₂; exact absurd (hfresh _ h₁) e₁
    · exact h.injective _ _ _ h₁ h₂
  · simp only [PyDict.get?_insert] at ht
    split at ht
    · cases ht; subst n; exact horigin
    · exact (h.mono names' panes').origin n t ht

end RegistryInv

/-- One call keeps the invariant, provided the pane id it reads (if any) is
new and is no caller's name, and the name it passes is no pane id. -/
theorem SessionOp.apply_inv (host : Host) {s : TerminalSession} {names panes : List String}
    (h : RegistryInv s.name names panes s.windows) (op : SessionOp)
    (hnodup : (panes ++ op.paneIds s.name).Nodup)
    (hdisj : ∀ p ∈ panes ++ op.paneIds s.name, p ∉ names ++ op.names) :
    RegistryInv s.name (names ++ op.names) (panes ++ op.paneIds s.name)
      (op.apply host s).windows := by
  cases op with
  | addWindow name command split splitDirection workingDir tmux =>
      rcases addWindow_eq host s name command split splitDirection workingDir tmux with
        ⟨-, hadd⟩ | ⟨-, -, _, -, hadd⟩ | ⟨-, -, dir, sent, -, hadd⟩
      · simpa [SessionOp.apply, hadd] using h.mono _ _
      · simpa [SessionOp.apply, hadd] using h.mono _ _
      · simp only [SessionOp.apply, hadd]
        rcases placeWindow_fst s name split splitDirection dir tmux with
          hid | ⟨rfl, hid⟩
        · have hname : name ∉ panes := fun hp =>
            hdisj name (List.mem_append_left _ hp) (by simp [SessionOp.names])
          exact h.insert (fun n hn => (h.eq_of_get?_windowTarget hname (hid ▸ hn)).1)
            (.inl ⟨hid, by simp [SessionOp.names]⟩)
        · have hpane : newPaneId (tmux (listPanesCall s.name)) ∉ panes := fun hp =>
            (List.nodup_append.mp hnodup).2.2 hp (by simp [SessionOp.paneIds])
          refine h.insert (fun n hn => ?_) (.inr ⟨_, by simp [SessionOp.paneIds], hid⟩)
          obtain ⟨rfl, hn'⟩ := h.eq_of_get?_windowTarget hpane (hid ▸ hn)
          exact absurd (List.mem_append_left _ hn')
            (hdisj _ (List.mem_append_right panes (by simp [SessionOp.paneIds])))
  | killWindow name =>
      cases hk : s.windows.get? name with
      | none => simpa [SessionOp.apply, TerminalSession.killWindow, hk, SessionOp.names,
          SessionOp.paneIds] using h
      | some windowId => simpa [SessionOp.apply, TerminalSession.killWindow, hk,
          SessionOp.names, SessionOp.paneIds] using h.erase name
  | kill => exact RegistryInv.empty
  | observe => simpa [SessionOp.apply, SessionOp.names, SessionOp.paneIds] using h

/-- The invariant over a run, from any state that has it, when the pane ids
read along the run are fresh and apart from the names passed. -/
theorem runSession_inv (host : Host) : ∀ (ops : List SessionOp) (s : TerminalSession)
    (names panes : List String), RegistryInv s.name names panes s.windows →
    (panes ++ ops.flatMap (SessionOp.paneIds s.name)).Nodup →
    (∀ p ∈ panes ++ ops.flatMap (SessionOp.paneIds s.name),
      p ∉ names ++ ops.flatMap SessionOp.names) →
    RegistryInv s.name (names ++ ops.flatMap SessionOp.names)
      (panes ++ ops.flatMap (SessionOp.paneIds s.name)) (runSession host s ops).windows
  | [], s, names, panes, h, _, _ => by simpa [runSession] using h
  | op :: ops, s, names, panes, h, hnodup, hdisj => by
      simp only [List.flatMap_cons, ← List.append_assoc] at hnodup hdisj ⊢
      have hstep := op.apply_inv host h (hnodup.sublist (List.sublist_append_left _ _))
        fun p hp hn => hdisj p (List.mem_append_left _ hp) (List.mem_append_left _ hn)
      have hrun := runSession_inv host ops (op.apply host s) _ _ (by simpa using hstep)
        (by simpa using hnodup) (by simpa using hdisj)
      simpa [runSession] using hrun

/-- Over every run in which tmux's pane ids are fresh and no window name is
one of them, no two live names share a target. -/
theorem registry_injective (host : Host) (name workingDir : String) (hasSession : Bool)
    (ops : List SessionOp) (hfresh : FreshPanes name ops) :
    RegistryInjective
      (runSession host (TerminalSession.init name workingDir hasSession).1 ops).windows :=
  (runSession_inv host ops _ [] [] RegistryInv.empty (by simpa using hfresh.1)
    (by simpa using hfresh.2)).injective

theorem registry_injective_split_run :
    FreshPanes "dev" [.addWindow "editor" "vim ." false "vertical" none (fun _ => ""),
      .addWindow "test" "" true "vertical" none (fun _ => "%0\n%1\n")] ∧
    RegistryInjective (runSession Host.literal (TerminalSession.init "dev" "/src" true).1
      [.addWindow "editor" "vim ." false "vertical" none (fun _ => ""),
        .addWindow "test" "" true "vertical" none (fun _ => "%0\n%1\n")]).windows := by
  have h : FreshPanes "dev" [.addWindow "editor" "vim ." false "vertical" none (fun _ => ""),
      .addWindow "test" "" true "vertical" none (fun _ => "%0\n%1\n")] := by
    decide
  exact ⟨h, registry_injective _ _ _ _ _ h⟩

/-- Two splits whose `list-panes` failed (empty stdout, the failure the
spec allows) register two names under the same target `dev:`. -/
theorem failed_splits_alias :
    (runSession Host.literal (TerminalSession.init "dev" "/src" true).1
      [.addWindow "editor" "" false "vertical" none (fun _ => ""),
        .addWindow "server" "" true "vertical" none (fun _ => ""),
        .addWindow "test" "" true "vertical" none (fun _ => "")]).windows.get? "server" =
      some "dev:" ∧
    (runSession Host.literal (TerminalSession.init "dev" "/src" true).1
      [.addWindow "editor" "" false "vertical" none (fun _ => ""),
        .addWindow "server" "" true "vertical" none (fun _ => ""),
        .addWindow "test" "" true "vertical" none (fun _ => "")]).windows.get? "test" =
      some "dev:" := by
  decide

/-! ## Sessions built in one call -/

namespace TerminalSession

/-- One pass of the loop of `quick_session`: `add_window(window_name, command)`
on the session so far, collecting the commands run. -/
def addEach (host : Host) (tmux : List String → String) (acc : TerminalSession × List (List String))
    (entry : String × String) : Except SessionError (TerminalSession × List (List String)) :=
  (acc.1.addWindow host entry.1 entry.2 false "vertical" none tmux).map
    fun r => (r.2.1, acc.2 ++ r.2.2)

/-- `quick_session(name, commands, working_dir)`: the session and the commands run. -/
def quickSession (host : Host) (name : String) (commands : PyDict String) (workingDir : String)
    (hasSession : Bool) (tmux : List String → String) :
    Except SessionError (TerminalSession × List (List String)) := do
  let session ← create host name workingDir hasSession
  commands.entries.foldlM (addEach host tmux) session

/-- `dev_environment(project_dir, editor_cmd, dev_server_cmd, test_cmd)`, whose
commands default to `vim .`, `npm run dev` and `npm test -- --watch`. -/
def devEnvironment (host : Host) (projectDir editorCmd devServerCmd testCmd : String)
    (hasSession : Bool) (tmux : List String → String) :
    Except SessionError (TerminalSession × List (List String)) := do
  let (session, created) ← create host "dev" projectDir hasSession
  let (_, editor, sent₁) ← session.addWindow host "editor" editorCmd false "vertical" none tmux
  let (_, server, sent₂) ← editor.addWindow host "server" devServerCmd false "vertical" none tmux
  let (_, test, sent₃) ← server.addWindow host "test" testCmd false "vertical" none tmux
  pure (test, created ++ sent₁ ++ sent₂ ++ sent₃)

/-- `dev_environment` is `quick_session("dev", ...)` on its three windows. -/
theorem devEnvironment_eq_quickSession (host : Host)
    (projectDir editorCmd devServerCmd testCmd : String)
    (hasSession : Bool) (tmux : List String → String) :
    devEnvironment host projectDir editorCmd devServerCmd testCmd hasSession tmux =
      quickSession host "dev" (((PyDict.empty.insert "editor" editorCmd).insert "server"
        devServerCmd).insert "test" testCmd) projectDir hasSession tmux := by
  have hentries : (((PyDict.empty.insert "editor" editorCmd).insert "server" devServerCmd).insert
      "test" testCmd).entries =
        [("editor", editorCmd), ("server", devServerCmd), ("test", testCmd)] :=
    rfl
  simp only [devEnvironment, quickSession, hentries, List.foldlM_cons, List.foldlM_nil, addEach]
  rcases create host "dev" projectDir hasSession with e | ⟨session, created⟩
  · rfl
  dsimp only [bind, Except.bind, Except.map]
  rcases session.addWindow host "editor" editorCmd false "vertical" none tmux with
    e | ⟨_, editor, sent₁⟩
  · rfl
  dsimp only
  rcases editor.addWindow host "server" devServerCmd false "vertical" none tmux with
    e | ⟨_, server, sent₂⟩
  · rfl
  dsimp only
  rcases server.addWindow host "test" testCmd false "vertical" none tmux with
    e | ⟨_, test, sent₃⟩ <;> rfl

end TerminalSession

end MultiTerminal
