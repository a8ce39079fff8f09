import MultiTerminal.Session
import Mathlib.Tactic.IntervalCases

/-!
# Keystrokes out, window lists in

The two places where the session turns text into tmux arguments and back.

`send_keys` in literal mode is meant to type its argument "literally
without interpreting special keys" (its docstring), one `send-keys` per
character, space and newline by their key names. It does so for every
string except the two that `key_map` renames to another string before the
literal loop runs: `"Enter"` and `"Return"` are typed as `C-m`
(`sendKeys_literal_of_not_renamed`, `sendKeys_literal_enter`).

`list_windows` parses the output of `list-windows -F
'#{window_name}:#{window_id}:#{window_active}'` by stripping it, cutting
it into lines and each line at every `:`. This inverts tmux's encoding
(`formatWindows`) exactly when no name holds a `:` or a newline and the
first name does not start with whitespace (`listWindows_formatWindows`);
a name with a `:` comes back cut (`listWindows_colon_name`). Whatever tmux
prints, no record has a `:` or a newline in its name or id
(`listWindows_wellFormed`).

`add_window` with a split reads the new pane's id from `list-panes -F
'#{pane_id}'` the same way; for tmux's ids `%N` it gets the last pane
listed (`newPaneId_formatPanes`, `addWindow_split_formatPanes`).
-/

namespace MultiTerminal

open TerminalSession

/-! ## Literal keystrokes -/

theorem keyMap_lookup_of_not_renamed {keys : String} (henter : keys ≠ "Enter")
    (hreturn : keys ≠ "Return") : (keyMap.lookup keys).getD keys = keys := by
  simp only [keyMap, List.lookup_cons, List.lookup_nil]
  repeat' split
  all_goals first | rfl | simp_all

theorem sendKeys_literal_of_not_renamed {s : TerminalSession} {windowName windowId : String}
    (h : s.windows.get? windowName = some windowId) {keys : String} (henter : keys ≠ "Enter")
    (hreturn : keys ≠ "Return") :
    s.sendKeys windowName keys true =
      .ok (keys.toList.map fun c => ["send-keys", "-t", windowId, literalKey c]) := by
  rw [sendKeys_of_get? h, if_pos rfl, keyMap_lookup_of_not_renamed henter hreturn]

/-- `send_keys(w, "Enter", literal=True)` types `C`, `-`, `m`. -/
theorem sendKeys_literal_enter :
    (TerminalSession.mk "dev" "/src" (PyDict.empty.insert "editor" "dev:editor")).sendKeys
        "editor" "Enter" true =
      .ok [["send-keys", "-t", "dev:editor", "C"], ["send-keys", "-t", "dev:editor", "-"],
        ["send-keys", "-t", "dev:editor", "m"]] := by
  rfl

/-! ## Window lists -/

/-- How tmux prints `ws` for the format `#{window_name}:#{window_id}:#{window_active}`:
one line per window, the flag as `1` or `0`, each line ended by a newline. -/
def formatWindows (ws : List WindowInfo) : String :=
  String.join (ws.map fun w =>
    w.name ++ ":" ++ w.id ++ ":" ++ (if w.active then "1" else "0") ++ "\n")

/-- The characters of one window's line, without its newline. -/
def windowLine (w : WindowInfo) : List Char :=
  w.name.data ++ ':' :: (w.id.data ++ [':', if w.active then '1' else '0'])

theorem getLast?_windowLine (w : WindowInfo) :
    (windowLine w).getLast? = some (if w.active then '1' else '0') := by
  have hsnoc : windowLine w =
      (w.name.data ++ ':' :: (w.id.data ++ [':'])) ++ [if w.active then '1' else '0'] := by
    simp [windowLine]
  rw [hsnoc, List.getLast?_concat]

theorem formatWindows_data (ws : List WindowInfo) :
    (formatWindows ws).data = (ws.map fun w => windowLine w ++ ['\n']).flatten := by
  simp only [formatWindows, String.data_join, List.map_map]
  congr 1
  apply List.map_congr_left
  rintro ⟨name, id, active⟩ _
  cases active <;> simp [windowLine]

theorem flatten_map_append_singleton {α : Type} (x : α) :
    ∀ {ls : List (List α)}, ls ≠ [] → (ls.map (· ++ [x])).flatten = [x].intercalate ls ++ [x]
  | [], h => absurd rfl h
  | [a], _ => by simp [List.intercalate]
  | a :: b :: rest, _ => by
      have ih := flatten_map_append_singleton x (List.cons_ne_nil b rest)
      simp only [List.map_cons, List.flatten_cons] at ih ⊢
      rw [ih]
      simp [List.intercalate, List.intersperse_cons_cons]

theorem intercalate_cons_of_ne_nil {α : Type} (x : α) (a : List α) {rest : List (List α)}
    (h : rest ≠ []) : [x].intercalate (a :: rest) = a ++ x :: [x].intercalate rest := by
  obtain ⟨b, rest', rfl⟩ := List.exists_cons_of_ne_nil h
  simp [List.intercalate, List.intersperse_cons_cons]

theorem intercalate_concat {α : Type} (x : α) (a : List α) :
    ∀ rest : List (List α), ∃ t, [x].intercalate (rest ++ [a]) = t ++ a
  | [] => ⟨[], by simp [List.intercalate]⟩
  | b :: rest => by
      obtain ⟨t, ht⟩ := intercalate_concat x a rest
      exact ⟨b ++ x :: t, by
        rw [List.cons_append, intercalate_cons_of_ne_nil x b (by simp), ht]; simp⟩

theorem head?_intercalate {α : Type} (x : α) {a : List α} (ha : a ≠ []) :
    ∀ rest : List (List α), ([x].intercalate (a :: rest)).head? = a.head?
  | [] => by simp [List.intercalate]
  | b :: rest => by
      rw [intercalate_cons_of_ne_nil x a (List.cons_ne_nil b rest),
        List.head?_append_of_ne_nil _ ha]

theorem getLast?_intercalate {α : Type} (x : α) {a : List α} (ha : a ≠ [])
    (rest : List (List α)) : ([x].intercalate (rest ++ [a])).getLast? = a.getLast? := by
  obtain ⟨t, ht⟩ := intercalate_concat x a rest
  rw [ht, List.getLast?_append_of_ne_nil _ ha]

theorem windowLine_ne_nil (w : WindowInfo) : windowLine w ≠ [] := by simp [windowLine]

/-- A tmux window id: `@` and a decimal numeral. -/
def IsWindowId (id : String) : Prop :=
  ∃ digits : List Char, id = ⟨'@' :: digits⟩ ∧ digits ≠ [] ∧ ∀ c ∈ digits, c.isDigit

theorem IsWindowId.not_mem {id : String} (h : IsWindowId id) : ':' ∉ id.data ∧ '\n' ∉ id.data := by
  obtain ⟨digits, rfl, -, hd⟩ := h
  constructor <;> intro hm <;> rcases List.mem_cons.mp hm with hc | hc
  all_goals first | exact absurd hc (by decide) | exact absurd (hd _ hc) (by decide)

theorem parseWindowLine_windowLine {w : WindowInfo} (hname : ':' ∉ w.name.data)
    (hid : ':' ∉ w.id.data) : parseWindowLine ⟨windowLine w⟩ = some w := by
  have hsplit : (windowLine w).splitOn ':' =
      [w.name.data, w.id.data, [if w.active then '1' else '0']] := by
    have hn : ∀ c ∈ w.name.data, ¬(c == ':') = true := fun c hc he => hname (eq_of_beq he ▸ hc)
    have hi : ∀ c ∈ w.id.data, ¬(c == ':') = true := fun c hc he => hid (eq_of_beq he ▸ hc)
    simp only [windowLine, List.splitOn]
    rw [List.splitOnP_first _ _ hn ':' (by decide), List.splitOnP_first _ _ hi ':' (by decide)]
    cases w.active <;> rfl
  have hne : (⟨windowLine w⟩ : String) ≠ "" := by
    simp [windowLine, String.ext_iff]
  obtain ⟨name, id, active⟩ := w
  cases active <;> simp_all [parseWindowLine, pySplit]

section Listing

variable {ws : List WindowInfo}

theorem formatWindows_data_intercalate (hne : ws ≠ []) :
    (formatWindows ws).data = [('\n' : Char)].intercalate (ws.map windowLine) ++ ['\n'] := by
  rw [formatWindows_data, ← flatten_map_append_singleton _ (by simpa using hne), List.map_map]
  rfl

theorem head?_intercalate_windowLines (hne : ws ≠ [])
    (hfirst : ∀ w ∈ ws.head?, ∀ c ∈ w.name.data.head?, pyIsSpace c = false) :
    ∀ c ∈ ([('\n' : Char)].intercalate (ws.map windowLine)).head?, pyIsSpace c = false := by
  obtain ⟨w₀, rest, rfl⟩ := List.exists_cons_of_ne_nil hne
  rw [List.map_cons, head?_intercalate _ (windowLine_ne_nil w₀)]
  cases hn : w₀.name.data with
  | nil => simp [windowLine, hn]; decide
  | cons c _ => simpa [windowLine, hn] using hfirst w₀ rfl

theorem getLast?_intercalate_windowLines (hne : ws ≠ []) :
    ∀ c ∈ ([('\n' : Char)].intercalate (ws.map windowLine)).getLast?, pyIsSpace c = false := by
  obtain ⟨ws', wl, rfl⟩ := (List.eq_nil_or_concat ws).resolve_left hne
  rw [List.concat_eq_append, List.map_append, List.map_singleton,
    getLast?_intercalate _ (windowLine_ne_nil wl), getLast?_windowLine]
  rintro c ⟨⟩
  split <;> decide

theorem pyStrip_formatWindows (hne : ws ≠ [])
    (hfirst : ∀ w ∈ ws.head?, ∀ c ∈ w.name.data.head?, pyIsSpace c = false) :
    pyStrip (formatWindows ws) = ⟨[('\n' : Char)].intercalate (ws.map windowLine)⟩ := by
  rw [show formatWindows ws = ⟨(formatWindows ws).data⟩ from rfl,
      formatWindows_data_intercalate hne]
  exact pyStrip_append_space _ _ (head?_intercalate_windowLines hne hfirst)
    (getLast?_intercalate_windowLines hne) (by decide)

theorem pySplit_windowLines (hne : ws ≠ []) (hname : ∀ w ∈ ws, '\n' ∉ w.name.data)
    (hid : ∀ w ∈ ws, '\n' ∉ w.id.data) :
    pySplit ⟨[('\n' : Char)].intercalate (ws.map windowLine)⟩ '\n' =
      (ws.map windowLine).map String.mk := by
  rw [pySplit, List.splitOn_intercalate]
  · rintro l hl
    obtain ⟨w, hw, rfl⟩ := List.mem_map.mp hl
    simp only [windowLine, List.mem_append, List.mem_cons, List.mem_singleton, not_or]
    exact ⟨hname w hw, by decide, hid w hw, by decide, by split <;> decide, List.not_mem_nil _⟩
  · simpa using hne

end Listing

/-- `list_windows` reads back tmux's listing of windows with ids `@N`, when no
name holds a `:` or a newline and the first name does not start with
whitespace. -/
theorem listWindows_formatWindows (s : TerminalSession) (tmux : List String → String)
    (ws : List WindowInfo) (hout : tmux s.listWindowsCall = formatWindows ws)
    (hid : ∀ w ∈ ws, IsWindowId w.id)
    (hname : ∀ w ∈ ws, ':' ∉ w.name.data ∧ '\n' ∉ w.name.data)
    (hfirst : ∀ w ∈ ws.head?, ∀ c ∈ w.name.data.head?, pyIsSpace c = false) :
    s.listWindows tmux = ws := by
  rcases eq_or_ne ws [] with rfl | hne
  · rw [listWindows, hout]; rfl
  rw [listWindows, hout, pyStrip_formatWindows hne hfirst,
    pySplit_windowLines hne (fun w hw => (hname w hw).2) (fun w hw => (hid w hw).not_mem.2),
    List.map_map, List.filterMap_map]
  conv_rhs => rw [← List.filterMap_some ws]
  exact List.filterMap_congr fun w hw =>
    parseWindowLine_windowLine (hname w hw).1 (hid w hw).not_mem.1

/-- Whatever tmux prints, every record `list_windows` returns has a name and
an id holding neither a `:` nor a newline. -/
theorem listWindows_wellFormed (s : TerminalSession) (tmux : List String → String) :
    ∀ w ∈ s.listWindows tmux, ':' ∉ w.name.data ∧ ':' ∉ w.id.data ∧
      '\n' ∉ w.name.data ∧ '\n' ∉ w.id.data := by
  intro w hw
  obtain ⟨line, hline, hparse⟩ := List.mem_filterMap.mp hw
  have hnl : '\n' ∉ line.data := fun h => (mem_of_mem_pySplit hline _ h).2 rfl
  unfold parseWindowLine at hparse
  split_ifs at hparse
  split at hparse
  · next name id rest hsplit =>
      cases hparse
      have hname : ∀ a ∈ name.data, a ∈ line.data ∧ a ≠ ':' :=
        mem_of_mem_pySplit (by simp [hsplit])
      have hid : ∀ a ∈ id.data, a ∈ line.data ∧ a ≠ ':' := mem_of_mem_pySplit (by simp [hsplit])
      exact ⟨fun h => (hname _ h).2 rfl, fun h => (hid _ h).2 rfl, fun h => hnl (hname _ h).1,
        fun h => hnl (hid _ h).1⟩
  · cases hparse

theorem listWindows_wellFormed_colon :
    (⟨"api", "v2", false⟩ : WindowInfo) ∈
        (TerminalSession.mk "dev" "/src" PyDict.empty).listWindows (fun _ => "api:v2:@1:1\n") ∧
      ':' ∉ "api".data ∧ ':' ∉ "v2".data ∧ '\n' ∉ "api".data ∧ '\n' ∉ "v2".data := by
  have hmem : (⟨"api", "v2", false⟩ : WindowInfo) ∈
      (TerminalSession.mk "dev" "/src" PyDict.empty).listWindows (fun _ => "api:v2:@1:1\n") := by
    decide
  exact ⟨hmem, listWindows_wellFormed _ _ _ hmem⟩

theorem listWindows_editor_server :
    (TerminalSession.mk "dev" "/src" PyDict.empty).listWindows
        (fun _ => formatWindows [⟨"editor", "@0", true⟩, ⟨"server", "@1", false⟩]) =
      [⟨"editor", "@0", true⟩, ⟨"server", "@1", false⟩] :=
  listWindows_formatWindows _ _ _ rfl
    (fun w hw => by
      simp only [List.mem_cons, List.mem_singleton, List.not_mem_nil, or_false] at hw
      rcases hw with rfl | rfl <;> exact ⟨_, rfl, by simp, by decide⟩)
    (by decide) (by decide)

/-- A name holding a `:` comes back cut at it, with the id in the name's
place and the flag lost. -/
theorem listWindows_colon_name :
    (TerminalSession.mk "dev" "/src" PyDict.empty).listWindows
        (fun _ => formatWindows [⟨"api:v2", "@1", true⟩]) =
      [⟨"api", "v2", false⟩] := by
  decide

/-! ## Pane ids

On the split path `add_window` reads the new pane's id as the last line of
`list-panes -F '#{pane_id}'`, stripped. For tmux's ids `%N` this is the
last pane listed (`newPaneId_formatPanes`). -/

/-- How tmux prints pane ids for the format `#{pane_id}`: one per line, each
line ended by a newline. -/
def formatPanes (ids : List String) : String := String.join (ids.map (· ++ "\n"))

/-- A tmux pane id: `%` and a decimal numeral. -/
def IsPaneId (id : String) : Prop :=
  ∃ digits : List Char, id = ⟨'%' :: digits⟩ ∧ digits ≠ [] ∧ ∀ c ∈ digits, c.isDigit

theorem pyIsSpace_of_isDigit {c : Char} (h : c.isDigit = true) : pyIsSpace c = false := by
  have hn : 48 ≤ c.toNat ∧ c.toNat ≤ 57 := by
    simp only [Char.isDigit, Bool.and_eq_true, decide_eq_true_eq, UInt32.le_def,
      BitVec.le_def] at h
    exact h
  rw [← Char.ofNat_toNat c]
  obtain ⟨h₁, h₂⟩ := hn
  generalize c.toNat = n at h₁ h₂ ⊢
  interval_cases n <;> decide

theorem IsPaneId.ends {id : String} (h : IsPaneId id) :
    id.data ≠ [] ∧ (∀ c ∈ id.data.head?, pyIsSpace c = false) ∧
      (∀ c ∈ id.data.getLast?, pyIsSpace c = false) ∧ '\n' ∉ id.data := by
  obtain ⟨digits, rfl, hne, hd⟩ := h
  obtain ⟨d, ds, rfl⟩ := List.exists_cons_of_ne_nil hne
  refine ⟨List.cons_ne_nil _ _, by simp; decide, fun c hc => ?_, fun hm => ?_⟩
  · rw [List.getLast?_cons_cons] at hc
    exact pyIsSpace_of_isDigit (hd c (List.mem_of_getLast?_eq_some hc))
  · rcases List.mem_cons.mp hm with hc | hc
    · exact absurd hc (by decide)
    · exact absurd (hd _ hc) (by decide)

theorem newPaneId_formatPanes {ids : List String} (hne : ids ≠ [])
    (hid : ∀ id ∈ ids, IsPaneId id) : newPaneId (formatPanes ids) = ids.getLast hne := by
  have hdata : (formatPanes ids).data =
      [('\n' : Char)].intercalate (ids.map String.data) ++ ['\n'] := by
    rw [← flatten_map_append_singleton _ (by simpa using hne), formatPanes, String.data_join,
      List.map_map, List.map_map]
    exact congrArg List.flatten (List.map_congr_left fun id _ => String.data_append id "\n")
  have hhead : ∀ c ∈ ([('\n' : Char)].intercalate (ids.map String.data)).head?,
      pyIsSpace c = false := by
    obtain ⟨first, rest, rfl⟩ := List.exists_cons_of_ne_nil hne
    rw [List.map_cons, head?_intercalate _ (hid first (List.mem_cons_self _ _)).ends.1]
    exact (hid first (List.mem_cons_self _ _)).ends.2.1
  have hlast : ∀ c ∈ ([('\n' : Char)].intercalate (ids.map String.data)).getLast?,
      pyIsSpace c = false := by
    obtain ⟨ids', last, rfl⟩ := (List.eq_nil_or_concat ids).resolve_left hne
    have hl := (hid last (by simp)).ends
    rw [List.concat_eq_append, List.map_append, List.map_singleton,
      getLast?_intercalate _ hl.1]
    exact hl.2.2.1
  rw [newPaneId, show formatPanes ids = ⟨(formatPanes ids).data⟩ from rfl, hdata,
    pyStrip_append_space _ _ hhead hlast (by decide), pySplit, List.splitOn_intercalate]
  · simp [List.map_map, List.getLast?_eq_getLast _ hne]
  · intro l hl
    obtain ⟨id, hmem, rfl⟩ := List.mem_map.mp hl
    exact (hid id hmem).ends.2.2.2
  · simpa using hne

/-- With `split=True` on a registry that is not empty and a directory that
expands to `dir`, when tmux answers `list-panes` with its pane ids `%N`,
`add_window` on a new name splits the most recently added window and
registers the name under the last pane listed, then types the command into
it. -/
theorem addWindow_split_formatPanes (host : Host) {s : TerminalSession} {name : String}
    (h : name ∉ s.windows.keys) {lastWindow : String}
    (hlast : s.windows.values.getLast? = some lastWindow) (command splitDirection : String)
    {workingDir : Option String} {dir : String} (hdir : targetDir host s workingDir = .ok dir)
    (tmux : List String → String) {ids : List String} (hne : ids ≠ [])
    (hid : ∀ id ∈ ids, IsPaneId id) (hout : tmux (listPanesCall s.name) = formatPanes ids) :
    s.addWindow host name command true splitDirection workingDir tmux =
      .ok (windowTarget s.name (ids.getLast hne),
        { s with windows := s.windows.insert name (windowTarget s.name (ids.getLast hne)) },
        ["split-window", splitFlag splitDirection, "-t", lastWindow, "-c", dir] ::
          listPanesCall s.name :: commandCalls (windowTarget s.name (ids.getLast hne)) command) := by
  have hplace : s.placeWindow name true splitDirection dir tmux =
      (windowTarget s.name (ids.getLast hne), [["split-window", splitFlag splitDirection, "-t",
        lastWindow, "-c", dir], listPanesCall s.name]) := by
    simp [placeWindow, hlast, hout, newPaneId_formatPanes hne hid]
  have hget : ({ s with windows := s.windows.insert name (windowTarget s.name (ids.getLast hne)) } :
      TerminalSession).windows.get? name = some (windowTarget s.name (ids.getLast hne)) := by simp
  simp [addWindow, h, hdir, bind, Except.bind, hplace, runCommand_eq hget]
  rfl

theorem addWindow_split_formatPanes_server :
    (TerminalSession.mk "dev" "/src" (PyDict.empty.insert "editor" "dev:editor")).addWindow
        Host.literal "server" "npm run dev" true "vertical" none (fun _ => formatPanes ["%0", "%3"]) =
      .ok ("dev:%3", ⟨"dev", "/src", (PyDict.empty.insert "editor" "dev:editor").insert "server"
          "dev:%3"⟩,
        [["split-window", "-v", "-t", "dev:editor", "-c", "/src"],
          ["list-panes", "-t", "dev", "-F", "#{pane_id}"], ["send-keys", "-t", "dev:%3", "npm run dev"],
          ["send-keys", "-t", "dev:%3", "C-m"]]) := by
  have hid : ∀ id ∈ ["%0", "%3"], IsPaneId id := by
    simp only [List.mem_cons, List.mem_singleton, List.not_mem_nil, or_false]
    rintro id (rfl | rfl) <;> exact ⟨_, rfl, by simp, by decide⟩
  exact addWindow_split_formatPanes Host.literal
    (s := ⟨"dev", "/src", PyDict.empty.insert "editor" "dev:editor"⟩) (by decide) rfl
    "npm run dev" "vertical" (targetDir_none _ _) _ (List.cons_ne_nil _ _) hid rfl

end MultiTerminal
