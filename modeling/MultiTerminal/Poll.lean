import MultiTerminal.Session
import Mathlib.Algebra.Order.Archimedean.Basic
import Mathlib.Tactic.Linarith

/-!
# Polling against a clock

`wait_for_pattern` and `wait_for_change` are `while` loops on the wall
clock: each pass reads `time.time()`, compares it with the deadline,
captures the window and sleeps `interval`. Time is rational; `time.time()`
reads the clock, a capture takes no time, and `sleep now d` is the clock
reading when `time.sleep(d)` started at `now` returns. Under
`exactSleep` the clock advances by exactly `d`; the termination results
only need it to advance by at least the interval. tmux's answer to a
capture is a function of the time it is taken.

The loops are not structurally recursive in the source, so the model
gives them fuel: `none` means the fuel ran out, and a loop that returns
with some fuel returns the same with more (`patternLoop_mono`), so "the
call returns `r`" is "some fuel gives `r`".

The two loops differ in order. `wait_for_pattern` captures before it
sleeps, so its captures fall at `start + k * interval` for
`k * interval < timeout` and none after the last sleep: a pattern that
appears in that last interval is missed (`waitForPattern_misses_late_match`).
`wait_for_change` sleeps before it captures, so its last capture falls at
or after the deadline, and a change from any time before the deadline on
is seen (`waitForChange_exact`).

Neither loop outlives its deadline by more than one sleep: each returns
where it started or right after a sleep begun before the deadline, so on
a clock whose sleeps overrun by at most `ε` a wait blocks at most
`timeout + interval + ε` (`waits_le`).
-/

namespace MultiTerminal

section Loops

variable (found : ℚ → Bool) (wake : ℚ → ℚ) (startTime timeout : ℚ)

/-- The `while` loop of `wait_for_pattern` at clock reading `now`: return
`True` when the capture at `now` matches, else sleep and go round; `False`
once the deadline has passed. The result carries the clock at return. -/
def patternLoop : ℕ → ℚ → Option (Bool × ℚ)
  | 0, _ => none
  | fuel + 1, now =>
      if now - startTime < timeout then
        if found now then some (true, now) else patternLoop fuel (wake now)
      else some (false, now)

/-- The `while` loop of `wait_for_change`: sleep first, then compare the
capture at the wake-up time with the initial one. -/
def changeLoop : ℕ → ℚ → Option (Bool × ℚ)
  | 0, _ => none
  | fuel + 1, now =>
      if now - startTime < timeout then
        if found (wake now) then some (true, wake now) else changeLoop fuel (wake now)
      else some (false, now)

/-! ## Fuel -/

theorem patternLoop_succ {n : ℕ} {now : ℚ} {r : Bool × ℚ}
    (h : patternLoop found wake startTime timeout n now = some r) :
    patternLoop found wake startTime timeout (n + 1) now = some r := by
  induction n generalizing now with
  | zero => simp [patternLoop] at h
  | succ n ih =>
      unfold patternLoop at h ⊢
      split_ifs at h ⊢
      · exact h
      · exact ih h
      · exact h

theorem changeLoop_eq_patternLoop : ∀ (n : ℕ) (now : ℚ),
    changeLoop found wake startTime timeout n now =
      (patternLoop (fun t => found (wake t)) wake startTime timeout n now).map
        fun r => if r.1 then (true, wake r.2) else r
  | 0, _ => rfl
  | n + 1, now => by
      unfold changeLoop patternLoop
      split_ifs <;> simp [changeLoop_eq_patternLoop n]

theorem changeLoop_succ {n : ℕ} {now : ℚ} {r : Bool × ℚ}
    (h : changeLoop found wake startTime timeout n now = some r) :
    changeLoop found wake startTime timeout (n + 1) now = some r := by
  rw [changeLoop_eq_patternLoop] at h ⊢
  obtain ⟨r', hr', rfl⟩ := Option.map_eq_some'.mp h
  rw [patternLoop_succ _ _ _ _ hr']
  rfl

theorem patternLoop_mono {n n' : ℕ} {now : ℚ} {r : Bool × ℚ}
    (h : patternLoop found wake startTime timeout n now = some r) (hle : n ≤ n') :
    patternLoop found wake startTime timeout n' now = some r := by
  induction hle with
  | refl => exact h
  | step _ ih => exact patternLoop_succ found wake startTime timeout ih

theorem changeLoop_mono {n n' : ℕ} {now : ℚ} {r : Bool × ℚ}
    (h : changeLoop found wake startTime timeout n now = some r) (hle : n ≤ n') :
    changeLoop found wake startTime timeout n' now = some r := by
  induction hle with
  | refl => exact h
  | step _ ih => exact changeLoop_succ found wake startTime timeout ih

theorem patternLoop_unique {n n' : ℕ} {now : ℚ} {r r' : Bool × ℚ}
    (h : patternLoop found wake startTime timeout n now = some r)
    (h' : patternLoop found wake startTime timeout n' now = some r') : r = r' := by
  have h₁ := patternLoop_mono found wake startTime timeout h (le_max_left n n')
  rw [patternLoop_mono found wake startTime timeout h' (le_max_right n n')] at h₁
  exact (Option.some.inj h₁).symm

theorem changeLoop_unique {n n' : ℕ} {now : ℚ} {r r' : Bool × ℚ}
    (h : changeLoop found wake startTime timeout n now = some r)
    (h' : changeLoop found wake startTime timeout n' now = some r') : r = r' := by
  have h₁ := changeLoop_mono found wake startTime timeout h (le_max_left n n')
  rw [changeLoop_mono found wake startTime timeout h' (le_max_right n n')] at h₁
  exact (Option.some.inj h₁).symm

/-! ## What a `True` rests on

On every clock, the pattern loop says `True` only at a pass before the
deadline whose capture matched; the change loop only on the capture taken
after a sleep begun before the deadline. -/

theorem patternLoop_true : ∀ {n : ℕ} {now t : ℚ},
    patternLoop found wake startTime timeout n now = some (true, t) →
      found t = true ∧ t - startTime < timeout
  | 0, _, _, h => by simp [patternLoop] at h
  | n + 1, now, t, h => by
      unfold patternLoop at h
      split_ifs at h with hlt hfound
      · cases h
        exact ⟨hfound, hlt⟩
      · exact patternLoop_true h
      · cases h

theorem changeLoop_true {n : ℕ} {now t : ℚ}
    (h : changeLoop found wake startTime timeout n now = some (true, t)) :
    found t = true ∧ ∃ t₀, t = wake t₀ ∧ t₀ - startTime < timeout := by
  rw [changeLoop_eq_patternLoop] at h
  obtain ⟨⟨b, t₀⟩, hr, heq⟩ := Option.map_eq_some'.mp h
  cases b
  · simp at heq
  · obtain rfl : wake t₀ = t := by simpa using heq
    exact ⟨(patternLoop_true _ _ _ _ hr).1, t₀, rfl, (patternLoop_true _ _ _ _ hr).2⟩

theorem patternLoop_false : ∀ {n : ℕ} {now x : ℚ},
    patternLoop found wake startTime timeout n now = some (false, x) →
      timeout ≤ x - startTime ∧ (x = now ∨ ∃ y, x = wake y ∧ found y = false)
  | 0, _, _, h => by simp [patternLoop] at h
  | n + 1, now, x, h => by
      unfold patternLoop at h
      split_ifs at h with hlt hfound
      · cases h
      · obtain ⟨hx, rfl | hy⟩ := patternLoop_false h
        · exact ⟨hx, .inr ⟨now, rfl, by simpa using hfound⟩⟩
        · exact ⟨hx, .inr hy⟩
      · cases h
        exact ⟨not_lt.mp hlt, .inl rfl⟩

theorem changeLoop_false {n : ℕ} {now x : ℚ}
    (h : changeLoop found wake startTime timeout n now = some (false, x)) :
    timeout ≤ x - startTime ∧ (x = now ∨ found x = false) := by
  rw [changeLoop_eq_patternLoop] at h
  obtain ⟨⟨b, y⟩, hr, heq⟩ := Option.map_eq_some'.mp h
  cases b
  · obtain rfl : y = x := by simpa using heq
    obtain ⟨hx, rfl | ⟨z, rfl, hz⟩⟩ := patternLoop_false _ _ _ _ hr
    · exact ⟨hx, .inl rfl⟩
    · exact ⟨hx, .inr hz⟩
  · simp at heq

theorem patternLoop_returns : ∀ {n : ℕ} {now : ℚ} {r : Bool × ℚ},
    patternLoop found wake startTime timeout n now = some r →
      r.2 = now ∨ ∃ y, r.2 = wake y ∧ y - startTime < timeout
  | 0, _, _, h => by simp [patternLoop] at h
  | n + 1, now, r, h => by
      unfold patternLoop at h
      split_ifs at h with hlt hfound
      · cases h
        exact .inl rfl
      · rcases patternLoop_returns h with hr | hr
        · exact .inr ⟨now, hr, hlt⟩
        · exact .inr hr
      · cases h
        exact .inl rfl

theorem changeLoop_returns {n : ℕ} {now : ℚ} {r : Bool × ℚ}
    (h : changeLoop found wake startTime timeout n now = some r) :
    r.2 = now ∨ ∃ y, r.2 = wake y ∧ y - startTime < timeout := by
  rw [changeLoop_eq_patternLoop] at h
  obtain ⟨⟨b, y⟩, hr, rfl⟩ := Option.map_eq_some'.mp h
  cases b
  · exact patternLoop_returns _ _ _ _ hr
  · exact .inr ⟨y, rfl, (patternLoop_true _ _ _ _ hr).2⟩

theorem le_of_returns {w x : ℚ} (hwake : ∀ t, wake t ≤ t + w) (hbound : 0 ≤ timeout + w)
    (h : x = startTime ∨ ∃ y, x = wake y ∧ y - startTime < timeout) :
    x ≤ startTime + (timeout + w) := by
  rcases h with rfl | ⟨y, rfl, hy⟩
  · linarith
  · linarith [hwake y]

/-! ## Termination

With `n` more intervals the deadline has passed, so `n + 1` passes finish,
whatever the captures say. -/

variable {interval : ℚ}

theorem patternLoop_finishes (hwake : ∀ t, t + interval ≤ wake t) :
    ∀ (n : ℕ) (now : ℚ), timeout ≤ now - startTime + n * interval →
      ∃ r, patternLoop found wake startTime timeout (n + 1) now = some r
  | 0, now, h => ⟨(false, now), by simp only [patternLoop]; rw [if_neg (by simp at h; linarith)]⟩
  | n + 1, now, h => by
      unfold patternLoop
      split_ifs
      · exact ⟨_, rfl⟩
      · refine patternLoop_finishes hwake n (wake now) ?_
        have := hwake now
        push_cast at h
        linarith
      · exact ⟨_, rfl⟩

theorem changeLoop_finishes (hwake : ∀ t, t + interval ≤ wake t) :
    ∀ (n : ℕ) (now : ℚ), timeout ≤ now - startTime + n * interval →
      ∃ r, changeLoop found wake startTime timeout (n + 1) now = some r := fun n now h => by
  obtain ⟨r, hr⟩ := patternLoop_finishes (fun t => found (wake t)) wake startTime timeout
    hwake n now h
  exact ⟨_, by rw [changeLoop_eq_patternLoop, hr]; rfl⟩

theorem exists_intervals_ge (hint : 0 < interval) (d : ℚ) : ∃ n : ℕ, d ≤ n * interval := by
  obtain ⟨n, hn⟩ := exists_nat_ge (d / interval)
  exact ⟨n, (div_le_iff₀ hint).mp hn⟩

theorem changeLoop_sees_change (hwake : ∀ t, t + interval ≤ wake t) (hint : 0 < interval)
    {t : ℚ} (ht₁ : startTime ≤ t) (ht₂ : t < startTime + timeout)
    (hfound : ∀ t', t ≤ t' → found t' = true) :
    ∃ n t', changeLoop found wake startTime timeout n startTime = some (true, t') := by
  obtain ⟨n, hn⟩ := exists_intervals_ge hint timeout
  obtain ⟨⟨b, t'⟩, hr⟩ :=
    changeLoop_finishes found wake startTime timeout hwake n startTime (by simpa using hn)
  cases b
  · obtain ⟨hx, rfl | hsame⟩ := changeLoop_false _ _ _ _ hr
    · linarith
    · exact absurd (hfound t' (by linarith)) (by simp [hsame])
  · exact ⟨n + 1, t', hr⟩

/-! ## The exact clock

Under `exactSleep` the `j`-th pass runs at `startTime + j * interval`. -/

theorem poll_time_succ (startTime interval : ℚ) (j : ℕ) :
    startTime + j * interval + interval = startTime + ((j + 1 : ℕ) : ℚ) * interval := by
  push_cast; ring

theorem exists_ge_succ_iff {P : ℕ → Prop} {j : ℕ} (hj : ¬P j) :
    (∃ k, j + 1 ≤ k ∧ P k) ↔ ∃ k, j ≤ k ∧ P k :=
  ⟨fun ⟨k, hk, hp⟩ => ⟨k, by omega, hp⟩,
    fun ⟨k, hk, hp⟩ => ⟨k, Nat.lt_of_le_of_ne hk (by rintro rfl; exact hj hp), hp⟩⟩

theorem not_exists_ge_of_deadline (hint : 0 ≤ interval) {j : ℕ}
    (hlt : ¬(j : ℚ) * interval < timeout) {Q : ℕ → Prop} :
    ¬∃ k : ℕ, j ≤ k ∧ k * interval < timeout ∧ Q k := fun ⟨_, hk, hkt, _⟩ =>
  hlt (lt_of_le_of_lt (mul_le_mul_of_nonneg_right (by exact_mod_cast hk) hint) hkt)

/-- The pattern loop from pass `j` returns `True` exactly when some pass
`k ≥ j` before the deadline captures a match. -/
theorem patternLoop_exact (hint : 0 ≤ interval) :
    ∀ (n j : ℕ) {r : Bool × ℚ},
      patternLoop found (· + interval) startTime timeout n (startTime + j * interval) = some r →
      (r.1 = true ↔ ∃ k : ℕ, j ≤ k ∧ k * interval < timeout ∧
        found (startTime + k * interval) = true)
  | 0, _, _, h => by simp [patternLoop] at h
  | n + 1, j, r, h => by
      unfold patternLoop at h
      rw [add_sub_cancel_left] at h
      split_ifs at h with hlt hfound
      · cases h
        exact ⟨fun _ => ⟨j, le_rfl, hlt, hfound⟩, fun _ => rfl⟩
      · rw [poll_time_succ] at h
        rw [patternLoop_exact hint n (j + 1) h]
        exact exists_ge_succ_iff fun hj => hfound hj.2
      · cases h
        exact iff_of_false Bool.false_ne_true (not_exists_ge_of_deadline timeout hint hlt)

/-- The change loop from pass `j` returns `True` exactly when some pass
`k ≥ j` before the deadline is followed by a capture that differs. -/
theorem changeLoop_exact (hint : 0 ≤ interval) (n j : ℕ) {r : Bool × ℚ}
    (h : changeLoop found (· + interval) startTime timeout n (startTime + j * interval) = some r) :
    r.1 = true ↔ ∃ k : ℕ, j ≤ k ∧ k * interval < timeout ∧
      found (startTime + ((k + 1 : ℕ) : ℚ) * interval) = true := by
  rw [changeLoop_eq_patternLoop] at h
  obtain ⟨r', hr', rfl⟩ := Option.map_eq_some'.mp h
  have hfst : (if r'.1 then (true, r'.2 + interval) else r').1 = r'.1 := by split <;> simp_all
  rw [hfst, patternLoop_exact _ startTime timeout hint n j hr']
  simp only [poll_time_succ]

end Loops

/-! ## The methods -/

/-- `time.sleep(d)` on a clock that advances by exactly `d`. -/
def exactSleep (now d : ℚ) : ℚ := now + d

namespace TerminalSession

/-- `wait_for_pattern(window_name, pattern, timeout, interval)` called at clock
reading `now`: the result and the clock when it returns. -/
def waitForPattern (host : Host) (s : TerminalSession) (windowName pattern : String)
    (timeout interval : ℚ) (sleep : ℚ → ℚ → ℚ) (tmux : ℚ → List String → String) (now : ℚ)
    (fuel : ℕ) : Option (Except SessionError (Bool × ℚ)) :=
  match s.windows.get? windowName with
  | none => some (.error (.windowNotFound windowName))
  | some windowId =>
      (patternLoop (fun t => host.search pattern (tmux t (captureCall windowId 100)))
        (fun t => sleep t interval) now timeout fuel now).map .ok

/-- `wait_for_change(window_name, timeout, interval)` called at clock reading `now`. -/
def waitForChange (s : TerminalSession) (windowName : String) (timeout interval : ℚ)
    (sleep : ℚ → ℚ → ℚ) (tmux : ℚ → List String → String) (now : ℚ) (fuel : ℕ) :
    Option (Except SessionError (Bool × ℚ)) :=
  match s.windows.get? windowName with
  | none => some (.error (.windowNotFound windowName))
  | some windowId =>
      (changeLoop (fun t => tmux t (captureCall windowId 100) !=
          tmux now (captureCall windowId 100))
        (fun t => sleep t interval) now timeout fuel now).map .ok

variable {s : TerminalSession} {windowName windowId : String}

theorem waitForPattern_of_get? (host : Host) (hw : s.windows.get? windowName = some windowId)
    (pattern : String) (timeout interval : ℚ) (sleep : ℚ → ℚ → ℚ)
    (tmux : ℚ → List String → String) (now : ℚ) (fuel : ℕ) :
    s.waitForPattern host windowName pattern timeout interval sleep tmux now fuel =
      (patternLoop (fun t => host.search pattern (tmux t (captureCall windowId 100)))
        (fun t => sleep t interval) now timeout fuel now).map .ok := by
  simp [waitForPattern, hw]

theorem waitForChange_of_get? (hw : s.windows.get? windowName = some windowId)
    (timeout interval : ℚ) (sleep : ℚ → ℚ → ℚ) (tmux : ℚ → List String → String) (now : ℚ)
    (fuel : ℕ) :
    s.waitForChange windowName timeout interval sleep tmux now fuel =
      (changeLoop (fun t => tmux t (captureCall windowId 100) !=
          tmux now (captureCall windowId 100))
        (fun t => sleep t interval) now timeout fuel now).map .ok := by
  simp [waitForChange, hw]

theorem waitForPattern_returns {host : Host} {pattern : String} {timeout interval : ℚ}
    {sleep : ℚ → ℚ → ℚ} {tmux : ℚ → List String → String} {now : ℚ} {fuel : ℕ} {b : Bool}
    {x : ℚ}
    (h : s.waitForPattern host windowName pattern timeout interval sleep tmux now fuel =
      some (.ok (b, x))) :
    x = now ∨ ∃ y, x = sleep y interval ∧ y - now < timeout := by
  unfold waitForPattern at h
  split at h
  · cases h
  · obtain ⟨r, hr, ⟨⟩⟩ := Option.map_eq_some'.mp h
    exact patternLoop_returns _ _ _ _ hr

theorem waitForChange_returns {timeout interval : ℚ} {sleep : ℚ → ℚ → ℚ}
    {tmux : ℚ → List String → String} {now : ℚ} {fuel : ℕ} {b : Bool} {x : ℚ}
    (h : s.waitForChange windowName timeout interval sleep tmux now fuel = some (.ok (b, x))) :
    x = now ∨ ∃ y, x = sleep y interval ∧ y - now < timeout := by
  unfold waitForChange at h
  split at h
  · cases h
  · obtain ⟨r, hr, ⟨⟩⟩ := Option.map_eq_some'.mp h
    exact changeLoop_returns _ _ _ _ hr

/-- On a clock whose sleeps of `interval` overrun by at most `ε`, neither
wait blocks longer than `timeout + interval + ε`, whatever the window
shows. -/
theorem waits_le (host : Host) {timeout interval ε : ℚ} {sleep : ℚ → ℚ → ℚ}
    (hsleep : ∀ t, sleep t interval ≤ t + interval + ε) (hbound : 0 ≤ timeout + interval + ε)
    (pattern : String) (tmux : ℚ → List String → String) (now : ℚ) (fuel : ℕ) :
    (∀ b x, s.waitForPattern host windowName pattern timeout interval sleep tmux now fuel =
        some (.ok (b, x)) → x - now ≤ timeout + interval + ε) ∧
      (∀ b x, s.waitForChange windowName timeout interval sleep tmux now fuel =
        some (.ok (b, x)) → x - now ≤ timeout + interval + ε) := by
  have hle : ∀ x, (x = now ∨ ∃ y, x = sleep y interval ∧ y - now < timeout) →
      x - now ≤ timeout + interval + ε := by
    rintro x (rfl | ⟨y, rfl, hy⟩)
    · linarith
    · linarith [hsleep y]
  exact ⟨fun _ x h => hle x (waitForPattern_returns h), fun _ x h => hle x (waitForChange_returns h)⟩

theorem waits_le_server :
    (∀ b x, (TerminalSession.mk "dev" "/src" (PyDict.empty.insert "server" "dev:server")).waitForPattern
        Host.literal "server" "ready" 30 (1 / 2) exactSleep (fun _ _ => "") 0 100 =
          some (.ok (b, x)) → x - 0 ≤ 30 + 1 / 2 + 0) ∧
      (∀ b x, (TerminalSession.mk "dev" "/src" (PyDict.empty.insert "server" "dev:server")).waitForChange
        "server" 30 (1 / 2) exactSleep (fun _ _ => "") 0 100 =
          some (.ok (b, x)) → x - 0 ≤ 30 + 1 / 2 + 0) :=
  waits_le Host.literal (fun t => by simp [exactSleep]) (by norm_num) "ready" _ 0 100

theorem waitForPattern_finishes (host : Host) (windowName pattern : String) {timeout interval : ℚ}
    {n : ℕ} (hn : timeout ≤ n * interval) {sleep : ℚ → ℚ → ℚ}
    (hsleep : ∀ t, t + interval ≤ sleep t interval) (tmux : ℚ → List String → String) (now : ℚ) :
    ∃ r, s.waitForPattern host windowName pattern timeout interval sleep tmux now (n + 1) =
      some r := by
  cases hw : s.windows.get? windowName with
  | none => exact ⟨.error (.windowNotFound windowName), by simp [waitForPattern, hw]⟩
  | some windowId =>
      obtain ⟨r, hr⟩ := patternLoop_finishes
        (fun t => host.search pattern (tmux t (captureCall windowId 100))) _ now timeout hsleep n
        now (by simpa using hn)
      exact ⟨.ok r, by simp [waitForPattern_of_get? host hw, hr]⟩

theorem waitForChange_finishes (windowName : String) {timeout interval : ℚ} {n : ℕ}
    (hn : timeout ≤ n * interval) {sleep : ℚ → ℚ → ℚ}
    (hsleep : ∀ t, t + interval ≤ sleep t interval) (tmux : ℚ → List String → String) (now : ℚ) :
    ∃ r, s.waitForChange windowName timeout interval sleep tmux now (n + 1) = some r := by
  cases hw : s.windows.get? windowName with
  | none => exact ⟨.error (.windowNotFound windowName), by simp [waitForChange, hw]⟩
  | some windowId =>
      obtain ⟨r, hr⟩ := changeLoop_finishes
        (fun t => tmux t (captureCall windowId 100) != tmux now (captureCall windowId 100)) _ now
        timeout hsleep n now (by simpa using hn)
      exact ⟨.ok r, by simp [waitForChange_of_get? hw, hr]⟩

/-- On the exact clock `wait_for_pattern` returns, and it returns `True`
exactly when the capture at some poll time `now + k * interval` with
`k * interval < timeout` matches. -/
theorem waitForPattern_exact (host : Host) (hw : s.windows.get? windowName = some windowId)
    (pattern : String) (timeout : ℚ) {interval : ℚ} (hint : 0 < interval)
    (tmux : ℚ → List String → String) (now : ℚ) :
    (∃ fuel r, s.waitForPattern host windowName pattern timeout interval exactSleep tmux now fuel =
      some (.ok r)) ∧
    ∀ fuel b t, s.waitForPattern host windowName pattern timeout interval exactSleep tmux now fuel =
      some (.ok (b, t)) →
      (b = true ↔ ∃ k : ℕ, k * interval < timeout ∧
        host.search pattern (tmux (now + k * interval) (captureCall windowId 100)) = true) := by
  refine ⟨?_, fun fuel b t h => ?_⟩
  · obtain ⟨n, hn⟩ := exists_intervals_ge hint timeout
    obtain ⟨r, hr⟩ := patternLoop_finishes
      (fun t => host.search pattern (tmux t (captureCall windowId 100)))
      (fun t => exactSleep t interval) now timeout (fun t => le_refl (t + interval)) n now
      (by simpa using hn)
    exact ⟨n + 1, r, by rw [waitForPattern_of_get? host hw, hr]; rfl⟩
  · rw [waitForPattern_of_get? host hw, Option.map_eq_some'] at h
    obtain ⟨r, hr, hrb⟩ := h
    cases hrb
    have hr' := patternLoop_exact _ now timeout hint.le fuel 0 (by simpa [exactSleep] using hr)
    simpa using hr'

theorem waitForPattern_unique {host : Host} {pattern : String} {timeout interval : ℚ}
    {sleep : ℚ → ℚ → ℚ} {tmux : ℚ → List String → String} {now : ℚ} {fuel fuel' : ℕ}
    {r r' : Except SessionError (Bool × ℚ)}
    (h : s.waitForPattern host windowName pattern timeout interval sleep tmux now fuel = some r)
    (h' : s.waitForPattern host windowName pattern timeout interval sleep tmux now fuel' =
      some r') :
    r = r' := by
  cases hw : s.windows.get? windowName with
  | none =>
      simp only [waitForPattern, hw, Option.some.injEq] at h h'
      rw [← h, ← h']
  | some windowId =>
      rw [waitForPattern_of_get? host hw, Option.map_eq_some'] at h h'
      obtain ⟨a, ha, rfl⟩ := h
      obtain ⟨a', ha', rfl⟩ := h'
      rw [patternLoop_unique _ _ _ _ ha ha']

/-- A pattern that appears at 0.75 s and stays is missed by
`wait_for_pattern(timeout=1, interval=0.5)` called at 0: it captures at 0
and at 0.5, sleeps until 1 and stops at the deadline. -/
theorem waitForPattern_misses_late_match :
    (∀ t : ℚ, 3 / 4 ≤ t →
      Host.literal.search "ready" (if 3 / 4 ≤ t then "Server ready" else "") = true) ∧
    (TerminalSession.mk "dev" "/src" (PyDict.empty.insert "server" "dev:server")).waitForPattern
      Host.literal "server" "ready" 1 (1 / 2) exactSleep
      (fun t _ => if 3 / 4 ≤ t then "Server ready" else "") 0 3 = some (.ok (false, 1)) ∧
    ∀ fuel r,
      (TerminalSession.mk "dev" "/src" (PyDict.empty.insert "server" "dev:server")).waitForPattern
      Host.literal "server" "ready" 1 (1 / 2) exactSleep
      (fun t _ => if 3 / 4 ≤ t then "Server ready" else "") 0 fuel = some (.ok r) →
        r.1 = false := by
  have hrun : (TerminalSession.mk "dev" "/src"
      (PyDict.empty.insert "server" "dev:server")).waitForPattern Host.literal "server" "ready" 1
      (1 / 2) exactSleep (fun t _ => if 3 / 4 ≤ t then "Server ready" else "") 0 3 =
        some (.ok (false, 1)) := by
    with_unfolding_all rfl
  refine ⟨fun t ht => by simp only [ht, if_true]; decide, hrun, fun fuel r h => ?_⟩
  cases waitForPattern_unique h hrun
  rfl

/-- On the exact clock `wait_for_change` returns `True` whenever the content
differs from the initial capture from some time before the deadline on, and
it returns `True` only after a capture, following a pass before the
deadline, that differs from the initial one. -/
theorem waitForChange_exact (hw : s.windows.get? windowName = some windowId) (timeout : ℚ)
    {interval : ℚ} (hint : 0 < interval) (tmux : ℚ → List String → String) (now : ℚ) :
    (∀ t, now ≤ t → t < now + timeout →
      (∀ t', t ≤ t' → tmux t' (captureCall windowId 100) ≠ tmux now (captureCall windowId 100)) →
      ∃ fuel t', s.waitForChange windowName timeout interval exactSleep tmux now fuel =
        some (.ok (true, t'))) ∧
    ∀ fuel t', s.waitForChange windowName timeout interval exactSleep tmux now fuel =
      some (.ok (true, t')) →
      ∃ k : ℕ, k * interval < timeout ∧
        tmux (now + (k + 1) * interval) (captureCall windowId 100) ≠
          tmux now (captureCall windowId 100) := by
  set found := fun t => tmux t (captureCall windowId 100) != tmux now (captureCall windowId 100)
  have hspec : ∀ fuel r, s.waitForChange windowName timeout interval exactSleep tmux now fuel =
      some (.ok r) → (r.1 = true ↔ ∃ k : ℕ, k * interval < timeout ∧
        found (now + ((k + 1 : ℕ) : ℚ) * interval) = true) := by
    intro fuel r h
    rw [waitForChange_of_get? hw, Option.map_eq_some'] at h
    obtain ⟨r', hr, hrr⟩ := h
    cases hrr
    simpa using changeLoop_exact found now timeout hint.le fuel 0 (by simpa [exactSleep] using hr)
  refine ⟨fun t ht₁ ht₂ hdiff => ?_, fun fuel t' h => ?_⟩
  · obtain ⟨n, t', hr⟩ := changeLoop_sees_change found (exactSleep · interval) now timeout
      (fun t => le_refl (t + interval)) hint ht₁ ht₂ fun t' h => by simpa [found] using hdiff t' h
    exact ⟨n, t', by rw [waitForChange_of_get? hw]; exact congrArg (Option.map _) hr⟩
  · obtain ⟨k, hkt, hkf⟩ := (hspec _ _ h).mp rfl
    exact ⟨k, hkt, by simpa [found] using hkf⟩

theorem waitForChange_exact_listening :
    (∀ t, 0 ≤ t → t < 0 + 30 →
      (∀ t', t ≤ t' → (fun (t : ℚ) (_ : List String) => if 1 ≤ t then "Listening" else "") t'
        (captureCall "dev:server" 100) ≠
        (fun (t : ℚ) (_ : List String) => if 1 ≤ t then "Listening" else "") 0
          (captureCall "dev:server" 100)) →
      ∃ fuel t',
        (TerminalSession.mk "dev" "/src" (PyDict.empty.insert "server" "dev:server")).waitForChange
        "server" 30 (1 / 2) exactSleep (fun t _ => if 1 ≤ t then "Listening" else "") 0 fuel =
          some (.ok (true, t'))) ∧
    ∀ fuel t',
      (TerminalSession.mk "dev" "/src" (PyDict.empty.insert "server" "dev:server")).waitForChange
      "server" 30 (1 / 2) exactSleep (fun t _ => if 1 ≤ t then "Listening" else "") 0 fuel =
        some (.ok (true, t')) →
      ∃ k : ℕ, k * (1 / 2 : ℚ) < 30 ∧
        (fun (t : ℚ) (_ : List String) => if 1 ≤ t then "Listening" else "") (0 + (k + 1) * (1 / 2))
          (captureCall "dev:server" 100) ≠
        (fun (t : ℚ) (_ : List String) => if 1 ≤ t then "Listening" else "") 0
          (captureCall "dev:server" 100) :=
  waitForChange_exact
    (show (TerminalSession.mk "dev" "/src" (PyDict.empty.insert "server" "dev:server")).windows.get?
      "server" = some "dev:server" by decide)
    30 (by norm_num : (0 : ℚ) < 1 / 2) (fun t _ => if 1 ≤ t then "Listening" else "") 0

/-- On every clock whose sleeps last at least the interval, `wait_for_change`
returns `True` whenever the content differs from the initial capture from
some time before the deadline on: its last capture falls past the deadline. -/
theorem waitForChange_sees_change (hw : s.windows.get? windowName = some windowId)
    (timeout : ℚ) {interval : ℚ} (hint : 0 < interval) {sleep : ℚ → ℚ → ℚ}
    (hsleep : ∀ t, t + interval ≤ sleep t interval) (tmux : ℚ → List String → String)
    {now t : ℚ} (ht₁ : now ≤ t) (ht₂ : t < now + timeout)
    (hdiff : ∀ t', t ≤ t' →
      tmux t' (captureCall windowId 100) ≠ tmux now (captureCall windowId 100)) :
    ∃ fuel t', s.waitForChange windowName timeout interval sleep tmux now fuel =
      some (.ok (true, t')) := by
  obtain ⟨n, t', hr⟩ := changeLoop_sees_change
    (fun t => tmux t (captureCall windowId 100) != tmux now (captureCall windowId 100)) _ now
    timeout hsleep hint ht₁ ht₂ fun t' h => by simpa using hdiff t' h
  exact ⟨n, t', by rw [waitForChange_of_get? hw, hr]; rfl⟩

theorem waitForChange_sees_change_slow :
    ∃ fuel t',
      (TerminalSession.mk "dev" "/src" (PyDict.empty.insert "server" "dev:server")).waitForChange
      "server" 30 (1 / 2) (fun t _ => t + 1) (fun t _ => if 1 ≤ t then "Listening" else "") 0 fuel =
        some (.ok (true, t')) :=
  waitForChange_sees_change
    (show (PyDict.empty.insert "server" "dev:server").get? "server" = some "dev:server" by decide)
    30 (by norm_num) (fun t => by norm_num) _ (by norm_num : (0 : ℚ) ≤ 1) (by norm_num)
    (fun t' ht' => by norm_num [ht']; decide)

/-- On every clock, a `True` from either wait rests on a capture:
`wait_for_pattern` returns `True` at a time before the deadline whose
capture matched, `wait_for_change` at the end of a sleep begun before the
deadline, with a capture that differs from the initial one. -/
theorem waits_true_sound (hw : s.windows.get? windowName = some windowId) (host : Host)
    (pattern : String) (timeout interval : ℚ) (sleep : ℚ → ℚ → ℚ)
    (tmux : ℚ → List String → String) (now : ℚ) :
    (∀ fuel t, s.waitForPattern host windowName pattern timeout interval sleep tmux now fuel =
      some (.ok (true, t)) →
        host.search pattern (tmux t (captureCall windowId 100)) = true ∧ t - now < timeout) ∧
    (∀ fuel t, s.waitForChange windowName timeout interval sleep tmux now fuel =
      some (.ok (true, t)) →
        tmux t (captureCall windowId 100) ≠ tmux now (captureCall windowId 100) ∧
          ∃ t₀, t = sleep t₀ interval ∧ t₀ - now < timeout) := by
  refine ⟨fun fuel t h => ?_, fun fuel t h => ?_⟩
  · rw [waitForPattern_of_get? host hw, Option.map_eq_some'] at h
    obtain ⟨r, hr, ⟨⟩⟩ := h
    exact patternLoop_true _ _ _ _ hr
  · rw [waitForChange_of_get? hw, Option.map_eq_some'] at h
    obtain ⟨r, hr, ⟨⟩⟩ := h
    obtain ⟨hdiff, hsleep⟩ := changeLoop_true _ _ _ _ hr
    exact ⟨by simpa using hdiff, hsleep⟩

theorem waits_true_sound_server :
    (∀ fuel t,
      (TerminalSession.mk "dev" "/src" (PyDict.empty.insert "server" "dev:server")).waitForPattern
      Host.literal "server" "ready" 30 (1 / 2) exactSleep (fun _ _ => "Server ready") 0 fuel =
        some (.ok (true, t)) →
        Host.literal.search "ready" ((fun _ _ => "Server ready") t (captureCall "dev:server" 100)) =
          true ∧ t - 0 < 30) ∧
    (∀ fuel t,
      (TerminalSession.mk "dev" "/src" (PyDict.empty.insert "server" "dev:server")).waitForChange
      "server" 30 (1 / 2) exactSleep (fun _ _ => "Server ready") 0 fuel = some (.ok (true, t)) →
        (fun _ _ => "Server ready") t (captureCall "dev:server" 100) ≠
          (fun (_ : ℚ) (_ : List String) => "Server ready") 0 (captureCall "dev:server" 100) ∧
          ∃ t₀, t = exactSleep t₀ (1 / 2) ∧ t₀ - 0 < 30) :=
  waits_true_sound
    (show (PyDict.empty.insert "server" "dev:server").get? "server" = some "dev:server" by decide)
    Host.literal "ready" 30 (1 / 2) exactSleep _ 0

end TerminalSession

end MultiTerminal
