import MultiTerminal.Session

/-!
# The line stream

`stream_output` is a generator that never ends: each poll captures the
last 1000 lines, and when the capture differs from the previous one it
yields the non-empty lines of the new capture past as many lines as the
previous capture had. The model takes the captures its polls returned, in
order, and gives the lines yielded after them.

The diff counts lines by `split("\n")`, and a capture that ends with a
newline splits into its lines and one empty piece after the last. When
each capture's pieces extend the previous capture's pieces the stream
yields every line once, in order (`streamFrom_of_pieces_grow`). tmux
ends a capture with a newline, and then output appended after a capture
does not extend its pieces: the empty last piece becomes the first new
line, so the first line of every later append is skipped
(`streamPoll_append_after_newline`). Over output that grows only by
newline-terminated appends the stream yields the first capture's lines
and then every append's lines but its first (`streamFrom_newline_appends`,
`streamOutput_skips_appended_line`). And once the captures stop gaining
lines the stream yields nothing, whatever they show
(`streamFrom_of_pieces_length`).
-/

namespace MultiTerminal

open TerminalSession

/-- The lines `split("\n")` cuts a capture into. -/
def pieces (capture : String) : List String := pySplit capture '\n'

@[simp] theorem pieces_empty : pieces "" = [""] := rfl

/-- One poll of `stream_output`: the lines it yields for the capture
`current`, and the new `last_output`. -/
def streamPoll (lastOutput current : String) : List String × String :=
  if current ≠ lastOutput then
    let lastLines := if lastOutput ≠ "" then pieces lastOutput else []
    (((pieces current).drop lastLines.length).filter (· != ""), current)
  else ([], lastOutput)

/-- The lines yielded by the polls that returned `captures`, from `last_output`. -/
def streamFrom : String → List String → List String
  | _, [] => []
  | lastOutput, current :: rest =>
      (streamPoll lastOutput current).1 ++ streamFrom (streamPoll lastOutput current).2 rest

/-- `stream_output(window_name)` after the polls that returned `captures`. -/
def TerminalSession.streamOutput (s : TerminalSession) (windowName : String)
    (captures : List String) : Except SessionError (List String) :=
  if windowName ∈ s.windows.keys then .ok (streamFrom "" captures)
  else .error (.windowNotFound windowName)

@[simp] theorem streamPoll_snd (lastOutput current : String) :
    (streamPoll lastOutput current).2 = current := by
  unfold streamPoll
  split
  · rfl
  · next h => exact (not_not.mp h).symm

/-! ## When the pieces grow -/

/-- The growth a poll relies on: the previous capture's pieces are a prefix
of the current one's, or nothing was captured before. -/
def PiecesGrow (lastOutput current : String) : Prop :=
  lastOutput = "" ∨ pieces lastOutput <+: pieces current

theorem streamPoll_step {lastOutput current : String} (h : PiecesGrow lastOutput current) :
    (pieces lastOutput).filter (· != "") ++ (streamPoll lastOutput current).1 =
      (pieces current).filter (· != "") := by
  unfold streamPoll
  split
  · by_cases hlast : lastOutput = ""
    · subst hlast; simp
    · obtain ⟨rest, hrest⟩ := h.resolve_left hlast
      simp only [hlast, ne_eq, not_false_eq_true, if_true]
      rw [← hrest, List.drop_left, List.filter_append]
  · next heq => rw [not_not.mp heq]; simp

theorem streamFrom_grow : ∀ (captures : List String) (lastOutput : String),
    List.Chain PiecesGrow lastOutput captures →
    (pieces lastOutput).filter (· != "") ++ streamFrom lastOutput captures =
      (pieces (captures.getLastD lastOutput)).filter (· != "")
  | [], _, _ => by simp [streamFrom]
  | current :: rest, lastOutput, .cons hgrow hchain => by
      rw [streamFrom, ← List.append_assoc, streamPoll_step hgrow, streamPoll_snd,
        streamFrom_grow rest current hchain, List.getLastD_cons]

/-- When each capture's pieces extend the previous capture's pieces, the
stream has yielded exactly the non-empty lines of the last capture, in
order, each once. -/
theorem streamFrom_of_pieces_grow (captures : List String)
    (h : List.Chain' (fun a b => pieces a <+: pieces b) captures) :
    streamFrom "" captures = (pieces (captures.getLastD "")).filter (· != "") := by
  have hchain : List.Chain PiecesGrow "" captures := by
    cases captures with
    | nil => exact .nil
    | cons c cs => exact .cons (.inl rfl) (h.imp fun _ _ => .inr)
  simpa [pieces] using streamFrom_grow captures "" hchain

theorem streamFrom_unterminated :
    streamFrom "" ["a", "a\nb"] = (pieces (["a", "a\nb"].getLastD "")).filter (· != "") :=
  streamFrom_of_pieces_grow _ (.cons ⟨["b"], rfl⟩ .nil)

/-! ## When the capture stops growing -/

theorem streamPoll_of_length_le {lastOutput current : String} (hlast : lastOutput ≠ "")
    (hlen : (pieces current).length ≤ (pieces lastOutput).length) :
    (streamPoll lastOutput current).1 = [] := by
  unfold streamPoll
  split
  · simp [hlast, List.drop_eq_nil_of_le hlen]
  · rfl

/-- Once the captures stop gaining lines, as when the window of lines
`capture_output` asks tmux for is full, the stream yields nothing more,
however their contents change. -/
theorem streamFrom_of_pieces_length (n : ℕ) : ∀ (captures : List String) (lastOutput : String),
    lastOutput ≠ "" → (pieces lastOutput).length = n →
    (∀ c ∈ captures, c ≠ "" ∧ (pieces c).length = n) → streamFrom lastOutput captures = []
  | [], _, _, _, _ => rfl
  | c :: rest, lastOutput, hlast, hn, hcs => by
      obtain ⟨hc, hcn⟩ := hcs c (List.mem_cons_self _ _)
      rw [streamFrom, streamPoll_of_length_le hlast (by omega), streamPoll_snd, List.nil_append]
      exact streamFrom_of_pieces_length n rest c hc hcn fun c' h => hcs c' (List.mem_cons_of_mem _ h)

theorem streamFrom_of_pieces_length_scroll :
    streamFrom "a\nb\n" ["b\nc\n", "c\nd\n"] = [] :=
  streamFrom_of_pieces_length 3 _ _ (by decide) (by decide) (by decide)

/-! ## Captures that end with a newline -/

theorem streamPoll_empty {current : String} (h : current ≠ "") :
    (streamPoll "" current).1 = (pieces current).filter (· != "") := by
  simp [streamPoll, h]

theorem append_newline_ne_empty (c : String) : c ++ "\n" ≠ "" := fun h => by
  have := congrArg String.data h
  simp [String.data_append] at this

theorem streamPoll_append_after_newline (c d : String) :
    (streamPoll (c ++ "\n") (c ++ "\n" ++ d)).1 = ((pieces d).drop 1).filter (· != "") := by
  rcases eq_or_ne d "" with rfl | hd
  · simp [streamPoll]
  have hlast : pieces (c ++ "\n") = pieces c ++ [""] := by
    simpa using pySplit_append_sep c "" '\n'
  have hcur : pieces (c ++ "\n" ++ d) = pieces c ++ pieces d := pySplit_append_sep c d '\n'
  have hne : c ++ "\n" ++ d ≠ c ++ "\n" := fun h => hd (by
    have := congrArg String.data h
    simpa [String.data_append, String.ext_iff] using this)
  simp only [streamPoll, hne, append_newline_ne_empty, ne_eq, not_false_eq_true, if_true, hlast,
    hcur, List.length_append, List.length_singleton]
  rw [← List.drop_drop, List.drop_left]

theorem scanl_eq_cons_tail {α β : Type} (f : α → β → α) (a : α) (l : List β) :
    List.scanl f a l = a :: (List.scanl f a l).tail := by
  cases l <;> rfl

theorem streamFrom_scanl_appends : ∀ (p : String) (ds : List String),
    (∀ d ∈ ds, d = "" ∨ ∃ e, d = e ++ "\n") →
    streamFrom (p ++ "\n") (List.scanl (· ++ ·) (p ++ "\n") ds).tail =
      ds.flatMap fun d => ((pieces d).drop 1).filter (· != "")
  | _, [], _ => rfl
  | p, d :: ds, hds => by
      obtain ⟨p', hp'⟩ : ∃ p', p ++ "\n" ++ d = p' ++ "\n" := by
        rcases hds d (List.mem_cons_self _ _) with rfl | ⟨e, rfl⟩
        · exact ⟨p, String.append_empty _⟩
        · exact ⟨p ++ "\n" ++ e, (String.append_assoc _ _ _).symm⟩
      rw [List.scanl_cons, List.singleton_append, List.tail_cons, scanl_eq_cons_tail, streamFrom,
        streamPoll_append_after_newline, streamPoll_snd, hp', List.flatMap_cons,
        streamFrom_scanl_appends p' ds fun d' hd' => hds d' (List.mem_cons_of_mem _ hd')]

/-- Output that grows only by appends, each empty or ending with a newline,
from a first capture that ends with a newline: the stream yields the lines
of the first capture, then of every later append all lines but the first. -/
theorem streamFrom_newline_appends (p : String) (ds : List String)
    (hds : ∀ d ∈ ds, d = "" ∨ ∃ e, d = e ++ "\n") :
    streamFrom "" (List.scanl (· ++ ·) (p ++ "\n") ds) =
      (pieces (p ++ "\n")).filter (· != "") ++
        ds.flatMap fun d => ((pieces d).drop 1).filter (· != "") := by
  rw [scanl_eq_cons_tail, streamFrom, streamPoll_empty (append_newline_ne_empty p), streamPoll_snd,
    streamFrom_scanl_appends p ds hds]

theorem streamFrom_newline_appends_abcd :
    (∀ d ∈ ["b\nc\n", "d\n"], d = "" ∨ ∃ e, d = e ++ "\n") ∧
    streamFrom "" (List.scanl (· ++ ·) ("a" ++ "\n") ["b\nc\n", "d\n"]) =
      (pieces ("a" ++ "\n")).filter (· != "") ++
        ["b\nc\n", "d\n"].flatMap fun d => ((pieces d).drop 1).filter (· != "") := by
  have hds : ∀ d ∈ ["b\nc\n", "d\n"], d = "" ∨ ∃ e, d = e ++ "\n" := by
    simp only [List.mem_cons, List.mem_singleton, List.not_mem_nil, or_false]
    rintro d (rfl | rfl)
    · exact .inr ⟨"b\nc", rfl⟩
    · exact .inr ⟨"d", rfl⟩
  exact ⟨hds, streamFrom_newline_appends "a" _ hds⟩

/-- The lines `a` and then `b`, captured after each is printed: the stream
yields `a` only. -/
theorem streamOutput_skips_appended_line :
    (TerminalSession.mk "dev" "/src" (PyDict.empty.insert "server" "dev:server")).streamOutput
      "server" ["a\n", "a\nb\n"] = .ok ["a"] := by
  rfl

end MultiTerminal
