import Mathlib.Data.List.Infix
import Mathlib.Data.String.Basic

/-!
# Python string operations

The two `str` methods the session code parses tmux output with:
`s.split(c)` for a one-character separator, which is Lean's
`String.split` on that character, and `s.strip()`, which drops
characters from both ends while `str.isspace` holds of them. Lean's
`String.trim` uses a smaller whitespace set, so `strip` is written out
over Python's.

`pySplit` is `List.splitOn` on the characters, where the library has the
lemmas and where concrete runs evaluate; `pySplit_eq_split` shows it is
Lean's `String.split` at the separator.
-/

namespace MultiTerminal

/-- `c.isspace()`: bidirectional class WS, B or S, or category Zs. -/
def pyIsSpace (c : Char) : Bool :=
  ('\t' ≤ c && c ≤ '\r') || ('\x1c' ≤ c && c ≤ ' ') || c = '\x85' || c = '\xa0' ||
    c = '\u1680' || ('\u2000' ≤ c && c ≤ '\u200a') || c = '\u2028' || c = '\u2029' ||
    c = '\u202f' || c = '\u205f' || c = '\u3000'

/-- `s.strip()`. -/
def pyStrip (s : String) : String :=
  ⟨((s.data.dropWhile pyIsSpace).reverse.dropWhile pyIsSpace).reverse⟩

/-- `re.search(pattern, text, re.IGNORECASE)` for a pattern of letters,
digits and spaces on ASCII text: case-insensitive substring search. -/
def literalSearch (pattern text : String) : Bool :=
  decide (pattern.data.map Char.toLower <:+: text.data.map Char.toLower)

/-- `sub in s`: `sub` occurs in `s`. -/
def pyContains (sub s : String) : Bool := decide (sub.data <:+: s.data)

/-- `s.split(c)` for a one-character separator `c`: the pieces between the
occurrences of `c`, empty ones included. -/
def pySplit (s : String) (c : Char) : List String := (s.data.splitOn c).map String.mk

theorem pySplit_eq_split (s : String) (c : Char) : pySplit s c = s.split (· == c) :=
  (String.split_of_valid s _).symm

theorem pySplit_ne_nil (s : String) (c : Char) : pySplit s c ≠ [] := by
  simpa [pySplit] using List.splitOnP_ne_nil _ _

theorem mem_of_mem_splitOnP {p : Char → Bool} :
    ∀ {xs l : List Char}, l ∈ xs.splitOnP p → ∀ a ∈ l, a ∈ xs ∧ p a = false
  | [], l, hl => by
      rw [List.splitOnP_nil, List.mem_singleton] at hl
      simp [hl]
  | x :: xs, l, hl => by
      rw [List.splitOnP_cons] at hl
      split at hl
      · rcases List.mem_cons.mp hl with rfl | hl
        · simp
        · exact fun a ha => ⟨List.mem_cons_of_mem _ (mem_of_mem_splitOnP hl a ha).1,
            (mem_of_mem_splitOnP hl a ha).2⟩
      · next hx =>
          obtain ⟨l₀, ls, hls⟩ := List.exists_cons_of_ne_nil (List.splitOnP_ne_nil p xs)
          rw [hls, List.modifyHead_cons] at hl
          have hrest : ∀ l' ∈ l₀ :: ls, ∀ a ∈ l', a ∈ x :: xs ∧ p a = false := fun l' hl' a ha =>
            ⟨List.mem_cons_of_mem _ (mem_of_mem_splitOnP (hls ▸ hl') a ha).1,
              (mem_of_mem_splitOnP (hls ▸ hl') a ha).2⟩
          rcases List.mem_cons.mp hl with rfl | hl
          · intro a ha
            rcases List.mem_cons.mp ha with rfl | ha
            · exact ⟨List.mem_cons_self _ _, by simpa using hx⟩
            · exact hrest l₀ (List.mem_cons_self _ _) a ha
          · exact hrest l (List.mem_cons_of_mem _ hl)

theorem mem_of_mem_pySplit {s piece : String} {c : Char} (h : piece ∈ pySplit s c) :
    ∀ a ∈ piece.data, a ∈ s.data ∧ a ≠ c := by
  obtain ⟨l, hl, rfl⟩ := List.mem_map.mp h
  exact fun a ha => ⟨(mem_of_mem_splitOnP hl a ha).1, by simpa using (mem_of_mem_splitOnP hl a ha).2⟩

theorem splitOn_append_cons (c : Char) :
    ∀ xs ys : List Char, (xs ++ c :: ys).splitOn c = xs.splitOn c ++ ys.splitOn c
  | [], ys => by simp [List.splitOn, List.splitOnP_cons]
  | x :: xs, ys => by
      have ih := splitOn_append_cons c xs ys
      simp only [List.splitOn] at ih ⊢
      by_cases hx : x = c
      · subst hx; simp [List.splitOnP_cons, ih]
      · obtain ⟨p, ps, hps⟩ := List.exists_cons_of_ne_nil (List.splitOnP_ne_nil (· == c) xs)
        simp [List.splitOnP_cons, hx, ih, hps]

theorem pySplit_append_sep (a b : String) (c : Char) :
    pySplit (a ++ c.toString ++ b) c = pySplit a c ++ pySplit b c := by
  have hc : c.toString.data = [c] := rfl
  simp [pySplit, String.data_append, hc, splitOn_append_cons]

@[simp] theorem pyStrip_empty : pyStrip "" = "" := rfl

theorem pyStrip_append_space (l t : List Char) (hhead : ∀ c ∈ l.head?, pyIsSpace c = false)
    (hlast : ∀ c ∈ l.getLast?, pyIsSpace c = false) (ht : ∀ c ∈ t, pyIsSpace c = true) :
    pyStrip ⟨l ++ t⟩ = ⟨l⟩ := by
  rcases List.eq_nil_or_concat l with rfl | ⟨l', c, rfl⟩
  · simp [pyStrip, List.dropWhile_eq_nil_iff.mpr ht]
  · simp only [List.concat_eq_append] at hhead hlast ⊢
    have hc : pyIsSpace c = false := hlast c (by simp)
    have hfront : (l' ++ [c] ++ t).dropWhile pyIsSpace = l' ++ [c] ++ t := by
      cases l' with
      | nil => simp [List.dropWhile_cons_of_neg, hc]
      | cons a l'' =>
          exact List.dropWhile_cons_of_neg (by simpa using hhead a (by simp))
    have hback : (t.reverse ++ c :: l'.reverse).dropWhile pyIsSpace = c :: l'.reverse := by
      rw [List.dropWhile_append, if_pos (by simpa [List.dropWhile_eq_nil_iff] using ht),
        List.dropWhile_cons_of_neg (by simp [hc])]
    have hrev : (l' ++ [c] ++ t).reverse = t.reverse ++ c :: l'.reverse := by simp
    rw [pyStrip, hfront, hrev, hback]
    simp

end MultiTerminal
