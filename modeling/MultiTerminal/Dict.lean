import Mathlib.Data.List.Nodup

/-!
# Python dictionaries with string keys

`terminal_session.py` keeps its state in insertion-ordered `dict`s keyed
by names: the window registry (`TerminalSession.windows`, name to
window id) and the service table (`MultiServiceOrchestrator.services`).
Order is observable - `add_window` splits "the most recently added"
window, `list(self.windows.values())[-1]` - so a dict is a list of
entries, and the one invariant a `dict` always has, that each key occurs
once, is a field of the structure: no operation can build a dict with a
repeated key, and no later proof has to carry that fact around.

Assignment `d[k] = v` keeps an existing key in place and appends a new
one; `del d[k]` drops the entry. Everything the session model needs is
derived from one membership lemma per operation (`mem_insert`,
`mem_erase`) and the bridge `get?_eq_some_iff` between lookup and
membership.
-/

namespace MultiTerminal

/-- A Python `dict` with `str` keys: its entries in insertion order, each
key once. -/
structure PyDict (β : Type) where
  entries : List (String × β)
  nodup : (entries.map Prod.fst).Nodup

namespace PyDict

variable {β γ : Type}

theorem ext_entries {d d' : PyDict β} (h : d.entries = d'.entries) : d = d' := by
  cases d; cases d'; cases h; rfl

/-- `{}`. -/
def empty : PyDict β := ⟨[], List.nodup_nil⟩

/-- `list(d)`, the keys in insertion order. -/
def keys (d : PyDict β) : List String := d.entries.map Prod.fst

/-- `list(d.values())`. -/
def values (d : PyDict β) : List β := d.entries.map Prod.snd

/-- `d.get(k)`: `d[k]` when `k in d`. -/
def get? (d : PyDict β) (k : String) : Option β := d.entries.lookup k

/-- `d[k] = v`: an existing key keeps its place, a new one goes last. -/
def insert (d : PyDict β) (k : String) (v : β) : PyDict β :=
  if h : k ∈ d.keys then
    ⟨d.entries.map (fun e => if e.1 = k then (k, v) else e), by
      have hkeys : (d.entries.map (fun e => if e.1 = k then (k, v) else e)).map Prod.fst =
          d.entries.map Prod.fst := by
        rw [List.map_map]
        exact List.map_congr_left fun e _ => by by_cases he : e.1 = k <;> simp [he]
      rw [hkeys]; exact d.nodup⟩
  else
    ⟨d.entries ++ [(k, v)], by
      rw [List.map_append, List.nodup_append]
      exact ⟨d.nodup, List.nodup_singleton _, by simpa [keys] using h⟩⟩

/-- `del d[k]` (the caller has checked `k in d`). -/
def erase (d : PyDict β) (k : String) : PyDict β :=
  ⟨d.entries.filter (fun e => e.1 != k), (List.filter_sublist _).map _ |>.nodup d.nodup⟩

/-- `{k: f(k, v) for k, v in d.items()}`. -/
def map (f : String → β → γ) (d : PyDict β) : PyDict γ :=
  ⟨d.entries.map (fun e => (e.1, f e.1 e.2)), by rw [List.map_map]; exact d.nodup⟩

/-! ## Lookup and membership -/

theorem get?_eq_some_iff (d : PyDict β) {k : String} {v : β} :
    d.get? k = some v ↔ (k, v) ∈ d.entries := by
  obtain ⟨es, hnd⟩ := d
  simp only [get?]
  induction es with
  | nil => simp
  | cons e es ih =>
      obtain ⟨k', v'⟩ := e
      simp only [List.map_cons, List.nodup_cons, List.mem_map] at hnd
      simp only [List.lookup_cons, List.mem_cons, Prod.mk.injEq]
      by_cases hk : k = k'
      · subst hk
        have hnot : ∀ w, (k, w) ∉ es := fun w hw => hnd.1 ⟨(k, w), hw, rfl⟩
        simp [hnot, eq_comm]
      · have hne : (k == k') = false := by simpa using hk
        simp [hne, hk, ih hnd.2]

theorem mem_keys_iff (d : PyDict β) {k : String} :
    k ∈ d.keys ↔ ∃ v, d.get? k = some v := by
  simp [keys, get?_eq_some_iff]

theorem get?_eq_none_iff (d : PyDict β) {k : String} : d.get? k = none ↔ k ∉ d.keys := by
  rw [mem_keys_iff, Option.eq_none_iff_forall_not_mem]
  simp [Option.mem_def]

theorem mem_keys_of_get? {d : PyDict β} {k : String} {v : β} (h : d.get? k = some v) :
    k ∈ d.keys :=
  d.mem_keys_iff.mpr ⟨v, h⟩

theorem get?_congr {d : PyDict β} {d' : PyDict γ} {f : String → β → γ}
    (h : ∀ k w, (k, w) ∈ d'.entries ↔ ∃ v, (k, v) ∈ d.entries ∧ f k v = w) (k : String) :
    d'.get? k = (d.get? k).map (f k) := by
  apply Option.ext
  intro w
  simp only [Option.mem_def, get?_eq_some_iff, h, Option.map_eq_some']

@[simp] theorem get?_empty (k : String) : (empty : PyDict β).get? k = none := rfl

@[simp] theorem keys_empty : (empty : PyDict β).keys = [] := rfl

/-! ## Assignment -/

theorem mem_insert (d : PyDict β) {k k' : String} {v w : β} :
    (k', w) ∈ (d.insert k v).entries ↔ (k' = k ∧ w = v) ∨ (k' ≠ k ∧ (k', w) ∈ d.entries) := by
  unfold insert
  split
  · next hk =>
      obtain ⟨v₀, hv₀⟩ := (d.mem_keys_iff).mp hk
      simp only [List.mem_map]
      constructor
      · rintro ⟨⟨k₀, w₀⟩, he, hfe⟩
        by_cases hek : k₀ = k <;> simp_all
      · rintro (⟨rfl, rfl⟩ | ⟨hne, hmem⟩)
        · exact ⟨(k', v₀), (d.get?_eq_some_iff).mp hv₀, by simp⟩
        · exact ⟨(k', w), hmem, by simp [hne]⟩
  · next hk =>
      have hnot : ∀ u, (k, u) ∉ d.entries := fun u hu => hk (List.mem_map.mpr ⟨_, hu, rfl⟩)
      simp only [List.mem_append, List.mem_singleton, Prod.mk.injEq]
      by_cases hkk : k' = k
      · subst hkk; simp [hnot]
      · simp [hkk]

@[simp] theorem get?_insert (d : PyDict β) (k : String) (v : β) (k' : String) :
    (d.insert k v).get? k' = if k' = k then some v else d.get? k' := by
  apply Option.ext
  intro w
  simp only [Option.mem_def, get?_eq_some_iff, mem_insert]
  by_cases hk : k' = k
  · simp [hk, eq_comm]
  · simp [hk, get?_eq_some_iff]

theorem entries_insert_of_not_mem (d : PyDict β) {k : String} (v : β) (hk : k ∉ d.keys) :
    (d.insert k v).entries = d.entries ++ [(k, v)] := by
  rw [insert, dif_neg hk]

theorem keys_insert_of_not_mem (d : PyDict β) {k : String} (v : β) (hk : k ∉ d.keys) :
    (d.insert k v).keys = d.keys ++ [k] := by
  simp [keys, entries_insert_of_not_mem d v hk]

theorem values_insert_of_not_mem (d : PyDict β) {k : String} (v : β) (hk : k ∉ d.keys) :
    (d.insert k v).values = d.values ++ [v] := by
  simp [values, entries_insert_of_not_mem d v hk]

theorem keys_insert (d : PyDict β) (k : String) (v : β) :
    (d.insert k v).keys = if k ∈ d.keys then d.keys else d.keys ++ [k] := by
  split
  · next hk =>
      rw [insert, dif_pos hk, keys, keys, List.map_map]
      exact List.map_congr_left fun e _ => by by_cases he : e.1 = k <;> simp [he]
  · next hk => exact keys_insert_of_not_mem d v hk

theorem mem_keys_insert (d : PyDict β) (k : String) (v : β) {k' : String} :
    k' ∈ (d.insert k v).keys ↔ k' = k ∨ k' ∈ d.keys := by
  simp only [mem_keys_iff, get?_insert]
  by_cases hk : k' = k <;> simp [hk]

/-! ## Deletion and mapping -/

theorem mem_erase (d : PyDict β) {k k' : String} {w : β} :
    (k', w) ∈ (d.erase k).entries ↔ k' ≠ k ∧ (k', w) ∈ d.entries := by
  simp [erase, and_comm]

@[simp] theorem get?_erase (d : PyDict β) (k k' : String) :
    (d.erase k).get? k' = if k' = k then none else d.get? k' := by
  apply Option.ext
  intro w
  by_cases hk : k' = k <;> simp [Option.mem_def, get?_eq_some_iff, mem_erase, hk]

theorem keys_erase (d : PyDict β) (k : String) : (d.erase k).keys = d.keys.erase k := by
  rw [keys, keys, List.Nodup.erase_eq_filter d.nodup, erase, List.filter_map]
  rfl

@[simp] theorem get?_map (f : String → β → γ) (d : PyDict β) (k : String) :
    (d.map f).get? k = (d.get? k).map (f k) :=
  get?_congr (fun k w => by
    simp only [map, List.mem_map, Prod.mk.injEq]
    constructor
    · rintro ⟨⟨a, b⟩, h, rfl, rfl⟩; exact ⟨b, h, rfl⟩
    · rintro ⟨v, h, rfl⟩; exact ⟨(k, v), h, rfl, rfl⟩) k

@[simp] theorem keys_map (f : String → β → γ) (d : PyDict β) : (d.map f).keys = d.keys := by
  simp [map, keys]

theorem map_map {δ : Type} (f : String → β → γ) (g : String → γ → δ) (d : PyDict β) :
    (d.map f).map g = d.map fun k v => g k (f k v) :=
  ext_entries (by simp [map])

theorem map_insert (f : String → β → γ) (d : PyDict β) (k : String) (v : β) :
    (d.insert k v).map f = (d.map f).insert k (f k v) := by
  apply ext_entries
  by_cases hk : k ∈ d.keys
  · have hk' : k ∈ (d.map f).keys := by simpa using hk
    rw [insert, insert, dif_pos hk, dif_pos hk']
    simp only [map, List.map_map]
    exact List.map_congr_left fun e _ => by by_cases he : e.1 = k <;> simp [he]
  · have hk' : k ∉ (d.map f).keys := by simpa using hk
    rw [insert, insert, dif_neg hk, dif_neg hk']
    simp [map]

end PyDict

end MultiTerminal
