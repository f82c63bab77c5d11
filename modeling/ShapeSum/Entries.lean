/-!
# Ordered entries

Entries pair names with values and keep the order in which the names first came.
Setting a name that is present replaces its value in place; setting a new one
adds an entry at the end.
-/

namespace ShapeSum

/-- Named values in order of first insertion. -/
abbrev Entries (α : Type) := List (String × α)

namespace Entries

variable {α : Type}

/-- The value under a name. -/
def get? : Entries α → String → Option α
  | [], _ => none
  | (k, v) :: rest, key => if k = key then some v else get? rest key

/-- Whether a name has a value. -/
def has (e : Entries α) (key : String) : Bool := (e.get? key).isSome

/-- The entries with a value set under a name. -/
def set : Entries α → String → α → Entries α
  | [], key, v => [(key, v)]
  | (k, w) :: rest, key, v => if k = key then (k, v) :: rest else (k, w) :: set rest key v

/-- The names in order. -/
def keys (e : Entries α) : List String := e.map Prod.fst

/-- Entries from pairs, the last value of a name at the place of the first. -/
def ofPairs (pairs : List (String × α)) : Entries α :=
  pairs.foldl (fun e p => set e p.1 p.2) []

/-- The value under a name after one entry was set. -/
theorem get?_set (e : Entries α) (key : String) (v : α) (k : String) :
    get? (set e key v) k = if key = k then some v else get? e k := by
  induction e with
  | nil => rfl
  | cons p rest ih =>
    obtain ⟨k', w⟩ := p
    simp only [set]
    split
    · subst_vars; simp only [get?]; split <;> rfl
    · simp only [get?, ih]; grind

/-- The value under a name after every value was changed. -/
theorem get?_map {β : Type} (g : α → β) (e : Entries α) (key : String) :
    get? (e.map fun p => (p.1, g p.2)) key = (get? e key).map g := by
  induction e with
  | nil => rfl
  | cons p rest ih =>
    obtain ⟨k, v⟩ := p
    simp only [List.map_cons, get?]
    split
    · rfl
    · exact ih

/-- The names stay the same when every value is changed. -/
theorem keys_map {β : Type} (g : α → β) (e : Entries α) :
    keys (e.map fun p => (p.1, g p.2)) = keys e := by
  rw [keys, keys, List.map_map]
  rfl

/-- The value under a name is one of the entries. -/
theorem mem_of_get? {e : Entries α} {key : String} {v : α} (h : get? e key = some v) :
    (key, v) ∈ e := by
  induction e with
  | nil => cases h
  | cons p rest ih =>
    obtain ⟨k, w⟩ := p
    simp only [get?] at h
    split at h
    · rename_i hk
      cases h
      rw [hk]
      exact List.mem_cons_self
    · exact List.mem_cons_of_mem _ (ih h)

/-- Without repeated names, every entry is the value under its name. -/
theorem get?_of_mem {e : Entries α} (hn : (keys e).Nodup) {key : String} {v : α}
    (h : (key, v) ∈ e) : get? e key = some v := by
  induction e with
  | nil => cases h
  | cons p rest ih =>
    obtain ⟨k, w⟩ := p
    obtain ⟨hk, hn⟩ := List.nodup_cons.1 hn
    simp only [get?]
    rcases List.mem_cons.1 h with h | h
    · cases h
      rw [if_pos rfl]
    · rw [if_neg fun he : k = key => hk (List.mem_map.2 ⟨(key, v), h, he.symm⟩)]
      exact ih hn h

/-- A name that is present is a listed key. -/
theorem has_iff_mem_keys (e : Entries α) (key : String) : e.has key = true ↔ key ∈ keys e := by
  induction e with
  | nil => simp [has, get?, keys]
  | cons p rest ih =>
    obtain ⟨k, v⟩ := p
    simp only [has, get?, keys, List.map_cons, List.mem_cons] at ih ⊢
    split <;> grind

/-- A name has a value after one was set if it had one before, or is the name that was set. -/
theorem has_set (e : Entries α) (key : String) (v : α) (k : String) :
    has (set e key v) k = true ↔ k = key ∨ has e k = true := by
  rw [has, get?_set]
  by_cases h : key = k
  · simp [h]
  · have h' : ¬ k = key := fun he => h he.symm
    simp [h, h', has]

/-- The value under a name after the entries of one name were removed. -/
theorem get?_filter_ne (e : Entries α) (key k : String) :
    get? (e.filter (·.1 != key)) k = if k = key then none else get? e k := by
  induction e with
  | nil => simp [get?]
  | cons p rest ih =>
    obtain ⟨k', w⟩ := p
    simp only [List.filter_cons, bne_iff_ne, ne_eq]
    split
    · simp only [get?, ih]
      grind
    · simp only [get?, ih]
      grind

/-- Removing the entries of a name takes the value of that name only. -/
theorem has_filter_ne (e : Entries α) (key k : String) :
    has (e.filter (·.1 != key)) k = true ↔ k ≠ key ∧ has e k = true := by
  rw [has, get?_filter_ne]
  by_cases h : k = key
  · simp [h]
  · simp [h, has]

/-- Setting a value keeps the keys in order, with a new one at the end. -/
theorem keys_set (e : Entries α) (key : String) (v : α) :
    keys (set e key v) = if key ∈ keys e then keys e else keys e ++ [key] := by
  induction e with
  | nil => simp [set, keys]
  | cons p rest ih =>
    obtain ⟨k, w⟩ := p
    simp only [set]
    by_cases h : k = key
    · simp [keys, h]
    · have h' : ¬ key = k := fun e => h e.symm
      simp only [h, if_false, keys, List.map_cons, List.mem_cons, h', false_or] at ih ⊢
      grind

/-- No name occurs twice after a value was set, if none did before. -/
theorem nodup_keys_set {e : Entries α} (h : (keys e).Nodup) (key : String) (v : α) :
    (keys (set e key v)).Nodup := by
  rw [keys_set]
  split
  · exact h
  · rename_i hk
    rw [List.nodup_append]
    exact ⟨h, by simp, by grind⟩

end Entries

end ShapeSum
