import Mathlib.Data.List.Nodup

/-!
# Dictionaries in the order of insertion

A `Dict κ β` keeps its keys in the order in which they were first set; setting a
key again keeps its place. A dictionary made from pairs has the last value of
each key.
-/

/-- A dictionary: entries in the order of insertion, with distinct keys. -/
structure Dict (κ β : Type*) where
  entries : List (κ × β)
  nodup : (entries.map Prod.fst).Nodup

namespace Dict

variable {κ β : Type*}

def keys (d : Dict κ β) : List κ := d.entries.map Prod.fst

def empty : Dict κ β := ⟨[], List.nodup_nil⟩

/-- The same keys with other values. -/
def map {γ : Type*} (f : β → γ) (d : Dict κ β) : Dict κ γ where
  entries := d.entries.map (Prod.map id f)
  nodup := by
    rw [List.map_map]
    exact d.nodup

theorem keys_map {γ : Type*} (f : β → γ) (d : Dict κ β) : (d.map f).keys = d.keys := by
  rw [keys, map, List.map_map]
  rfl

theorem eq_of_entries {d d' : Dict κ β} (h : d.entries = d'.entries) : d = d' := by
  obtain ⟨entries, _⟩ := d
  obtain ⟨entries', _⟩ := d'
  obtain rfl : entries = entries' := h
  rfl

variable [DecidableEq κ]

/-- The entries with the value of a key changed, or with the key at the end. -/
def setEntries (k : κ) (v : β) : List (κ × β) → List (κ × β)
  | [] => [(k, v)]
  | e :: entries => if e.1 = k then (k, v) :: entries else e :: setEntries k v entries

theorem map_fst_setEntries (k : κ) (v : β) (entries : List (κ × β)) :
    (setEntries k v entries).map Prod.fst =
      if k ∈ entries.map Prod.fst then entries.map Prod.fst else entries.map Prod.fst ++ [k] := by
  induction entries with
  | nil => simp [setEntries]
  | cons e entries ih =>
      rw [setEntries]
      by_cases hk : e.1 = k
      · simp [hk]
      · have hne : ¬ k = e.1 := fun h => hk h.symm
        rw [if_neg hk, List.map_cons, ih]
        by_cases hmem : k ∈ entries.map Prod.fst
        · have hcons : k ∈ (e :: entries).map Prod.fst := List.mem_cons_of_mem _ hmem
          rw [if_pos hmem, if_pos hcons, List.map_cons]
        · have hcons : k ∉ (e :: entries).map Prod.fst := by simpa [hne] using hmem
          rw [if_neg hmem, if_neg hcons, List.map_cons, List.cons_append]

def set (d : Dict κ β) (k : κ) (v : β) : Dict κ β where
  entries := setEntries k v d.entries
  nodup := by
    rw [map_fst_setEntries]
    split
    · exact d.nodup
    next h => exact List.nodup_append_comm.mp (List.nodup_cons.mpr ⟨h, d.nodup⟩)

def getEntries (k : κ) : List (κ × β) → Option β
  | [] => none
  | e :: entries => if e.1 = k then some e.2 else getEntries k entries

def get? (d : Dict κ β) (k : κ) : Option β := getEntries k d.entries

/-- The dictionary of these pairs. -/
def ofPairs (pairs : List (κ × β)) : Dict κ β :=
  pairs.foldl (fun d e => d.set e.1 e.2) empty

theorem get?_set (d : Dict κ β) (k k' : κ) (v : β) :
    (d.set k v).get? k' = if k = k' then some v else d.get? k' := by
  change getEntries k' (setEntries k v d.entries) = if k = k' then some v
    else getEntries k' d.entries
  induction d.entries with
  | nil => rfl
  | cons e entries ih =>
      rw [setEntries, getEntries]
      by_cases hk : e.1 = k
      · rw [if_pos hk, getEntries, hk]
        split <;> rfl
      · rw [if_neg hk, getEntries, ih]
        by_cases hk' : e.1 = k'
        · have hne : ¬ k = k' := fun h => hk (hk'.trans h.symm)
          rw [if_pos hk', if_neg hne]
          simp [hk']
        · simp [hk']

theorem get?_eq_none_iff (d : Dict κ β) (k : κ) : d.get? k = none ↔ k ∉ d.keys := by
  change getEntries k d.entries = none ↔ k ∉ d.entries.map Prod.fst
  induction d.entries with
  | nil => simp [getEntries]
  | cons e entries ih =>
      rw [getEntries, List.map_cons, List.mem_cons, not_or]
      by_cases hk : e.1 = k
      · simp [hk]
      · rw [if_neg hk, ih]
        exact ⟨fun h => ⟨fun heq => hk heq.symm, h⟩, fun h => h.2⟩

theorem get?_of_mem (d : Dict κ β) {k : κ} {v : β} (h : (k, v) ∈ d.entries) :
    d.get? k = some v := by
  obtain ⟨entries, hnodup⟩ := d
  change getEntries k entries = some v
  induction entries with
  | nil => exact absurd h List.not_mem_nil
  | cons e entries ih =>
      obtain ⟨hfresh, hnodup⟩ := List.nodup_cons.mp hnodup
      rw [getEntries]
      rcases List.mem_cons.mp h with rfl | h
      · exact if_pos rfl
      · have hne : e.1 ≠ k := fun heq => hfresh (heq ▸ List.mem_map_of_mem h)
        rw [if_neg hne]
        exact ih hnodup h

theorem mem_of_get? (d : Dict κ β) {k : κ} {v : β} (h : d.get? k = some v) :
    (k, v) ∈ d.entries := by
  obtain ⟨entries, hnodup⟩ := d
  change getEntries k entries = some v at h
  change (k, v) ∈ entries
  clear hnodup
  induction entries with
  | nil => exact absurd h (Option.some_ne_none v).symm
  | cons e entries ih =>
      rw [getEntries] at h
      split at h
      · rename_i hk
        obtain rfl := Option.some.inj h
        rw [← hk]
        exact List.mem_cons_self
      · exact List.mem_cons_of_mem e (ih h)

theorem get?_map {γ : Type*} (f : β → γ) (d : Dict κ β) (k : κ) :
    (d.map f).get? k = (d.get? k).map f := by
  change getEntries k (d.entries.map (Prod.map id f)) = (getEntries k d.entries).map f
  induction d.entries with
  | nil => rfl
  | cons e entries ih =>
      rw [List.map_cons, getEntries, getEntries, ih, Prod.map_fst, id_eq]
      split <;> rfl

theorem map_set {γ : Type*} (f : β → γ) (d : Dict κ β) (k : κ) (v : β) :
    (d.set k v).map f = (d.map f).set k (f v) := by
  apply eq_of_entries
  change (setEntries k v d.entries).map (Prod.map id f) =
    setEntries k (f v) (d.entries.map (Prod.map id f))
  induction d.entries with
  | nil => rfl
  | cons e entries ih =>
      rw [List.map_cons, setEntries, setEntries, Prod.map_fst, id_eq]
      split
      · rfl
      · rw [List.map_cons, ih]

theorem mem_keys_set (d : Dict κ β) (k k' : κ) (v : β) :
    k' ∈ (d.set k v).keys ↔ k = k' ∨ k' ∈ d.keys := by
  rw [← not_iff_not, not_or, ← get?_eq_none_iff, ← get?_eq_none_iff, get?_set]
  by_cases hk : k = k' <;> simp [hk]

theorem mem_keys_foldl_set (pairs : List (κ × β)) (d : Dict κ β) (k : κ) :
    k ∈ (pairs.foldl (fun d e => d.set e.1 e.2) d).keys ↔ k ∈ d.keys ∨ k ∈ pairs.map Prod.fst := by
  induction pairs generalizing d with
  | nil => simp
  | cons e pairs ih =>
      rw [List.foldl_cons, ih, mem_keys_set, List.map_cons, List.mem_cons, eq_comm (a := e.1)]
      tauto

theorem mem_keys_ofPairs (pairs : List (κ × β)) (k : κ) :
    k ∈ (ofPairs pairs).keys ↔ k ∈ pairs.map Prod.fst := by
  rw [ofPairs, mem_keys_foldl_set]
  simp [keys, empty]

theorem entries_set_of_not_mem (d : Dict κ β) {k : κ} (h : k ∉ d.keys) (v : β) :
    (d.set k v).entries = d.entries ++ [(k, v)] := by
  obtain ⟨entries, hnodup⟩ := d
  change setEntries k v entries = entries ++ [(k, v)]
  change k ∉ entries.map Prod.fst at h
  clear hnodup
  induction entries with
  | nil => rfl
  | cons e entries ih =>
      rw [List.map_cons, List.mem_cons, not_or] at h
      rw [setEntries, if_neg fun heq => h.1 heq.symm, ih h.2, List.cons_append]

theorem entries_foldl_set {pairs : List (κ × β)} (d : Dict κ β)
    (h : (d.entries ++ pairs).map Prod.fst |>.Nodup) :
    (pairs.foldl (fun d e => d.set e.1 e.2) d).entries = d.entries ++ pairs := by
  induction pairs generalizing d with
  | nil => rw [List.append_nil, List.foldl_nil]
  | cons e pairs ih =>
      have hfresh : e.1 ∉ d.keys := by
        rw [List.map_append, List.map_cons] at h
        exact fun hmem => List.disjoint_of_nodup_append h hmem List.mem_cons_self
      have hset := d.entries_set_of_not_mem hfresh e.2
      have hassoc : d.entries ++ [e] ++ pairs = d.entries ++ e :: pairs := by
        rw [List.append_assoc, List.singleton_append]
      rw [List.foldl_cons, ih (d.set e.1 e.2) (by rw [hset, hassoc]; exact h), hset, hassoc]

/-- Pairs with distinct keys are the entries of their dictionary. -/
theorem entries_ofPairs {pairs : List (κ × β)} (h : (pairs.map Prod.fst).Nodup) :
    (ofPairs pairs).entries = pairs := entries_foldl_set empty h

theorem get?_foldl_set_of_not_mem {pairs : List (κ × β)} {k : κ}
    (h : k ∉ pairs.map Prod.fst) (d : Dict κ β) :
    (pairs.foldl (fun d e => d.set e.1 e.2) d).get? k = d.get? k := by
  induction pairs generalizing d with
  | nil => rfl
  | cons e pairs ih =>
      rw [List.map_cons, List.mem_cons, not_or] at h
      rw [List.foldl_cons, ih h.2, get?_set, if_neg fun heq => h.1 heq.symm]

theorem get?_foldl_set_of_mem {pairs : List (κ × β)} (hnodup : (pairs.map Prod.fst).Nodup)
    {k : κ} {v : β} (h : (k, v) ∈ pairs) (d : Dict κ β) :
    (pairs.foldl (fun d e => d.set e.1 e.2) d).get? k = some v := by
  induction pairs generalizing d with
  | nil => exact absurd h List.not_mem_nil
  | cons e pairs ih =>
      obtain ⟨hfresh, hnodup⟩ := List.nodup_cons.mp hnodup
      rw [List.foldl_cons]
      rcases List.mem_cons.mp h with rfl | h
      · rw [get?_foldl_set_of_not_mem hfresh, get?_set, if_pos rfl]
      · exact ih hnodup h _

theorem get?_ofPairs_of_mem {pairs : List (κ × β)} (hnodup : (pairs.map Prod.fst).Nodup) {k : κ}
    {v : β} (h : (k, v) ∈ pairs) : (ofPairs pairs).get? k = some v :=
  get?_foldl_set_of_mem hnodup h empty

/-- Dictionaries are equal that have the same keys in the same order, with the same
values. -/
theorem eq_of_get? {d d' : Dict κ β} (hkeys : d.keys = d'.keys)
    (hvalues : ∀ k ∈ d.keys, d.get? k = d'.get? k) : d = d' := by
  apply eq_of_entries
  apply List.ext_getElem?
  intro i
  have hi : (d.entries[i]?).map Prod.fst = (d'.entries[i]?).map Prod.fst := by
    simpa [keys] using congrArg (fun l => l[i]?) hkeys
  cases h : d.entries[i]? with
  | none =>
      cases h' : d'.entries[i]? with
      | none => rfl
      | some e' => simp [h, h'] at hi
  | some e =>
      cases h' : d'.entries[i]? with
      | none => simp [h, h'] at hi
      | some e' =>
          have hmem := List.mem_of_getElem? h
          have hmem' := List.mem_of_getElem? h'
          have hfst : e.1 = e'.1 := by simpa [h, h'] using hi
          have hsnd := hvalues e.1 (List.mem_map_of_mem hmem)
          rw [d.get?_of_mem hmem, hfst, d'.get?_of_mem hmem'] at hsnd
          exact congrArg some (Prod.ext hfst (Option.some.inj hsnd))

end Dict
