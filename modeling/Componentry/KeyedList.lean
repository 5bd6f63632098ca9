/-!
# Keyed lists

A keyed list maps strings to values and remembers the order in which its keys came. Writing under
a key that is present replaces the value where it stands; a new key goes to the end. No key occurs
twice, which the type states, so `find?` and the entries tell the same.
-/

namespace Componentry

universe u

/-- A map from strings that keeps the order of first insertion. -/
structure KeyedList (α : Type u) where
  /-- The keys with their values, oldest key first. -/
  entries : List (String × α)
  /-- No key occurs twice. -/
  nodup : (entries.map Prod.fst).Nodup

namespace KeyedList

variable {α : Type u}

def empty : KeyedList α := ⟨[], List.nodup_nil⟩

instance : Inhabited (KeyedList α) := ⟨empty⟩

def keys (m : KeyedList α) : List String := m.entries.map Prod.fst

def size (m : KeyedList α) : Nat := m.entries.length

def find? (m : KeyedList α) (k : String) : Option α := m.entries.lookup k

def contains (m : KeyedList α) (k : String) : Bool := m.keys.contains k

/-- Writes `v` under `k`: in place where the key stands, else at the end. -/
def put (k : String) (v : α) : List (String × α) → List (String × α)
  | [] => [(k, v)]
  | e :: es => if e.1 = k then (k, v) :: es else e :: put k v es

@[simp] theorem put_nil (k : String) (v : α) : put k v [] = [(k, v)] := rfl

theorem put_cons (k : String) (v : α) (e : String × α) (es : List (String × α)) :
    put k v (e :: es) = if e.1 = k then (k, v) :: es else e :: put k v es := rfl

theorem map_fst_put (k : String) (v : α) (es : List (String × α)) :
    (put k v es).map Prod.fst =
      if k ∈ es.map Prod.fst then es.map Prod.fst else es.map Prod.fst ++ [k] := by
  induction es with
  | nil => simp
  | cons e es ih =>
    rw [put_cons]
    by_cases h : e.1 = k
    · simp [h]
    · simp only [h, if_false, List.map_cons, ih, List.mem_cons, Ne.symm h, false_or]
      split <;> simp

theorem nodup_put {k : String} {v : α} {es : List (String × α)}
    (h : (es.map Prod.fst).Nodup) : ((put k v es).map Prod.fst).Nodup := by
  rw [map_fst_put]
  split
  · exact h
  · next hk =>
    rw [List.nodup_append]
    refine ⟨h, by simp, ?_⟩
    intro a ha b hb
    simp only [List.mem_singleton] at hb
    rintro rfl
    exact hk (hb ▸ ha)

def insert (m : KeyedList α) (k : String) (v : α) : KeyedList α :=
  ⟨put k v m.entries, nodup_put m.nodup⟩

/-- The list without the key `k`; the other entries keep their order. -/
def erase (m : KeyedList α) (k : String) : KeyedList α :=
  ⟨m.entries.filter (·.1 ≠ k), m.nodup.sublist (List.filter_sublist.map _)⟩

def ofList (es : List (String × α)) : KeyedList α := es.foldl (fun m e => m.insert e.1 e.2) empty

@[simp] theorem entries_empty : (empty : KeyedList α).entries = [] := rfl

@[simp] theorem keys_empty : (empty : KeyedList α).keys = [] := rfl

@[simp] theorem find?_empty (k : String) : (empty : KeyedList α).find? k = none := rfl

@[simp] theorem entries_insert (m : KeyedList α) (k : String) (v : α) :
    (m.insert k v).entries = put k v m.entries := rfl

/-- Inserting keeps the order of the keys and adds a new one at the end. -/
theorem keys_insert (m : KeyedList α) (k : String) (v : α) :
    (m.insert k v).keys = if k ∈ m.keys then m.keys else m.keys ++ [k] :=
  map_fst_put k v m.entries

theorem contains_iff {m : KeyedList α} {k : String} : m.contains k = true ↔ k ∈ m.keys := by
  simp [contains]

theorem lookup_cons (j : String) (e : String × α) (es : List (String × α)) :
    (e :: es).lookup j = if j = e.1 then some e.2 else es.lookup j := by
  obtain ⟨k, v⟩ := e
  by_cases h : j = k
  · simp [h]
  · have : (j == k) = false := by simpa using h
    simp [List.lookup_cons, this, h]

theorem lookup_put (k : String) (v : α) (j : String) (es : List (String × α)) :
    (put k v es).lookup j = if j = k then some v else es.lookup j := by
  induction es with
  | nil => rw [put_nil, lookup_cons]
  | cons e es ih =>
    rw [put_cons, lookup_cons j e es]
    by_cases h : e.1 = k
    · by_cases hj : j = k <;> simp [lookup_cons, h, hj]
    · rw [if_neg h, lookup_cons, ih]
      by_cases hj : j = e.1
      · simp [hj, h]
      · simp [hj]

theorem put_put (k : String) (v w : α) (es : List (String × α)) :
    put k w (put k v es) = put k w es := by
  induction es with
  | nil => simp [put_cons]
  | cons e es ih =>
    rw [put_cons, put_cons]
    by_cases h : e.1 = k
    · simp [h, put_cons]
    · simp [h, put_cons, ih]

/-- Of two values written under one key the later stays. -/
@[simp] theorem insert_insert (m : KeyedList α) (k : String) (v w : α) :
    (m.insert k v).insert k w = m.insert k w := by
  simp only [insert, put_put]

/-- What a key maps to after an insertion. -/
theorem find?_insert (m : KeyedList α) (k : String) (v : α) (j : String) :
    (m.insert k v).find? j = if j = k then some v else m.find? j :=
  lookup_put k v j m.entries

@[simp] theorem find?_insert_self (m : KeyedList α) (k : String) (v : α) :
    (m.insert k v).find? k = some v := by
  simp [find?_insert]

theorem find?_insert_of_ne {m : KeyedList α} {k j : String} (v : α) (h : j ≠ k) :
    (m.insert k v).find? j = m.find? j := by
  simp [find?_insert, h]

/-- A key is present exactly when something is found under it. -/
theorem find?_eq_none_iff {m : KeyedList α} {k : String} : m.find? k = none ↔ k ∉ m.keys := by
  simp only [find?, keys]
  induction m.entries with
  | nil => simp
  | cons e es ih =>
    by_cases h : k = e.1
    · subst h
      simp
    · simp [lookup_cons, ih, h]

/-- What a key maps to after an insertion under a new key. -/
theorem find?_insert_eq_some_iff {m : KeyedList α} {k : String} (hk : k ∉ m.keys) (v w : α)
    (j : String) :
    (m.insert k v).find? j = some w ↔ m.find? j = some w ∨ k = j ∧ v = w := by
  rw [find?_insert]
  by_cases hj : j = k
  · have hnone : m.find? j = none := find?_eq_none_iff.2 (hj ▸ hk)
    rw [if_pos hj, hnone, Option.some_inj]
    simp [hj]
  · rw [if_neg hj]
    simp [Ne.symm hj]

theorem lookup_of_mem {k : String} {v : α} {es : List (String × α)}
    (hnodup : (es.map Prod.fst).Nodup) (h : (k, v) ∈ es) : es.lookup k = some v := by
  induction es with
  | nil => exact nomatch h
  | cons e es ih =>
    rw [List.map_cons, List.nodup_cons] at hnodup
    rw [lookup_cons]
    rcases List.mem_cons.1 h with rfl | h
    · simp
    · have hne : k ≠ e.1 := fun hk => hnodup.1 (hk ▸ List.mem_map_of_mem h)
      rw [if_neg hne, ih hnodup.2 h]

/-- What an entry says is found under its key. -/
theorem find?_of_mem {m : KeyedList α} {e : String × α} (h : e ∈ m.entries) :
    m.find? e.1 = some e.2 :=
  lookup_of_mem m.nodup h

/-- What is found under a key is an entry. -/
theorem mem_of_find? {m : KeyedList α} {k : String} {v : α} (h : m.find? k = some v) :
    (k, v) ∈ m.entries := by
  obtain ⟨before, after, heq, -⟩ := List.lookup_eq_some_iff.1 h
  rw [heq]
  exact List.mem_append_right before List.mem_cons_self

theorem isSome_find? {m : KeyedList α} {k : String} : (m.find? k).isSome = m.contains k := by
  by_cases h : k ∈ m.keys
  · have hn : m.find? k ≠ none := fun hn => find?_eq_none_iff.1 hn h
    rw [contains_iff.2 h, Option.isSome_iff_ne_none.2 hn]
  · have hc : m.contains k = false := Bool.eq_false_iff.2 fun hc => h (contains_iff.1 hc)
    rw [hc, find?_eq_none_iff.2 h, Option.isSome_none]

end KeyedList

end Componentry
