/-!
# Tables keyed by process id

Process tables, pending console reads and the like are looked up by pid and listed in
increasing pid order. `PidMap` keeps its entries sorted by key with each key at most once;
`insert` replaces the value of a key that is there and otherwise puts the new entry in its
place.

Main statements: lookup after insert and erase (`find?_insert`, `find?_erase`), and
insertion keeps the keys strictly increasing (`sorted_insert`).
-/

namespace PagedMachine

/-- Entries sorted by strictly increasing pid. -/
structure PidMap (α : Type) where
  entries : List (Nat × α) := []
  deriving Repr, Inhabited

namespace PidMap

variable {α : Type}

/-- Inserts into a sorted entry list, replacing an entry of the same key. -/
def insertEntry (k : Nat) (v : α) : List (Nat × α) → List (Nat × α)
  | [] => [(k, v)]
  | (k', v') :: rest =>
    if k < k' then (k, v) :: (k', v') :: rest
    else if k = k' then (k, v) :: rest
    else (k', v') :: insertEntry k v rest

/-- The value of key `k`. -/
def find? (m : PidMap α) (k : Nat) : Option α :=
  (m.entries.find? (·.1 == k)).map (·.2)

/-- Whether key `k` is present. -/
def contains (m : PidMap α) (k : Nat) : Bool := m.entries.any (·.1 == k)

/-- Sets the value of key `k`. -/
def insert (m : PidMap α) (k : Nat) (v : α) : PidMap α := ⟨insertEntry k v m.entries⟩

/-- Removes key `k`. -/
def erase (m : PidMap α) (k : Nat) : PidMap α := ⟨m.entries.filter (·.1 != k)⟩

/-- Changes the value of key `k`, if present. -/
def modify (m : PidMap α) (k : Nat) (f : α → α) : PidMap α :=
  ⟨m.entries.map fun (k', v) => if k' = k then (k', f v) else (k', v)⟩

/-- The keys in increasing order. -/
def keys (m : PidMap α) : List Nat := m.entries.map (·.1)

/-- The values in key order. -/
def values (m : PidMap α) : List α := m.entries.map (·.2)

/-- Number of entries. -/
def size (m : PidMap α) : Nat := m.entries.length

/-- Keys strictly increase along the entries. -/
def Sorted (m : PidMap α) : Prop := m.keys.Pairwise (· < ·)

/-- Inserting an entry under `k` answers `v` for `k` and leaves every other key. -/
theorem find?_insertEntry (k q : Nat) (v : α) (es : List (Nat × α)) :
    ((insertEntry k v es).find? (·.1 == q)).map (·.2) =
      if k = q then some v else (es.find? (·.1 == q)).map (·.2) := by
  induction es with
  | nil => by_cases h : k = q <;> simp [insertEntry, h]
  | cons e rest ih =>
    obtain ⟨k', v'⟩ := e
    rw [insertEntry]
    by_cases h1 : k < k'
    · rw [if_pos h1]
      by_cases h : k = q
      · subst h; simp
      · simp [h]
    · rw [if_neg h1]
      by_cases h2 : k = k'
      · rw [if_pos h2]
        subst h2
        by_cases h : k = q
        · subst h; simp
        · simp [h]
      · rw [if_neg h2]
        by_cases h3 : k' = q
        · subst h3; simp [h2]
        · simp [h3, ih]

/-- Inserting under `k` answers `v` for `k` and leaves every other key. -/
@[simp] theorem find?_insert (m : PidMap α) (k q : Nat) (v : α) :
    (m.insert k v).find? q = if k = q then some v else m.find? q :=
  find?_insertEntry k q v m.entries

/-- Dropping the entries under `k` answers nothing for `k` and leaves every other key. -/
theorem find?_filter_ne (k q : Nat) (es : List (Nat × α)) :
    ((es.filter (·.1 != k)).find? (·.1 == q)).map (·.2) =
      if k = q then none else (es.find? (·.1 == q)).map (·.2) := by
  induction es with
  | nil => simp
  | cons e rest ih =>
    obtain ⟨k', v'⟩ := e
    rw [List.filter_cons]
    by_cases hk : k' = k
    · subst hk
      have : (k' != k') = false := by simp
      rw [this, if_neg Bool.false_ne_true, ih]
      by_cases h : k' = q
      · simp [h]
      · simp [h]
    · have : (k' != k) = true := by simpa using hk
      rw [this, if_pos rfl]
      by_cases h3 : k' = q
      · subst h3
        have : k ≠ k' := fun e => hk e.symm
        simp [this]
      · have hb : (k' == q) = false := by simpa using h3
        simp only [List.find?_cons, hb]
        exact ih

/-- Erasing `k` answers nothing for `k` and leaves every other key. -/
@[simp] theorem find?_erase (m : PidMap α) (k q : Nat) :
    (m.erase k).find? q = if k = q then none else m.find? q :=
  find?_filter_ne k q m.entries

/-- Inserting an entry adds at most its own key. -/
theorem keys_insertEntry_sub (k : Nat) (v : α) (es : List (Nat × α)) :
    ∀ x ∈ (insertEntry k v es).map (·.1), x = k ∨ x ∈ es.map (·.1) := by
  induction es with
  | nil => simp [insertEntry]
  | cons e rest ih =>
    obtain ⟨k', v'⟩ := e
    intro x hx
    unfold insertEntry at hx
    split at hx
    · simp only [List.map_cons, List.mem_cons] at hx ⊢
      rcases hx with h | h | h <;> simp [h]
    · split at hx
      · simp only [List.map_cons, List.mem_cons] at hx ⊢
        rcases hx with h | h <;> simp [h]
      · simp only [List.map_cons, List.mem_cons] at hx ⊢
        rcases hx with h | h
        · exact Or.inr (Or.inl h)
        · rcases ih x h with h' | h'
          · exact Or.inl h'
          · exact Or.inr (Or.inr h')

/-- Inserting an entry into entries sorted by key keeps them sorted. -/
theorem sorted_insertEntry (k : Nat) (v : α) (es : List (Nat × α))
    (sorted : (es.map (·.1)).Pairwise (· < ·)) :
    ((insertEntry k v es).map (·.1)).Pairwise (· < ·) := by
  induction es with
  | nil => simp [insertEntry]
  | cons e rest ih =>
    obtain ⟨k', v'⟩ := e
    simp only [List.map_cons, List.pairwise_cons] at sorted
    unfold insertEntry
    split
    · rename_i hlt
      simp only [List.map_cons, List.pairwise_cons, List.mem_cons]
      refine ⟨?_, sorted.1, sorted.2⟩
      intro x hx
      rcases hx with rfl | hx
      · exact hlt
      · exact Nat.lt_trans hlt (sorted.1 x hx)
    · split
      · rename_i _ heq
        subst heq
        simpa using sorted
      · rename_i hge hne
        simp only [List.map_cons, List.pairwise_cons]
        refine ⟨?_, ih sorted.2⟩
        intro x hx
        rcases keys_insertEntry_sub k v rest x hx with rfl | hx
        · omega
        · exact sorted.1 x hx

/-- Inserting into a sorted map keeps it sorted. -/
theorem sorted_insert (m : PidMap α) (k : Nat) (v : α) (sorted : m.Sorted) :
    (m.insert k v).Sorted :=
  sorted_insertEntry k v m.entries sorted

end PidMap

/-- Inserts a pid into a list of increasing pids, unless it is there. -/
def insertPid (p : Nat) : List Nat → List Nat
  | [] => [p]
  | q :: rest => if p < q then p :: q :: rest else if p = q then q :: rest else q :: insertPid p rest

end PagedMachine
