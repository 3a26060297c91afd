import SlideGraph.Collection.Lookup

/-!
# Maps with sorted keys

A finite map from strings, kept as the list of its entries in ascending order of their keys (by
code point, which is also the order of the UTF-8 bytes). A map is determined by its look-ups, and
a set of strings is a map without values.
-/

namespace SlideGraph

/-- A finite map from strings, its entries in ascending order. -/
structure KeyMap (α : Type) where
  entries : List (String × α)
  ascending : entries.Pairwise (fun a b => a.1 < b.1)

namespace KeyMap

variable {α : Type}

def empty : KeyMap α := ⟨[], .nil⟩

instance : Inhabited (KeyMap α) := ⟨empty⟩

instance [DecidableEq α] : DecidableEq (KeyMap α) := fun a b =>
  decidable_of_iff (a.entries = b.entries) (by cases a; cases b; simp)

/-! ### Entries -/

/-- Put an entry at its place in an ascending list, over the entry of the same key. -/
def insertEntry (k : String) (v : α) : List (String × α) → List (String × α)
  | [] => [(k, v)]
  | e :: es =>
    if k < e.1 then (k, v) :: e :: es
    else if e.1 < k then e :: insertEntry k v es
    else (k, v) :: es

theorem mem_insertEntry {k : String} {v : α} {es : List (String × α)} {e : String × α}
    (h : e ∈ insertEntry k v es) : e = (k, v) ∨ e ∈ es := by
  induction es with
  | nil => exact .inl (by simpa [insertEntry] using h)
  | cons d es ih =>
    simp only [insertEntry] at h
    split at h
    · simpa using h
    · split at h
      · rcases List.mem_cons.1 h with h | h
        · exact .inr (h ▸ List.mem_cons_self)
        · exact (ih h).imp id (List.mem_cons_of_mem _)
      · rcases List.mem_cons.1 h with h | h
        · exact .inl h
        · exact .inr (List.mem_cons_of_mem _ h)

theorem ascending_insertEntry (k : String) (v : α) {es : List (String × α)}
    (h : es.Pairwise (fun a b => a.1 < b.1)) :
    (insertEntry k v es).Pairwise (fun a b => a.1 < b.1) := by
  induction es with
  | nil => simp [insertEntry]
  | cons d es ih =>
    obtain ⟨hd, hes⟩ := List.pairwise_cons.1 h
    simp only [insertEntry]
    split
    · rename_i hk
      refine List.pairwise_cons.2 ⟨fun e he => ?_, h⟩
      rcases List.mem_cons.1 he with rfl | he
      · exact hk
      · exact String.lt_trans hk (hd e he)
    · split
      · rename_i hk
        refine List.pairwise_cons.2 ⟨fun e he => ?_, ih hes⟩
        rcases mem_insertEntry he with rfl | he
        · exact hk
        · exact hd e he
      · rename_i h1 h2
        have hk : k = d.1 := String.le_antisymm (String.not_lt.1 h2) (String.not_lt.1 h1)
        exact List.pairwise_cons.2 ⟨fun e he => hk ▸ hd e he, hes⟩

/-! ### Operations -/

def get? (m : KeyMap α) (k : String) : Option α := m.entries.lookup k

def contains (m : KeyMap α) (k : String) : Bool := (m.get? k).isSome

/-- Give a key a value, over the one it has. -/
def insert (k : String) (v : α) (m : KeyMap α) : KeyMap α :=
  ⟨insertEntry k v m.entries, ascending_insertEntry k v m.ascending⟩

def erase (k : String) (m : KeyMap α) : KeyMap α :=
  ⟨m.entries.filter (·.1 != k), m.ascending.filter _⟩

def keys (m : KeyMap α) : List String := m.entries.map Prod.fst

def size (m : KeyMap α) : Nat := m.entries.length

/-- The map of the given entries, where the last one of a key counts. -/
def ofList (es : List (String × α)) : KeyMap α :=
  es.foldl (fun m e => m.insert e.1 e.2) empty

theorem lookup_insertEntry (k j : String) (v : α) (es : List (String × α)) :
    (insertEntry k v es).lookup j = if j = k then some v else es.lookup j := by
  induction es with
  | nil => rw [insertEntry, lookup_cons_ite]
  | cons d es ih =>
    obtain ⟨d, w⟩ := d
    simp only [insertEntry]
    split
    · rw [lookup_cons_ite]
    · split
      · rename_i hlt
        have hne : d ≠ k := fun h => String.lt_irrefl k (h ▸ hlt)
        rw [lookup_cons_ite, lookup_cons_ite, ih]
        by_cases hj : j = d
        · simp [hj, hne]
        · simp [hj]
      · rename_i h1 h2
        have hk : k = d := String.le_antisymm (String.not_lt.1 h2) (String.not_lt.1 h1)
        subst hk
        rw [lookup_cons_ite, lookup_cons_ite]
        by_cases h : j = k <;> simp [h]

@[simp] theorem get?_empty (k : String) : (empty : KeyMap α).get? k = none := rfl

theorem get?_insert (m : KeyMap α) (k j : String) (v : α) :
    (m.insert k v).get? j = if j = k then some v else m.get? j :=
  lookup_insertEntry k j v m.entries

theorem get?_erase (m : KeyMap α) (k j : String) :
    (m.erase k).get? j = if j = k then none else m.get? j :=
  lookup_filter_ne k j m.entries

theorem contains_insert (m : KeyMap α) (k j : String) (v : α) :
    (m.insert k v).contains j = (decide (j = k) || m.contains j) := by
  rw [contains, get?_insert]
  by_cases h : j = k <;> simp [h, contains]

theorem contains_erase (m : KeyMap α) (k j : String) :
    (m.erase k).contains j = (!decide (j = k) && m.contains j) := by
  rw [contains, get?_erase]
  by_cases h : j = k <;> simp [h, contains]

end KeyMap

/-! ### Sets -/

/-- A finite set of strings. -/
abbrev KeySet := KeyMap Unit

namespace KeySet

/-- Put a string into a set. -/
def add (k : String) (s : KeySet) : KeySet := KeyMap.insert k () s

def ofList (ks : List String) : KeySet := ks.foldl (fun s k => add k s) KeyMap.empty

end KeySet

end SlideGraph
