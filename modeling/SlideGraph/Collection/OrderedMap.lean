import SlideGraph.Collection.Lookup

/-!
# Maps in order of insertion

A finite map from strings whose entries keep the order in which their keys were first put in. A
key that is put in again keeps its place and takes the new value.
-/

namespace SlideGraph

/-- A finite map from strings, its entries in order of insertion. -/
structure OrderedMap (α : Type) where
  entries : List (String × α)
  distinct : (entries.map Prod.fst).Nodup

namespace OrderedMap

variable {α β : Type}

def empty : OrderedMap α := ⟨[], .nil⟩

instance : Inhabited (OrderedMap α) := ⟨empty⟩

instance [DecidableEq α] : DecidableEq (OrderedMap α) := fun a b =>
  decidable_of_iff (a.entries = b.entries) (by cases a; cases b; simp)

/-! ### Entries -/

/-- Replace the value of a key where the key stands, or put the entry last. -/
def putEntry (k : String) (v : α) : List (String × α) → List (String × α)
  | [] => [(k, v)]
  | e :: es => if e.1 = k then (k, v) :: es else e :: putEntry k v es

theorem map_fst_putEntry (k : String) (v : α) (es : List (String × α)) :
    (putEntry k v es).map Prod.fst =
      if k ∈ es.map Prod.fst then es.map Prod.fst else es.map Prod.fst ++ [k] := by
  induction es with
  | nil => simp [putEntry]
  | cons e es ih =>
    by_cases h : e.1 = k
    · simp [putEntry, h]
    · have h' : ¬k = e.1 := fun h' => h h'.symm
      by_cases hk : k ∈ es.map Prod.fst
      · simp only [hk, if_true] at ih
        simp [putEntry, h, ih, hk]
      · simp only [hk, if_false] at ih
        simp [putEntry, h, h', ih, hk]

theorem lookup_putEntry (k j : String) (v : α) (es : List (String × α)) :
    (putEntry k v es).lookup j = if j = k then some v else es.lookup j := by
  induction es with
  | nil => rw [putEntry, lookup_cons_ite]
  | cons e es ih =>
    obtain ⟨e, w⟩ := e
    simp only [putEntry]
    split
    · rename_i h
      rw [lookup_cons_ite, lookup_cons_ite, h]
      by_cases hj : j = k <;> simp [hj]
    · rename_i h
      rw [lookup_cons_ite, lookup_cons_ite, ih]
      by_cases hj : j = e
      · simp [hj, h]
      · simp [hj]

/-! ### Operations -/

def get? (m : OrderedMap α) (k : String) : Option α := m.entries.lookup k

def contains (m : OrderedMap α) (k : String) : Bool := (m.get? k).isSome

/-- Give a key a value. A key that is there keeps its place. -/
def put (k : String) (v : α) (m : OrderedMap α) : OrderedMap α where
  entries := putEntry k v m.entries
  distinct := by
    rw [map_fst_putEntry]
    split
    · exact m.distinct
    · rename_i h
      refine List.nodup_append.2 ⟨m.distinct, by simp, fun a ha b hb => ?_⟩
      rintro rfl
      exact h (by rw [← List.mem_singleton.1 hb]; exact ha)

def keys (m : OrderedMap α) : List String := m.entries.map Prod.fst

def size (m : OrderedMap α) : Nat := m.entries.length

def isEmpty (m : OrderedMap α) : Bool := m.entries.isEmpty

/-- The map of the given entries: a key stands where it comes first and has the value it comes
with last. -/
def ofList (es : List (String × α)) : OrderedMap α :=
  es.foldl (fun m e => m.put e.1 e.2) empty

@[simp] theorem get?_empty (k : String) : (empty : OrderedMap α).get? k = none := rfl

theorem get?_put (m : OrderedMap α) (k j : String) (v : α) :
    (m.put k v).get? j = if j = k then some v else m.get? j :=
  lookup_putEntry k j v m.entries

theorem keys_put (m : OrderedMap α) (k : String) (v : α) :
    (m.put k v).keys = if k ∈ m.keys then m.keys else m.keys ++ [k] :=
  map_fst_putEntry k v m.entries

end OrderedMap

end SlideGraph
