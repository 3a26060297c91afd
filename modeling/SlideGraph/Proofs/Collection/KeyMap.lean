import Mathlib.Data.List.Dedup
import SlideGraph.Collection.KeyMap
import SlideGraph.Proofs.Collection.OrderedMap

/-!
# Maps with sorted keys from their entries

A map is made again by putting its entries into the empty map in their order, since each of them
goes behind those before it. Of entries in any order the last one of a key counts, so a map has as
many entries as there are different keys among them.
-/

namespace SlideGraph

namespace KeyMap

variable {α : Type}

/-- An entry with a key above all others goes last. -/
theorem insertEntry_of_lt {k : String} {v : α} {es : List (String × α)}
    (h : ∀ e ∈ es, e.1 < k) : insertEntry k v es = es ++ [(k, v)] := by
  induction es with
  | nil => rfl
  | cons e es ih =>
    have he := h e List.mem_cons_self
    rw [insertEntry, if_neg (String.lt_asymm he), if_pos he,
      ih fun e' he' => h e' (List.mem_cons_of_mem e he'), List.cons_append]

theorem entries_foldl_insert {es : List (String × α)} {m : KeyMap α}
    (h : (m.entries ++ es).Pairwise (fun a b => a.1 < b.1)) :
    (es.foldl (fun m e => m.insert e.1 e.2) m).entries = m.entries ++ es := by
  induction es generalizing m with
  | nil => simp
  | cons e es ih =>
    have hlt : ∀ e' ∈ m.entries, e'.1 < e.1 := by
      intro e' he'
      exact (List.pairwise_append.1 h).2.2 e' he' e List.mem_cons_self
    have hinsert : (m.insert e.1 e.2).entries = m.entries ++ [e] := insertEntry_of_lt hlt
    rw [List.foldl_cons, ih (by simpa [hinsert] using h), hinsert, List.append_assoc,
      List.singleton_append]

@[ext] theorem ext {m m' : KeyMap α} (h : m.entries = m'.entries) : m = m' := by
  cases m
  cases m'
  cases h
  rfl

theorem ofList_entries (m : KeyMap α) : ofList m.entries = m := by
  apply ext
  rw [ofList, entries_foldl_insert m.ascending]
  rfl

/-! ### Entries in any order -/

theorem get?_ofList (es : List (String × α)) (k : String) :
    (ofList es).get? k = es.reverse.lookup k := by
  induction es using List.reverseRecOn with
  | nil => rfl
  | append_singleton es e ih =>
    rw [ofList, List.foldl_append, List.foldl_cons, List.foldl_nil, get?_insert,
      List.reverse_append, List.reverse_singleton, List.singleton_append, lookup_cons_ite, ← ih]
    rfl

theorem get?_ofList_append (before after : List (String × α)) {k : String} (v : α)
    (h : k ∉ after.map Prod.fst) : (ofList (before ++ (k, v) :: after)).get? k = some v := by
  rw [get?_ofList, lookup_reverse_append before after v h]

theorem nodup_keys (m : KeyMap α) : m.keys.Nodup := by
  rw [keys, List.Nodup, List.pairwise_map]
  apply m.ascending.imp
  intro a b hlt heq
  exact String.lt_irrefl b.1 (heq ▸ hlt)

theorem mem_entries_iff {m : KeyMap α} {k : String} {v : α} :
    (k, v) ∈ m.entries ↔ m.get? k = some v :=
  mem_iff_lookup (nodup_keys m)

theorem mem_keys_iff {m : KeyMap α} {k : String} : k ∈ m.keys ↔ ∃ v, m.get? k = some v := by
  rw [keys, List.mem_map]
  constructor
  · rintro ⟨⟨k, v⟩, he, rfl⟩
    exact ⟨v, mem_entries_iff.1 he⟩
  · rintro ⟨v, hv⟩
    exact ⟨(k, v), mem_entries_iff.2 hv, rfl⟩

/-- A map is determined by its look-ups. -/
theorem ext_get? {m m' : KeyMap α} (h : ∀ k, m.get? k = m'.get? k) : m = m' := by
  have hperm : m.entries.Perm m'.entries := by
    rw [List.perm_ext_iff_of_nodup (nodup_keys m).of_map (nodup_keys m').of_map]
    rintro ⟨k, v⟩
    rw [mem_entries_iff, mem_entries_iff]
    exact iff_of_eq (congrArg (· = some v) (h k))
  apply ext
  apply hperm.eq_of_pairwise _ m.ascending m'.ascending
  intro a b _ _ hab hba
  exact absurd hba (String.lt_asymm hab)

theorem mem_keys_ofList {es : List (String × α)} {k : String} :
    k ∈ (ofList es).keys ↔ k ∈ es.map Prod.fst := by
  have hlookup : (∃ v, es.reverse.lookup k = some v) ↔ ∃ e ∈ es, e.1 = k := by
    rw [← Option.ne_none_iff_exists', ne_eq, List.lookup_eq_none_iff]
    simp only [List.mem_reverse, bne_iff_ne, ne_eq, not_forall, not_not, exists_prop]
    exact exists_congr fun e => and_congr_right fun _ => eq_comm
  rw [mem_keys_iff, get?_ofList, hlookup, List.mem_map]

/-- A map has an entry for each of the different keys that it is given. -/
theorem size_ofList (es : List (String × α)) :
    (ofList es).size = (es.map Prod.fst).dedup.length := by
  have hperm : (ofList es).keys.Perm (es.map Prod.fst).dedup := by
    rw [List.perm_ext_iff_of_nodup (nodup_keys _) (List.nodup_dedup _)]
    intro k
    rw [mem_keys_ofList, List.mem_dedup]
  rw [← hperm.length_eq, keys, List.length_map, size]

end KeyMap

namespace KeySet

theorem ofList_keys (s : KeySet) : ofList (KeyMap.keys s) = s := by
  have h := KeyMap.ofList_entries s
  rw [KeyMap.ofList] at h
  rw [ofList, KeyMap.keys, List.foldl_map]
  exact h

end KeySet

end SlideGraph
