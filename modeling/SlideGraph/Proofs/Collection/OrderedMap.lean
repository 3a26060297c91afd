import Mathlib.Data.List.Basic
import Mathlib.Data.List.Induction
import Mathlib.Tactic.Common
import SlideGraph.Collection.OrderedMap

/-!
# Entries of maps in order of insertion

No key of a map comes twice, so an entry is what a look-up of its key finds, and a map is made
again by putting its entries into the empty map in their order. Of entries with repeated keys a key
stands where it comes first, and the last one of a key counts.
-/

namespace SlideGraph

variable {α : Type}

/-- Of those in a list that have a property there is a last one. -/
theorem exists_last {β : Type} {p : β → Prop} {bs : List β} (h : ∃ b ∈ bs, p b) :
    ∃ before b after, bs = before ++ b :: after ∧ p b ∧ ∀ c ∈ after, ¬p c := by
  induction bs with
  | nil => simp at h
  | cons b bs ih =>
    by_cases hrest : ∃ c ∈ bs, p c
    · obtain ⟨before, c, after, rfl, hc⟩ := ih hrest
      exact ⟨b :: before, c, after, rfl, hc⟩
    · push Not at hrest
      obtain ⟨c, hc, hp⟩ := h
      rcases List.mem_cons.1 hc with rfl | hc
      · exact ⟨[], c, bs, rfl, hp, hrest⟩
      · exact absurd hp (hrest c hc)

/-- In a list without repeated keys an entry is found under its key. -/
theorem mem_iff_lookup {κ : Type} [BEq κ] [LawfulBEq κ] [DecidableEq κ] {es : List (κ × α)}
    (h : (es.map Prod.fst).Nodup) {k : κ} {v : α} : (k, v) ∈ es ↔ es.lookup k = some v := by
  induction es with
  | nil => simp
  | cons e es ih =>
    obtain ⟨j, w⟩ := e
    rw [List.map_cons, List.nodup_cons] at h
    rw [lookup_cons_ite, List.mem_cons, Prod.mk.injEq, ih h.2]
    split
    · rename_i hk
      subst hk
      have hnone : es.lookup k ≠ some v := fun hl =>
        h.1 (List.mem_map.2 ⟨_, (ih h.2).2 hl, rfl⟩)
      simp [hnone, eq_comm]
    · rename_i hk
      simp [hk]

/-- Of the entries with a key the last one is found from behind. -/
theorem lookup_reverse_append (before after : List (String × α)) {k : String} (v : α)
    (h : k ∉ after.map Prod.fst) : (before ++ (k, v) :: after).reverse.lookup k = some v := by
  have hafter : after.reverse.lookup k = none := by
    rw [List.lookup_eq_none_iff]
    intro e he
    rw [List.mem_reverse] at he
    exact bne_iff_ne.2 fun hk => h (List.mem_map.2 ⟨e, he, hk.symm⟩)
  rw [List.reverse_append, List.reverse_cons, List.append_assoc, List.lookup_append, hafter,
    List.singleton_append, lookup_cons_ite]
  simp

namespace OrderedMap

@[ext] theorem ext {m m' : OrderedMap α} (h : m.entries = m'.entries) : m = m' := by
  cases m
  cases m'
  cases h
  rfl

theorem mem_entries_iff {m : OrderedMap α} {k : String} {v : α} :
    (k, v) ∈ m.entries ↔ m.get? k = some v :=
  mem_iff_lookup m.distinct

theorem get?_eq_none_iff {m : OrderedMap α} {k : String} : m.get? k = none ↔ k ∉ m.keys := by
  simp only [get?, keys, List.lookup_eq_none_iff, List.mem_map, bne_iff_ne, not_exists, not_and]
  exact forall₂_congr fun e _ => ne_comm

/-- A map is determined by the order of its keys and by its look-ups. -/
theorem ext_get? {m m' : OrderedMap α} (hkeys : m.keys = m'.keys)
    (h : ∀ k, m.get? k = m'.get? k) : m = m' := by
  have hentries (m : OrderedMap α) :
      m.entries = m.keys.filterMap fun k => (m.get? k).map (k, ·) := by
    have hself : ∀ e ∈ m.entries, (m.get? e.1).map (e.1, ·) = some e := by
      rintro ⟨k, v⟩ he
      rw [mem_entries_iff.1 he, Option.map_some]
    rw [keys, List.filterMap_map]
    exact List.filterMap_some.symm.trans (List.filterMap_congr fun e he => (hself e he).symm)
  apply ext
  rw [hentries m, hentries m', hkeys]
  simp only [h]

/-- An entry with a new key goes last. -/
theorem putEntry_of_notMem {k : String} {v : α} {es : List (String × α)}
    (h : k ∉ es.map Prod.fst) : putEntry k v es = es ++ [(k, v)] := by
  induction es with
  | nil => rfl
  | cons e es ih =>
    rw [List.map_cons, List.mem_cons, not_or] at h
    rw [putEntry, if_neg (Ne.symm h.1), ih h.2, List.cons_append]

theorem entries_foldl_put {es : List (String × α)} {m : OrderedMap α}
    (h : ((m.entries ++ es).map Prod.fst).Nodup) :
    (es.foldl (fun m e => m.put e.1 e.2) m).entries = m.entries ++ es := by
  induction es generalizing m with
  | nil => simp
  | cons e es ih =>
    have hnew : e.1 ∉ m.entries.map Prod.fst := by
      rw [List.map_append, List.nodup_append] at h
      intro hmem
      exact h.2.2 e.1 hmem e.1 (by simp) rfl
    have hput : (m.put e.1 e.2).entries = m.entries ++ [e] := putEntry_of_notMem hnew
    rw [List.foldl_cons, ih (by simpa [hput] using h), hput, List.append_assoc,
      List.singleton_append]

theorem entries_ofList {es : List (String × α)} (h : (es.map Prod.fst).Nodup) :
    (ofList es).entries = es := by
  rw [ofList, entries_foldl_put h]
  rfl

theorem ofList_entries (m : OrderedMap α) : ofList m.entries = m :=
  ext (entries_ofList m.distinct)

/-! ### Entries with repeated keys -/

theorem ofList_concat (es : List (String × α)) (e : String × α) :
    ofList (es ++ [e]) = (ofList es).put e.1 e.2 := by
  rw [ofList, List.foldl_append]
  rfl

theorem get?_ofList (es : List (String × α)) (k : String) :
    (ofList es).get? k = es.reverse.lookup k := by
  induction es using List.reverseRecOn with
  | nil => rfl
  | append_singleton es e ih =>
    rw [ofList_concat, get?_put, List.reverse_append, List.reverse_singleton,
      List.singleton_append, lookup_cons_ite, ih]

/-- A key stands where it comes first. -/
theorem keys_ofList (es : List (String × α)) :
    (ofList es).keys = (es.map Prod.fst).eraseDups := by
  induction es using List.reverseRecOn with
  | nil => rfl
  | append_singleton es e ih =>
    rw [ofList_concat, keys_put, ih, List.map_append, List.eraseDups_append]
    by_cases h : e.1 ∈ es.map Prod.fst <;> simp [h, List.removeAll, List.eraseDups_cons]

/-- What becomes of entries with repeated keys: each key is there once, where it comes first, and
has the value that it comes with last. -/
structure InSourceOrder (m : OrderedMap α) (es : List (String × α)) : Prop where
  keys : m.keys = (es.map Prod.fst).eraseDups
  get? : ∀ before k v after, es = before ++ (k, v) :: after → k ∉ after.map Prod.fst →
    m.get? k = some v

theorem inSourceOrder_ofList (es : List (String × α)) : (ofList es).InSourceOrder es where
  keys := keys_ofList es
  get? := by
    rintro before k v after rfl h
    rw [get?_ofList, lookup_reverse_append before after v h]

theorem InSourceOrder.eq {m m' : OrderedMap α} {es : List (String × α)} (h : m.InSourceOrder es)
    (h' : m'.InSourceOrder es) : m = m' := by
  have hkeys : m.keys = m'.keys := h.keys.trans h'.keys.symm
  apply ext_get? hkeys
  intro k
  by_cases hk : ∃ e ∈ es, e.1 = k
  · obtain ⟨before, ⟨k, v⟩, after, hes, rfl, hafter⟩ := exists_last hk
    have hlast : k ∉ after.map Prod.fst := by
      rw [List.mem_map]
      rintro ⟨e, he, hk⟩
      exact hafter e he hk
    rw [h.get? before k v after hes hlast, h'.get? before k v after hes hlast]
  · have hnot : k ∉ m.keys := by
      rw [h.keys, List.mem_eraseDups]
      simpa using hk
    rw [get?_eq_none_iff.2 hnot, get?_eq_none_iff.2 (hkeys ▸ hnot)]

end OrderedMap

end SlideGraph
