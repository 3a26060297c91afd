/-!
# Looking up a key in a list of entries
-/

namespace SlideGraph

variable {α κ : Type} [BEq κ] [LawfulBEq κ] [DecidableEq κ]

theorem lookup_cons_ite (k j : κ) (v : α) (es : List (κ × α)) :
    ((k, v) :: es).lookup j = if j = k then some v else es.lookup j := by
  rw [List.lookup_cons]
  by_cases h : j = k
  · simp [h]
  · simp [h, beq_eq_false_iff_ne.2 h]

theorem lookup_filter_ne (k j : κ) (es : List (κ × α)) :
    (es.filter (·.1 != k)).lookup j = if j = k then none else es.lookup j := by
  induction es with
  | nil => simp
  | cons d es ih =>
    obtain ⟨d, w⟩ := d
    rw [lookup_cons_ite, List.filter_cons]
    by_cases hd : d = k
    · subst hd
      simp only [bne_self_eq_false, Bool.false_eq_true, if_false]
      rw [ih]
      by_cases hj : j = d <;> simp [hj]
    · have hne : (d != k) = true := by simpa using hd
      simp only [hne, if_true]
      rw [lookup_cons_ite, ih]
      by_cases hj : j = d
      · simp [hj, hd]
      · simp [hj]

end SlideGraph
