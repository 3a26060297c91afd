import SlideGraph.Proofs.Json.Grammar

/-!
# Reading numbers

A numeral is read exactly as the grammar has it, as long as the text behind it does not go on
with the number.
-/

namespace SlideGraph.Json.Numeral

/-! ### Digits -/

theorem digits_sound {s t ds : List Char} (h : digits s = .ok (ds, t)) :
    s = ds ++ t ∧ IsDigits ds := by
  obtain ⟨hne, hds, ht⟩ := digits_eq_ok h
  refine ⟨by rw [hds, ht, List.takeWhile_append_dropWhile], hne, ?_⟩
  intro d hd
  rw [hds] at hd
  exact List.mem_takeWhile_imp hd

theorem digits_complete {ds t : List Char} (hds : IsDigits ds)
    (ht : ∀ c ∈ t.head?, c.isDigit = false) : digits (ds ++ t) = .ok (ds, t) := by
  have htake : (ds ++ t).takeWhile Char.isDigit = ds := by
    rw [List.takeWhile_append_of_pos hds.2]
    cases t with
    | nil => simp
    | cons c t => simp [ht c rfl]
  have hdrop : (ds ++ t).dropWhile Char.isDigit = t := by
    rw [List.dropWhile_append_of_pos hds.2]
    cases t with
    | nil => simp
    | cons c t => simp [ht c rfl]
  obtain ⟨d, ds', hd, -⟩ := hds.exists_cons
  rw [digits, htake, hdrop, hd]

theorem wholePart_sound {s t ds : List Char} (h : wholePart s = .ok (ds, t)) :
    s = ds ++ t ∧ IsDigits ds ∧ (ds.head? = some '0' → ds = ['0']) := by
  rw [wholePart] at h
  split at h
  · cases h
  · cases h
  · rename_i r hzero hr
    cases h
    obtain ⟨hs, hds⟩ := digits_sound hr
    refine ⟨hs, hds, ?_⟩
    intro hhead
    obtain ⟨ds', rfl⟩ : ∃ ds', ds = '0' :: ds' := by
      cases ds with
      | nil => simp at hhead
      | cons d ds' => exact ⟨ds', by simpa using hhead⟩
    cases ds' with
    | nil => rfl
    | cons d ds' => exact absurd rfl (hzero d ds' t)

theorem wholePart_complete {ds t : List Char} (hds : IsDigits ds)
    (hzero : ds.head? = some '0' → ds = ['0']) (ht : ∀ c ∈ t.head?, c.isDigit = false) :
    wholePart (ds ++ t) = .ok (ds, t) := by
  rw [wholePart, digits_complete hds ht]
  split
  · simp_all
  · rename_i d ds' t' h
    cases h
    simpa using hzero rfl
  · simp_all

/-! ### Fraction and exponent -/

theorem fractionPart_sound {s t ds : List Char} (h : fractionPart s = .ok (ds, t)) :
    ∃ f, s = f ++ t ∧ FractionText ds f := by
  rw [fractionPart.eq_def] at h
  split at h
  · obtain ⟨rfl, hds⟩ := digits_sound h
    exact ⟨'.' :: ds, rfl, .some hds⟩
  · cases h
    exact ⟨[], rfl, .none⟩

theorem fractionPart_complete {ds f t : List Char} (hf : FractionText ds f)
    (ht : ∀ c ∈ t.head?, c.isDigit = false ∧ c ≠ '.') : fractionPart (f ++ t) = .ok (ds, t) := by
  cases hf with
  | none =>
    rw [List.nil_append, fractionPart.eq_def]
    split
    · exact absurd rfl (ht '.' rfl).2
    · rfl
  | some hds => exact digits_complete hds fun c hc => (ht c hc).1

theorem exponentPart_sound {s t : List Char} {e : Option (Bool × List Char)}
    (h : exponentPart s = .ok (e, t)) : ∃ x, s = x ++ t ∧ ExponentText e x := by
  rw [exponentPart.eq_def] at h
  split at h
  · rename_i c s
    split_ifs at h with hc
    · rw [exponentSign.eq_def] at h
      simp only at h
      split at h
      · cases h
      · rename_i ds u hd
        cases h
        obtain ⟨hs, hds⟩ := digits_sound hd
        split at hs
        · exact ⟨c :: '+' :: ds, by simp_all, .plus hc hds⟩
        · exact ⟨c :: '-' :: ds, by simp_all, .minus hc hds⟩
        · exact ⟨c :: ds, by simp_all, .bare hc hds⟩
    · cases h
      exact ⟨[], rfl, .none⟩
  · cases h
    exact ⟨[], rfl, .none⟩

theorem exponentSign_digits {ds : List Char} (hds : IsDigits ds) (t : List Char) :
    exponentSign (ds ++ t) = (false, ds ++ t) := by
  obtain ⟨d, ds, rfl, hd⟩ := hds.exists_cons
  rw [exponentSign.eq_def]
  split
  · cases ‹_ = '+' :: _›
    simp at hd
  · cases ‹_ = '-' :: _›
    simp at hd
  · rfl

theorem exponentPart_complete {e : Option (Bool × List Char)} {x t : List Char}
    (hx : ExponentText e x) (ht : Ends t) : exponentPart (x ++ t) = .ok (e, t) := by
  have hdigit : ∀ c ∈ t.head?, c.isDigit = false := fun c hc => (ht c hc).1
  cases hx with
  | none =>
    cases t with
    | nil => rfl
    | cons c t => simp [exponentPart, (ht c rfl).2.2]
  | bare hc hds => simp [exponentPart, hc, exponentSign_digits hds, digits_complete hds hdigit]
  | plus hc hds => simp [exponentPart, hc, exponentSign, digits_complete hds hdigit]
  | minus hc hds => simp [exponentPart, hc, exponentSign, digits_complete hds hdigit]

/-! ### Whole numerals -/

theorem magnitude_sound {negative : Bool} {s t : List Char} {n : Numeral}
    (h : magnitude negative s = .ok (n, t)) :
    ∃ w, s = w ++ t ∧ n.negative = negative ∧ n.Text (n.sign ++ w) := by
  rw [magnitude] at h
  split at h
  · cases h
  · rename_i whole u hwhole
    split at h
    · cases h
    · rename_i fraction v hfraction
      split at h
      · cases h
      · rename_i exponent w hexponent
        cases h
        obtain ⟨rfl, hdigits, hzero⟩ := wholePart_sound hwhole
        obtain ⟨f, rfl, hf⟩ := fractionPart_sound hfraction
        obtain ⟨e, rfl, he⟩ := exponentPart_sound hexponent
        exact ⟨whole ++ (f ++ e), by simp, rfl, hdigits, hzero, f, e, hf, he, rfl⟩

/-- A numeral that is read stands at the front of the text. -/
theorem scan_sound {s t : List Char} {n : Numeral} (h : scan s = .ok (n, t)) :
    ∃ w, s = w ++ t ∧ n.Text w := by
  rw [scan.eq_def] at h
  split at h
  · obtain ⟨w, rfl, hn, hw⟩ := magnitude_sound h
    exact ⟨'-' :: w, rfl, by simpa [sign, hn] using hw⟩
  · obtain ⟨w, rfl, hn, hw⟩ := magnitude_sound h
    exact ⟨w, rfl, by simpa [sign, hn] using hw⟩

/-- What ends a part of a numeral: its next part, or the end of the whole. -/
theorem FractionText.head? {ds f : List Char} (hf : FractionText ds f) {s : List Char}
    (hs : ∀ c ∈ s.head?, c.isDigit = false) : ∀ c ∈ (f ++ s).head?, c.isDigit = false := by
  cases hf with
  | none => exact hs
  | some hds => simp

theorem ExponentText.head? {e : Option (Bool × List Char)} {x : List Char}
    (hx : ExponentText e x) {t : List Char} (ht : Ends t) :
    ∀ c ∈ (x ++ t).head?, c.isDigit = false ∧ c ≠ '.' := by
  cases hx with
  | none => exact fun c hc => ⟨(ht c hc).1, (ht c hc).2.1⟩
  | bare hc hds => rcases hc with rfl | rfl <;> simp
  | plus hc hds => rcases hc with rfl | rfl <;> simp
  | minus hc hds => rcases hc with rfl | rfl <;> simp

theorem scan_complete {n : Numeral} {w t : List Char} (hw : n.Text w) (ht : Ends t) :
    scan (w ++ t) = .ok (n, t) := by
  obtain ⟨hdigits, hzero, f, e, hf, he, rfl⟩ := hw
  have hmagnitude (negative : Bool) : magnitude negative (n.whole ++ (f ++ e) ++ t) =
      .ok (⟨negative, n.whole, n.fraction, n.exponent⟩, t) := by
    have hexponent := he.head? ht
    have hfraction := hf.head? fun c hc => (hexponent c hc).1
    rw [List.append_assoc, List.append_assoc, magnitude, wholePart_complete hdigits hzero hfraction]
    simp only [fractionPart_complete hf hexponent, exponentPart_complete he ht]
  rw [List.append_assoc, sign]
  cases hn : n.negative with
  | true =>
    simp only [if_true, List.singleton_append, scan]
    rw [hmagnitude true, ← hn]
  | false =>
    obtain ⟨d, ds, hd, hdigit⟩ := hdigits.exists_cons
    have hminus : d ≠ '-' := by
      rintro rfl
      simp at hdigit
    have hscan : scan (n.whole ++ (f ++ e) ++ t) = magnitude false (n.whole ++ (f ++ e) ++ t) := by
      simp [hd, scan, hminus]
    simp only [Bool.false_eq_true, if_false, List.nil_append]
    rw [hscan, hmagnitude false, ← hn]

/-- A token is the text of one numeral. -/
theorem Text.unique {n n' : Numeral} {w : List Char} (h : n.Text w) (h' : n'.Text w) : n = n' := by
  have hends : Ends [] := by simp [Ends]
  cases (scan_complete h hends).symm.trans (scan_complete h' hends)
  rfl

/-! ### Integers -/

theorem number?_eq_natural_iff {n : Numeral} {k : Nat} :
    n.number? = some (.natural k) ↔
      n.negative = false ∧ n.fraction = [] ∧ n.exponent = none ∧ absorb 0 n.whole = (k, []) := by
  obtain ⟨negative, whole, fraction, exponent⟩ := n
  simp only [number?]
  obtain ⟨j, excess⟩ := absorb 0 whole
  split_ifs with hplain hnegative hsmall hfinite
  · simp [hnegative]
  · simp [hnegative]
  · simp_all
  · simp_all
  · simp_all

theorem number?_eq_negative_iff {n : Numeral} {k : Nat} :
    n.number? = some (.negative k) ↔
      n.negative = true ∧ n.fraction = [] ∧ n.exponent = none ∧ absorb 0 n.whole = (k, []) ∧
        0 < k ∧ k ≤ UInt64.size / 2 := by
  obtain ⟨negative, whole, fraction, exponent⟩ := n
  simp only [number?]
  obtain ⟨j, excess⟩ := absorb 0 whole
  split_ifs with hplain hnegative hfits hfinite
  · simp only [Bool.and_eq_true, List.isEmpty_iff, Option.isNone_iff_eq_none] at hplain
    grind
  · simp only [Bool.and_eq_true, List.isEmpty_iff, Option.isNone_iff_eq_none] at hplain
    grind
  · simp [hnegative]
  · simp_all
  · simp_all

end SlideGraph.Json.Numeral

namespace SlideGraph.Json.Number

/-! ### Numbers -/

theorem scan_sound {s t : List Char} {k : Number} (h : scan s = .ok (k, t)) :
    ∃ n w, s = w ++ t ∧ Numeral.Text n w ∧ n.number? = some k := by
  rw [scan] at h
  split at h
  · cases h
  · rename_i n u hn
    split at h
    · rename_i hk
      cases h
      obtain ⟨w, rfl, hw⟩ := Numeral.scan_sound hn
      exact ⟨n, w, rfl, hw, hk⟩
    · cases h

theorem scan_complete {n : Numeral} {k : Number} {w t : List Char} (hw : n.Text w)
    (hk : n.number? = some k) (ht : Ends t) : scan (w ++ t) = .ok (k, t) := by
  rw [scan, Numeral.scan_complete hw ht]
  simp only [hk]

theorem pass_sound {s t : List Char} (h : pass s = .ok t) :
    ∃ n w, s = w ++ t ∧ Numeral.Text n w := by
  rw [pass] at h
  split at h
  · cases h
  · rename_i n u hn
    cases h
    exact ⟨n, Numeral.scan_sound hn⟩

theorem pass_complete {n : Numeral} {w t : List Char} (hw : n.Text w) (ht : Ends t) :
    pass (w ++ t) = .ok t := by
  rw [pass, Numeral.scan_complete hw ht]

end SlideGraph.Json.Number
