import SlideGraph.Proofs.Json.Integer

/-!
# Which numbers are integers

The reader of numbers takes up digits as long as they fit 64 bits, and leaves an integer that does
not fit to the reals, where also minus zero is. So a place for integers takes a number exactly if it
is written as an integer within the bounds of the place, however many digits it has, and takes it
for that integer.
-/

namespace SlideGraph.Json

/-- The token stands for an integer: it is zero, or digits of which the first is no zero, or a minus
sign and such digits. -/
inductive IntegerToken : Token → Int → Prop
  | zero : IntegerToken ['0'] 0
  | positive {ds : List Char} (h : IsDigits ds) (hfront : ds.head? ≠ some '0') :
    IntegerToken ds (Nat.ofDigitChars 10 ds 0)
  | negative {ds : List Char} (h : IsDigits ds) (hfront : ds.head? ≠ some '0') :
    IntegerToken ('-' :: ds) (-(Nat.ofDigitChars 10 ds 0 : Int))

namespace Numeral

/-! ### Digits that fit 64 bits -/

/-- Digits that do not begin with a zero are more than zero. -/
theorem valueOf_pos {ds : List Char} (h : IsDigits ds) (hfront : ds.head? ≠ some '0') :
    0 < valueOf ds := by
  obtain ⟨d, ds, rfl, hd⟩ := h.exists_cons
  have hne : d.toNat ≠ '0'.toNat := by
    rw [Ne, Char.toNat_inj]
    simpa using hfront
  have hle : '0'.toNat ≤ d.toNat := by simp_all [Char.isDigit, UInt32.le_iff_toNat_le]
  have hzero : '0'.toNat = 48 := rfl
  have hdigit : 0 < digitValue d := by
    rw [digitValue]
    omega
  have hrest := le_foldl_digits (0 * 10 + digitValue d) ds
  rw [valueOf, List.foldl_cons]
  omega

/-- Digits are taken up without a rest exactly if they fit. -/
theorem absorb_eq_iff {n k : Nat} {ds : List Char} (hn : n < UInt64.size) :
    absorb n ds = (k, []) ↔
      ds.foldl (fun n d => n * 10 + digitValue d) n = k ∧ k < UInt64.size := by
  constructor
  · intro h
    induction ds generalizing n with
    | nil =>
      cases h
      exact ⟨rfl, hn⟩
    | cons d ds ih =>
      rw [absorb] at h
      split_ifs at h with hfits
      · exact ih hfits h
      · cases h
  · rintro ⟨rfl, hk⟩
    exact absorb_of_lt hk

theorem absorb_zero_eq_iff {k : Nat} {ds : List Char} :
    absorb 0 ds = (k, []) ↔ valueOf ds = k ∧ k < UInt64.size :=
  absorb_eq_iff (by decide)

/-- Zero is no number below zero. -/
theorem toInt?_number?_iff {n : Numeral} {i : Int} :
    n.number?.bind Number.toInt? = some i ↔ n.number? = some (.ofInt i) := by
  rw [Option.bind_eq_some_iff]
  constructor
  · rintro ⟨x, hx, hi⟩
    cases x with
    | natural k =>
      cases hi
      exact hx
    | negative k =>
      cases hi
      obtain ⟨-, -, -, -, hpos, -⟩ := number?_eq_negative_iff.1 hx
      obtain ⟨m, rfl⟩ := Nat.exists_eq_succ_of_ne_zero (Nat.ne_of_gt hpos)
      exact hx
    | real => cases hi
  · intro hx
    exact ⟨_, hx, Number.toInt?_ofInt i⟩

/-! ### Tokens -/

namespace Text

variable {n : Numeral} {w : Token}

/-- A numeral without fraction and exponent is its sign and its digits. -/
theorem eq_sign_append (hw : n.Text w) (hfraction : n.fraction = [])
    (hexponent : n.exponent = none) : w = n.sign ++ n.whole := by
  obtain ⟨-, -, f, e, hf, he, rfl⟩ := hw
  rw [hfraction] at hf
  rw [hexponent] at he
  cases hf with
  | some hds => exact absurd rfl hds.1
  | none =>
    cases he
    simp

theorem integerToken_iff (hw : n.Text w) {i : Int} :
    IntegerToken w i ↔ n.fraction = [] ∧ n.exponent = none ∧
      if n.negative then 0 < valueOf n.whole ∧ i = -(valueOf n.whole : Int)
      else i = valueOf n.whole := by
  constructor
  · intro h
    cases h with
    | zero =>
      have hzero : Text ⟨false, ['0'], [], none⟩ ['0'] := text_ofNat 0
      cases hw.unique hzero
      exact ⟨rfl, rfl, rfl⟩
    | positive h hfront =>
      have hpositive : Text ⟨false, w, [], none⟩ w := whole h fun hzero => absurd hzero hfront
      cases hw.unique hpositive
      exact ⟨rfl, rfl, by simp [valueOf_eq_ofDigitChars]⟩
    | @negative ds h hfront =>
      have hnegative : Text ⟨true, ds, [], none⟩ ('-' :: ds) :=
        whole h fun hzero => absurd hzero hfront
      cases hw.unique hnegative
      exact ⟨rfl, rfl, valueOf_pos h hfront, by simp [valueOf_eq_ofDigitChars]⟩
  · rintro ⟨hfraction, hexponent, hi⟩
    rw [hw.eq_sign_append hfraction hexponent, sign]
    by_cases hfront : n.whole.head? = some '0'
    · rw [hw.2.1 hfront] at hi ⊢
      cases hn : n.negative with
      | false =>
        rw [hn] at hi
        cases hi
        exact .zero
      | true =>
        rw [hn] at hi
        exact absurd hi.1 (by decide)
    · rw [valueOf_eq_ofDigitChars] at hi
      cases hn : n.negative with
      | false =>
        rw [hn] at hi
        cases hi
        exact .positive hw.1 hfront
      | true =>
        rw [hn] at hi
        cases hi.2
        exact .negative hw.1 hfront

theorem integerToken_unique (hw : n.Text w) {i j : Int} (hi : IntegerToken w i)
    (hj : IntegerToken w j) : i = j := by
  obtain ⟨-, -, hi⟩ := hw.integerToken_iff.1 hi
  obtain ⟨-, -, hj⟩ := hw.integerToken_iff.1 hj
  split_ifs at hi hj with hsign
  · rw [hi.2, hj.2]
  · rw [hi, hj]

/-- Every number is an integer, or has a fraction or an exponent, or is minus zero. -/
theorem exists_integerToken_iff (hw : n.Text w) :
    (∃ i, IntegerToken w i) ↔ n.fraction = [] ∧ n.exponent = none ∧ w ≠ ['-', '0'] := by
  simp only [hw.integerToken_iff]
  constructor
  · rintro ⟨i, hfraction, hexponent, hi⟩
    refine ⟨hfraction, hexponent, ?_⟩
    rintro rfl
    have hzero : Text ⟨true, ['0'], [], none⟩ ['-', '0'] := text_ofNegative 0
    cases hw.unique hzero
    exact absurd hi.1 (by decide)
  · rintro ⟨hfraction, hexponent, hne⟩
    cases hn : n.negative with
    | false => exact ⟨_, hfraction, hexponent, rfl⟩
    | true =>
      refine ⟨_, hfraction, hexponent, valueOf_pos hw.1 fun hfront => hne ?_, rfl⟩
      rw [hw.eq_sign_append hfraction hexponent, hw.2.1 hfront, sign, hn]
      rfl

/-- A token is taken for an integer exactly if it stands for it and the integer fits 64 bits. -/
theorem number?_eq_ofInt_iff (hw : n.Text w) {i : Int} :
    n.number? = some (.ofInt i) ↔
      IntegerToken w i ∧ -(UInt64.size / 2 : Nat) ≤ i ∧ i < UInt64.size := by
  have hsize : UInt64.size = 18446744073709551616 := rfl
  rw [hw.integerToken_iff]
  cases i with
  | ofNat k =>
    rw [Number.ofInt, number?_eq_natural_iff, absorb_zero_eq_iff, Int.ofNat_eq_natCast]
    cases n.negative with
    | false =>
      simp only [true_and, Bool.false_eq_true, if_false, and_assoc]
      exact and_congr_right' (and_congr_right' (by omega))
    | true =>
      simp only [Bool.true_eq_false, false_and, if_true, false_iff]
      omega
  | negSucc k =>
    rw [Number.ofInt, number?_eq_negative_iff, absorb_zero_eq_iff]
    cases n.negative with
    | false =>
      simp only [Bool.false_eq_true, false_and, if_false, false_iff]
      omega
    | true =>
      simp only [true_and, if_true, and_assoc]
      exact and_congr_right' (and_congr_right' (by omega))

end Text

end Numeral

namespace IntegerToken

theorem exists_text {w : Token} {i : Int} (h : IntegerToken w i) : ∃ n : Numeral, n.Text w := by
  cases h with
  | zero => exact ⟨_, Numeral.text_ofNat 0⟩
  | positive h hfront =>
    exact ⟨⟨false, _, [], none⟩, .whole h fun hzero => absurd hzero hfront⟩
  | negative h hfront =>
    exact ⟨⟨true, _, [], none⟩, .whole h fun hzero => absurd hzero hfront⟩

/-- An integer is written as a token that stands for it. -/
theorem chars_ofInt (i : Int) : IntegerToken (Number.ofInt i).chars i := by
  cases i with
  | ofNat n =>
    rw [Number.ofInt, Number.chars, Nat.toList_repr, (Numeral.text_ofNat n).integerToken_iff]
    exact ⟨rfl, rfl, congrArg Int.ofNat (Numeral.valueOf_toDigits n).symm⟩
  | negSucc n =>
    rw [Number.ofInt, Number.chars, Nat.toList_repr,
      (Numeral.text_ofNegative (n + 1)).integerToken_iff]
    refine ⟨rfl, rfl, ?_⟩
    simp only [Numeral.ofNegative, if_true, Numeral.valueOf_toDigits]
    omega

end IntegerToken

/-! ### Places for integers -/

namespace Tree

variable {n : Numeral} {w : Token} (hw : n.Text w)

/-- A place for integers without a sign takes those below its bound. -/
theorem natural?_number {bound : Nat} (hbound : bound ≤ UInt64.size) {k : Nat} :
    (scalar (.number n w hw)).natural? bound = some k ↔ IntegerToken w k ∧ k < bound := by
  have hinteger := hw.number?_eq_ofInt_iff (i := k)
  rw [natural?, Numeral.natural?]
  constructor
  · intro h
    split at h
    · rename_i m hm
      split_ifs at h with hlt
      cases h
      exact ⟨(hinteger.1 hm).1, hlt⟩
    · cases h
  · rintro ⟨htoken, hlt⟩
    have hnumber : n.number? = some (.natural k) := hinteger.2 ⟨htoken, by omega, by omega⟩
    simp only [hnumber, if_pos hlt]

/-- A place for integers between two bounds takes those from a value that has been read whole. -/
theorem intBetween?_number {lo hi : Int} (hlo : -(UInt64.size / 2 : Nat) ≤ lo)
    (hhi : hi < UInt64.size) (depth : Nat) {i : Int} :
    ((scalar (.number n w hw)).value? depth).bind (Value.intBetween? lo hi) = some i ↔
      IntegerToken w i ∧ lo ≤ i ∧ i ≤ hi := by
  have hvalue : ((scalar (.number n w hw)).value? depth).bind (Value.intBetween? lo hi) =
      (n.number?.bind Number.toInt?).filter fun i => lo ≤ i ∧ i ≤ hi := by
    rw [value?_scalar, Scalar.value?]
    cases n.number? <;> rfl
  rw [hvalue, Option.filter_eq_some_iff, Numeral.toInt?_number?_iff, hw.number?_eq_ofInt_iff]
  simp only [decide_eq_true_eq]
  constructor
  · rintro ⟨⟨htoken, -, -⟩, hbounds⟩
    exact ⟨htoken, hbounds⟩
  · rintro ⟨htoken, hbounds⟩
    exact ⟨⟨htoken, by omega, by omega⟩, hbounds⟩

end Tree

end SlideGraph.Json
