import SlideGraph.Proofs.Json.Whole

/-!
# Integers

An integer is written with its decimal digits, without a zero in front, and with a minus sign if it
is below zero. As long as it fits 64 bits it is read as the same integer, in its own place and in a
value that is read whole.
-/

namespace SlideGraph.Json

/-! ### Decimal digits -/

namespace Numeral

/-- The number that digits give behind others that are a number already. -/
theorem le_foldl_digits (n : Nat) (ds : List Char) :
    n ≤ ds.foldl (fun n d => n * 10 + digitValue d) n := by
  induction ds generalizing n with
  | nil => exact Nat.le_refl n
  | cons d ds ih =>
    have := ih (n * 10 + digitValue d)
    rw [List.foldl_cons]
    omega

/-- Digits that fit 64 bits are taken up without a rest. -/
theorem absorb_of_lt {n : Nat} {ds : List Char}
    (h : ds.foldl (fun n d => n * 10 + digitValue d) n < UInt64.size) :
    absorb n ds = (ds.foldl (fun n d => n * 10 + digitValue d) n, []) := by
  induction ds generalizing n with
  | nil => rfl
  | cons d ds ih =>
    have hle := le_foldl_digits (n * 10 + digitValue d) ds
    rw [List.foldl_cons] at h ⊢
    rw [absorb, if_pos (Nat.lt_of_le_of_lt hle h), ih h]

theorem valueOf_eq_ofDigitChars (ds : List Char) : valueOf ds = Nat.ofDigitChars 10 ds 0 := by
  rw [valueOf, Nat.ofDigitChars_eq_foldl]
  congr 1
  funext k d
  rw [Nat.mul_comm]
  rfl

theorem valueOf_toDigits (n : Nat) : valueOf (Nat.toDigits 10 n) = n := by
  rw [valueOf_eq_ofDigitChars, Nat.ofDigitChars_ten_toDigits]

theorem absorb_toDigits {n : Nat} (h : n < UInt64.size) :
    absorb 0 (Nat.toDigits 10 n) = (n, []) := by
  have hvalue : (Nat.toDigits 10 n).foldl (fun n d => n * 10 + digitValue d) 0 = n :=
    valueOf_toDigits n
  rw [absorb_of_lt (by rwa [hvalue]), hvalue]

theorem isDigits_toDigits (n : Nat) : IsDigits (Nat.toDigits 10 n) :=
  ⟨Nat.toDigits_ne_nil, fun _ hd => Nat.isDigit_of_mem_toDigits (by decide) (by decide) hd⟩

/-- Only zero itself begins with a zero. -/
theorem toDigits_of_head? {n : Nat} (h : (Nat.toDigits 10 n).head? = some '0') :
    Nat.toDigits 10 n = ['0'] := by
  induction n using Nat.strongRecOn with
  | ind n ih =>
    by_cases hn : n < 10
    · rw [Nat.toDigits_of_lt_base hn] at h ⊢
      rw [Option.some.inj h]
    · have hfront := Nat.toDigits_of_base_le (b := 10) (by decide) (Nat.le_of_not_lt hn)
      rw [hfront, List.head?_append_of_ne_nil _ Nat.toDigits_ne_nil] at h
      have hzero := ih (n / 10) (by omega) h
      -- then the digits in front of the last would be those of zero
      have hvalue := valueOf_toDigits (n / 10)
      rw [hzero] at hvalue
      have : n / 10 = 0 := hvalue.symm
      omega

/-- Digits make a numeral, with a sign or without one. -/
theorem Text.whole {negative : Bool} {ds : List Char} (h : IsDigits ds)
    (hzero : ds.head? = some '0' → ds = ['0']) :
    Text ⟨negative, ds, [], none⟩ ((if negative then ['-'] else []) ++ ds) :=
  ⟨h, hzero, [], [], .none, .none, by simp [sign]⟩

/-- The numeral that an integer is written as. -/
def ofNat (n : Nat) : Numeral := ⟨false, Nat.toDigits 10 n, [], none⟩

theorem text_ofNat (n : Nat) : (ofNat n).Text (Nat.toDigits 10 n) :=
  .whole (isDigits_toDigits n) toDigits_of_head?

theorem number?_ofNat {n : Nat} (h : n < UInt64.size) :
    (ofNat n).number? = some (.natural n) := by
  simp [number?, ofNat, absorb_toDigits h]

/-- The numeral that the integer `-n` is written as. -/
def ofNegative (n : Nat) : Numeral := ⟨true, Nat.toDigits 10 n, [], none⟩

theorem text_ofNegative (n : Nat) : (ofNegative n).Text ('-' :: Nat.toDigits 10 n) :=
  .whole (isDigits_toDigits n) toDigits_of_head?

theorem number?_ofNegative {n : Nat} (hpos : 0 < n) (h : n ≤ UInt64.size / 2) :
    (ofNegative n).number? = some (.negative n) := by
  have hlt : n < UInt64.size := Nat.lt_of_le_of_lt h (by decide)
  simp [number?, ofNegative, absorb_toDigits hlt, hpos, h]

/-- The integer without a sign, below `bound`, that a numeral is. -/
def natural? (bound : Nat) (n : Numeral) : Option Nat :=
  match n.number? with
  | some (.natural k) => if k < bound then some k else none
  | _ => none

end Numeral

/-! ### Reading and writing -/

/-- The integer without a sign, below `bound`, that a value is. -/
def Tree.natural? (bound : Nat) : Tree → Option Nat
  | scalar (.number n _ _) => n.natural? bound
  | _ => none

theorem reads_natural (bound : Nat) :
    Reads (Reader.natural bound).read Tree.tokens (Tree.natural? bound) := by
  refine reads_head_check ?_ (fun _ => rfl) (fun _ => rfl) rfl rfl
  intro x
  cases x with
  | null => rfl
  | bool b => rfl
  | number n u hn =>
    simp only [Scalar.head?, Tree.natural?, Numeral.natural?]
    cases n.number? with
    | none => rfl
    | some k => cases k <;> rfl
  | string l =>
    simp only [Scalar.head?, Tree.natural?]
    cases l.string? <;> rfl

theorem reads_count : Reads Reader.count.read Tree.tokens (Tree.natural? UInt64.size) :=
  reads_natural UInt64.size

/-- A number is written like the number of its digits. -/
theorem Value.written_number {k : Number} {n : Numeral} (h : n.Text k.chars) :
    Written (.number k) (.scalar (.number n _ h)) := by
  intro layout depth _
  rw [Tree.tokens_scalar, Scalar.token, chars]
  simpa using Spaced.token k.chars .nil

/-- An integer that fits 64 bits is written like a tree that is the integer. -/
theorem Value.spells_nat {n : Nat} (h : n < UInt64.size) :
    Spells (.nat n) (Tree.natural? UInt64.size) n := by
  have htext : (Numeral.ofNat n).Text (Number.natural n).chars := by
    rw [Number.chars, Nat.toList_repr]
    exact Numeral.text_ofNat n
  refine ⟨.scalar (.number _ _ htext), written_number htext, ?_⟩
  simp [Tree.natural?, Numeral.natural?, Numeral.number?_ofNat h, h]

/-! ### Integers in values -/

/-- The number is an integer that fits 64 bits. -/
def Number.Fits : Number → Prop
  | natural n => n < UInt64.size
  | negative n => 0 < n ∧ n ≤ UInt64.size / 2
  | real => False

/-- A number that fits is read from its digits. -/
theorem Number.exists_numeral {k : Number} (h : k.Fits) :
    ∃ n : Numeral, n.Text k.chars ∧ n.number? = some k := by
  cases k with
  | natural n =>
    rw [chars, Nat.toList_repr]
    exact ⟨_, Numeral.text_ofNat n, Numeral.number?_ofNat h⟩
  | negative n =>
    rw [chars, Nat.toList_repr]
    exact ⟨_, Numeral.text_ofNegative n, Numeral.number?_ofNegative h.1 h.2⟩
  | real => exact h.elim

theorem Number.fits_ofInt {i : Int} (hlo : -(UInt64.size / 2 : Nat) ≤ i) (hhi : i < UInt64.size) :
    (ofInt i).Fits := by
  cases i with
  | ofNat n => exact Int.ofNat_lt.1 hhi
  | negSucc n =>
    have hn : n + 1 ≤ UInt64.size / 2 := by omega
    exact ⟨Nat.succ_pos n, hn⟩

theorem Number.toInt?_ofInt (i : Int) : (ofInt i).toInt? = some i := by cases i <;> rfl

/-- A number that fits is written like a tree that is the number. -/
theorem Value.spells_number (depth : Nat) {k : Number} (h : k.Fits) :
    Spells (.number k) (Tree.value? depth) (.number k) := by
  obtain ⟨n, htext, hn⟩ := k.exists_numeral h
  refine ⟨.scalar (.number n _ htext), written_number htext, ?_⟩
  rw [Tree.value?_scalar, Scalar.value?, hn, Option.map_some]

theorem Value.intBetween?_int {lo hi i : Int} (hlo : lo ≤ i) (hhi : i ≤ hi) :
    (int i).intBetween? lo hi = some i := by
  simp [intBetween?, int, int?, Number.toInt?_ofInt, hlo, hhi]

theorem Value.count?_nat {n : Nat} (h : n < UInt64.size) : (nat n).count? = some n := by
  have hhi : (n : Int) ≤ UInt64.size - 1 := by omega
  have hbetween : (nat n).intBetween? 0 (UInt64.size - 1) = some (n : Int) :=
    intBetween?_int (Int.natCast_nonneg n) hhi
  rw [count?, hbetween, Option.map_some, Int.toNat_natCast]

end SlideGraph.Json
