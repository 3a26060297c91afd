import SlideGraph.Proofs.Json.IntegerToken
import SlideGraph.Proofs.Json.Reader.Gap

/-!
# Integers in the fields of records

A field that holds an integer takes a number exactly if it is written as an integer within the
bounds of the field, and takes it for that integer. What the rest of the record has to be is known
from the same record with a zero in the field.
-/

namespace SlideGraph.Json

variable {α β ρ : Type}

/-! ### Places for integers -/

/-- The values of a type are the integers between two bounds. -/
structure Represents (value : β → Int) (ofInt : Int → β) (lo hi : Int) : Prop where
  value_ofInt : ∀ {i}, lo ≤ i → i ≤ hi → value (ofInt i) = i
  ofInt_value : ∀ b, ofInt (value b) = b
  bounds : ∀ b, lo ≤ value b ∧ value b ≤ hi

theorem represents_uint64 :
    Represents (fun d : UInt64 => d.toNat) (fun i => .ofNat i.toNat) 0 18446744073709551615 where
  value_ofInt hlo hhi := by
    have hsize : UInt64.size = 18446744073709551616 := rfl
    have hlt : Int.toNat _ < UInt64.size := (Int.toNat_lt hlo).2 (by omega)
    rw [UInt64.toNat_ofNat_of_lt' hlt, Int.toNat_of_nonneg hlo]
  ofInt_value d := by rw [Int.toNat_natCast, UInt64.ofNat_toNat]
  bounds d := by
    have := d.toNat_lt
    omega

theorem represents_uint8 :
    Represents (fun b : UInt8 => b.toNat) (fun i => .ofNat i.toNat) 0 255 where
  value_ofInt hlo hhi := by
    have hsize : UInt8.size = 256 := rfl
    have hlt : Int.toNat _ < UInt8.size := (Int.toNat_lt hlo).2 (by omega)
    rw [UInt8.toNat_ofNat_of_lt' hlt, Int.toNat_of_nonneg hlo]
  ofInt_value b := by rw [Int.toNat_natCast, UInt8.ofNat_toNat]
  bounds b := by
    have := b.toNat_lt
    omega

theorem represents_int32 : Represents Int32.toInt Int32.ofInt (-2147483648) 2147483647 where
  value_ofInt hlo hhi := Int32.toInt_ofInt_of_le hlo (by omega)
  ofInt_value x := Int32.ofInt_toInt x
  bounds x := ⟨x.minValue_le_toInt, x.toInt_le⟩

/-- The field takes the integers between two bounds, each for what it is, and no other number. -/
structure IntegerPlace (field : Tree → Option β) (value : β → Int) (lo hi : Int) : Prop where
  number_iff : ∀ {n : Numeral} {w : Token} (hw : n.Text w) (b : β),
    field (.scalar (.number n w hw)) = some b ↔ IntegerToken w (value b)
  range_iff : ∀ i, (∃ b, value b = i) ↔ lo ≤ i ∧ i ≤ hi

theorem Represents.place {field : Tree → Option β} {value : β → Int} {ofInt : Int → β}
    {lo hi : Int} (h : Represents value ofInt lo hi)
    (hfield : ∀ {n : Numeral} {w : Token} (hw : n.Text w) (b : β),
      field (.scalar (.number n w hw)) = some b ↔
        ∃ i, (IntegerToken w i ∧ lo ≤ i ∧ i ≤ hi) ∧ ofInt i = b) :
    IntegerPlace field value lo hi where
  number_iff hw b := by
    rw [hfield hw]
    constructor
    · rintro ⟨i, ⟨htoken, hlo, hhi⟩, rfl⟩
      rwa [h.value_ofInt hlo hhi]
    · exact fun htoken => ⟨value b, ⟨htoken, h.bounds b⟩, h.ofInt_value b⟩
  range_iff i := by
    constructor
    · rintro ⟨b, rfl⟩
      exact h.bounds b
    · exact fun ⟨hlo, hhi⟩ => ⟨ofInt i, h.value_ofInt hlo hhi⟩

/-- A value that is read whole before it is looked into. -/
theorem Represents.place_between {value : β → Int} {ofInt : Int → β} {lo hi : Int}
    (h : Represents value ofInt lo hi) (hlo : -(UInt64.size / 2 : Nat) ≤ lo)
    (hhi : hi < UInt64.size) (depth : Nat) :
    IntegerPlace (fun v => (v.value? depth).bind fun x => (x.intBetween? lo hi).map ofInt)
      value lo hi := by
  apply h.place
  intro n w hw b
  have hmap (v : Tree) : ((v.value? depth).bind fun x => (x.intBetween? lo hi).map ofInt) =
      ((v.value? depth).bind (Value.intBetween? lo hi)).map ofInt := Option.map_bind.symm
  simp only [hmap, Option.map_eq_some_iff, Tree.intBetween?_number hw hlo hhi]

/-! ### Zero in place of a number -/

/-- The number zero. -/
def Tree.zero : Tree := .scalar (.number _ _ (Numeral.text_ofNat 0))

/-- The text `s` is a record that has the number `w` in a field, and `s₀` is the same record, but
with a zero there. -/
def Zeroed (names : List String) (name : String) (w : Token) (s s₀ : String) : Prop :=
  ∃ (n : Numeral) (hw : n.Text w) (gap : Tree → Tree), Tree.Gap names name gap ∧
    (gap (.scalar (.number n w hw))).IsDocument s.toList ∧ (gap .zero).IsDocument s₀.toList

/-- The text `s` is a record that has the name of its shape in the field `tag`. -/
def Tagged (tag shape : String) (s : String) : Prop :=
  ∃ v : Tree, v.IsDocument s.toList ∧ v.tag? tag = some shape

/-- How a document `s` is taken that has the number `w` where `s₀` has a zero: it is taken exactly
if `s₀` is and the number is an integer between the bounds, and what is read holds that integer
where `s₀` has a zero. -/
structure TakesInteger (read : String → Except Fault α) (put : ρ → β → α) (value : β → Int)
    (zero : β) (lo hi : Int) (w : Token) (s s₀ : String) : Prop where
  taken_iff : (∃ a, read s = .ok a) ↔
    (∃ a, read s₀ = .ok a) ∧ ∃ i, IntegerToken w i ∧ lo ≤ i ∧ i ≤ hi
  read_iff : ∀ a, read s = .ok a ↔
    ∃ q b, IntegerToken w (value b) ∧ read s₀ = .ok (put q zero) ∧ a = put q b

section

variable {names : List String} {name : String} {r : Reader α} {denote : Tree → Option α}
  {field : Tree → Option β} {put : ρ → β → α} {value : β → Int} {zero : β} {lo hi : Int}
  {w : Token} {s s₀ : String}

/-- A record takes integers in a field if its other fields do not depend on that one. -/
theorem Zeroed.takesInteger (h : Zeroed names name w s s₀) (hr : Reads r.read Tree.tokens denote)
    (hplace : IntegerPlace field value lo hi) (hzero : value zero = 0)
    (hput : ∀ q q', put q zero = put q' zero → q = q')
    (hfills : ∀ gap v, Tree.Gap names name gap → (gap v).IsDocument s.toList →
      ∃ rest, Fills (fun v => denote (gap v)) rest field put) :
    TakesInteger (fun s => r.document s.toList) put value zero lo hi w s s₀ := by
  obtain ⟨n, hw, gap, hgap, hs, hs₀⟩ := h
  obtain ⟨rest, hrest⟩ := hfills gap _ hgap hs
  have hfield : field .zero = some zero := by
    rw [Tree.zero, hplace.number_iff, hzero]
    exact .zero
  have hdocument (a : α) := hrest.document_iff hr hfield hput hs hs₀ (a := a)
  simp only [hplace.number_iff] at hdocument
  refine ⟨?_, hdocument⟩
  constructor
  · rintro ⟨a, ha⟩
    obtain ⟨q, b, htoken, hq, -⟩ := (hdocument a).1 ha
    exact ⟨⟨_, hq⟩, _, htoken, (hplace.range_iff _).1 ⟨b, rfl⟩⟩
  · rintro ⟨⟨a₀, ha₀⟩, i, htoken, hbounds⟩
    obtain ⟨b, rfl⟩ := (hplace.range_iff i).2 hbounds
    obtain ⟨q, -, -, hq, -⟩ := (hrest.document_iff hr hfield hput hs₀ hs₀).1 ha₀
    exact ⟨_, (hdocument _).2 ⟨q, b, htoken, hq, rfl⟩⟩

end

/-! ### Written records -/

variable {before after ms : List (String × Value)} {tag shape : String}

theorem Value.exists_written_string (s : String) : ∃ t, Written (.string s) t := by
  obtain ⟨t, ht, -⟩ := spells_string s
  exact ⟨t, ht⟩

theorem Value.exists_written_int (i : Int) : ∃ t, Written (.int i) t := by
  obtain ⟨n, hw⟩ := (IntegerToken.chars_ofInt i).exists_text
  exact ⟨_, written_number hw⟩

theorem exists_trees (h : ∀ m ∈ ms, ∃ t, m.2.Written t) :
    ∃ ts : List (String × Tree), List.Forall₂ (fun m t => m.1 = t.1 ∧ m.2.Written t.2) ms ts ∧
      ts.map Prod.fst = ms.map Prod.fst := by
  induction ms with
  | nil => exact ⟨[], .nil, rfl⟩
  | cons m ms ih =>
    obtain ⟨t, ht⟩ := h m List.mem_cons_self
    obtain ⟨ts, hts, hkeys⟩ := ih fun m hm => h m (List.mem_cons_of_mem _ hm)
    exact ⟨(m.1, t) :: ts, .cons ⟨rfl, ht⟩ hts, by simp [hkeys]⟩

variable (before after) in
/-- Records that are written with an integer and with zero. -/
theorem zeroed_compact (hbefore : ∀ m ∈ before, ∃ t, m.2.Written t)
    (hafter : ∀ m ∈ after, ∃ t, m.2.Written t) (names : List String) (name : String) (i : Int) :
    Zeroed names name (Number.ofInt i).chars
      (Value.object (before ++ (name, .int i) :: after)).compact
      (Value.object (before ++ (name, .int 0) :: after)).compact := by
  obtain ⟨n, hw⟩ := (IntegerToken.chars_ofInt i).exists_text
  obtain ⟨ts, hts, -⟩ := exists_trees hbefore
  obtain ⟨us, hus, -⟩ := exists_trees hafter
  obtain ⟨ls, hls, -⟩ := Value.exists_members hts
  obtain ⟨rs, hrs, -⟩ := Value.exists_members hus
  obtain ⟨l, hl, hs⟩ := Literal.exists_quote name
  have hobject {v : Value} {t : Tree} (ht : v.Written t) :
      (Value.object (before ++ (name, v) :: after)).Written (.object (ls ++ (l, t) :: rs)) :=
    Value.written_object (List.rel_append hls (.cons ⟨hl, hs, ht⟩ hrs))
  exact ⟨n, hw, _, .member hs, (hobject (Value.written_number hw)).isDocument,
    (hobject (Value.written_number (Numeral.text_ofNat 0))).isDocument⟩

theorem tagged_compact (htag : tag ∉ ms.map Prod.fst) (hms : ∀ m ∈ ms, ∃ t, m.2.Written t) :
    Tagged tag shape (Value.object ((tag, .string shape) :: ms)).compact := by
  obtain ⟨ts, hts, hkeys⟩ := exists_trees hms
  obtain ⟨t, ls, hshape, hobject, hmembers, htags⟩ := Value.exists_object htag hts hkeys
  have hnone : ts.filter (·.1 == tag) = [] := by simpa using htags
  refine ⟨.object ls, hobject.isDocument, ?_⟩
  simp [Tree.tag?, hmembers, required?, field?, hnone, hshape]

variable {read : String → Except Fault α} {put : ρ → β → α} {value : β → Int} {zero : β}
  {lo hi i : Int} {s s₀ : String}

/-- A record with an integer in the field is taken if the integer is within the bounds. -/
theorem TakesInteger.exists_ok_iff
    (h : TakesInteger read put value zero lo hi (Number.ofInt i).chars s s₀)
    (h₀ : ∃ a, read s₀ = .ok a) : (∃ a, read s = .ok a) ↔ lo ≤ i ∧ i ≤ hi := by
  have htoken := IntegerToken.chars_ofInt i
  obtain ⟨n, hw⟩ := htoken.exists_text
  rw [h.taken_iff, and_iff_right h₀]
  constructor
  · rintro ⟨j, hj, hbounds⟩
    rwa [hw.integerToken_unique htoken hj]
  · exact fun hbounds => ⟨i, htoken, hbounds⟩

end SlideGraph.Json
