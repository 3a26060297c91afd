import SlideGraph.Collection.Lookup
import SlideGraph.Pointer
import SlideGraph.Proofs.Json.Integer
import SlideGraph.Proofs.Json.Reader.Tagged

/-!
# Pointer events as documents

A pointer event is read from its own text as what it was, whichever button it names and wherever
the pointer moved to, also left of and above the origin.
-/

namespace SlideGraph

open Json

namespace PointerEvent

/-- The event that a value is. -/
def ofTree? (v : Tree) : Option PointerEvent :=
  (v.tagged? "type" Kind.ofName? (Reader.maxDepth - 1)).bind fun (k, p) => ofPayload? k p

theorem reads_reader : Reads reader.read Tree.tokens ofTree? :=
  (reads_tagged "type" Kind.ofName? (Reader.maxDepth - 1)).check _

/-! ### Buttons and positions -/

theorem button?_nat (b : UInt8) : button? (.members [("button", .nat b.toNat)]) = some b := by
  have hhi : (b.toNat : Int) ≤ 255 := by
    have := b.toNat_lt
    omega
  have hbetween : (Value.nat b.toNat).intBetween? 0 255 = some (b.toNat : Int) :=
    Value.intBetween?_int (Int.natCast_nonneg _) hhi
  simp [button?, Payload.fits, Payload.required, Payload.field?, hbetween]

theorem coordinate?_int (x : Int32) : coordinate? (.int x.toInt) = some x := by
  have hlo : -2147483648 ≤ x.toInt := x.minValue_le_toInt
  have hhi : x.toInt ≤ 2147483647 := x.toInt_le
  rw [coordinate?, Value.intBetween?_int hlo hhi, Option.map_some, Int32.ofInt_toInt]

theorem ofPayload?_move (x y : Int32) :
    ofPayload? .move (.members [("x", .int x.toInt), ("y", .int y.toInt)]) = some (.move x y) := by
  simp [ofPayload?, Payload.fits, Payload.required, Payload.field?, coordinate?_int,
    lookup_cons_ite]

/-- A button fits 64 bits, and so does a coordinate. -/
theorem spells_button (depth : Nat) (b : UInt8) :
    (Value.nat b.toNat).Spells (Tree.value? depth) (.nat b.toNat) := by
  apply Value.spells_number
  exact Nat.lt_trans b.toNat_lt (by decide)

theorem spells_coordinate (depth : Nat) (x : Int32) :
    (Value.int x.toInt).Spells (Tree.value? depth) (.int x.toInt) := by
  have hlo : -2147483648 ≤ x.toInt := x.minValue_le_toInt
  have hhi : x.toInt ≤ 2147483647 := x.toInt_le
  have hsize : UInt64.size = 18446744073709551616 := rfl
  apply Value.spells_number
  apply Number.fits_ofInt <;> omega

/-! ### Events -/

/-- A record of a kind with a button is written like the event of that kind. -/
theorem spells_pressed {name : String} {k : Kind} (hk : Kind.ofName? name = some k) {b : UInt8}
    {e : PointerEvent} (he : ofPayload? k (.members [("button", .nat b.toNat)]) = some e) :
    (Value.object [("type", .string name), ("button", .nat b.toNat)]).Spells ofTree? e :=
  Value.spells_tagged_bind hk (by simp) (by simpa using spells_button _ b) he

theorem spells_toValue (e : PointerEvent) : e.toValue.Spells ofTree? e := by
  cases e with
  | buttonDown b => exact spells_pressed rfl (by rw [ofPayload?, button?_nat, Option.map_some])
  | buttonUp b => exact spells_pressed rfl (by rw [ofPayload?, button?_nat, Option.map_some])
  | move x y =>
    have hkind : Kind.ofName? "move" = some .move := rfl
    refine Value.spells_tagged_bind hkind (by simp) ?_ (ofPayload?_move x y)
    simpa using ⟨spells_coordinate _ x, spells_coordinate _ y⟩

/-- A pointer event is read from its own document. -/
theorem ofText_toValue (e : PointerEvent) : ofText e.toValue.compact = .ok e :=
  e.spells_toValue.document reads_reader

end PointerEvent

end SlideGraph
