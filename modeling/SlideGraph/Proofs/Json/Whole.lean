import SlideGraph.Proofs.Json.Printer

/-!
# Values that are read whole

A tree of few enough brackets is read as a value of the same shape. A number without a value and a
string without characters are refused, and a key that comes twice is kept twice. So a value without
numbers is read as itself from what is written of it.
-/

namespace SlideGraph.Json

/-- The value that a scalar is. -/
def Scalar.value? : Scalar → Option Value
  | null => some .null
  | bool b => some (.bool b)
  | number n _ _ => n.number?.map .number
  | string l => l.string?.map .string

/-- The value that a tree is, where at most `depth` brackets may be open at a time. -/
def Tree.value? : Nat → Tree → Option Value
  | _, scalar x => x.value?
  | 0, _ => none
  | depth + 1, array vs => (vs.mapM (value? depth)).map .array
  | depth + 1, object ms => (ms.mapM (binding? (value? depth))).map .object

theorem Tree.value?_scalar (depth : Nat) (x : Scalar) : (scalar x).value? depth = x.value? := by
  cases depth <;> rfl

theorem Tree.value?_of_bool? (depth : Nat) {t : Tree} {b : Bool} (h : t.bool? = some b) :
    t.value? depth = some (.bool b) := by
  unfold Tree.bool? at h
  split at h
  · cases h
    exact value?_scalar depth _
  · cases h

theorem Tree.value?_of_string? (depth : Nat) {t : Tree} {s : String} (h : t.string? = some s) :
    t.value? depth = some (.string s) := by
  unfold Tree.string? at h
  split at h
  · rw [value?_scalar, Scalar.value?, h, Option.map_some]
  · cases h

/-- A scalar is answered as soon as it is read. -/
theorem Scalar.done_iff {k : Head → Tail Value} (hnull : k .null = .done .null)
    (hbool : ∀ b, k (.bool b) = .done (.bool b)) (hnumber : ∀ n, k (.number n) = .done (.number n))
    (hstring : ∀ s, k (.string s) = .done (.string s)) (x : Scalar) {s t : List Char} {v : Value} :
    (∃ h, x.head? = some h ∧ (k h).read s = .ok (v, t)) ↔ x.value? = some v ∧ s = t := by
  cases x with
  | null => simp [head?, value?, hnull, Tail.done]
  | bool b => simp [head?, value?, hbool, Tail.done]
  | number n text valid =>
    cases hn : n.number? <;> simp [head?, value?, hn, hnumber, Tail.done]
  | string l =>
    cases hl : l.string? <;> simp [head?, value?, hl, hstring, Tail.done]

theorem reads_value (depth : Nat) :
    Reads (Reader.value depth).read Tree.tokens (Tree.value? depth) := by
  induction depth with
  | zero =>
    refine readsFront_head.andThen ?_ ⟨_, rfl, reads_error .malformed⟩
      ⟨_, rfl, reads_error .malformed⟩
    intro x s t v
    exact Scalar.done_iff rfl (fun _ => rfl) (fun _ => rfl) (fun _ => rfl) x
  | succ depth ih =>
    refine readsFront_head.andThen ?_ ⟨_, rfl, ?_⟩ ⟨_, rfl, ?_⟩
    · intro x s t v
      exact Scalar.done_iff rfl (fun _ => rfl) (fun _ => rfl) (fun _ => rfl) x
    · refine (ih.items.andThen_answer fun vs => some (Value.array vs)).congr ?_
      intro vs
      rw [Tree.value?, Option.map_eq_bind]
      rfl
    · have hmembers := @Reads.bindings _ _ (fun k v acc => (k, v) :: acc) [] _ _ ih
      refine (hmembers.andThen_answer fun ms => some (Value.object ms.reverse)).congr ?_
      intro ms
      rw [Tree.value?]
      cases ms.mapM (Tree.binding? (Tree.value? depth)) with
      | none => rfl
      | some es => simp

/-! ### Values as they are written -/

namespace Value

/-- There is no number in the value, and at most `depth` brackets are open at a time. -/
def plain : Nat → Value → Bool
  | _, null => true
  | _, bool _ => true
  | _, number _ => false
  | _, string _ => true
  | 0, array _ => false
  | 0, object _ => false
  | depth + 1, array vs => vs.all (plain depth)
  | depth + 1, object ms => ms.all fun m => plain depth m.2

@[simp] theorem plain_null (depth : Nat) : null.plain depth = true := by cases depth <;> rfl

@[simp] theorem plain_bool (depth : Nat) (b : Bool) : (bool b).plain depth = true := by
  cases depth <;> rfl

@[simp] theorem plain_string (depth : Nat) (s : String) : (string s).plain depth = true := by
  cases depth <;> rfl

@[simp] theorem plain_array (depth : Nat) (vs : List Value) :
    (array vs).plain (depth + 1) = vs.all (plain depth) := rfl

@[simp] theorem plain_object (depth : Nat) (ms : List (String × Value)) :
    (object ms).plain (depth + 1) = ms.all fun m => m.2.plain depth := rfl

theorem spells_null (depth : Nat) : Spells .null (Tree.value? depth) .null := by
  refine ⟨.scalar .null, ?_, by cases depth <;> rfl⟩
  intro layout depth _
  rw [Tree.tokens_scalar]
  exact Spaced.token _ .nil

/-- What a tree stands for may be told in another way. -/
theorem Spells.imp {α β : Type} {v : Value} {denote : Tree → Option α}
    {denote' : Tree → Option β} {a : α} {b : β} (h : Spells v denote a)
    (himp : ∀ t, denote t = some a → denote' t = some b) : Spells v denote' b := by
  obtain ⟨t, ht, ha⟩ := h
  exact ⟨t, ht, himp t ha⟩

/-- A value without numbers is written like a tree that is the value. -/
theorem spells_self {depth : Nat} {v : Value} (h : v.plain depth = true) :
    Spells v (Tree.value? depth) v := by
  induction depth generalizing v with
  | zero =>
    cases v with
    | null => exact spells_null 0
    | bool b => exact (spells_bool b).imp fun t => Tree.value?_of_bool? 0
    | number n => cases h
    | string s => exact (spells_string s).imp fun t => Tree.value?_of_string? 0
    | array vs => cases h
    | object ms => cases h
  | succ depth ih =>
    cases v with
    | null => exact spells_null (depth + 1)
    | bool b => exact (spells_bool b).imp fun t => Tree.value?_of_bool? (depth + 1)
    | number n => cases h
    | string s => exact (spells_string s).imp fun t => Tree.value?_of_string? (depth + 1)
    | array vs =>
      rw [plain_array, List.all_eq_true] at h
      have hitems := spells_list (f := id) fun v hv => ih (h v hv)
      rw [List.map_id] at hitems
      apply hitems.imp
      intro t ht
      cases t with
      | scalar x => cases ht
      | array ts => exact congrArg (Option.map Value.array) ht
      | object ts => cases ht
    | object ms =>
      rw [plain_object, List.all_eq_true] at h
      have hmembers := spells_entries (f := id) fun m hm => ih (h m hm)
      have hid : (fun m : String × Value => (m.1, id m.2)) = id := rfl
      rw [hid, List.map_id] at hmembers
      apply hmembers.imp
      intro t ht
      cases t with
      | scalar x => cases ht
      | array ts => cases ht
      | object ts => exact congrArg (Option.map Value.object) ht

/-- What a reader makes of a value that it reads whole, it makes of the text of the value. -/
theorem document_chars {α : Type} {depth : Nat} {v : Value} (hv : v.plain depth = true)
    {f : Value → Option α} {a : α} (ha : f v = some a) {layout : Layout} (hlayout : layout.Blank) :
    ((Reader.value depth).check f).document (v.chars layout 0) = .ok a := by
  have hspells : Spells v (fun t => (t.value? depth).bind f) a := by
    apply (spells_self hv).imp
    intro t ht
    rw [ht, Option.bind_some, ha]
  exact hspells.document_chars ((reads_value depth).check f) hlayout

end Value

end SlideGraph.Json
