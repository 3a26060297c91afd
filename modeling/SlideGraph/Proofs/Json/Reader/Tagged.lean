import SlideGraph.Proofs.Json.Whole

/-!
# What readers of tagged records read

A record of one of several shapes names its shape, in front of the other items of an array or in a
member of an object, wherever that one stands. There must be one such member. All the rest is read
whole, and what the shape makes of it is decided afterwards.
-/

namespace SlideGraph.Json

variable {κ : Type}

/-- A member whose value is read whole. -/
def Tree.whole? (depth : Nat) (m : String × Tree) : Option (String × Value) :=
  (m.2.value? depth).map (m.1, ·)

/-- The shape that a value names in its field `tag`, and what there is besides. -/
def Tree.tagged? (tag : String) (kind : String → Option κ) (depth : Nat) :
    Tree → Option (κ × Payload)
  | array (v :: vs) => do
    let k ← v.string?.bind kind
    let items ← vs.mapM (value? depth)
    some (k, .items items)
  | object ms => do
    let ms ← ms.mapM fun m => m.1.string?.map (·, m.2)
    let k ← required? tag (fun v => v.string?.bind kind) ms
    let others ← (ms.filter (·.1 != tag)).mapM (whole? depth)
    some (k, .members others)
  | _ => none

section

variable (tag : String) (kind : String → Option κ) (depth : Nat)

/-! ### Arrays -/

/-- Take up an item behind those before it, of which the first is the name of the shape. -/
def takeItem : Option κ × List Value → Tree → Option (Option κ × List Value)
  | (none, vs), v => (v.string?.bind kind).map fun k => (some k, vs)
  | (some k, vs), v => (v.value? depth).map fun x => (some k, x :: vs)

theorem foldlM_takeItem (k : κ) (xs : List Value) (vs : List Tree) :
    vs.foldlM (takeItem kind depth) (some k, xs) =
      (vs.mapM (Tree.value? depth)).map fun ys => (some k, ys.reverse ++ xs) := by
  induction vs generalizing xs with
  | nil => rfl
  | cons v vs ih =>
    rw [List.foldlM_cons, List.mapM_cons, takeItem]
    cases v.value? depth with
    | none => rfl
    | some x =>
      simp only [Option.map_some, Option.bind_eq_bind, Option.bind_some, ih]
      cases vs.mapM (Tree.value? depth) <;> simp

/-! ### Objects -/

/-- Take up a member behind those before it. The name of the shape comes once. -/
def takeMember (acc : Option κ × List (String × Value)) (m : String × Tree) :
    Option (Option κ × List (String × Value)) :=
  if m.1 = tag then
    if acc.1.isSome then none else (m.2.string?.bind kind).map fun k => (some k, acc.2)
  else (Tree.whole? depth m).map fun x => (acc.1, x :: acc.2)

theorem foldlM_takeMember (before : Option κ) (xs : List (String × Value))
    (ms : List (String × Tree)) :
    ms.foldlM (takeMember tag kind depth) (before, xs) =
      (fieldAfter before tag (fun v => v.string?.bind kind) ms).bind fun k =>
        ((ms.filter (·.1 != tag)).mapM (Tree.whole? depth)).map fun others =>
          (k, others.reverse ++ xs) := by
  -- `fieldAfter` says what is still to come of the name, given what has come of it
  induction ms generalizing before xs with
  | nil => simp [fieldAfter_nil]
  | cons m ms ih =>
    rw [List.foldlM_cons, takeMember]
    by_cases hm : m.1 = tag
    · rw [if_pos hm, fieldAfter_cons_self hm, List.filter_cons_of_neg (by simp [hm])]
      cases before with
      | some k => simp
      | none => cases m.2.string?.bind kind <;> simp [ih]
    · rw [if_neg hm, fieldAfter_cons_ne hm, List.filter_cons_of_pos (by simp [hm]),
        List.mapM_cons]
      cases Tree.whole? depth m with
      | none => simp
      | some x =>
        simp only [Option.map_some, Option.bind_eq_bind, Option.bind_some, ih]
        cases (ms.filter (·.1 != tag)).mapM (Tree.whole? depth) <;> simp

theorem reads_takeMember (acc : Option κ × List (String × Value)) :
    Reads (Reader.member fun key =>
      if key = tag then
        if acc.1.isSome then .error .mismatch
        else .ok ((Reader.string.check kind).map fun k => (some k, acc.2))
      else .ok ((Reader.value depth).map fun v => (acc.1, (key, v) :: acc.2))).read
      Tree.memberTokens
      fun m => (m.1.string?.map (·, m.2)).bind (takeMember tag kind depth acc) := by
  refine Reads.congr
    (reads_member (fun k v => takeMember tag kind depth acc (k, v)) ?_ ?_) fun m => ?_
  · intro k r hr
    split_ifs at hr with hk hnamed
    · cases hr
      refine ((reads_string.check kind).map fun k => (some k, acc.2)).congr fun v => ?_
      simp [takeMember, hk, hnamed]
    · cases hr
      refine ((reads_value depth).map fun v => (acc.1, (k, v) :: acc.2)).congr fun v => ?_
      simp [takeMember, Tree.whole?, hk, Function.comp_def]
  · intro k e he v
    split_ifs at he with hk hnamed
    simp [takeMember, hk, hnamed]
  · cases m.1.string? <;> rfl

/-! ### Tagged records -/

theorem reads_tagged :
    Reads (Reader.tagged tag kind depth).read Tree.tokens (Tree.tagged? tag kind depth) := by
  refine reads_container ?_ (fun _ => rfl) ?_ ?_
  · intro h harray hobject
    cases h <;> first | rfl | exact absurd rfl harray | exact absurd rfl hobject
  · refine ((reads_delimited (.inl rfl) begins_item
      (fun acc => (?item : Reads _ Tree.tokens (takeItem kind depth acc))) (none, [])).andThen_answer
      fun p => p.1.map (·, Payload.items p.2.reverse)).congr ?_
    case item =>
      obtain ⟨_ | k, vs⟩ := acc
      · exact (reads_string.check kind).map _
      · exact (reads_value depth).map _
    intro vs
    cases vs with
    | nil => rfl
    | cons v vs =>
      rw [List.foldlM_cons, takeItem, Tree.tagged?]
      cases v.string?.bind kind with
      | none => rfl
      | some k =>
        simp only [Option.map_some, Option.bind_eq_bind, Option.bind_some, foldlM_takeItem]
        cases vs.mapM (Tree.value? depth) <;> simp
  · have hmembers :=
      reads_delimited (.inr rfl) begins_member (reads_takeMember tag kind depth) (none, [])
    refine (hmembers.andThen_answer fun p => p.1.map (·, Payload.members p.2.reverse)).congr ?_
    intro ms
    rw [foldlM_bind, Tree.tagged?]
    cases ms.mapM fun m => m.1.string?.map (·, m.2) with
    | none => rfl
    | some ms =>
      simp only [Option.bind_eq_bind, Option.bind_some, foldlM_takeMember, fieldAfter, required?]
      cases field? tag (fun v => v.string?.bind kind) ms with
      | none => rfl
      | some k =>
        cases (ms.filter (·.1 != tag)).mapM (Tree.whole? depth) <;> cases k <;> simp

end

/-! ### Writing tagged records -/

/-- Members that are read whole are written like trees that are their values. -/
theorem Value.exists_whole {depth : Nat} {ms : List (String × Value)}
    (h : ∀ m ∈ ms, Spells m.2 (Tree.value? depth) m.2) :
    ∃ ts : List (String × Tree),
      List.Forall₂ (fun m t => m.1 = t.1 ∧ Written m.2 t.2) ms ts ∧
        ts.map Prod.fst = ms.map Prod.fst ∧ ts.mapM (Tree.whole? depth) = some ms := by
  induction ms with
  | nil => exact ⟨[], .nil, rfl, rfl⟩
  | cons m ms ih =>
    obtain ⟨t, ht, hm⟩ := h m List.mem_cons_self
    obtain ⟨ts, hts, hkeys, hms⟩ := ih fun m' hm' => h m' (List.mem_cons_of_mem _ hm')
    exact ⟨(m.1, t) :: ts, .cons ⟨rfl, ht⟩ hts, by simp [hkeys], by simp [Tree.whole?, hm, hms]⟩

/-- A record with the name of its shape in front of its fields is written like an object of which no
other member has the tag for its key. -/
theorem Value.exists_object {tag name : String} {ms : List (String × Value)}
    (htag : tag ∉ ms.map Prod.fst) {ts : List (String × Tree)}
    (hts : List.Forall₂ (fun m t => m.1 = t.1 ∧ Written m.2 t.2) ms ts)
    (hkeys : ts.map Prod.fst = ms.map Prod.fst) :
    ∃ (t : Tree) (ls : List (Literal × Tree)), t.string? = some name ∧
      Written (.object ((tag, .string name) :: ms)) (.object ls) ∧
      ls.mapM (fun m => m.1.string?.map (·, m.2)) = some ((tag, t) :: ts) ∧
      ∀ u ∈ ts, u.1 ≠ tag := by
  obtain ⟨t, ht, hname⟩ := spells_string name
  have hall : List.Forall₂ (fun (m : String × Value) (t : String × Tree) =>
      m.1 = t.1 ∧ Written m.2 t.2) ((tag, .string name) :: ms) ((tag, t) :: ts) :=
    .cons ⟨rfl, ht⟩ hts
  obtain ⟨ls, hls, hmembers⟩ := exists_members hall
  refine ⟨t, ls, hname, written_object hls, hmembers, ?_⟩
  rintro u hu rfl
  exact htag (hkeys ▸ List.mem_map_of_mem hu)

/-- A record with the name of its shape in front of its fields is written like a record of that
shape with these fields. -/
theorem Value.spells_tagged {tag name : String} {kind : String → Option κ} {k : κ}
    (hk : kind name = some k) {depth : Nat} {ms : List (String × Value)}
    (htag : tag ∉ ms.map Prod.fst) (hms : ∀ m ∈ ms, Spells m.2 (Tree.value? depth) m.2) :
    Spells (.object ((tag, .string name) :: ms)) (Tree.tagged? tag kind depth)
      (k, .members ms) := by
  obtain ⟨ts, hts, hkeys, hvalues⟩ := exists_whole hms
  obtain ⟨t, ls, hname, hobject, hmembers, htags⟩ := exists_object htag hts hkeys
  have hothers : ts.filter (·.1 != tag) = ts := by simpa using htags
  have hnone : ts.filter (·.1 == tag) = [] := by simpa using htags
  refine ⟨.object ls, hobject, ?_⟩
  simp [Tree.tagged?, hmembers, required?, field?, hnone, hname, hk, hothers, hvalues]

/-- What the shape makes of the fields, it makes of the record. -/
theorem Value.spells_tagged_bind {α : Type} {tag name : String} {kind : String → Option κ} {k : κ}
    (hk : kind name = some k) {depth : Nat} {ms : List (String × Value)}
    (htag : tag ∉ ms.map Prod.fst) (hms : ∀ m ∈ ms, Spells m.2 (Tree.value? depth) m.2)
    {f : κ × Payload → Option α} {a : α} (ha : f (k, .members ms) = some a) :
    Spells (.object ((tag, .string name) :: ms)) (fun v => (v.tagged? tag kind depth).bind f)
      a := by
  apply (spells_tagged hk htag hms).imp
  intro v hv
  rw [hv, Option.bind_some, ha]

end SlideGraph.Json
