import SlideGraph.Proofs.Json.Reader.Container
import SlideGraph.Proofs.Json.Reader.Incremental

/-!
# Where documents end

A container is read up to its closing bracket and no further. So a document that is a container has
an extent of its own: blanks may follow it, nothing else may, and no less of it is a document.
-/

namespace SlideGraph.Json

variable {α β κ σ : Type}

/-! ### Items between commas -/

section

variable {close : Char} {item : σ → Reader σ} {P : σ → Prop}

theorem delimitedRest_nil {acc : σ} {s : List Char} (hdrop : dropBlanks s = []) :
    delimitedRest close item acc s = .error .truncated := by
  rw [delimitedRest.eq_def]
  split
  · rfl
  · simp_all

theorem delimitedRest_comma {acc : σ} {s t : List Char} (hclose : close ≠ ',')
    (hdrop : dropBlanks s = ',' :: t) :
    delimitedRest close item acc s = after (delimitedRest close item) ((item acc).read t) := by
  cases hitem : (item acc).read t with
  | ok r => exact delimitedRest_of_comma hclose hdrop hitem
  | error e =>
    rw [delimitedRest.eq_def]
    split
    · simp_all
    · rename_i c t' hdrop'
      cases hdrop.symm.trans hdrop'
      rw [if_neg hclose.symm, if_pos rfl]
      split
      · simp_all [after]
      · simp_all

theorem delimitedRest_other {acc : σ} {c : Char} {s t : List Char} (hc : c ≠ close)
    (hcomma : c ≠ ',') (hdrop : dropBlanks s = c :: t) :
    delimitedRest close item acc s = .error .malformed := by
  rw [delimitedRest.eq_def]
  split
  · simp_all
  · rename_i c' t' hdrop'
    cases hdrop.symm.trans hdrop'
    rw [if_neg hc, if_neg hcomma]

/-- An item and what stands behind it. A number that is cut off is not the last item. -/
theorem partway_item {acc : σ} {q p u : List Char} (hitem : Incremental (item acc).read)
    (hq : Balanced q)
    (hrest : ∀ acc' w v, (item acc).read p = .ok (acc', v) → p = w ++ v → Balanced w →
      Partway (fun _ _ => False) (q ++ w ++ v) u (delimitedRest close item acc' v)
        (delimitedRest close item acc' (v ++ u))) :
    Partway (fun _ _ => False) (q ++ p) u (after (delimitedRest close item) ((item acc).read p))
      (after (delimitedRest close item) ((item acc).read (p ++ u))) := by
  have hcut := hitem.cut p u hq
  generalize hx : (item acc).read p = x at hcut hrest
  generalize (item acc).read (p ++ u) = y at hcut
  cases hcut with
  | malformed hin => exact .malformed hin
  | within hin ha =>
    simp only [after, delimitedRest_nil (s := []) rfl]
    exact .follows (.waiting _)
  | follows hfollows =>
    cases hfollows with
    | waiting y => exact .follows (.waiting _)
    | refused e e' => exact .follows (.refused e e')
    | done acc' v =>
      obtain ⟨w, rfl, hw⟩ := hitem.takes hx
      rw [← List.append_assoc]
      exact hrest acc' w v rfl rfl hw

theorem partway_delimitedRest (hclose : close = ']' ∨ close = '}')
    (h : ∀ acc, P acc → Incremental (item acc).read)
    (hstep : ∀ {acc s acc' t}, P acc → (item acc).read s = .ok (acc', t) → P acc') {acc : σ}
    (hacc : P acc) {q : List Char} (p u : List Char) (hq : Balanced q) :
    Partway (fun _ _ => False) (q ++ p) u (delimitedRest close item acc p)
      (delimitedRest close item acc (p ++ u)) := by
  have hcomma : close ≠ ',' := by rcases hclose with rfl | rfl <;> decide
  induction hn : p.length using Nat.strongRecOn generalizing acc q p with
  | ind n ih =>
    cases hp : dropBlanks p with
    | nil =>
      rw [delimitedRest_nil hp]
      exact .follows (.waiting _)
    | cons c t =>
      have hpu := dropBlanks_append_of_cons hp u
      by_cases hc : c = close
      · subst hc
        rw [delimitedRest_of_close hp, delimitedRest_of_close hpu]
        exact .follows (.done acc t)
      by_cases hother : c = ','
      · subst hother
        have hlt := length_lt_of_dropBlanks_eq_cons hp
        rw [delimitedRest_comma hcomma hp, delimitedRest_comma hcomma hpu]
        obtain ⟨bs, hbs, rfl⟩ := exists_blanks_cons hp
        have hsep : Balanced (q ++ (bs ++ [','])) := hq.append (hbs.balanced.append rfl)
        have hqp : q ++ (bs ++ ',' :: t) = q ++ (bs ++ [',']) ++ t := by simp
        rw [hqp]
        refine partway_item (h acc hacc) hsep ?_
        intro acc' w v hread ht hw
        have hshrinks := (item acc).shrinks hread
        exact ih v.length (by omega) (hstep hacc hread) v (hsep.append hw) rfl
      · rw [delimitedRest_other hc hother hp, delimitedRest_other hc hother hpu]
        exact .follows (.refused _ _)

theorem takes_delimitedRest (hclose : close = ']' ∨ close = '}')
    (h : ∀ acc, P acc → Incremental (item acc).read)
    (hstep : ∀ {acc s acc' t}, P acc → (item acc).read s = .ok (acc', t) → P acc') {acc b : σ}
    (hacc : P acc) {s t : List Char} (hread : delimitedRest close item acc s = .ok (b, t)) :
    ∃ w, s = w ++ t ∧ Balanced w := by
  have hbracket : Balanced [close] := by rcases hclose with rfl | rfl <;> rfl
  fun_induction delimitedRest close item acc s with
  | case1 => cases hread
  | case2 acc s t' hdrop =>
    cases hread
    obtain ⟨bs, hbs, rfl⟩ := exists_blanks_cons hdrop
    exact ⟨bs ++ [close], by simp, hbs.balanced.append hbracket⟩
  | case3 => cases hread
  | case4 acc s t' acc' u hitem hdrop _ ih =>
    obtain ⟨bs, hbs, rfl⟩ := exists_blanks_cons hdrop
    obtain ⟨w, rfl, hw⟩ := (h acc hacc).takes hitem
    obtain ⟨v, rfl, hv⟩ := ih (hstep hacc hitem) hread
    have hcomma : Balanced [','] := rfl
    refine ⟨bs ++ ([','] ++ (w ++ v)), by simp, ?_⟩
    exact hbs.balanced.append (hcomma.append (hw.append hv))
  | case5 => cases hread

theorem delimitedFrom_close {acc : σ} {s t : List Char} (hdrop : dropBlanks s = close :: t) :
    delimitedFrom close item acc s = .ok (acc, t) := by
  simp only [delimitedFrom, hdrop, if_true]

theorem delimitedFrom_other {acc : σ} {c : Char} {s t : List Char} (hc : c ≠ close)
    (hdrop : dropBlanks s = c :: t) : delimitedFrom close item acc s =
      after (delimitedRest close item) ((item acc).read (c :: t)) := by
  simp only [delimitedFrom, hdrop, if_neg hc]
  cases (item acc).read (c :: t) <;> rfl

/-- Items between commas end with the closing bracket. The items have to be read in parts only from
what the items before them can lead to. -/
theorem selfDelimiting_delimited_of (hclose : close = ']' ∨ close = '}')
    (h : ∀ acc, P acc → Incremental (item acc).read)
    (hstep : ∀ {acc s acc' t}, P acc → (item acc).read s = .ok (acc', t) → P acc') {acc : σ}
    (hacc : P acc) : SelfDelimiting (Tail.delimited close item acc).read where
  takes {s t b} hread := by
    have hread : delimitedFrom close item acc s = .ok (b, t) := hread
    cases hdrop : dropBlanks s with
    | nil =>
      simp only [delimitedFrom, hdrop] at hread
      cases hread
    | cons c v =>
      by_cases hc : c = close
      · subst hc
        cases (delimitedFrom_close hdrop).symm.trans hread
        have hbracket : Balanced [c] := by rcases hclose with rfl | rfl <;> rfl
        obtain ⟨bs, hbs, rfl⟩ := exists_blanks_cons hdrop
        exact ⟨bs ++ [c], by simp, hbs.balanced.append hbracket⟩
      · rw [delimitedFrom_other hc hdrop] at hread
        cases hitem : (item acc).read (c :: v) with
        | error e =>
          rw [hitem] at hread
          cases hread
        | ok r =>
          obtain ⟨acc', t'⟩ := r
          rw [hitem] at hread
          obtain ⟨w, hw, hbalanced⟩ := (h acc hacc).takes hitem
          obtain ⟨w', rfl, hbalanced'⟩ :=
            takes_delimitedRest hclose h hstep (hstep hacc hitem) hread
          obtain ⟨bs, hbs, rfl⟩ := exists_blanks_cons hdrop
          refine ⟨bs ++ (w ++ w'), ?_, hbs.balanced.append (hbalanced.append hbalanced')⟩
          rw [hw]
          simp
  cut {q} p u hq := by
    show Partway _ (q ++ p) u (delimitedFrom close item acc p)
      (delimitedFrom close item acc (p ++ u))
    cases hp : dropBlanks p with
    | nil =>
      simp only [delimitedFrom, hp]
      exact .follows (.waiting _)
    | cons c t =>
      have hpu := dropBlanks_append_of_cons hp u
      by_cases hc : c = close
      · subst hc
        rw [delimitedFrom_close hp, delimitedFrom_close hpu]
        exact .follows (.done acc t)
      · rw [delimitedFrom_other hc hp, delimitedFrom_other hc hpu]
        obtain ⟨bs, hbs, rfl⟩ := exists_blanks_cons hp
        have hbalanced := hq.append hbs.balanced
        rw [← List.append_assoc]
        refine partway_item (p := c :: t) (h acc hacc) hbalanced ?_
        intro acc' w v hread _ hw
        exact partway_delimitedRest hclose h hstep (hstep hacc hread) v u (hbalanced.append hw)

theorem selfDelimiting_delimited (hclose : close = ']' ∨ close = '}')
    (h : ∀ acc, Incremental (item acc).read) (acc : σ) :
    SelfDelimiting (Tail.delimited close item acc).read :=
  selfDelimiting_delimited_of (P := fun _ => True) hclose (fun acc _ => h acc)
    (fun _ _ => trivial) trivial

end

/-! ### Lists, maps and records -/

theorem SelfDelimiting.tailMap {r : Tail α} (h : SelfDelimiting r.read) (f : α → β) :
    SelfDelimiting (r.map f).read :=
  h.andThen fun a => selfDelimiting_done (f a)

/-- A reader of containers takes no number. -/
theorem selfDelimiting_container {k : Head → Tail α}
    (hfail : ∀ h, h ≠ .openArray → h ≠ .openObject → k h = .fail .mismatch)
    (harray : SelfDelimiting (k .openArray).read)
    (hobject : SelfDelimiting (k .openObject).read) :
    SelfDelimiting (Reader.head.andThen k).read := by
  refine IncrementalUpTo.andThen (r := Reader.head.tail) incrementalUpTo_head ?_ ?_
  · intro h
    by_cases ha : h = .openArray
    · exact ha ▸ harray
    by_cases ho : h = .openObject
    · exact ho ▸ hobject
    rw [hfail h ha ho]
    exact selfDelimiting_fail .mismatch
  · rintro p u h y _ ⟨n, rfl, hy⟩
    have hnumber (n : Number) : k (.number n) = .fail .mismatch := hfail _ nofun nofun
    rw [hnumber]
    cases y with
    | error e => exact .follows (.refused _ _)
    | ok r =>
      obtain ⟨n', hn', -⟩ := hy r.1 r.2 rfl
      simp only [after, hn', hnumber]
      exact .follows (.refused _ _)

theorem Incremental.items {r : Reader α} (h : Incremental r.read) :
    SelfDelimiting (Tail.items r).read :=
  (selfDelimiting_delimited (.inl rfl) (fun acc => h.map (· :: acc)) []).tailMap List.reverse

theorem Incremental.list {r : Reader α} (h : Incremental r.read) :
    SelfDelimiting (Reader.list r).read := by
  refine selfDelimiting_container ?_ h.items (selfDelimiting_fail .mismatch)
  intro h harray _
  cases h <;> first | rfl | exact absurd rfl harray

theorem incremental_member {next : String → Except Fault (Reader α)}
    (hnext : ∀ k r, next k = .ok r → Incremental r.read) :
    Incremental (Reader.member next).read := by
  refine SelfDelimiting.andThen (r := Reader.key.tail) selfDelimiting_key ?_
  intro k
  split
  · exact (selfDelimiting_fail _).incremental
  · rename_i r hr
    exact SelfDelimiting.andThen (r := (Reader.symbol ':').tail)
      (selfDelimiting_symbol (by decide) (by decide)) fun _ => hnext k r hr

theorem Incremental.bindings {put : String → α → σ → σ} {r : Reader α} (h : Incremental r.read)
    (empty : σ) : SelfDelimiting (Tail.delimited '}'
      (fun acc => Reader.member fun k => .ok (r.map fun a => put k a acc)) empty).read := by
  refine selfDelimiting_delimited (.inr rfl) (fun acc => incremental_member ?_) empty
  rintro k r' ⟨⟩
  exact h.map _

theorem Incremental.entries {put : String → α → σ → σ} {empty : σ} {r : Reader α}
    (h : Incremental r.read) : SelfDelimiting (Reader.entries put empty r).read := by
  refine selfDelimiting_container ?_ (selfDelimiting_fail .mismatch) (h.bindings empty)
  intro h _ hobject
  cases h <;> first | rfl | exact absurd rfl hobject

/-! ### Values that nobody asks for -/

/-- Go over a member of an object, with `r` going over its value. -/
def passMember (r : Reader α) : Reader α :=
  (Reader.symbol '"').andThen fun _ => Reader.unquotedAway.tail.andThen fun _ =>
    (Reader.symbol ':').tail.andThen fun _ => r.tail

theorem incremental_passMember {r : Reader α} (h : Incremental r.read) :
    Incremental (passMember r).read := by
  have hread : (passMember r).read =
      (((Reader.symbol '"').andThen fun _ => Reader.unquotedAway.tail).tail.andThen fun _ =>
        (Reader.symbol ':').tail.andThen fun _ => r.tail).read := by
    funext s
    rw [passMember, Tail.andThen_read, Reader.andThen_read]
    show _ = after _ (((Reader.symbol '"').andThen fun _ => Reader.unquotedAway.tail).read s)
    rw [Reader.andThen_read]
    cases (Reader.symbol '"').read s with
    | error e => rfl
    | ok r' => exact Tail.andThen_read _ _ r'.2
  rw [hread]
  refine SelfDelimiting.andThen selfDelimiting_keyAway fun _ => ?_
  exact SelfDelimiting.andThen (r := (Reader.symbol ':').tail)
    (selfDelimiting_symbol (by decide) (by decide)) fun _ => h

/-- Go over what stands behind the front of a value, with `r` going over the values in it. -/
def passBehind (r : Reader Unit) : Opening → Tail Unit
  | .scalar => .done ()
  | .array => .delimited ']' (fun _ => r) ()
  | .object => .delimited '}' (fun _ => passMember r) ()

theorem passTo_succ (depth : Nat) :
    Reader.passTo (depth + 1) = Reader.opening.andThen (passBehind (Reader.passTo depth)) := by
  rw [Reader.passTo]
  congr 1

theorem incremental_passTo (depth : Nat) : Incremental (Reader.passTo depth).read := by
  induction depth with
  | zero =>
    refine IncrementalUpTo.andThen (r := Reader.opening.tail) incrementalUpTo_opening ?_ ?_
    · intro o
      cases o with
      | scalar => exact (selfDelimiting_done ()).incremental
      | array => exact (selfDelimiting_fail _).incremental
      | object => exact (selfDelimiting_fail _).incremental
    · rintro p u o y hin rfl
      exact .within hin trivial
  | succ depth ih =>
    rw [passTo_succ]
    refine IncrementalUpTo.andThen (r := Reader.opening.tail) incrementalUpTo_opening ?_ ?_
    · intro o
      cases o with
      | scalar => exact (selfDelimiting_done ()).incremental
      | array => exact (selfDelimiting_delimited (.inl rfl) (fun _ => ih) ()).incremental
      | object =>
        have hmember := incremental_passMember ih
        exact (selfDelimiting_delimited (.inr rfl) (fun _ => hmember) ()).incremental
    · rintro p u o y hin rfl
      exact .within hin trivial

theorem after_congr {x : Step α} {k k' : α → List Char → Step β}
    (h : ∀ a t, x = .ok (a, t) → k a t = k' a t) : after k x = after k' x := by
  cases x with
  | error e => rfl
  | ok r => exact h r.1 r.2 rfl

/-- What is read between brackets depends only on how items are read of shorter texts. -/
theorem delimitedRest_congr {close : Char} {item item' : σ → Reader σ} (hclose : close ≠ ',')
    {acc : σ} {s : List Char}
    (h : ∀ acc t, t.length < s.length → (item acc).read t = (item' acc).read t) :
    delimitedRest close item acc s = delimitedRest close item' acc s := by
  induction hn : s.length using Nat.strongRecOn generalizing acc s with
  | ind n ih =>
    cases hs : dropBlanks s with
    | nil => rw [delimitedRest_nil hs, delimitedRest_nil hs]
    | cons c t =>
      by_cases hc : c = close
      · subst hc
        rw [delimitedRest_of_close hs, delimitedRest_of_close hs]
      by_cases hother : c = ','
      · subst hother
        have hlt := length_lt_of_dropBlanks_eq_cons hs
        rw [delimitedRest_comma hclose hs, delimitedRest_comma hclose hs, h acc t hlt]
        apply after_congr
        intro acc' v hread
        have hshrinks := (item' acc).shrinks hread
        refine ih v.length (by omega) ?_ rfl
        intro acc'' v' hv'
        exact h acc'' v' (by omega)
      · rw [delimitedRest_other hc hother hs, delimitedRest_other hc hother hs]

theorem delimitedFrom_congr {close : Char} {item item' : σ → Reader σ} (hclose : close ≠ ',')
    {acc : σ} {s : List Char}
    (h : ∀ acc t, t.length ≤ s.length → (item acc).read t = (item' acc).read t) :
    delimitedFrom close item acc s = delimitedFrom close item' acc s := by
  cases hs : dropBlanks s with
  | nil => simp only [delimitedFrom, hs]
  | cons c t =>
    by_cases hc : c = close
    · subst hc
      rw [delimitedFrom_close hs, delimitedFrom_close hs]
    · have hle := length_dropBlanks_le s
      rw [hs] at hle
      rw [delimitedFrom_other hc hs, delimitedFrom_other hc hs, h acc _ hle]
      apply after_congr
      intro acc' v hread
      have hshrinks := (item' acc).shrinks hread
      refine delimitedRest_congr hclose ?_
      intro acc'' v' hv'
      exact h acc'' v' (by omega)

/-- A text has no more brackets than characters, so there is no need to allow more of them. -/
theorem passTo_succ_read {depth : Nat} {s : List Char} (h : s.length ≤ depth) :
    (Reader.passTo (depth + 1)).read s = (Reader.passTo depth).read s := by
  induction depth generalizing s with
  | zero =>
    rw [List.length_eq_zero_iff.1 (Nat.le_zero.1 h)]
    rfl
  | succ depth ih =>
    rw [passTo_succ (depth + 1), Reader.andThen_read]
    conv_rhs => rw [passTo_succ, Reader.andThen_read]
    apply after_congr
    intro o t hread
    have hshrinks := Reader.opening.shrinks hread
    cases o with
    | scalar => rfl
    | array =>
      show delimitedFrom ']' (fun _ => Reader.passTo (depth + 1)) () t =
        delimitedFrom ']' (fun _ => Reader.passTo depth) () t
      refine delimitedFrom_congr (by decide) ?_
      intro _ v hv
      exact ih (by omega)
    | object =>
      show delimitedFrom '}' (fun _ => passMember (Reader.passTo (depth + 1))) () t =
        delimitedFrom '}' (fun _ => passMember (Reader.passTo depth)) () t
      refine delimitedFrom_congr (by decide) ?_
      intro _ v hv
      rw [passMember, passMember, Reader.andThen_read, Reader.andThen_read]
      apply after_congr
      intro _ v₁ hread₁
      have hshrinks₁ := Reader.shrinks _ hread₁
      rw [Tail.andThen_read, Tail.andThen_read]
      apply after_congr
      intro _ v₂ hread₂
      have hshrinks₂ := Tail.shrinks _ hread₂
      rw [Tail.andThen_read, Tail.andThen_read]
      apply after_congr
      intro _ v₃ hread₃
      have hshrinks₃ := Tail.shrinks _ hread₃
      exact ih (by omega)

theorem passTo_read_of_le {depth : Nat} {s : List Char} (h : s.length ≤ depth) :
    (Reader.passTo depth).read s = Reader.ignored.read s := by
  induction depth, h using Nat.le_induction with
  | base => rfl
  | succ depth h ih => rw [passTo_succ_read h, ih]

theorem incremental_ignored : Incremental Reader.ignored.read where
  takes hread := (incremental_passTo _).takes hread
  cut {q} p u hq := by
    have hle : p.length ≤ (p ++ u).length := by simp
    rw [← passTo_read_of_le hle]
    exact (incremental_passTo _).cut p u hq

/-! ### Records -/

/-- The field is read in parts into any draft. -/
def FieldReader.IsIncremental (f : FieldReader σ) : Prop :=
  ∀ draft, Incremental (f.fill draft).read

theorem FieldReader.isIncremental_slot {r : Reader α} (h : Incremental r.read) (name : String)
    (get : σ → Option α) (set : α → σ → σ) : (slot name get set r).IsIncremental :=
  fun _ => h.map _

theorem selfDelimiting_record {fields : List (FieldReader σ)} (h : ∀ f ∈ fields, f.IsIncremental)
    (blank : σ) (finish : σ → Option α) :
    SelfDelimiting (Reader.record fields blank finish).read := by
  refine selfDelimiting_container ?_ ?_ ?_
  · intro h harray hobject
    cases h <;> first | rfl | exact absurd rfl harray | exact absurd rfl hobject
  · refine SelfDelimiting.andThen ?_ fun d => selfDelimiting_answer (finish d.1)
    refine selfDelimiting_delimited_of
      (P := fun d : σ × List (FieldReader σ) => ∀ f ∈ d.2, f.IsIncremental) (.inl rfl) ?_ ?_ h
    · rintro ⟨draft, _ | ⟨f, fs⟩⟩ hfields
      · exact { takes := nofun, cut := fun _ _ _ => .follows (.refused _ _) }
      · exact (hfields f List.mem_cons_self draft).map _
    · rintro ⟨draft, _ | ⟨f, fs⟩⟩ s d t hfields hread
      · cases hread
      · obtain ⟨draft', t', -, hdone⟩ := Reader.andThen_eq_ok_iff.1 hread
        cases hdone
        exact fun f' hf' => hfields f' (List.mem_cons_of_mem f hf')
  · refine SelfDelimiting.andThen ?_ fun d => selfDelimiting_answer (finish d)
    refine selfDelimiting_delimited (.inr rfl) (fun d => incremental_member ?_) blank
    intro k r hr
    rw [Reader.fieldOf] at hr
    split at hr
    · cases hr
      exact incremental_ignored.map _
    · rename_i f hfind
      split_ifs at hr
      cases hr
      exact h f (List.mem_of_find?_eq_some hfind) d

/-! ### Values that are read whole -/

/-- What may be read of a value that is cut off: a number, if the value is one. -/
def Value.Cut (v : Value) (y : Step Value) : Prop :=
  (∃ k, v = .number k) ∧ ∀ w t, y = .ok (w, t) → ∃ k, w = .number k

theorem incrementalUpTo_scalars {k : Head → Tail Value} (hnull : k .null = .done .null)
    (hbool : ∀ b, k (.bool b) = .done (.bool b)) (hnumber : ∀ n, k (.number n) = .done (.number n))
    (hstring : ∀ s, k (.string s) = .done (.string s)) (harray : SelfDelimiting (k .openArray).read)
    (hobject : SelfDelimiting (k .openObject).read) :
    IncrementalUpTo Value.Cut (Reader.head.andThen k).read := by
  refine IncrementalUpTo.andThen (r := Reader.head.tail) incrementalUpTo_head ?_ ?_
  · intro h
    have hself : SelfDelimiting (k h).read := by
      cases h with
      | null => exact hnull ▸ selfDelimiting_done _
      | bool b => exact hbool b ▸ selfDelimiting_done _
      | number n => exact hnumber n ▸ selfDelimiting_done _
      | string s => exact hstring s ▸ selfDelimiting_done _
      | openArray => exact harray
      | openObject => exact hobject
    exact hself.mono fun _ _ hfalse => hfalse.elim
  · rintro p u h y hin ⟨n, rfl, hy⟩
    rw [hnumber]
    refine .within hin ⟨⟨n, rfl⟩, ?_⟩
    intro w t hw
    cases y with
    | error e => cases hw
    | ok r =>
      obtain ⟨n', hn', -⟩ := hy r.1 r.2 rfl
      simp only [after, hn', hnumber] at hw
      cases hw
      exact ⟨n', rfl⟩

theorem incrementalUpTo_value (depth : Nat) :
    IncrementalUpTo Value.Cut (Reader.value depth).read := by
  induction depth with
  | zero =>
    exact incrementalUpTo_scalars rfl (fun _ => rfl) (fun _ => rfl) (fun _ => rfl)
      (selfDelimiting_fail _) (selfDelimiting_fail _)
  | succ depth ih =>
    refine incrementalUpTo_scalars rfl (fun _ => rfl) (fun _ => rfl) (fun _ => rfl)
      (ih.incremental.items.tailMap _) ?_
    have hmembers := @Incremental.bindings _ _ (fun k v acc => (k, v) :: acc) _ ih.incremental []
    exact hmembers.tailMap _

/-! ### Documents -/

theorem Reader.document_of_ok {r : Reader α} {s t : List Char} {a : α}
    (h : r.read s = .ok (a, t)) :
    r.document s = if (dropBlanks t).isEmpty then .ok a else .error .malformed := by
  rw [Reader.document, h]

theorem Reader.document_of_error {r : Reader α} {s : List Char} {e : Fault}
    (h : r.read s = .error e) : r.document s = .error e := by
  rw [Reader.document, h]

/-- A document that ends in no blank is read to its end. -/
theorem SelfDelimiting.read_of_document {r : Reader α} (h : SelfDelimiting r.read) {s : List Char}
    {a : α} (hs : r.document s = .ok a) (hend : ∃ c ∈ s.getLast?, isBlank c = false) :
    r.read s = .ok (a, []) := by
  rw [Reader.document] at hs
  split at hs
  · cases hs
  · rename_i b t hread
    split_ifs at hs with hblanks
    cases hs
    obtain ⟨w, rfl, -⟩ := h.takes hread
    rcases List.eq_nil_or_concat t with rfl | ⟨t, c, rfl⟩
    · exact hread
    · obtain ⟨d, hd, hblank⟩ := hend
      have hc := isEmpty_dropBlanks_iff.1 hblanks c (by simp)
      simp_all

/-- A document that is read to an end of its own has an extent of its own. Only blanks may follow
it. A text that is cut off is refused, and not for what it says: more of it is waited for, unless
the cut lies inside a number. -/
theorem SelfDelimiting.document {r : Reader α} (h : SelfDelimiting r.read) {s : List Char} {a : α}
    (hs : r.document s = .ok a) (hend : ∃ c ∈ s.getLast?, isBlank c = false) :
    (∀ bs, Blanks bs → r.document (s ++ bs) = .ok a) ∧
      (∀ t, ¬Blanks t → r.document (s ++ t) = .error .malformed) ∧
      ∀ p u, p ++ u = s → u ≠ [] → r.document p = .error .truncated ∨
        InNumber p u ∧ r.document p = .error .malformed := by
  have hread := h.read_of_document hs hend
  have hbehind (t : List Char) : r.read (s ++ t) = .ok (a, t) := by
    have hcut := h.cut s t balanced_nil
    rw [hread] at hcut
    generalize r.read (s ++ t) = y at hcut
    cases hcut with
    | follows hfollows =>
      cases hfollows
      rfl
    | within _ hfalse => exact hfalse.elim
  refine ⟨?_, ?_, ?_⟩
  · intro bs hbs
    rw [Reader.document_of_ok (hbehind bs), if_pos (isEmpty_dropBlanks_iff.2 hbs)]
  · intro t ht
    rw [Reader.document_of_ok (hbehind t), if_neg (mt isEmpty_dropBlanks_iff.1 ht)]
  · rintro p u rfl hu
    have hcut := h.cut p u balanced_nil
    generalize hx : r.read p = x at hcut
    generalize hy : r.read (p ++ u) = y at hcut
    cases hcut with
    | malformed hin => exact .inr ⟨hin, Reader.document_of_error hx⟩
    | within _ hfalse => exact hfalse.elim
    | follows hfollows =>
      cases hfollows with
      | waiting y => exact .inl (Reader.document_of_error hx)
      | refused e e' =>
        rw [hread] at hy
        cases hy
      | done b t =>
        rw [hread] at hy
        simp only [Except.ok.injEq, Prod.mk.injEq, List.nil_eq, List.append_eq_nil_iff] at hy
        exact absurd hy.2.2 hu

end SlideGraph.Json
