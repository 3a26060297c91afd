import SlideGraph.Proofs.Json.Reader.Record
import SlideGraph.Proofs.Json.Reader.Tagged
import SlideGraph.Proofs.Json.Unambiguous

/-!
# Records with a gap

A record with a gap at one of its fields becomes a document by any value that is put there. What a
reader makes of it comes from two parts that know nothing of each other: what it makes of the value
in the gap, and what is left of the record, which makes sense or does not. So two documents that
differ in one field are read alike, but for that field.
-/

namespace SlideGraph.Json

variable {α β γ δ ι κ ρ σ : Type}

/-- What is read of a record whose gap is filled: what the value in the gap is, put to the rest of
the record. There is no rest if the record makes no sense whatever is put into the gap. -/
def Fills (whole : ι → Option α) (rest : Option ρ) (field : ι → Option β) (put : ρ → β → α) :
    Prop :=
  ∀ x, whole x = rest.bind fun r => (field x).map (put r)

theorem Fills.none {whole : ι → Option α} (h : ∀ x, whole x = none) (field : ι → Option β)
    (put : ρ → β → α) : ∃ rest, Fills whole rest field put :=
  ⟨.none, h⟩

/-- If what was read goes on to be looked into, so does the value in the gap. -/
theorem Fills.bind {whole : ι → Option α} {rest : Option ρ} {field : ι → Option β}
    {put : ρ → β → α} (h : Fills whole rest field put) {f : α → Option γ} {field' : β → Option δ}
    {put' : σ → δ → γ}
    (hf : ∀ r, rest = some r → ∃ rest', Fills (fun b => f (put r b)) rest' field' put') :
    ∃ rest', Fills (fun x => (whole x).bind f) rest' (fun x => (field x).bind field') put' := by
  cases rest with
  | none =>
    apply Fills.none
    intro x
    rw [h x, Option.bind_none, Option.bind_none]
  | some r =>
    obtain ⟨rest', h'⟩ := hf r rfl
    refine ⟨rest', fun x => ?_⟩
    simp only [h x, Option.bind_some]
    cases field x with
    | none => cases rest' <;> rfl
    | some b => exact h' b

/-- A record with a gap where the value of a field stands: behind the key of a member of an object,
or at the position of the field in an array. -/
inductive Tree.Gap (names : List String) (name : String) : (Tree → Tree) → Prop
  | member {before after : List (Literal × Tree)} {key : Literal} (h : key.string? = some name) :
    Gap names name fun v => .object (before ++ (key, v) :: after)
  | item {before after : List Tree} (h : names[before.length]? = some name) :
    Gap names name fun v => .array (before ++ v :: after)

/-! ### Members -/

theorem length_of_mapM {f : ι → Option β} {is : List ι} {bs : List β} (h : is.mapM f = some bs) :
    bs.length = is.length := by
  induction is generalizing bs with
  | nil =>
    cases h
    rfl
  | cons i is ih =>
    simp only [List.mapM_cons, Option.bind_eq_bind, Option.bind_eq_some_iff] at h
    obtain ⟨b, -, bs, hbs, hcons⟩ := h
    cases hcons
    rw [List.length_cons, List.length_cons, ih hbs]

/-- One of the items may be any, and the others are what they are. -/
theorem fills_mapM (f : ι → Option β) (before after : List ι) :
    ∃ rest : Option (List β × List β), (∀ r ∈ rest, r.1.length = before.length) ∧
      Fills (fun x => (before ++ x :: after).mapM f) rest f fun r b => r.1 ++ b :: r.2 := by
  cases hbefore : before.mapM f with
  | none => exact ⟨none, by simp, fun x => by simp [hbefore]⟩
  | some bs =>
    cases hafter : after.mapM f with
    | none => exact ⟨none, by simp, fun x => by cases hx : f x <;> simp [hbefore, hafter, hx]⟩
    | some as =>
      refine ⟨some (bs, as), ?_, fun x => by cases hx : f x <;> simp [hbefore, hafter, hx]⟩
      simpa using length_of_mapM hbefore

section

variable {names : List String} {name : String} {gap : Tree → Tree}

theorem Tree.Gap.fills_members? (h : Gap names name gap) :
    ∃ rest : Option (List (String × Tree) × List (String × Tree)),
      Fills (fun v => (gap v).members? names) rest some fun r v => r.1 ++ (name, v) :: r.2 := by
  cases h with
  | @member before after key hkey =>
    obtain ⟨rest, -, hrest⟩ :=
      fills_mapM (fun m : Literal × Tree => m.1.string?.map (·, m.2)) before after
    refine ⟨rest, fun v => (hrest (key, v)).trans ?_⟩
    simp [hkey]
  | @item before after hname =>
    obtain ⟨hlt, hget⟩ := List.getElem?_eq_some_iff.1 hname
    have hnames : names = names.take before.length ++ name :: names.drop (before.length + 1) := by
      rw [← hget, List.getElem_cons_drop, List.take_append_drop]
    have hlength : (names.take before.length).length = before.length := by
      rw [List.length_take]
      omega
    by_cases hfits : (before ++ Tree.scalar .null :: after).length ≤ names.length
    · refine ⟨some ((names.take before.length).zip before,
        (names.drop (before.length + 1)).zip after), fun v => ?_⟩
      have hfits' : (before ++ v :: after).length ≤ names.length := by simpa using hfits
      have hzip : names.zip (before ++ v :: after) = (names.take before.length).zip before ++
          (name, v) :: (names.drop (before.length + 1)).zip after := by
        conv_lhs => rw [hnames]
        rw [List.zip_append hlength, List.zip_cons_cons]
      simp only [Tree.members?, if_pos hfits', hzip]
      rfl
    · apply Fills.none
      intro v
      have hfits' : ¬(before ++ v :: after).length ≤ names.length := by simpa using hfits
      simp only [Tree.members?, if_neg hfits']

variable {other : String} {denote : Tree → Option α} {before after : List (String × Tree)}

/-- A field does not look into the gap of another. -/
theorem field?_gap_of_ne (h : other ≠ name) (v : Tree) :
    field? other denote (before ++ (name, v) :: after) = field? other denote (before ++ after) := by
  have hfilter : (before ++ (name, v) :: after).filter (·.1 == other) =
      (before ++ after).filter (·.1 == other) := by
    simp [Ne.symm h]
  rw [field?, hfilter, field?]

/-- A field with the gap is what the value in the gap is, if there is no second one of its name. -/
theorem fills_field? :
    ∃ rest : Option Unit, Fills (fun v => field? name denote (before ++ (name, v) :: after)) rest
      denote fun _ => some := by
  have hfilter (v : Tree) : (before ++ (name, v) :: after).filter (·.1 == name) =
      before.filter (·.1 == name) ++ (name, v) :: after.filter (·.1 == name) := by simp
  cases hbefore : before.filter (·.1 == name) with
  | nil =>
    cases hafter : after.filter (·.1 == name) with
    | nil => exact ⟨some (), fun v => by simp [field?, hfilter, hbefore, hafter]⟩
    | cons m ms => exact ⟨none, fun v => by simp [field?, hfilter, hbefore, hafter]⟩
  | cons m ms =>
    refine ⟨none, fun v => ?_⟩
    cases ms <;> simp [field?, hfilter, hbefore]

end

/-! ### Payloads -/

namespace Payload

/-- A payload with a gap where the value of a field stands. -/
inductive Gap (names : List String) (name : String) : (Value → Payload) → Prop
  | member {before after : List (String × Value)} :
    Gap names name fun x => .members (before ++ (name, x) :: after)
  | item {before after : List Value} (h : names[before.length]? = some name) :
    Gap names name fun x => .items (before ++ x :: after)

variable {names : List String} {name : String} {gap : Value → Payload}

theorem Gap.fits_eq (h : Gap names name gap) (x y : Value) :
    (gap x).fits names = (gap y).fits names := by
  cases h with
  | @member before after =>
    have hlength (k : String) :
        ((before ++ (name, x) :: after).filter fun m => m.1 == k).length =
          ((before ++ (name, y) :: after).filter fun m => m.1 == k).length := by
      simp only [List.filter_append, List.filter_cons, List.length_append]
      split_ifs <;> simp
    simp only [fits, hlength]
  | item => simp [fits]

theorem Gap.field?_of_ne (h : Gap names name gap) {position : Nat} {other : String}
    (hposition : names[position]? = some other) (hne : other ≠ name) (x y : Value) :
    (gap x).field? position other = (gap y).field? position other := by
  cases h with
  | @member before after =>
    simp only [field?, List.lookup_append, List.lookup_cons, beq_eq_false_iff_ne.2 hne]
  | @item before after hname =>
    have hposition_ne : position ≠ before.length := by
      rintro rfl
      rw [hname] at hposition
      exact hne (Option.some.inj hposition).symm
    simp only [field?, List.getElem?_append, List.getElem?_cons]
    split_ifs with hlt hzero
    · rfl
    · omega
    · rfl

theorem Gap.field?_eq (h : Gap names name gap) {position : Nat} (hnames : names.Nodup)
    (hposition : names[position]? = some name) {x : Value} (hfits : (gap x).fits names = true) :
    (gap x).field? position name = some x := by
  cases h with
  | @member before after =>
    rw [fits, List.all_eq_true] at hfits
    have hone := of_decide_eq_true (hfits name (List.mem_of_getElem? hposition))
    have hbefore : before.lookup name = none := by
      rw [List.lookup_eq_none_iff]
      rintro ⟨k, y⟩ hm
      by_contra hk
      have hmem : (k, y) ∈ before.filter (·.1 == name) := by
        rw [List.mem_filter]
        exact ⟨hm, by simp_all⟩
      have hpos := List.length_pos_of_mem hmem
      simp only [List.filter_append, List.filter_cons_of_pos, BEq.rfl, List.length_append,
        List.length_cons] at hone
      omega
    rw [field?, List.lookup_append, hbefore, Option.none_or, List.lookup_cons_self]
  | @item before after hname =>
    obtain ⟨hlt, -⟩ := List.getElem?_eq_some_iff.1 hname
    have heq := (List.getElem?_inj hlt hnames).1 (hname.trans hposition.symm)
    simp [field?, ← heq]

/-- A field that has to be there is what the value in its gap is, if no field comes twice. -/
theorem Gap.required_eq (h : Gap names name gap) {position : Nat} (hnames : names.Nodup)
    (hposition : names[position]? = some name) {x : Value} (hfits : (gap x).fits names = true)
    (f : Value → Option α) : (gap x).required position name f = f x := by
  rw [required, h.field?_eq hnames hposition hfits, Option.bind_some]

theorem Gap.required_of_ne (h : Gap names name gap) {position : Nat} {other : String}
    (hposition : names[position]? = some other) (hne : other ≠ name) (f : Value → Option α)
    (x y : Value) : (gap x).required position other f = (gap y).required position other f := by
  rw [required, h.field?_of_ne hposition hne x y, required]

/-- Whether a field comes twice does not depend on what is in the gap. -/
theorem Gap.fills_of_fits (h : Gap names name gap) {whole : Value → Option α}
    {field : Value → Option β} {put : ρ → β → α}
    (hnone : ∀ x, (gap x).fits names = false → whole x = none)
    (hsome : (∀ x, (gap x).fits names = true) → ∃ rest, Fills whole rest field put) :
    ∃ rest, Fills whole rest field put := by
  cases hfits : (gap .null).fits names with
  | true => exact hsome fun x => (h.fits_eq x .null).trans hfits
  | false => exact Fills.none (fun x => hnone x ((h.fits_eq x .null).trans hfits)) field put

end Payload

/-! ### Tagged records -/

/-- The name that a record has in its field `tag`, which is the first one in an array. -/
def Tree.tag? (tag : String) : Tree → Option String
  | array (v :: _) => v.string?
  | object ms =>
    (ms.mapM fun m => (m.1.string?.map (·, m.2) : Option (String × Tree))).bind
      (required? tag string?)
  | _ => none

theorem required?_bind {name : String} {denote : Tree → Option α} {f : α → Option β}
    {ms : List (String × Tree)} :
    required? name (fun v => (denote v).bind f) ms = (required? name denote ms).bind f := by
  rw [required?, field?, required?, field?]
  cases ms.filter (·.1 == name) with
  | nil => rfl
  | cons m ms' =>
    cases ms' with
    | nil =>
      cases h : denote m.2 with
      | none => simp [h]
      | some a => cases hf : f a <;> simp [h, hf]
    | cons => rfl

namespace Tree

variable {tag name : String}

/-- The members besides the tag are read whole, with the gap at one of them. -/
theorem fills_whole? (hne : tag ≠ name) (depth : Nat) (before after : List (String × Tree)) :
    ∃ rest : Option (List (String × Value) × List (String × Value)),
      Fills (fun v => ((before ++ (name, v) :: after).filter (·.1 != tag)).mapM (whole? depth)) rest
        (value? depth) fun r x => r.1 ++ (name, x) :: r.2 := by
  obtain ⟨rest, -, hrest⟩ := fills_mapM (whole? depth) (before.filter (·.1 != tag))
    (after.filter (·.1 != tag))
  refine ⟨rest, fun v => ?_⟩
  have hfilter : (before ++ (name, v) :: after).filter (·.1 != tag) =
      before.filter (·.1 != tag) ++ (name, v) :: after.filter (·.1 != tag) := by
    simp [Ne.symm hne]
  simp only [hfilter]
  refine (hrest (name, v)).trans ?_
  simp only [whole?, Option.map_map, Function.comp_def]

/-- A tagged record with a gap names its shape, and what it is read as has a gap at the same field
of its payload. Otherwise it makes no sense whatever is put into the gap. -/
def FillsPayload (tag : String) (kind : String → Option κ) (depth : Nat) (names : List String)
    (name : String) (gap : Tree → Tree) : Prop :=
  ∃ rest : Option (κ × (Value → Payload)),
    (∀ r, rest = some r →
      Payload.Gap names name r.2 ∧ ∀ v, ((gap v).tag? tag).bind kind = some r.1) ∧
      Fills (fun v => (gap v).tagged? tag kind depth) rest (value? depth) fun r x => (r.1, r.2 x)

section

variable {kind : String → Option κ} {depth : Nat} {names : List String}

theorem fillsPayload_object (hne : tag ≠ name) {before after : List (Literal × Tree)}
    {key : Literal} (hkey : key.string? = some name) :
    FillsPayload tag kind depth names name fun v => .object (before ++ (key, v) :: after) := by
  obtain ⟨named, -, hnamed⟩ := fills_mapM
    (fun m => (m.1.string?.map (·, m.2) : Option (String × Tree))) before after
  have hkeys (v : Tree) := hnamed (key, v)
  simp only [hkey, Option.map_some] at hkeys
  cases named with
  | none => exact ⟨none, by simp, fun v => by simp [tagged?, hkeys]⟩
  | some r =>
    obtain ⟨bs, as⟩ := r
    have htag (v : Tree) : required? tag string? (bs ++ (name, v) :: as) =
        required? tag string? (bs ++ as) := by
      rw [required?, field?_gap_of_ne hne, required?]
    obtain ⟨rest, hrest⟩ := fills_whole? hne depth bs as
    have hothers (v : Tree) := hrest v
    simp only at hothers
    cases hk : (required? tag string? (bs ++ as)).bind kind with
    | none => exact ⟨none, by simp, fun v => by simp [tagged?, hkeys, required?_bind, htag, hk]⟩
    | some k =>
      refine ⟨rest.map fun r => (k, fun x => .members (r.1 ++ (name, x) :: r.2)), ?_, fun v => ?_⟩
      · intro r hr
        obtain ⟨r, -, rfl⟩ := Option.map_eq_some_iff.1 hr
        exact ⟨.member, fun v => by simp [tag?, hkeys, htag, hk]⟩
      · simp only [tagged?, hkeys, Option.bind_eq_bind, Option.bind_some, required?_bind, htag, hk,
          hothers]
        cases rest <;> cases v.value? depth <;> rfl

/-- The first item names the shape, so the others are one position further on in the payload. -/
theorem fillsPayload_array {t : Tree} {before after : List Tree}
    (hname : names[before.length]? = some name) :
    FillsPayload tag kind depth names name fun v => .array (t :: (before ++ v :: after)) := by
  obtain ⟨rest, hlength, hrest⟩ := fills_mapM (value? depth) before after
  have hitems (v : Tree) := hrest v
  simp only at hitems
  cases hk : t.string?.bind kind with
  | none => exact ⟨none, by simp, fun v => by simp [tagged?, hk]⟩
  | some k =>
    refine ⟨rest.map fun r => (k, fun x => .items (r.1 ++ x :: r.2)), ?_, fun v => ?_⟩
    · intro r' hr'
      obtain ⟨r, hr, rfl⟩ := Option.map_eq_some_iff.1 hr'
      refine ⟨.item ?_, fun v => hk⟩
      rw [hlength r hr]
      exact hname
    · simp only [tagged?, hk, Option.bind_eq_bind, Option.bind_some, hitems]
      cases rest <;> cases v.value? depth <;> rfl

variable (kind depth) in
/-- A tagged record is read whole, with its gap at a field of the payload. -/
theorem Gap.fillsPayload {gap : Tree → Tree} (h : Gap (tag :: names) name gap) (hne : tag ≠ name) :
    FillsPayload tag kind depth names name gap := by
  cases h with
  | member hkey => exact fillsPayload_object hne hkey
  | @item before after hname =>
    cases before with
    | nil => exact absurd (Option.some.inj hname) hne
    | cons t before => exact fillsPayload_array hname

end

end Tree

/-! ### Documents -/

/-- Two documents that differ in what fills the gap are read alike, but for the field. -/
theorem Fills.document_iff {r : Reader α} {denote : Tree → Option α} {gap : Tree → Tree}
    {rest : Option ρ} {field : Tree → Option β} {put : ρ → β → α}
    (h : Fills (fun v => denote (gap v)) rest field put) (hr : Reads r.read Tree.tokens denote)
    {v v₀ : Tree} {b₀ : β} (hv₀ : field v₀ = some b₀)
    (hput : ∀ q q', put q b₀ = put q' b₀ → q = q') {s s₀ : List Char}
    (hs : (gap v).IsDocument s) (hs₀ : (gap v₀).IsDocument s₀) {a : α} :
    r.document s = .ok a ↔
      ∃ q b, field v = some b ∧ r.document s₀ = .ok (put q b₀) ∧ a = put q b := by
  simp only [hr.document_eq_ok_iff_denote hs, hr.document_eq_ok_iff_denote hs₀, h v, h v₀, hv₀,
    Option.bind_eq_some_iff, Option.map_eq_some_iff]
  constructor
  · rintro ⟨q, hq, b, hb, rfl⟩
    exact ⟨q, b, hb, ⟨q, hq, b₀, rfl, rfl⟩, rfl⟩
  · rintro ⟨q, b, hb, ⟨q', hq', b', hb', heq⟩, rfl⟩
    cases hb'
    cases hput _ _ heq
    exact ⟨q, hq', b, hb, rfl⟩

end SlideGraph.Json
