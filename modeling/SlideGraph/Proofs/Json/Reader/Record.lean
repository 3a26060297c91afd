import Mathlib.Data.List.Nodup
import SlideGraph.Proofs.Json.Reader.Container

/-!
# What readers of records read

A record is written as an object of its fields or as an array of the first of them. Either way it
has *members*, values by name, and a field is what the members of its name say: nothing if there
is none, the value of the only one, and there must not be two. The reader fills a draft as it goes
and gives up at the first fault. Its draft in the end is the one whose slots are the fields, so
neither the order of the members nor any member of another name matters.
-/

namespace SlideGraph.Json

variable {α σ : Type}

/-! ### Members and fields -/

/-- The members of a record with the given fields: those of an object by their keys, or the items
of an array, which take the names in order. -/
def Tree.members? (names : List String) : Tree → Option (List (String × Tree))
  | scalar _ => none
  | array vs => if vs.length ≤ names.length then some (names.zip vs) else none
  | object ms => ms.mapM fun m => m.1.string?.map (·, m.2)

/-- What the members say of a field: nothing without a member of its name, the value of the only
one, and no sense is made of two. -/
def field? (name : String) (denote : Tree → Option α) (ms : List (String × Tree)) :
    Option (Option α) :=
  match ms.filter (·.1 == name) with
  | [] => some none
  | [m] => (denote m.2).map some
  | _ => none

/-- A field of which there is a member is what that member says. -/
theorem exists_of_field? {name : String} {denote : Tree → Option α} {ms : List (String × Tree)}
    {v : Tree} {a : Option α} (h : field? name denote ms = some a) (hv : (name, v) ∈ ms) :
    ∃ b, denote v = some b ∧ a = some b := by
  have hmem : (name, v) ∈ ms.filter (·.1 == name) := by simpa using hv
  rw [field?] at h
  split at h
  · rename_i hnil
    rw [hnil] at hmem
    cases hmem
  · rename_i m hone
    rw [hone, List.mem_singleton] at hmem
    subst hmem
    obtain ⟨b, hb, rfl⟩ := Option.map_eq_some_iff.1 h
    exact ⟨b, hb, rfl⟩
  · cases h

/-- What the members say of a field that has to be there. -/
def required? (name : String) (denote : Tree → Option α) (ms : List (String × Tree)) : Option α :=
  (field? name denote ms).join

theorem required?_eq_some_iff {name : String} {denote : Tree → Option α}
    {ms : List (String × Tree)} {a : α} :
    required? name denote ms = some a ↔ field? name denote ms = some (some a) :=
  Option.join_eq_some_iff

/-- The members of the given names, in the order of the names. -/
def known (names : List String) (ms : List (String × Tree)) : List (String × Tree) :=
  names.flatMap fun k => ms.filter (·.1 == k)

theorem filter_known {names : List String} (hnames : names.Nodup) (name : String)
    (ms : List (String × Tree)) :
    (known names ms).filter (·.1 == name) =
      if name ∈ names then ms.filter (·.1 == name) else [] := by
  induction names with
  | nil => rfl
  | cons k names ih =>
    obtain ⟨hk, hnames⟩ := List.nodup_cons.1 hnames
    rw [known, List.flatMap_cons, ← known, List.filter_append, List.filter_filter, ih hnames]
    by_cases hname : name = k
    · subst hname
      simp [hk]
    · have hnone : ms.filter (fun m => m.1 == name && m.1 == k) = [] := by
        rw [List.filter_eq_nil_iff]
        intro m _ hm
        simp only [Bool.and_eq_true, beq_iff_eq] at hm
        exact hname (hm.1.symm.trans hm.2)
      simp [hnone, hname]

/-- A field depends on neither the order of the fields nor the members of other names. -/
theorem field?_known {names : List String} (hnames : names.Nodup) {name : String}
    (hname : name ∈ names) (denote : Tree → Option α) (ms : List (String × Tree)) :
    field? name denote (known names ms) = field? name denote ms := by
  rw [field?, filter_known hnames, if_pos hname, field?]

/-- The members that are there, of some that may be missing. -/
def present {β : Type} (ms : List (String × Option β)) : List (String × β) :=
  ms.filterMap fun (k, v) => v.map (k, ·)

theorem filter_present {β : Type} {ms : List (String × Option β)} (h : (ms.map Prod.fst).Nodup)
    {name : String} {v : Option β} (hv : (name, v) ∈ ms) :
    (present ms).filter (·.1 == name) = (v.map (name, ·)).toList := by
  have absent {ms : List (String × Option β)} (h : name ∉ ms.map Prod.fst) :
      (present ms).filter (·.1 == name) = [] := by
    rw [List.filter_eq_nil_iff]
    intro m hm hname
    obtain ⟨⟨k, w⟩, hmem, hw⟩ := List.mem_filterMap.1 hm
    obtain ⟨b, -, rfl⟩ := Option.map_eq_some_iff.1 hw
    exact h (List.mem_map.2 ⟨_, hmem, beq_iff_eq.1 hname⟩)
  induction ms with
  | nil => cases hv
  | cons m ms ih =>
    obtain ⟨k, w⟩ := m
    obtain ⟨hk, hms⟩ := List.nodup_cons.1 h
    have hcons : present ((k, w) :: ms) = (w.map (k, ·)).toList ++ present ms := by
      cases w <;> rfl
    rw [hcons, List.filter_append]
    rcases List.mem_cons.1 hv with heq | hmem
    · cases heq
      rw [absent hk, List.append_nil]
      cases v <;> simp
    · have hne : k ≠ name := fun hk' => hk (List.mem_map.2 ⟨_, hmem, hk'.symm⟩)
      rw [ih hms hmem]
      cases w <;> simp [hne]

/-- A field of a record is the member of its name, if that one is there. -/
theorem field?_present {ms : List (String × Option Tree)} (h : (ms.map Prod.fst).Nodup)
    {name : String} {v : Option Tree} (hv : (name, v) ∈ ms) (denote : Tree → Option α) :
    field? name denote (present ms) = v.mapM denote := by
  rw [field?, filter_present h hv]
  cases v <;> rfl

theorem required?_present {ms : List (String × Option Tree)} (h : (ms.map Prod.fst).Nodup)
    {name : String} {v : Tree} (hv : (name, some v) ∈ ms) {denote : Tree → Option α} {a : α}
    (ha : denote v = some a) : required? name denote (present ms) = some a :=
  required?_eq_some_iff.2 ((field?_present h hv denote).trans (by simp [ha]))

theorem getD_map_some (x : Option α) : (x.map some).getD none = x := by
  cases x <;> rfl

/-- What a slot of a draft holds after the members, given what it held before. -/
def fieldAfter (before : Option α) (name : String) (denote : Tree → Option α)
    (ms : List (String × Tree)) : Option (Option α) :=
  match before with
  | none => field? name denote ms
  | some a => if ms.filter (·.1 == name) = [] then some (some a) else none

section

variable {before : Option α} {name : String} {denote : Tree → Option α} {m : String × Tree}
  {ms : List (String × Tree)}

theorem fieldAfter_nil : fieldAfter before name denote [] = some before := by
  cases before <;> rfl

theorem fieldAfter_cons_ne (h : m.1 ≠ name) :
    fieldAfter before name denote (m :: ms) = fieldAfter before name denote ms := by
  have hfilter : (m :: ms).filter (·.1 == name) = ms.filter (·.1 == name) := by simp [h]
  cases before with
  | none => rw [fieldAfter, field?, hfilter, fieldAfter, field?]
  | some a => rw [fieldAfter, hfilter, fieldAfter]

theorem fieldAfter_cons_self (h : m.1 = name) :
    fieldAfter before name denote (m :: ms) =
      if before.isSome then none
      else (denote m.2).bind fun a => fieldAfter (some a) name denote ms := by
  have hfilter : (m :: ms).filter (·.1 == name) = m :: ms.filter (·.1 == name) := by simp [h]
  cases before with
  | some a => simp [fieldAfter, hfilter]
  | none =>
    rw [fieldAfter, field?, hfilter]
    cases hms : ms.filter (·.1 == name) with
    | nil => cases hv : denote m.2 <;> simp [fieldAfter, hms, hv]
    | cons m' ms' => cases denote m.2 <;> simp [fieldAfter, hms]

end

/-! ### Drafts -/

/-- A slot of a draft, how it is read, and what the value of its field stands for. -/
structure Slot (σ : Type) where
  {α : Type}
  name : String
  get : σ → Option α
  set : α → σ → σ
  reader : Reader α
  denote : Tree → Option α
  reads : Reads reader.read Tree.tokens denote

namespace Slot

/-- The field that fills the slot. -/
def field (s : Slot σ) : FieldReader σ := .slot s.name s.get s.set s.reader

/-- Fill a slot of a draft that is empty so far. -/
def fill (s : Slot σ) (draft : σ) (v : Tree) : Option σ :=
  if (s.get draft).isSome then none else (s.denote v).map fun a => s.set a draft

/-- The slots of a draft that has nothing else: each is set and read for itself. -/
structure Lawful (slots : List (Slot σ)) (blank : σ) : Prop where
  names : (slots.map Slot.name).Nodup
  blank : ∀ s ∈ slots, s.get blank = none
  get_set : ∀ s ∈ slots, ∀ a d, s.get (s.set a d) = some a
  get_set_ne : ∀ s ∈ slots, ∀ s' ∈ slots, s.name ≠ s'.name → ∀ a d, s'.get (s.set a d) = s'.get d
  ext : ∀ d d', (∀ s ∈ slots, s.get d = s.get d') → d = d'

end Slot

/-- Put a member into a draft. One of an unknown name is left out. -/
def put (slots : List (Slot σ)) (draft : σ) (m : String × Tree) : Option σ :=
  match slots.find? (·.name == m.1) with
  | none => some draft
  | some s => s.fill draft m.2

/-- The draft in the end is the one whose slots are the fields. -/
theorem Slot.Lawful.foldlM_put_eq_some_iff {slots : List (Slot σ)} {blank : σ}
    (h : Lawful slots blank) {ms : List (String × Tree)} {before after : σ} :
    ms.foldlM (put slots) before = some after ↔
      ∀ s ∈ slots, fieldAfter (s.get before) s.name s.denote ms = some (s.get after) := by
  -- one member changes one slot at most, and `fieldAfter` says what is still to come for each
  induction ms generalizing before with
  | nil =>
    simp only [List.foldlM_nil, fieldAfter_nil, Option.pure_def, Option.some.injEq]
    constructor
    · rintro rfl s _
      rfl
    · exact h.ext before after
  | cons m ms ih =>
    rw [List.foldlM_cons, put]
    cases hfind : slots.find? (·.name == m.1) with
    | none =>
      refine ih.trans (forall₂_congr ?_)
      intro s hs
      have hne : m.1 ≠ s.name := by
        intro heq
        exact List.find?_eq_none.1 hfind s hs (beq_iff_eq.2 heq.symm)
      rw [fieldAfter_cons_ne hne]
    | some s =>
      have hs := List.mem_of_find?_eq_some hfind
      have hname := List.find?_some hfind
      rw [beq_iff_eq, eq_comm] at hname
      simp only [Slot.fill]
      split_ifs with hfilled
      · refine iff_of_false (by simp) ?_
        intro hfields
        have hfield := hfields s hs
        simp [fieldAfter_cons_self hname, hfilled] at hfield
      · cases hv : s.denote m.2 with
        | none =>
          refine iff_of_false (by simp) ?_
          intro hfields
          have hfield := hfields s hs
          simp [fieldAfter_cons_self hname, hfilled, hv] at hfield
        | some a =>
          refine ih.trans (forall₂_congr ?_)
          intro s' hs'
          by_cases hs's : s' = s
          · subst hs's
            rw [fieldAfter_cons_self hname, if_neg hfilled, hv, h.get_set s' hs']
            rfl
          · have hne : s.name ≠ s'.name := fun heq =>
              hs's (List.inj_on_of_nodup_map h.names hs' hs heq.symm)
            rw [fieldAfter_cons_ne (hname ▸ hne), h.get_set_ne s hs s' hs' hne]

theorem Slot.Lawful.foldlM_blank_eq_some_iff {slots : List (Slot σ)} {blank : σ}
    (h : Lawful slots blank) {ms : List (String × Tree)} {d : σ} :
    ms.foldlM (put slots) blank = some d ↔
      ∀ s ∈ slots, field? s.name s.denote ms = some (s.get d) := by
  rw [h.foldlM_put_eq_some_iff]
  refine forall₂_congr ?_
  intro s hs
  rw [h.blank s hs, fieldAfter]

/-! ### Reading a record -/

namespace Slot

variable {slots : List (Slot σ)} {blank : σ}

theorem find?_name (hnames : (slots.map Slot.name).Nodup) {s : Slot σ} (hs : s ∈ slots) :
    slots.find? (·.name == s.name) = some s := by
  cases hfind : slots.find? (·.name == s.name) with
  | none => simpa using List.find?_eq_none.1 hfind s hs
  | some s' =>
    have hname := List.find?_some hfind
    rw [beq_iff_eq] at hname
    rw [List.inj_on_of_nodup_map hnames (List.mem_of_find?_eq_some hfind) hs hname]

theorem reads_fill (s : Slot σ) (draft : σ) :
    Reads (s.field.fill draft).read Tree.tokens fun v => (s.denote v).map fun a => s.set a draft :=
  s.reads.map _

/-- A member of an object is put into the draft. -/
theorem reads_member (slots : List (Slot σ)) (draft : σ) :
    Reads (Reader.member (Reader.fieldOf (slots.map field) draft)).read Tree.memberTokens
      fun m => (m.1.string?.map (·, m.2)).bind (put slots draft) := by
  have hfind (k : String) : (slots.map field).find? (·.name == k) =
      (slots.find? (·.name == k)).map field := List.find?_map
  have hmember : Reads (Reader.member (Reader.fieldOf (slots.map field) draft)).read
      Tree.memberTokens fun m => m.1.string?.bind fun k => put slots draft (k, m.2) := by
    refine Json.reads_member (fun k v => put slots draft (k, v)) ?_ ?_
    · intro k r hr
      rw [Reader.fieldOf, hfind] at hr
      cases hslot : slots.find? (·.name == k) with
      | none =>
        rw [hslot] at hr
        cases hr
        exact (reads_ignored.map fun _ => draft).congr fun v => by simp [put, hslot]
      | some s =>
        simp only [hslot, Option.map_some] at hr
        split_ifs at hr with hfilled
        cases hr
        refine (s.reads_fill draft).congr ?_
        intro v
        have hempty : ¬(s.get draft).isSome = true := hfilled
        simp only [put, hslot, fill, if_neg hempty]
    · intro k e he v
      rw [Reader.fieldOf, hfind] at he
      cases hslot : slots.find? (·.name == k) with
      | none => simp [hslot] at he
      | some s =>
        simp only [hslot, Option.map_some] at he
        split_ifs at he with hfilled
        have hfull : (s.get draft).isSome = true := hfilled
        simp only [put, hslot, fill, if_pos hfull]
  exact hmember.congr fun m => by cases m.1.string? <;> rfl

/-! ### Records that are written as arrays -/

/-- Put an item into a draft under the name of the next field. -/
def putItem (slots : List (Slot σ)) :
    σ × List (FieldReader σ) → Tree → Option (σ × List (FieldReader σ))
  | (_, []), _ => none
  | (draft, f :: fs), v => (put slots draft (f.name, v)).map (·, fs)

/-- The fields that are still to come are those of the last slots, which are empty. -/
def Ahead (slots : List (Slot σ)) (p : σ × List (FieldReader σ)) : Prop :=
  ∃ rest, rest <:+ slots ∧ p.2 = rest.map field ∧ ∀ s ∈ rest, s.get p.1 = none

theorem Lawful.put_name (h : Lawful slots blank) {s : Slot σ} (hs : s ∈ slots) {draft : σ}
    (hempty : s.get draft = none) (v : Tree) :
    put slots draft (s.name, v) = (s.denote v).map fun a => s.set a draft := by
  simp [put, find?_name h.names hs, fill, hempty]

theorem Lawful.reads_item (h : Lawful slots blank) (p : σ × List (FieldReader σ))
    (hp : Ahead slots p) : Reads (Reader.itemOf p).read Tree.tokens (putItem slots p) := by
  obtain ⟨draft, fs⟩ := p
  obtain ⟨rest, hrest, hfs, hempty⟩ := hp
  cases rest with
  | nil =>
    cases hfs
    exact (reads_error .malformed).congr fun v => rfl
  | cons s rest =>
    cases hfs
    have hs := hrest.subset List.mem_cons_self
    refine ((s.reads_fill draft).map _).congr ?_
    intro v
    exact congrArg (Option.map _) (h.put_name hs (hempty s List.mem_cons_self) v).symm

theorem Lawful.ahead_putItem (h : Lawful slots blank) {p p' : σ × List (FieldReader σ)} {v : Tree}
    (hp : Ahead slots p) (hput : putItem slots p v = some p') : Ahead slots p' := by
  obtain ⟨draft, fs⟩ := p
  obtain ⟨rest, hrest, hfs, hempty⟩ := hp
  cases rest with
  | nil =>
    cases hfs
    cases hput
  | cons s rest =>
    cases hfs
    have hs := hrest.subset List.mem_cons_self
    obtain ⟨draft', hdraft, rfl⟩ := Option.map_eq_some_iff.1 hput
    have hempty_s := hempty s List.mem_cons_self
    obtain ⟨a, -, rfl⟩ := Option.map_eq_some_iff.1 ((h.put_name hs hempty_s v).symm.trans hdraft)
    refine ⟨rest, (List.suffix_cons s rest).trans hrest, rfl, ?_⟩
    intro s' hs'
    have hnames : (s.name :: rest.map name).Nodup := h.names.sublist (hrest.sublist.map name)
    have hne : s.name ≠ s'.name := fun heq =>
      (List.nodup_cons.1 hnames).1 (heq ▸ List.mem_map_of_mem hs')
    have hs'_mem := List.mem_cons_of_mem s hs'
    rw [h.get_set_ne s hs s' (hrest.subset hs'_mem) hne]
    exact hempty s' hs'_mem

/-- The items of an array are put into the draft like members with the names of the fields. -/
theorem foldlM_putItem (slots rest : List (Slot σ)) (draft : σ) (vs : List Tree) :
    (vs.foldlM (putItem slots) (draft, rest.map field)).map Prod.fst =
      if vs.length ≤ rest.length then ((rest.map name).zip vs).foldlM (put slots) draft
      else none := by
  induction vs generalizing rest draft with
  | nil => simp
  | cons v vs ih =>
    cases rest with
    | nil => rfl
    | cons s rest =>
      have hput : putItem slots (draft, (s :: rest).map field) v =
          (put slots draft (s.name, v)).map (·, rest.map field) := rfl
      rw [List.foldlM_cons, hput]
      cases hdraft : put slots draft (s.name, v) with
      | none => simp [hdraft]
      | some draft' => simpa [hdraft] using ih rest draft'

/-! ### Records -/

theorem Lawful.reads_record (h : Lawful slots blank) (finish : σ → Option α) :
    Reads (Reader.record (slots.map field) blank finish).read Tree.tokens fun v =>
      (v.members? (slots.map name)).bind fun ms =>
        (ms.foldlM (put slots) blank).bind finish := by
  refine reads_container ?_ (fun _ => rfl) ?_ ?_
  · intro h harray hobject
    cases h <;> first | rfl | exact absurd rfl harray | exact absurd rfl hobject
  · have hahead : Ahead slots (blank, slots.map field) :=
      ⟨slots, List.suffix_rfl, rfl, fun s hs => h.blank s hs⟩
    have hitems := reads_delimited_of (.inl rfl) begins_item h.reads_item h.ahead_putItem hahead
    refine (hitems.andThen_answer fun p => finish p.1).congr ?_
    intro vs
    have hfst : ((vs.foldlM (putItem slots) (blank, slots.map field)).map Prod.fst).bind finish =
        (vs.foldlM (putItem slots) (blank, slots.map field)).bind fun p => finish p.1 :=
      Option.bind_map
    rw [foldlM_putItem] at hfst
    rw [Tree.members?, List.length_map]
    refine hfst.symm.trans ?_
    split_ifs <;> rfl
  · have hmembers := reads_delimited (.inr rfl) begins_member (reads_member slots) blank
    refine (hmembers.andThen_answer finish).congr ?_
    intro ms
    rw [foldlM_bind, Option.bind_assoc]
    rfl

/-- What the members of a record stand for is read off its fields, where they make a draft. -/
theorem Lawful.reads_members (h : Lawful slots blank) {finish : σ → Option α}
    {ofMembers : List (String × Tree) → Option α}
    (hfields : ∀ ms a, (∃ d, (∀ s ∈ slots, field? s.name s.denote ms = some (s.get d)) ∧
      finish d = some a) ↔ ofMembers ms = some a) :
    Reads (Reader.record (slots.map field) blank finish).read Tree.tokens fun v =>
      (v.members? (slots.map name)).bind ofMembers := by
  have hput (ms : List (String × Tree)) :
      (ms.foldlM (put slots) blank).bind finish = ofMembers ms := by
    ext a
    rw [← hfields ms a, Option.bind_eq_some_iff]
    simp only [h.foldlM_blank_eq_some_iff]
  refine (h.reads_record finish).congr ?_
  intro v
  simp only [hput]

end Slot

end SlideGraph.Json
