import SlideGraph.Json.Printer
import SlideGraph.Proofs.Json.Reader.Record

/-!
# What is written

The text of a value is a document of a tree, and the tree stands for what the value was made of.
`Value.Spells` puts the two together, so that a reader that reads what the tree stands for gets
back what was written.
-/

namespace SlideGraph.Json

variable {α β : Type}

/-! ### Strings -/

theorem hexDigit?_hexChar {n : Nat} (h : n < 16) :
    Quoted.hexDigit? (Quoted.hexChar n) = some n := by
  revert n
  decide

/-- A character is written as one piece that stands for it. -/
theorem Piece.exists_escape (c : Char) : ∃ p : Piece, p.chars = Quoted.escape c ∧
    ∀ l, Literal.denote? (p :: l) = (Literal.denote? l).map (c :: ·) := by
  have short {letter meaning : Char} (h : Quoted.shortEscape? letter = some meaning) :
      ∃ p : Piece, p.chars = ['\\', letter] ∧
        ∀ l, Literal.denote? (p :: l) = (Literal.denote? l).map (meaning :: ·) :=
    ⟨.short letter meaning h, rfl, fun _ => rfl⟩
  rw [Quoted.escape]
  split_ifs with h₁ h₂ h₃ h₄ h₅ h₆ h₇ hcontrol
  · subst h₁
    exact short rfl
  · subst h₂
    exact short rfl
  · subst h₃
    exact short rfl
  · subst h₄
    exact short rfl
  · subst h₅
    exact short rfl
  · subst h₆
    exact short rfl
  · subst h₇
    exact short rfl
  · have hn : c.toNat < 32 := hcontrol
    let zero : HexDigit := ⟨'0', 0, rfl⟩
    let high : HexDigit := ⟨_, c.toNat / 16, hexDigit?_hexChar (by omega)⟩
    let low : HexDigit := ⟨_, c.toNat % 16, hexDigit?_hexChar (by omega)⟩
    refine ⟨.code zero zero high low, rfl, ?_⟩
    intro l
    have hcode : Piece.codeOf zero zero high low = c.toNat := by
      simp only [Piece.codeOf, zero, high, low]
      omega
    have htrail : Quoted.isTrailing c.toNat = false := by
      simp only [Quoted.isTrailing, Bool.and_eq_false_iff, decide_eq_false_iff_not]
      omega
    have hlead : Quoted.isLeading c.toNat = false := by
      simp only [Quoted.isLeading, Bool.and_eq_false_iff, decide_eq_false_iff_not]
      omega
    rw [Literal.denote?_code (by rw [hcode, htrail]) (by rw [hcode, hlead]), hcode,
      Char.ofNat_toNat]
  · exact ⟨.plain c ⟨Char.not_lt.1 hcontrol, h₁, h₂⟩, rfl, fun _ => rfl⟩

theorem Literal.exists_quote (s : String) :
    ∃ l : Literal, l.token = Quoted.quote s ∧ l.string? = some s := by
  have inner (cs : List Char) :
      ∃ l : Literal, l.inner = cs.flatMap Quoted.escape ∧ l.denote? = some cs := by
    induction cs with
    | nil => exact ⟨[], rfl, rfl⟩
    | cons c cs ih =>
      obtain ⟨l, hl, hcs⟩ := ih
      obtain ⟨p, hp, hc⟩ := Piece.exists_escape c
      exact ⟨p :: l, by simp [hp, hl], by simp [hc, hcs]⟩
  obtain ⟨l, hl, hs⟩ := inner s.toList
  refine ⟨l, ?_, ?_⟩
  · rw [Literal.token, hl, Quoted.quote]
  · simp [Literal.string?, hs]

/-! ### Values -/

/-- The blanks of a layout are blanks of the grammar. -/
structure Layout.Blank (layout : Layout) : Prop where
  lineBreak : ∀ depth, Blanks (layout.lineBreak depth)
  afterColon : Blanks layout.afterColon

theorem Layout.blank_compact : Layout.compact.Blank where
  lineBreak _ _ hc := nomatch hc
  afterColon _ hc := nomatch hc

theorem Layout.blank_indented : Layout.indented.Blank where
  lineBreak depth c hc := by
    rcases List.mem_cons.1 hc with rfl | hc
    · decide
    · rw [List.eq_of_mem_replicate hc]
      decide
  afterColon c hc := by
    rw [List.mem_singleton.1 hc]
    decide

namespace Value

/-- In every layout the value is written with the tokens of the tree. -/
def Written (v : Value) (t : Tree) : Prop :=
  ∀ (layout : Layout) (depth : Nat), layout.Blank → Spaced t.tokens (v.chars layout depth)

/-- The value is written like a tree that stands for `a`. -/
def Spells (v : Value) (denote : Tree → Option α) (a : α) : Prop :=
  ∃ t, Written v t ∧ denote t = some a

theorem spells_bool (b : Bool) : Spells (.bool b) Tree.bool? b := by
  refine ⟨.scalar (.bool b), ?_, rfl⟩
  intro layout depth _
  rw [Tree.tokens_scalar]
  cases b <;> exact Spaced.token _ .nil

theorem spells_string (s : String) : Spells (.string s) Tree.string? s := by
  obtain ⟨l, hl, hs⟩ := Literal.exists_quote s
  refine ⟨.scalar (.string l), ?_, hs⟩
  intro layout depth _
  rw [Tree.tokens_scalar, Scalar.token, hl, chars]
  simpa using Spaced.token (Quoted.quote s) .nil

/-- A string that is a name is written like the name. -/
theorem Spells.name {f : String → Option α} {s : String} {a : α} (h : f s = some a) :
    Spells (.string s) (Tree.name? f) a := by
  obtain ⟨t, ht, hs⟩ := spells_string s
  exact ⟨t, ht, Tree.name?_of_string? (by rw [hs]; exact h)⟩

/-- What is not written as `null` is written alike where it may be missing. -/
theorem Spells.optional {v : Value} {denote : Tree → Option α} {a : α} (h : Spells v denote a)
    (hnull : denote (.scalar .null) = none) : Spells v (Tree.optional? denote) (some a) := by
  obtain ⟨t, ht, ha⟩ := h
  refine ⟨t, ht, ?_⟩
  rw [Tree.optional?_of_ne denote, ha, Option.map_some]
  rintro rfl
  rw [hnull] at ha
  cases ha

/-! ### Containers -/

/-- The text from behind an item to the closing bracket, of items with the given texts. -/
def behindText (layout : Layout) (depth : Nat) (close : Char) : List (List Char) → List Char
  | [] => layout.lineBreak depth ++ [close]
  | w :: ws =>
    ',' :: (layout.lineBreak (depth + 1) ++ (w ++ behindText layout depth close ws))

theorem restChars_eq (layout : Layout) (depth : Nat) (vs : List Value) :
    restChars layout depth vs =
      behindText layout depth ']' (vs.map (chars layout (depth + 1))) := by
  induction vs with
  | nil => rfl
  | cons v vs ih => rw [restChars, ih, List.map_cons, behindText]

theorem restMembers_eq (layout : Layout) (depth : Nat) (ms : List (String × Value)) :
    restMembers layout depth ms =
      behindText layout depth '}' (ms.map (memberChars layout depth)) := by
  induction ms with
  | nil => rfl
  | cons m ms ih => rw [restMembers, ih, List.map_cons, behindText]

section

variable {layout : Layout} {depth : Nat} {close : Char}

/-- An item is written with its tokens, of which there is at least one. -/
def ItemText (p : List Token) (w : List Char) : Prop := p ≠ [] ∧ Spaced p w

theorem ItemText.blanks {bs w : List Char} {p : List Token} (hbs : Blanks bs)
    (h : ItemText p w) : Spaced p (bs ++ w) := by
  obtain ⟨hp, hw⟩ := h
  obtain ⟨x, xs, rfl⟩ := List.exists_cons_of_ne_nil hp
  exact hw.blanks hbs

theorem spaced_behind (hlayout : layout.Blank) {ps : List (List Token)} {ws : List (List Char)}
    (h : List.Forall₂ ItemText ps ws) :
    Spaced (behind close ps) (behindText layout depth close ws) := by
  induction h with
  | nil =>
    have hclose := Spaced.cons (x := [close]) (hlayout.lineBreak depth) .nil
    simpa [behind, behindText] using hclose
  | cons hw _ ih =>
    have hitem := spaced_append_iff.2 ⟨_, _, rfl, hw.blanks (hlayout.lineBreak (depth + 1)), ih⟩
    simpa [behind, behindText] using hitem.token [',']

/-- Items with commas between them are written with the tokens of a container. -/
theorem spaced_enclosed (hlayout : layout.Blank) {p : List Token} {ps : List (List Token)}
    {w : List Char} {ws : List (List Char)} (hw : ItemText p w)
    (h : List.Forall₂ ItemText ps ws) :
    Spaced (enclosed close (p :: ps))
      (layout.lineBreak (depth + 1) ++ (w ++ behindText layout depth close ws)) := by
  rw [← List.append_assoc]
  exact spaced_append_iff.2
    ⟨_, _, rfl, hw.blanks (hlayout.lineBreak (depth + 1)), spaced_behind hlayout h⟩

end

theorem Written.itemText {v : Value} {t : Tree} (h : Written v t) {layout : Layout}
    (hlayout : layout.Blank) (depth : Nat) : ItemText t.tokens (chars layout depth v) := by
  obtain ⟨c, x, rest, hx, -, -⟩ := t.begins
  exact ⟨by simp [hx], h layout depth hlayout⟩

theorem written_array {vs : List Value} {ts : List Tree} (h : List.Forall₂ Written vs ts) :
    Written (.array vs) (.array ts) := by
  intro layout depth hlayout
  have hitems : List.Forall₂ ItemText (ts.map Tree.tokens)
      (vs.map (chars layout (depth + 1))) := by
    rw [List.forall₂_map_left_iff, List.forall₂_map_right_iff]
    exact h.flip.imp fun t v (hv : Written v t) => hv.itemText hlayout (depth + 1)
  rw [Tree.tokens_array]
  cases vs with
  | nil =>
    cases h
    exact Spaced.token ['['] (Spaced.token [']'] .nil)
  | cons v vs =>
    cases h with
    | cons hv h =>
      rw [List.map_cons, List.map_cons, List.forall₂_cons] at hitems
      rw [chars, restChars_eq]
      exact (spaced_enclosed hlayout hitems.1 hitems.2).token ['[']

/-- A member is written with its key and like a tree. -/
def WrittenMember (m : String × Value) (t : Literal × Tree) : Prop :=
  t.1.token = Quoted.quote m.1 ∧ t.1.string? = some m.1 ∧ Written m.2 t.2

theorem WrittenMember.itemText {m : String × Value} {t : Literal × Tree}
    (h : WrittenMember m t) {layout : Layout} (hlayout : layout.Blank) (depth : Nat) :
    ItemText (Tree.memberTokens t) (memberChars layout depth m) := by
  obtain ⟨k, v⟩ := m
  obtain ⟨hquote, -, hv⟩ := h
  refine ⟨List.cons_ne_nil _ _, ?_⟩
  have hvalue := (hv.itemText hlayout (depth + 1)).blanks hlayout.afterColon
  rw [Tree.memberTokens, hquote, memberChars]
  exact (hvalue.token [':']).token (Quoted.quote k)

theorem written_object {ms : List (String × Value)} {ts : List (Literal × Tree)}
    (h : List.Forall₂ WrittenMember ms ts) : Written (.object ms) (.object ts) := by
  intro layout depth hlayout
  have hitems : List.Forall₂ ItemText (ts.map Tree.memberTokens)
      (ms.map (memberChars layout depth)) := by
    rw [List.forall₂_map_left_iff, List.forall₂_map_right_iff]
    exact h.flip.imp fun t m (hm : WrittenMember m t) => hm.itemText hlayout depth
  rw [Tree.tokens_object]
  cases ms with
  | nil =>
    cases h
    exact Spaced.token ['{'] (Spaced.token ['}'] .nil)
  | cons m ms =>
    cases h with
    | cons hm h =>
      rw [List.map_cons, List.map_cons, List.forall₂_cons] at hitems
      rw [chars, restMembers_eq]
      exact (spaced_enclosed hlayout hitems.1 hitems.2).token ['{']

/-! ### Lists, maps and records -/

/-- The items of a list may stand for something else than what they were made of. -/
theorem spells_list_map {f : α → Value} {denote : Tree → Option β} {g : α → β} {as : List α}
    (h : ∀ a ∈ as, Spells (f a) denote (g a)) :
    Spells (.array (as.map f)) (Tree.list? denote) (as.map g) := by
  have htrees : ∃ ts, List.Forall₂ Written (as.map f) ts ∧ ts.mapM denote = some (as.map g) := by
    induction as with
    | nil => exact ⟨[], .nil, rfl⟩
    | cons a as ih =>
      obtain ⟨t, ht, ha⟩ := h a List.mem_cons_self
      obtain ⟨ts, hts, has⟩ := ih fun b hb => h b (List.mem_cons_of_mem _ hb)
      exact ⟨t :: ts, .cons ht hts, by simp [ha, has]⟩
  obtain ⟨ts, hts, has⟩ := htrees
  exact ⟨.array ts, written_array hts, has⟩

theorem spells_list {f : α → Value} {denote : Tree → Option α} {as : List α}
    (h : ∀ a ∈ as, Spells (f a) denote a) :
    Spells (.array (as.map f)) (Tree.list? denote) as := by
  have hmap := spells_list_map (g := id) h
  rwa [List.map_id] at hmap

/-- The members of an object can be taken for any trees that their values are written like. -/
theorem exists_members {ms : List (String × Value)} {ts : List (String × Tree)}
    (h : List.Forall₂ (fun m t => m.1 = t.1 ∧ Written m.2 t.2) ms ts) :
    ∃ ls, List.Forall₂ WrittenMember ms ls ∧
      ls.mapM (fun m => m.1.string?.map (·, m.2)) = some ts := by
  induction h with
  | nil => exact ⟨[], .nil, rfl⟩
  | cons hm _ ih =>
    rename_i m t ms ts _
    obtain ⟨hk, hv⟩ := hm
    obtain ⟨ls, hls, hts⟩ := ih
    obtain ⟨l, hl, hs⟩ := Literal.exists_quote m.1
    refine ⟨(l, t.2) :: ls, .cons ⟨hl, hs, hv⟩ hls, ?_⟩
    simp [hs, hts, hk]

/-- A record is spelled by the object of its fields. -/
theorem spells_record {ms : List (String × Value)} {ts : List (String × Tree)}
    (h : List.Forall₂ (fun m t => m.1 = t.1 ∧ Written m.2 t.2) ms ts) (names : List String)
    {ofMembers : List (String × Tree) → Option α} {a : α} (ha : ofMembers ts = some a) :
    Spells (.object ms) (fun v => (v.members? names).bind ofMembers) a := by
  obtain ⟨ls, hls, hts⟩ := exists_members h
  exact ⟨.object ls, written_object hls, by simp [Tree.members?, hts, ha]⟩

theorem written_present {ms : List (String × Option Value)} {ts : List (String × Option Tree)}
    (h : List.Forall₂ (fun m t => m.1 = t.1 ∧ Option.Rel Written m.2 t.2) ms ts) :
    List.Forall₂ (fun m t => m.1 = t.1 ∧ Written m.2 t.2) (present ms) (present ts) := by
  induction h with
  | nil => exact .nil
  | cons hm _ ih =>
    rename_i m t ms ts _
    obtain ⟨k, v⟩ := m
    obtain ⟨j, u⟩ := t
    obtain ⟨rfl, hv⟩ := hm
    cases hv with
    | none => exact ih
    | some hv => exact .cons ⟨rfl, hv⟩ ih

/-- A record is spelled by the object of those fields that are there. -/
theorem spells_members {ms : List (String × Option Value)} {ts : List (String × Option Tree)}
    (h : List.Forall₂ (fun m t => m.1 = t.1 ∧ Option.Rel Written m.2 t.2) ms ts)
    (names : List String) {ofMembers : List (String × Tree) → Option α} {a : α}
    (ha : ofMembers (present ts) = some a) :
    Spells (members ms) (fun v => (v.members? names).bind ofMembers) a :=
  spells_record (written_present h) names ha

/-- A field that may be missing is written like a tree if it is there, and not as `null`. -/
theorem exists_optional {f : α → Value} {denote : Tree → Option α}
    (hnull : denote (.scalar .null) = none) {v : Option α} (h : ∀ a ∈ v, Spells (f a) denote a) :
    ∃ t : Option Tree, Option.Rel Written (v.map f) t ∧
      t.mapM (Tree.optional? denote) = some (v.map some) := by
  cases v with
  | none => exact ⟨none, .none, rfl⟩
  | some a =>
    obtain ⟨t, ht, ha⟩ := (h a rfl).optional hnull
    exact ⟨some t, .some ht, by simp [ha]⟩

theorem spells_entries {f : α → Value} {denote : Tree → Option α} {es : List (String × α)}
    (h : ∀ e ∈ es, Spells (f e.2) denote e.2) :
    Spells (.object (es.map fun (k, a) => (k, f a))) (Tree.entries? denote) es := by
  have hmembers : ∃ ls, List.Forall₂ WrittenMember (es.map fun (k, a) => (k, f a)) ls ∧
      ls.mapM (Tree.binding? denote) = some es := by
    induction es with
    | nil => exact ⟨[], .nil, rfl⟩
    | cons e es ih =>
      obtain ⟨t, ht, ha⟩ := h e List.mem_cons_self
      obtain ⟨ls, hls, hes⟩ := ih fun e' he' => h e' (List.mem_cons_of_mem _ he')
      obtain ⟨l, hl, hs⟩ := Literal.exists_quote e.1
      exact ⟨(l, t) :: ls, .cons ⟨hl, hs, ht⟩ hls, by simp [Tree.binding?, hs, ha, hes]⟩
  obtain ⟨ls, hls, hes⟩ := hmembers
  exact ⟨.object ls, written_object hls, hes⟩

/-! ### Reading what was written -/

theorem Written.isDocument {v : Value} {t : Tree} (h : Written v t) :
    t.IsDocument v.compact.toList := by
  have hblanks : Blanks [] := by simp [Blanks]
  refine ⟨v.chars .compact 0, [], ?_, h .compact 0 Layout.blank_compact, hblanks⟩
  rw [compact, String.toList_ofList, List.append_nil]

/-- What is written for the value is a document of a tree that stands for `a`. -/
theorem Spells.exists_isDocument {v : Value} {denote : Tree → Option α} {a : α}
    (h : Spells v denote a) : ∃ t : Tree, t.IsDocument v.compact.toList ∧ denote t = some a := by
  obtain ⟨t, ht, ha⟩ := h
  exact ⟨t, ht.isDocument, ha⟩

/-- Where the value is written, its reader gets back what it was made of. Blanks may follow. -/
theorem Spells.document_append {v : Value} {r : Reader α} {denote : Tree → Option α} {a : α}
    (h : Spells v denote a) (hr : Reads r.read Tree.tokens denote) {layout : Layout}
    (hlayout : layout.Blank) {bs : List Char} (hbs : Blanks bs) :
    r.document (v.chars layout 0 ++ bs) = .ok a := by
  obtain ⟨t, ht, ha⟩ := h
  exact hr.document_eq_ok_iff.2 ⟨t, ⟨v.chars layout 0, bs, rfl, ht layout 0 hlayout, hbs⟩, ha⟩

theorem Spells.document_chars {v : Value} {r : Reader α} {denote : Tree → Option α} {a : α}
    (h : Spells v denote a) (hr : Reads r.read Tree.tokens denote) {layout : Layout}
    (hlayout : layout.Blank) : r.document (v.chars layout 0) = .ok a := by
  have hblanks : Blanks [] := by simp [Blanks]
  simpa using h.document_append hr hlayout hblanks

theorem Spells.document {v : Value} {r : Reader α} {denote : Tree → Option α} {a : α}
    (h : Spells v denote a) (hr : Reads r.read Tree.tokens denote) :
    r.document v.compact.toList = .ok a := by
  rw [compact, String.toList_ofList]
  exact h.document_chars hr Layout.blank_compact

/-- Two things are one if the same text is written for them. -/
theorem Spells.eq_of_compact {v w : Value} {r : Reader α} {denote : Tree → Option α} {a b : α}
    (ha : v.Spells denote a) (hb : w.Spells denote b) (hr : Reads r.read Tree.tokens denote)
    (h : v.compact = w.compact) : a = b := by
  have hread : r.document w.compact.toList = .ok a := h ▸ ha.document hr
  exact Except.ok.inj (hread.symm.trans (hb.document hr))

end Value

end SlideGraph.Json
