import SlideGraph.Proofs.Json.Reader.Container

/-!
# One tree for each text

No text is a document of two trees. A value in front of other text is known from its characters, as
long as that text does not go on with a number: its first character tells its kind, a scalar or a
bracket can be cut off at the front in one way only, and so it goes on with the items of a
container. What a reader makes of a document is therefore what it makes of the tree of the document.
-/

namespace SlideGraph.Json

variable {ι α : Type}

/-! ### Scalars -/

theorem HexDigit.eq_of_char {a b : HexDigit} (h : a.char = b.char) : a = b := by
  obtain ⟨a, m, ha⟩ := a
  obtain ⟨b, n, hb⟩ := b
  cases h
  cases ha.symm.trans hb
  rfl

/-- How a piece of a string is written tells the piece, whatever comes behind it. -/
theorem Piece.eq_of_chars_append {p q : Piece} {s t : List Char}
    (h : p.chars ++ s = q.chars ++ t) : p = q ∧ s = t := by
  cases p <;> cases q <;>
    simp only [chars, List.cons_append, List.nil_append, List.cons.injEq] at h
  case plain.plain c valid c' valid' =>
    obtain ⟨rfl, rfl⟩ := h
    exact ⟨rfl, rfl⟩
  case plain.short c valid letter meaning valid' => exact absurd h.1 valid.2.2
  case plain.code c valid a b c' d => exact absurd h.1 valid.2.2
  case short.plain letter meaning valid c valid' => exact absurd h.1.symm valid'.2.2
  case short.short letter meaning valid letter' meaning' valid' =>
    obtain ⟨-, rfl, rfl⟩ := h
    cases valid.symm.trans valid'
    exact ⟨rfl, rfl⟩
  case short.code letter meaning valid a b c d =>
    exact absurd h.2.1 (Quoted.ne_u_of_shortEscape? valid)
  case code.plain a b c d c' valid => exact absurd h.1.symm valid.2.2
  case code.short a b c d letter meaning valid =>
    exact absurd h.2.1.symm (Quoted.ne_u_of_shortEscape? valid)
  case code.code a b c d a' b' c' d' =>
    obtain ⟨-, -, ha, hb, hc, hd, rfl⟩ := h
    cases HexDigit.eq_of_char ha
    cases HexDigit.eq_of_char hb
    cases HexDigit.eq_of_char hc
    cases HexDigit.eq_of_char hd
    exact ⟨rfl, rfl⟩

theorem Literal.inner_injective {l m : Literal} (h : l.inner = m.inner) : l = m := by
  have nonempty (p : Piece) : p.chars ≠ [] := by cases p <;> simp [Piece.chars]
  induction l generalizing m with
  | nil =>
    cases m with
    | nil => rfl
    | cons q m => simp [nonempty] at h
  | cons p l ih =>
    cases m with
    | nil => simp [nonempty] at h
    | cons q m =>
      rw [inner_cons, inner_cons] at h
      obtain ⟨rfl, hrest⟩ := Piece.eq_of_chars_append h
      rw [ih hrest]

theorem Scalar.token_injective {x y : Scalar} (h : x.token = y.token) : x = y := by
  -- the first character tells the kind of a scalar
  obtain ⟨c, u, _, hx, -, hxc⟩ := x.begins
  obtain ⟨d, v, _, hy, -, hyd⟩ := y.begins
  simp only [List.cons.injEq] at hx hy
  obtain rfl : c = d := by
    rw [hx.1, hy.1] at h
    exact (List.cons.inj h).1
  cases x <;> cases y <;> simp only [Starts] at hxc hyd
  case null.null => rfl
  case bool.bool b b' => cases b <;> cases b' <;> simp_all [token]
  case number.number n w hn n' w' hn' =>
    cases (h : w = w')
    cases hn.unique hn'
    rfl
  case string.string l m =>
    have hinner : l.inner = m.inner := by simpa [token, Literal.token] using h
    rw [Literal.inner_injective hinner]
  all_goals
    first
    | subst hxc; simp at hyd
    | subst hyd; simp at hxc
    | rcases hxc with rfl | rfl <;> simp at hyd
    | rcases hyd with rfl | rfl <;> simp at hxc

/-! ### The front of a value -/

/-- The front of a value, and the text behind it, are known from the text. -/
theorem Front.eq_of_token_append {f f' : Front} {s s' : List Char} (hf : f.Ended s)
    (hf' : f'.Ended s') (h : f.token ++ s = f'.token ++ s') : f = f' ∧ s = s' := by
  have hscan := Opening.scan_complete f hf
  rw [h, Opening.scan_complete f' hf'] at hscan
  obtain ⟨hopening, rfl⟩ : f'.opening = f.opening ∧ s' = s := by simpa using hscan
  have htoken := List.append_cancel_right h
  cases f <;> cases f' <;> cases hopening
  case scalar.scalar x y => exact ⟨congrArg scalar (Scalar.token_injective htoken), rfl⟩
  case openArray.openArray => exact ⟨rfl, rfl⟩
  case openObject.openObject => exact ⟨rfl, rfl⟩

/-- Behind the blanks a text begins with its first token. -/
theorem Spaced.front {f : Front} {xs : List Token} {w : List Char}
    (h : Spaced (f.token :: xs) w) (t : List Char) :
    ∃ s, dropBlanks (w ++ t) = f.token ++ (s ++ t) ∧ Spaced xs s := by
  obtain ⟨bs, s, rfl, hbs, hs⟩ := spaced_cons_iff.1 h
  refine ⟨s, ?_, hs⟩
  rw [List.append_assoc, List.append_assoc, f.dropBlanks_append hbs]

theorem Spaced.symbol {c : Char} (hc : isBlank c = false) {xs : List Token} {w : List Char}
    (h : Spaced ([c] :: xs) w) (t : List Char) :
    ∃ s, dropBlanks (w ++ t) = c :: (s ++ t) ∧ Spaced xs s := by
  obtain ⟨bs, s, rfl, hbs, hs⟩ := spaced_cons_iff.1 h
  refine ⟨s, ?_, hs⟩
  rw [List.append_assoc, dropBlanks_append hbs]
  exact dropBlanks_cons hc _

/-! ### Items between commas -/

/-- Whatever has the same text as `i`, in front of texts that do not go on with a number, is `i`. -/
def Determined (tokens : ι → List Token) (i : ι) : Prop :=
  ∀ ⦃j : ι⦄ ⦃w w' t t' : List Char⦄, Spaced (tokens i) w → Spaced (tokens j) w' → Ends t →
    Ends t' → w ++ t = w' ++ t' → i = j ∧ t = t'

section

variable {close : Char} {tokens : ι → List Token} {is : List ι}

theorem determined_behind (hclose : close = ']' ∨ close = '}')
    (h : ∀ i ∈ is, Determined tokens i) :
    Determined (fun is => behind close (is.map tokens)) is := by
  have hblank : isBlank close = false ∧ close ≠ ',' := by
    rcases hclose with rfl | rfl <;> decide
  have hcomma : isBlank ',' = false := by decide
  induction is with
  | nil =>
    intro js w w' t t' hw hw' _ _ heq
    obtain ⟨s, hdrop, hs⟩ := hw.symbol hblank.1 t
    cases spaced_nil_iff.1 hs
    cases js with
    | nil =>
      obtain ⟨s', hdrop', hs'⟩ := hw'.symbol hblank.1 t'
      cases spaced_nil_iff.1 hs'
      rw [heq, hdrop'] at hdrop
      exact ⟨rfl, (List.cons.inj hdrop).2.symm⟩
    | cons j js =>
      obtain ⟨s', hdrop', -⟩ := hw'.symbol hcomma t'
      rw [heq, hdrop'] at hdrop
      exact absurd (List.cons.inj hdrop).1.symm hblank.2
  | cons i is ih =>
    intro js w w' t t' hw hw' ht ht' heq
    obtain ⟨s, hdrop, hs⟩ := hw.symbol hcomma t
    cases js with
    | nil =>
      obtain ⟨s', hdrop', -⟩ := hw'.symbol hblank.1 t'
      rw [heq, hdrop'] at hdrop
      exact absurd (List.cons.inj hdrop).1 hblank.2
    | cons j js =>
      obtain ⟨s', hdrop', hs'⟩ := hw'.symbol hcomma t'
      rw [heq, hdrop'] at hdrop
      obtain ⟨u, v, rfl, hu, hv⟩ := spaced_append_iff.1 hs
      obtain ⟨u', v', rfl, hu', hv'⟩ := spaced_append_iff.1 hs'
      have htext : u ++ (v ++ t) = u' ++ (v' ++ t') := by
        simpa using (List.cons.inj hdrop).2.symm
      -- the comma or bracket behind the item ends a number in it
      obtain ⟨rfl, hrest⟩ := h i List.mem_cons_self hu hu' ((begins_behind hclose _).ends hv t)
        ((begins_behind hclose _).ends hv' t') htext
      obtain ⟨rfl, rfl⟩ := ih (fun k hk => h k (List.mem_cons_of_mem i hk)) hv hv' ht ht' hrest
      exact ⟨rfl, rfl⟩

theorem determined_enclosed (hclose : close = ']' ∨ close = '}')
    (hbegins : ∀ i, Begins (· ≠ close) (tokens i)) (h : ∀ i ∈ is, Determined tokens i) :
    Determined (fun is => enclosed close (is.map tokens)) is := by
  have hblank : isBlank close = false := by rcases hclose with rfl | rfl <;> decide
  -- a container without items closes where another has its first item
  have apart {j : ι} {js : List ι} {w w' t t' : List Char} (hw : Spaced [[close]] w)
      (hw' : Spaced (enclosed close ((j :: js).map tokens)) w') (heq : w ++ t = w' ++ t') :
      False := by
    obtain ⟨s, hdrop, -⟩ := hw.symbol hblank t
    obtain ⟨u, v, rfl, hu, -⟩ := spaced_append_iff.1 hw'
    obtain ⟨c, s', hdrop', hc, -⟩ := (hbegins j).dropBlanks hu (v ++ t')
    rw [heq, List.append_assoc, hdrop'] at hdrop
    exact hc (List.cons.inj hdrop).1
  intro js w w' t t' hw hw' ht ht' heq
  cases is with
  | nil =>
    cases js with
    | nil =>
      have hnil : ∀ i ∈ ([] : List ι), Determined tokens i := by simp
      exact determined_behind hclose hnil hw hw' ht ht' heq
    | cons j js => exact (apart hw hw' heq).elim
  | cons i is =>
    cases js with
    | nil => exact (apart hw' hw heq.symm).elim
    | cons j js =>
      obtain ⟨u, v, rfl, hu, hv⟩ := spaced_append_iff.1 hw
      obtain ⟨u', v', rfl, hu', hv'⟩ := spaced_append_iff.1 hw'
      rw [List.append_assoc, List.append_assoc] at heq
      obtain ⟨rfl, hrest⟩ := h i List.mem_cons_self hu hu' ((begins_behind hclose _).ends hv t)
        ((begins_behind hclose _).ends hv' t') heq
      obtain ⟨rfl, rfl⟩ := determined_behind hclose
        (fun k hk => h k (List.mem_cons_of_mem i hk)) hv hv' ht ht' hrest
      exact ⟨rfl, rfl⟩

end

theorem determined_member {m : Literal × Tree} (h : Determined Tree.tokens m.2) :
    Determined Tree.memberTokens m := by
  intro m' w w' t t' hw hw' ht ht' heq
  obtain ⟨l, v⟩ := m
  obtain ⟨l', v'⟩ := m'
  have hcolon (xs : List Token) : Begins Stops ([':'] :: xs) :=
    ⟨':', [], xs, rfl, by decide, by simp [Stops]⟩
  obtain ⟨s, hdrop, hs⟩ := Spaced.front (f := .scalar (.string l)) hw t
  obtain ⟨s', hdrop', hs'⟩ := Spaced.front (f := .scalar (.string l')) hw' t'
  rw [heq, hdrop'] at hdrop
  have hended : (Front.scalar (.string l)).Ended (s ++ t) := (hcolon _).ends hs t
  have hended' : (Front.scalar (.string l')).Ended (s' ++ t') := (hcolon _).ends hs' t'
  obtain ⟨hkey, htext⟩ := Front.eq_of_token_append hended' hended hdrop
  cases hkey
  obtain ⟨u, hu, hv⟩ := hs.symbol (by decide) t
  obtain ⟨u', hu', hv'⟩ := hs'.symbol (by decide) t'
  rw [← htext, hu'] at hu
  obtain ⟨rfl, rfl⟩ := h hv hv' ht ht' (List.cons.inj hu).2.symm
  exact ⟨rfl, rfl⟩

/-! ### Trees -/

namespace Tree

/-- The front of a value. -/
def front : Tree → Front
  | scalar x => .scalar x
  | array _ => .openArray
  | object _ => .openObject

/-- The tokens behind the front of a value. -/
def inside : Tree → List Token
  | scalar _ => []
  | array vs => enclosed ']' (vs.map tokens)
  | object ms => enclosed '}' (ms.map memberTokens)

theorem tokens_eq (v : Tree) : v.tokens = v.front.token :: v.inside := by
  cases v with
  | scalar x => exact tokens_scalar x
  | array vs => exact tokens_array vs
  | object ms => exact tokens_object ms

theorem ended_front {v : Tree} {s t : List Char} (hs : Spaced v.inside s) (ht : Ends t) :
    v.front.Ended (s ++ t) := by
  cases v with
  | scalar x =>
    cases spaced_nil_iff.1 hs
    exact ht
  | array vs => exact trivial
  | object ms => exact trivial

/-- Two values of the same text have the same front, and go on in the same text. -/
theorem front_eq {v v' : Tree} {w w' t t' : List Char} (hw : Spaced v.tokens w)
    (hw' : Spaced v'.tokens w') (ht : Ends t) (ht' : Ends t') (heq : w ++ t = w' ++ t') :
    v.front = v'.front ∧ ∃ s s', Spaced v.inside s ∧ Spaced v'.inside s' ∧ s ++ t = s' ++ t' := by
  rw [tokens_eq] at hw hw'
  obtain ⟨s, hdrop, hs⟩ := hw.front t
  obtain ⟨s', hdrop', hs'⟩ := hw'.front t'
  rw [heq, hdrop'] at hdrop
  obtain ⟨hfront, htext⟩ :=
    Front.eq_of_token_append (ended_front hs' ht') (ended_front hs ht) hdrop
  exact ⟨hfront.symm, s, s', hs, hs', htext.symm⟩

/-- What goes over from the items of a container to the container holds of all values. -/
theorem induction {motive : Tree → Prop} (scalar : ∀ x, motive (scalar x))
    (array : ∀ vs, (∀ v ∈ vs, motive v) → motive (array vs))
    (object : ∀ ms : List (Literal × Tree), (∀ m ∈ ms, motive m.2) → motive (object ms)) :
    ∀ v, motive v
  | .scalar x => scalar x
  | .array vs => array vs fun v _ => induction scalar array object v
  | .object ms => object ms fun m _ => induction scalar array object m.2
termination_by v => sizeOf v
decreasing_by
  · have := List.sizeOf_lt_of_mem ‹v ∈ vs›
    simp only [Tree.array.sizeOf_spec]
    omega
  · obtain ⟨l, v⟩ := m
    have := List.sizeOf_lt_of_mem ‹_ ∈ ms›
    simp only [Prod.mk.sizeOf_spec, Tree.object.sizeOf_spec] at *
    omega

theorem determined (v : Tree) : Determined tokens v := by
  induction v using Tree.induction with
  | scalar x =>
    intro v' w w' t t' hw hw' ht ht' heq
    obtain ⟨hfront, s, s', hs, hs', htext⟩ := front_eq hw hw' ht ht' heq
    cases v' <;> cases hfront
    cases spaced_nil_iff.1 hs
    cases spaced_nil_iff.1 hs'
    exact ⟨rfl, htext⟩
  | array vs ih =>
    intro v' w w' t t' hw hw' ht ht' heq
    obtain ⟨hfront, s, s', hs, hs', htext⟩ := front_eq hw hw' ht ht' heq
    cases v' <;> cases hfront
    obtain ⟨rfl, rfl⟩ := determined_enclosed (.inl rfl) begins_item ih hs hs' ht ht' htext
    exact ⟨rfl, rfl⟩
  | object ms ih =>
    intro v' w w' t t' hw hw' ht ht' heq
    obtain ⟨hfront, s, s', hs, hs', htext⟩ := front_eq hw hw' ht ht' heq
    cases v' <;> cases hfront
    obtain ⟨rfl, rfl⟩ := determined_enclosed (.inr rfl) begins_member
      (fun m hm => determined_member (ih m hm)) hs hs' ht ht' htext
    exact ⟨rfl, rfl⟩

/-- A text is a document of one tree at most. -/
theorem IsDocument.unique {v v' : Tree} {s : List Char} (h : v.IsDocument s)
    (h' : v'.IsDocument s) : v = v' := by
  obtain ⟨w, bs, rfl, hw, hbs⟩ := h
  obtain ⟨w', bs', heq, hw', hbs'⟩ := h'
  exact (v.determined hw hw' (ends_of_blanks hbs) (ends_of_blanks hbs') heq).1

end Tree

/-- What is read in a document is what its tree stands for. -/
theorem Reads.document_eq_ok_iff_denote {r : Reader α} {denote : Tree → Option α}
    (h : Reads r.read Tree.tokens denote) {v : Tree} {s : List Char} (hv : v.IsDocument s) {a : α} :
    r.document s = .ok a ↔ denote v = some a := by
  rw [h.document_eq_ok_iff]
  constructor
  · rintro ⟨v', hv', ha⟩
    rwa [hv.unique hv']
  · exact fun ha => ⟨v, hv, ha⟩

end SlideGraph.Json
