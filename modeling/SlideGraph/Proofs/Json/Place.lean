import Mathlib.Data.List.Chain
import SlideGraph.Proofs.Json.Grammar

/-!
# Where a text is cut

A text may be cut in a string, in a number, in a word or between two tokens. Whether the cut lies in
a number can be told from the characters next to it, once it is known not to lie in a string.
-/

namespace SlideGraph.Json

/-! ### Places of a text -/

/-- Whether a place of a text lies in a string. -/
inductive Quoting
  | outside
  | inside
  /-- Behind a backslash. -/
  | escaped
deriving DecidableEq, Repr

/-- What a character changes. -/
def Quoting.next : Quoting → Char → Quoting
  | outside, c => if c = '"' then inside else outside
  | inside, c => if c = '"' then outside else if c = '\\' then escaped else inside
  | escaped, _ => inside

/-- The end of the text does not lie in a string. -/
def Balanced (s : List Char) : Prop := s.foldl Quoting.next .outside = .outside

instance (s : List Char) : Decidable (Balanced s) := inferInstanceAs (Decidable (_ = _))

/-- The characters that numbers are written with. -/
def isNumeric (c : Char) : Bool :=
  c.isDigit || c == '+' || c == '-' || c == '.' || c == 'e' || c == 'E'

/-- The place between the two texts lies in no string, and between two numeric characters. In a
document that is a place inside a number. -/
def InNumber (p u : List Char) : Prop :=
  Balanced p ∧ (∃ c ∈ p.getLast?, isNumeric c = true) ∧ ∃ c ∈ u.head?, isNumeric c = true

instance (p u : List Char) : Decidable (InNumber p u) :=
  have h : (Balanced p ∧ p.getLast?.any isNumeric = true ∧ u.head?.any isNumeric = true) ↔
      InNumber p u := by
    simp only [InNumber, Option.any_eq_true, Option.mem_def]
  decidable_of_iff _ h

theorem Balanced.append {s t : List Char} (hs : Balanced s) (ht : Balanced t) :
    Balanced (s ++ t) := by
  rw [Balanced, List.foldl_append, hs, ht]

theorem balanced_nil : Balanced [] := rfl

theorem balanced_of_forall_ne {s : List Char} (h : ∀ c ∈ s, c ≠ '"') : Balanced s := by
  induction s with
  | nil => rfl
  | cons c s ih =>
    have hc : Quoting.next .outside c = .outside := if_neg (h c List.mem_cons_self)
    rw [Balanced, List.foldl_cons, hc]
    exact ih fun d hd => h d (List.mem_cons_of_mem c hd)

theorem Blanks.balanced {bs : List Char} (h : Blanks bs) : Balanced bs := by
  refine balanced_of_forall_ne ?_
  rintro c hc rfl
  exact absurd (h _ hc) (by decide)

theorem balanced_of_numeric {s : List Char} (h : ∀ c ∈ s, isNumeric c = true) : Balanced s := by
  refine balanced_of_forall_ne ?_
  rintro c hc rfl
  exact absurd (h _ hc) (by decide)

theorem isNumeric_of_isDigit {c : Char} (h : c.isDigit = true) : isNumeric c = true := by
  simp [isNumeric, h]

theorem IsDigits.numeric {ds : List Char} (h : IsDigits ds) : ∀ c ∈ ds, isNumeric c = true :=
  fun c hc => isNumeric_of_isDigit (h.2 c hc)

/-- Numeric characters stand before and behind the cut. -/
theorem inNumber_of_numeric {q p u : List Char} (hq : Balanced q) (hp : p ≠ [])
    (hnumeric : ∀ c ∈ p, isNumeric c = true) (hu : ∃ c ∈ u.head?, isNumeric c = true) :
    InNumber (q ++ p) u := by
  refine ⟨hq.append (balanced_of_numeric hnumeric), ⟨p.getLast hp, ?_, ?_⟩, hu⟩
  · rw [List.getLast?_append, List.getLast?_eq_some_getLast hp, Option.some_or]
    rfl
  · exact hnumeric _ (List.getLast_mem hp)

/-- A text that goes on with a number does so with a numeric character. -/
theorem exists_numeric_of_not_ends {u : List Char} (h : ¬Ends u) :
    ∃ c ∈ u.head?, isNumeric c = true := by
  simp only [Ends, not_forall] at h
  obtain ⟨c, hc, hstops⟩ := h
  refine ⟨c, hc, ?_⟩
  simp only [Stops, not_and_or, not_not, Bool.not_eq_false] at hstops
  rcases hstops with h | rfl | rfl | rfl <;> simp_all [isNumeric]

/-! ### Numbers -/

namespace Numeral

theorem FractionText.numeric {ds f : List Char} (h : FractionText ds f) :
    ∀ c ∈ f, isNumeric c = true := by
  cases h with
  | none => simp
  | some hds => exact List.forall_mem_cons.2 ⟨by decide, hds.numeric⟩

theorem ExponentText.numeric {e : Option (Bool × List Char)} {x : List Char}
    (h : ExponentText e x) : ∀ c ∈ x, isNumeric c = true := by
  have hletter {c : Char} (hc : c = 'e' ∨ c = 'E') : isNumeric c = true := by
    rcases hc with rfl | rfl <;> decide
  have hplus : isNumeric '+' = true := by decide
  have hminus : isNumeric '-' = true := by decide
  cases h with
  | none => simp
  | bare hc hds => simpa [hletter hc] using hds.numeric
  | plus hc hds => simpa [hletter hc, hplus] using hds.numeric
  | minus hc hds => simpa [hletter hc, hminus] using hds.numeric

theorem Text.numeric {n : Numeral} {w : List Char} (h : n.Text w) :
    ∀ c ∈ w, isNumeric c = true := by
  obtain ⟨hdigits, -, f, e, hf, he, rfl⟩ := h
  have hsign : ∀ c ∈ n.sign, isNumeric c = true := by
    rw [sign]
    split_ifs <;> simp [isNumeric]
  simp only [List.forall_mem_append]
  exact ⟨hsign, hdigits.numeric, hf.numeric, he.numeric⟩

end Numeral

/-! ### Strings -/

theorem HexDigit.next_inside (d : HexDigit) : Quoting.next .inside d.char = .inside := by
  have hquote : d.char ≠ '"' := by
    intro h
    have hvalid := d.valid
    rw [h] at hvalid
    cases hvalid
  have hback : d.char ≠ '\\' := by
    intro h
    have hvalid := d.valid
    rw [h] at hvalid
    cases hvalid
  simp only [Quoting.next, if_neg hquote, if_neg hback]

theorem Piece.foldl_chars (p : Piece) : p.chars.foldl Quoting.next .inside = .inside := by
  cases p with
  | plain c valid => simp [chars, Quoting.next, valid.2.1, valid.2.2]
  | short letter meaning valid => rfl
  | code a b c d =>
    have hback : Quoting.next (.next .inside '\\') 'u' = .inside := rfl
    simp only [chars, List.foldl_cons, List.foldl_nil, hback, HexDigit.next_inside]

theorem Literal.foldl_inner (l : Literal) : l.inner.foldl Quoting.next .inside = .inside := by
  induction l with
  | nil => rfl
  | cons p l ih => rw [inner_cons, List.foldl_append, p.foldl_chars, ih]

theorem Literal.balanced_token (l : Literal) : Balanced l.token := by
  rw [Balanced, token, List.foldl_cons, List.foldl_append]
  have hinside : Quoting.next .outside '"' = .inside := rfl
  rw [hinside, foldl_inner]
  rfl

/-! ### Tokens -/

theorem Scalar.balanced_token (x : Scalar) : Balanced x.token := by
  cases x with
  | null => rfl
  | bool b => cases b <;> rfl
  | number n text valid => exact balanced_of_numeric valid.numeric
  | string l => exact l.balanced_token

/-- The brackets, the comma and the colon. -/
def symbols : List Char := ['[', ']', '{', '}', ',', ':']

theorem mem_symbols_iff {c : Char} :
    c ∈ symbols ↔ c = '[' ∨ c = ']' ∨ c = '{' ∨ c = '}' ∨ c = ',' ∨ c = ':' := by
  simp [symbols]

/-- The token is a symbol. -/
def IsSymbol (x : Token) : Prop := ∃ c ∈ symbols, x = [c]

/-- The token is a symbol or that of a scalar. -/
def IsLexeme (x : Token) : Prop := IsSymbol x ∨ ∃ y : Scalar, x = y.token

theorem IsSymbol.balanced {x : Token} (h : IsSymbol x) : Balanced x := by
  obtain ⟨c, hc, rfl⟩ := h
  rcases mem_symbols_iff.1 hc with rfl | rfl | rfl | rfl | rfl | rfl <;> rfl

theorem IsLexeme.balanced {x : Token} (h : IsLexeme x) : Balanced x := by
  rcases h with hsymbol | ⟨y, rfl⟩
  · exact hsymbol.balanced
  · exact y.balanced_token

/-- The tokens are symbols and scalars, and of two next to each other one is a symbol. -/
structure Alternating (xs : List Token) : Prop where
  lexeme : ∀ x ∈ xs, IsLexeme x
  chain : xs.IsChain fun x y => IsSymbol x ∨ IsSymbol y

namespace Alternating

theorem nil : Alternating [] := ⟨nofun, .nil⟩

theorem scalar (x : Scalar) : Alternating [x.token] where
  lexeme _ hy := .inr ⟨x, List.mem_singleton.1 hy⟩
  chain := .singleton _

theorem tail {x : Token} {xs : List Token} (h : Alternating (x :: xs)) : Alternating xs where
  lexeme y hy := h.lexeme y (List.mem_cons_of_mem x hy)
  chain := h.chain.tail

theorem append_cons {xs ys : List Token} {c : Char} (hxs : Alternating xs)
    (hc : c ∈ symbols) (hys : Alternating ys) : Alternating (xs ++ [c] :: ys) where
  lexeme x hx := by
    rcases List.mem_append.1 hx with hx | hx
    · exact hxs.lexeme x hx
    rcases List.mem_cons.1 hx with rfl | hx
    · exact .inl ⟨c, hc, rfl⟩
    · exact hys.lexeme x hx
  chain := by
    have hsymbol : IsSymbol [c] := ⟨c, hc, rfl⟩
    rw [List.isChain_append, List.isChain_cons]
    refine ⟨hxs.chain, ⟨fun y _ => .inl hsymbol, hys.chain⟩, ?_⟩
    rintro x - y hy
    cases hy
    exact .inr hsymbol

theorem append_behind {close : Char} (hclose : close ∈ symbols) {p : List Token}
    {ps : List (List Token)} (hp : Alternating p)
    (hps : ∀ q ∈ ps, Alternating q) : Alternating (p ++ behind close ps) := by
  induction ps generalizing p with
  | nil => exact hp.append_cons hclose nil
  | cons q ps ih =>
    have hq := ih (hps q List.mem_cons_self) fun r hr => hps r (List.mem_cons_of_mem q hr)
    exact hp.append_cons (by decide) hq

theorem enclosed {close : Char} (hclose : close ∈ symbols) {ps : List (List Token)}
    (hps : ∀ q ∈ ps, Alternating q) :
    Alternating (enclosed close ps) := by
  cases ps with
  | nil => exact nil.append_cons hclose nil
  | cons p ps =>
    exact (hps p List.mem_cons_self).append_behind hclose
      fun q hq => hps q (List.mem_cons_of_mem p hq)

end Alternating

theorem Tree.alternating_tokens (v : Tree) : Alternating v.tokens := by
  induction v using Tree.tokens.induct with
  | case1 x =>
    rw [tokens_scalar]
    exact .scalar x
  | case2 vs ih =>
    rw [tokens_array]
    refine Alternating.nil.append_cons (by decide) (.enclosed (by decide) ?_)
    simpa using ih
  | case3 ms ih =>
    rw [tokens_object]
    refine Alternating.nil.append_cons (by decide) (.enclosed (by decide) ?_)
    intro q hq
    obtain ⟨m, hm, rfl⟩ := List.mem_map.1 hq
    exact (Alternating.scalar (.string m.1)).append_cons (by decide) (ih m hm)

/-! ### Cuts inside a token -/

/-- A string goes on with the characters and comes to its end at none of them. -/
def StaysInside (s : List Char) : Prop := ∀ p, p <+: s → p.foldl Quoting.next .inside ≠ .outside

theorem staysInside_nil : StaysInside [] := by
  intro p hp
  simp [List.prefix_nil.1 hp]

theorem StaysInside.cons {c : Char} {s : List Char} (hc : Quoting.next .inside c = .inside)
    (hs : StaysInside s) : StaysInside (c :: s) := by
  intro p hp
  rcases List.prefix_cons_iff.1 hp with rfl | ⟨t, rfl, ht⟩
  · simp
  · rw [List.foldl_cons, hc]
    exact hs t ht

theorem StaysInside.escape (c : Char) {s : List Char} (hs : StaysInside s) :
    StaysInside ('\\' :: c :: s) := by
  intro p hp
  rcases List.prefix_cons_iff.1 hp with rfl | ⟨t, rfl, ht⟩
  · simp
  rcases List.prefix_cons_iff.1 ht with rfl | ⟨v, rfl, hv⟩
  · simp [Quoting.next]
  · exact hs v hv

theorem Literal.staysInside_inner (l : Literal) : StaysInside l.inner := by
  induction l with
  | nil => exact staysInside_nil
  | cons p l ih =>
    cases p with
    | plain c valid => exact ih.cons (by simp [Quoting.next, valid.2.1, valid.2.2])
    | short letter meaning valid => exact ih.escape letter
    | code a b c d =>
      exact ((((ih.cons d.next_inside).cons c.next_inside).cons b.next_inside).cons
        a.next_inside).escape 'u'

/-- A string is not cut off behind its first quote and in front of its last one. -/
theorem Literal.not_balanced_of_token {l : Literal} {w₁ w₂ : List Char}
    (h : w₁ ++ w₂ = l.token) (h₁ : w₁ ≠ []) (h₂ : w₂ ≠ []) : ¬Balanced w₁ := by
  obtain ⟨c, w₁, rfl⟩ := List.exists_cons_of_ne_nil h₁
  simp only [token, List.cons_append, List.cons.injEq] at h
  obtain ⟨rfl, h⟩ := h
  have hcut : w₁ <+: l.inner := by
    rcases List.prefix_concat_iff.1 ⟨w₂, h⟩ with rfl | hcut
    · exact absurd (by simpa using h) h₂
    · exact hcut
  exact l.staysInside_inner w₁ hcut

theorem InNumber.of_append {q p u : List Char} (hq : Balanced q) (hp : p ≠ [])
    (h : InNumber (q ++ p) u) : InNumber p u := by
  obtain ⟨hbalanced, hlast, hu⟩ := h
  refine ⟨?_, ?_, hu⟩
  · rwa [Balanced, List.foldl_append, hq] at hbalanced
  · rwa [List.getLast?_append_of_ne_nil _ hp] at hlast

theorem InNumber.of_append_right {p u t : List Char} (hu : u ≠ []) (h : InNumber p (u ++ t)) :
    InNumber p u := by
  obtain ⟨hbalanced, hlast, hfirst⟩ := h
  refine ⟨hbalanced, hlast, ?_⟩
  rwa [List.head?_append_of_ne_nil _ hu] at hfirst

/-- In no word do two numeric characters stand next to each other. -/
theorem not_inNumber_of_isChain {w₁ w₂ : List Char}
    (h : (w₁ ++ w₂).IsChain fun c d => ¬(isNumeric c = true ∧ isNumeric d = true)) :
    ¬InNumber w₁ w₂ := by
  rintro ⟨-, ⟨c, hc, hnumeric⟩, d, hd, hnumeric'⟩
  exact (List.isChain_append.1 h).2.2 c hc d hd ⟨hnumeric, hnumeric'⟩

/-- Of all scalars only a number can be cut off inside a number. -/
theorem Scalar.exists_text_of_inNumber {x : Scalar} {w₁ w₂ : List Char} (h : w₁ ++ w₂ = x.token)
    (h₁ : w₁ ≠ []) (h₂ : w₂ ≠ []) (hin : InNumber w₁ w₂) : ∃ n : Numeral, n.Text (w₁ ++ w₂) := by
  cases x with
  | null => exact absurd hin (not_inNumber_of_isChain (h ▸ by decide))
  | bool b =>
    refine absurd hin (not_inNumber_of_isChain (h ▸ ?_))
    cases b <;> decide
  | number n text valid => exact ⟨n, h ▸ valid⟩
  | string l => exact absurd hin.1 (Literal.not_balanced_of_token h h₁ h₂)

theorem IsLexeme.exists_text_of_inNumber {w₁ w₂ : List Char} (h : IsLexeme (w₁ ++ w₂))
    (h₁ : w₁ ≠ []) (h₂ : w₂ ≠ []) (hin : InNumber w₁ w₂) : ∃ n : Numeral, n.Text (w₁ ++ w₂) := by
  rcases h with ⟨c, -, hc⟩ | ⟨y, hy⟩
  · rcases List.append_eq_singleton_iff.1 hc with ⟨hnil, -⟩ | ⟨-, hnil⟩
    · exact absurd hnil h₁
    · exact absurd hnil h₂
  · exact y.exists_text_of_inNumber hy h₁ h₂ hin

/-! ### Cuts of a document -/

/-- The text of the tokens is cut off inside a number. -/
inductive CutsNumber : List Token → List Char → List Char → Prop
  | here {n : Numeral} {bs w₁ w₂ : List Char} (xs : List Token) (s : List Char) :
    Blanks bs → n.Text (w₁ ++ w₂) → w₁ ≠ [] → w₂ ≠ [] →
      CutsNumber ((w₁ ++ w₂) :: xs) (bs ++ w₁) (w₂ ++ s)
  | there {bs p u : List Char} (x : Token) {xs : List Token} :
    Blanks bs → CutsNumber xs p u → CutsNumber (x :: xs) (bs ++ (x ++ p)) u

theorem isNumeric_eq_false_of_isBlank {c : Char} (h : isBlank c = true) : isNumeric c = false := by
  simp only [isBlank, Bool.or_eq_true, beq_iff_eq] at h
  rcases h with ((rfl | rfl) | rfl) | rfl <;> decide

theorem Blanks.not_inNumber {bs u : List Char} (h : Blanks bs) : ¬InNumber bs u := by
  rintro ⟨-, ⟨c, hc, hnumeric⟩, -⟩
  have hblank := h c (List.mem_of_mem_getLast? hc)
  rw [isNumeric_eq_false_of_isBlank hblank] at hnumeric
  cases hnumeric

theorem IsSymbol.exists_not_numeric {x : Token} (h : IsSymbol x) :
    ∃ c, x = [c] ∧ isNumeric c = false := by
  obtain ⟨c, hc, rfl⟩ := h
  refine ⟨c, rfl, ?_⟩
  rcases mem_symbols_iff.1 hc with rfl | rfl | rfl | rfl | rfl | rfl <;> decide

/-- Between two tokens no number is cut off. -/
theorem Alternating.not_inNumber {x : Token} {xs : List Token} {s bs : List Char}
    (hxs : Alternating (x :: xs)) (hs : Spaced xs s) (hbs : Blanks bs) (q : List Char) :
    ¬InNumber (q ++ x) (s ++ bs) := by
  rintro ⟨-, ⟨c, hc, hlast⟩, d, hd, hfirst⟩
  have hblank {t : List Char} (ht : Blanks t) (hdt : d ∈ t.head?) : False := by
    rw [isNumeric_eq_false_of_isBlank (ht d (List.mem_of_mem_head? hdt))] at hfirst
    cases hfirst
  cases hs with
  | nil => exact hblank hbs hd
  | @cons bs' y ys s hbs' hs =>
    rcases (List.isChain_cons_cons.1 hxs.chain).1 with hx | hy
    · obtain ⟨e, rfl, he⟩ := hx.exists_not_numeric
      simp only [List.getLast?_concat, Option.mem_some_iff] at hc
      rw [← hc, he] at hlast
      cases hlast
    · obtain ⟨e, rfl, he⟩ := hy.exists_not_numeric
      rcases bs' with _ | ⟨b, bs'⟩
      · simp only [List.nil_append, List.cons_append, List.head?_cons, Option.mem_some_iff] at hd
        rw [← hd, he] at hfirst
        cases hfirst
      · exact hblank hbs' hd

theorem Alternating.cutsNumber {xs : List Token} {w bs p u : List Char} (hxs : Alternating xs)
    (hw : Spaced xs w) (hbs : Blanks bs) (h : p ++ u = w ++ bs) (hin : InNumber p u) :
    CutsNumber xs p u := by
  induction hw generalizing p with
  | nil =>
    rw [List.nil_append] at h
    have hp : Blanks p := fun c hc => hbs c (h ▸ List.mem_append_left u hc)
    exact absurd hin hp.not_inNumber
  | @cons bs' x xs s hbs' hs ih =>
    rw [List.append_assoc, List.append_assoc] at h
    rcases List.append_eq_append_iff.1 h with ⟨t, ht, -⟩ | ⟨w₁, rfl, hrest⟩
    · have hp : Blanks p := fun c hc => hbs' c (ht ▸ List.mem_append_left t hc)
      exact absurd hin hp.not_inNumber
    have hne : w₁ ≠ [] := by
      rintro rfl
      rw [List.append_nil] at hin
      exact hbs'.not_inNumber hin
    by_cases hx : w₁ = x
    · subst hx
      rw [← List.append_cancel_left hrest] at hin
      exact absurd hin (hxs.not_inNumber hs hbs bs')
    rcases List.append_eq_append_iff.1 hrest with ⟨p, rfl, hp⟩ | ⟨w₂, rfl, rfl⟩
    · have hp' : p ≠ [] := by
        rintro rfl
        exact hx (List.append_nil x)
      have hfront : Balanced (bs' ++ x) :=
        hbs'.balanced.append (hxs.lexeme x List.mem_cons_self).balanced
      rw [← List.append_assoc] at hin
      exact .there x hbs' (ih hxs.tail hp.symm (hin.of_append hfront hp'))
    · have hw₂ : w₂ ≠ [] := by
        rintro rfl
        exact hx (List.append_nil w₁).symm
      have hin' : InNumber w₁ w₂ := (hin.of_append hbs'.balanced hne).of_append_right hw₂
      obtain ⟨n, hn⟩ := (hxs.lexeme _ List.mem_cons_self).exists_text_of_inNumber hne hw₂ hin'
      exact .here xs (s ++ bs) hbs' hn hne hw₂

theorem CutsNumber.inNumber {xs : List Token} {p u : List Char} (h : CutsNumber xs p u)
    (hxs : ∀ x ∈ xs, Balanced x) : InNumber p u := by
  induction h with
  | here xs s hbs htext h₁ h₂ =>
    obtain ⟨c, w₂, rfl⟩ := List.exists_cons_of_ne_nil h₂
    have hnumeric := htext.numeric
    rw [List.forall_mem_append] at hnumeric
    exact inNumber_of_numeric hbs.balanced h₁ hnumeric.1 ⟨c, rfl, hnumeric.2 c List.mem_cons_self⟩
  | @there bs p u x xs hbs h ih =>
    obtain ⟨hx, hxs⟩ := List.forall_mem_cons.1 hxs
    obtain ⟨hbalanced, ⟨c, hc, hlast⟩, hu⟩ := ih hxs
    refine ⟨hbs.balanced.append (hx.append hbalanced), ⟨c, ?_, hlast⟩, hu⟩
    simp [List.getLast?_append, Option.mem_def.1 hc]

/-- In a document the place lies inside the token of a number. -/
theorem Tree.IsDocument.inNumber_iff {v : Tree} {p u : List Char} (h : v.IsDocument (p ++ u)) :
    InNumber p u ↔ CutsNumber v.tokens p u := by
  obtain ⟨w, bs, hw, hspaced, hbs⟩ := h
  have htokens := v.alternating_tokens
  constructor
  · exact htokens.cutsNumber hspaced hbs hw
  · intro hcut
    exact hcut.inNumber fun x hx => (htokens.lexeme x hx).balanced

end SlideGraph.Json
