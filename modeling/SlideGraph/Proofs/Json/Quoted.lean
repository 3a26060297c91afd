import SlideGraph.Proofs.Json.Grammar

/-!
# Reading strings

The reader of a string takes exactly the strings of the grammar that stand for characters, and
the one that keeps nothing takes all of them.
-/

namespace SlideGraph.Json.Quoted

/-! ### Escapes -/

theorem hexQuad_eq_ok_iff {s t : List Char} {n : Nat} :
    hexQuad s = .ok (n, t) ↔ ∃ a b c d : HexDigit,
      s = a.char :: b.char :: c.char :: d.char :: t ∧ n = Piece.codeOf a b c d := by
  constructor
  · intro h
    rw [hexQuad.eq_def] at h
    split at h
    · split at h
      · rename_i ha hb hc hd
        cases h
        exact ⟨⟨_, _, ha⟩, ⟨_, _, hb⟩, ⟨_, _, hc⟩, ⟨_, _, hd⟩, rfl, rfl⟩
      · cases h
    · split at h <;> cases h
  · rintro ⟨a, b, c, d, rfl, rfl⟩
    simp [hexQuad, a.valid, b.valid, c.valid, d.valid, Piece.codeOf]

theorem hexQuad_chars (a b c d : HexDigit) (t : List Char) :
    hexQuad (a.char :: b.char :: c.char :: d.char :: t) = .ok (Piece.codeOf a b c d, t) :=
  hexQuad_eq_ok_iff.2 ⟨a, b, c, d, rfl, rfl⟩

/-- The pieces `l` make one character, whatever comes after them. -/
def Makes (l : Literal) (c : Char) : Prop :=
  ∀ rest, Literal.denote? (l ++ rest) = (Literal.denote? rest).map (c :: ·)

theorem codePoint_sound {s t : List Char} {c : Char} (h : codePoint s = .ok (c, t)) :
    ∃ l : Literal, '\\' :: 'u' :: s = l.inner ++ t ∧ Makes l c := by
  rw [codePoint] at h
  split at h
  · cases h
  · rename_i n rest hn
    obtain ⟨a₁, a₂, a₃, a₄, rfl, rfl⟩ := hexQuad_eq_ok_iff.1 hn
    split_ifs at h with htrail hlead
    · split at h
      · cases h
      · cases h
      · split at h
        · cases h
        · rename_i rest m u hm
          obtain ⟨b₁, b₂, b₃, b₄, rfl, rfl⟩ := hexQuad_eq_ok_iff.1 hm
          split_ifs at h with hpair
          simp only [Except.ok.injEq, Prod.mk.injEq] at h
          obtain ⟨rfl, rfl⟩ := h
          refine ⟨[.code a₁ a₂ a₃ a₄, .code b₁ b₂ b₃ b₄], by simp [Piece.chars], ?_⟩
          exact fun _ => Literal.denote?_pair (Bool.eq_false_iff.2 htrail) hlead hpair
      · cases h
    · simp only [Except.ok.injEq, Prod.mk.injEq] at h
      obtain ⟨rfl, rfl⟩ := h
      refine ⟨[.code a₁ a₂ a₃ a₄], by simp [Piece.chars], ?_⟩
      exact fun _ => Literal.denote?_code (Bool.eq_false_iff.2 htrail) (Bool.eq_false_iff.2 hlead)

/-- A character that is no escape is one that may stand for itself. -/
theorem valid_of_character {c : Char} {s : List Char} (hs : (c :: s).head? ≠ some '"')
    (hcontrol : ¬c < ' ') (hend : c = '\\' → s = [] → False)
    (hback : ∀ e t, c = '\\' → s = e :: t → False) : ' ' ≤ c ∧ c ≠ '"' ∧ c ≠ '\\' := by
  refine ⟨Char.not_lt.1 hcontrol, by simpa using hs, ?_⟩
  rintro rfl
  cases s with
  | nil => exact hend rfl rfl
  | cons e t => exact hback e t rfl rfl

theorem character_sound {s t : List Char} {c : Char} (hs : s.head? ≠ some '"')
    (h : character s = .ok (c, t)) : ∃ l : Literal, s = l.inner ++ t ∧ Makes l c := by
  rw [character.eq_def] at h
  split at h
  · cases h
  · cases h
  · exact codePoint_sound h
  · split at h
    · rename_i hshort
      cases h
      exact ⟨[.short _ _ hshort], by simp [Piece.chars], fun _ => rfl⟩
    · cases h
  · rename_i c' s hend _ hback
    split_ifs at h with hcontrol
    cases h
    have hvalid := valid_of_character hs hcontrol hend hback
    exact ⟨[.plain c hvalid], by simp [Piece.chars], fun _ => rfl⟩

theorem character_plain {c : Char} (valid : ' ' ≤ c ∧ c ≠ '"' ∧ c ≠ '\\') (s : List Char) :
    character ((Piece.plain c valid).chars ++ s) = .ok (c, s) := by
  have hcontrol := Char.not_lt.2 valid.1
  simp [Piece.chars, character, valid.2.2, hcontrol]

theorem ne_u_of_shortEscape? {letter c : Char} (valid : shortEscape? letter = some c) :
    letter ≠ 'u' := by
  rintro rfl
  simp [shortEscape?] at valid

theorem character_short {letter c : Char} (valid : shortEscape? letter = some c) (s : List Char) :
    character ((Piece.short letter c valid).chars ++ s) = .ok (c, s) := by
  have hu := ne_u_of_shortEscape? valid
  simp [Piece.chars, character, valid]

theorem character_code {a b c d : HexDigit} (htrail : isTrailing (Piece.codeOf a b c d) = false)
    (hlead : isLeading (Piece.codeOf a b c d) = false) (s : List Char) :
    character ((Piece.code a b c d).chars ++ s) = .ok (Char.ofNat (Piece.codeOf a b c d), s) := by
  simp [Piece.chars, character, codePoint, hexQuad_chars, htrail, hlead]

theorem character_pair {a b c d a' b' c' d' : HexDigit}
    (htrail : isTrailing (Piece.codeOf a b c d) = false)
    (hlead : isLeading (Piece.codeOf a b c d) = true)
    (hpair : isTrailing (Piece.codeOf a' b' c' d') = true) (s : List Char) :
    character ((Piece.code a b c d).chars ++ ((Piece.code a' b' c' d').chars ++ s)) =
      .ok (Char.ofNat (joinSurrogates (Piece.codeOf a b c d) (Piece.codeOf a' b' c' d')), s) := by
  simp [Piece.chars, character, codePoint, hexQuad_chars, htrail, hlead, hpair]

/-! ### Whole strings -/

theorem scan_step {s t u cs : List Char} {c : Char} (hs : s.head? ≠ some '"')
    (hc : character s = .ok (c, t)) (ht : scan t = .ok (cs, u)) : scan s = .ok (c :: cs, u) := by
  cases s with
  | nil => simp [character] at hc
  | cons d s =>
    rw [scan.eq_def]
    split
    · simp_all
    · simp_all
    · split
      · simp_all
      · simp_all

theorem scan_sound {s t cs : List Char} (h : scan s = .ok (cs, t)) :
    ∃ l : Literal, s = l.inner ++ '"' :: t ∧ l.denote? = some cs := by
  fun_induction scan s generalizing cs t with
  | case1 => cases h
  | case2 =>
    cases h
    exact ⟨[], rfl, rfl⟩
  | case3 => cases h
  | case4 => cases h
  | case5 c s hquote d u hc ds v hs ih =>
    cases h
    obtain ⟨l, rfl, hl⟩ := ih hs
    -- one character may take two pieces, the halves of a surrogate pair
    obtain ⟨p, hp, hmakes⟩ := character_sound (by simpa using hquote) hc
    refine ⟨p ++ l, ?_, by simp [hmakes l, hl]⟩
    simp [hp]

theorem scan_complete {l : Literal} {cs t : List Char} (h : l.denote? = some cs) :
    scan (l.inner ++ '"' :: t) = .ok (cs, t) := by
  fun_induction Literal.denote? l generalizing cs with
  | case1 =>
    cases h
    simp [scan]
  | case2 c valid l ih =>
    obtain ⟨ds, hds, rfl⟩ := Option.map_eq_some_iff.1 h
    rw [Literal.inner_cons, List.append_assoc]
    exact scan_step (Piece.head?_chars_append _ _) (character_plain valid _) (ih hds)
  | case3 letter c valid l ih =>
    obtain ⟨ds, hds, rfl⟩ := Option.map_eq_some_iff.1 h
    rw [Literal.inner_cons, List.append_assoc]
    exact scan_step (Piece.head?_chars_append _ _) (character_short valid _) (ih hds)
  | case4 => cases h
  | case5 a b c d htrail hlead a' b' c' d' l hpair ih =>
    obtain ⟨ds, hds, rfl⟩ := Option.map_eq_some_iff.1 h
    rw [Literal.inner_cons, Literal.inner_cons, List.append_assoc, List.append_assoc]
    have hc := character_pair (Bool.eq_false_iff.2 htrail) hlead hpair
    exact scan_step (Piece.head?_chars_append _ _) (hc _) (ih hds)
  | case6 => cases h
  | case7 => cases h
  | case8 a b c d l htrail hlead ih =>
    obtain ⟨ds, hds, rfl⟩ := Option.map_eq_some_iff.1 h
    rw [Literal.inner_cons, List.append_assoc]
    have hc := character_code (Bool.eq_false_iff.2 htrail) (Bool.eq_false_iff.2 hlead)
    exact scan_step (Piece.head?_chars_append _ _) (hc _) (ih hds)

/-- A string is read with its characters where it stands for any. -/
theorem scan_eq_ok_iff {s t cs : List Char} :
    scan s = .ok (cs, t) ↔ ∃ l : Literal, s = l.inner ++ '"' :: t ∧ l.denote? = some cs := by
  constructor
  · exact scan_sound
  · rintro ⟨l, rfl, hl⟩
    exact scan_complete hl

/-! ### Strings that are not kept -/

theorem passCharacter_eq_ok_iff {s t : List Char} (hs : s.head? ≠ some '"') :
    passCharacter s = .ok t ↔ ∃ p : Piece, s = p.chars ++ t := by
  constructor
  · intro h
    rw [passCharacter.eq_def] at h
    split at h
    · cases h
    · cases h
    · rename_i s
      cases hq : hexQuad s with
      | error e => simp [hq, Except.map] at h
      | ok r =>
        obtain ⟨n, u⟩ := r
        obtain ⟨a, b, c, d, rfl, -⟩ := hexQuad_eq_ok_iff.1 hq
        simp only [hq, Except.map, Except.ok.injEq] at h
        exact ⟨.code a b c d, by simp [Piece.chars, h]⟩
    · rename_i e s _
      split_ifs at h with hshort
      cases h
      obtain ⟨c, hc⟩ := Option.isSome_iff_exists.1 hshort
      exact ⟨.short e c hc, rfl⟩
    · rename_i c s hend _ hback
      split_ifs at h with hcontrol
      cases h
      exact ⟨.plain c (valid_of_character hs hcontrol hend hback), rfl⟩
  · rintro ⟨p, rfl⟩
    cases p with
    | plain c valid =>
      have hcontrol := Char.not_lt.2 valid.1
      simp [Piece.chars, passCharacter, valid.2.2, hcontrol]
    | short letter c valid =>
      have hu := ne_u_of_shortEscape? valid
      simp [Piece.chars, passCharacter, valid]
    | code a b c d => simp [Piece.chars, passCharacter, hexQuad_chars, Except.map]

theorem pass_step {s t u : List Char} (hs : s.head? ≠ some '"') (hc : passCharacter s = .ok t)
    (ht : pass t = .ok u) : pass s = .ok u := by
  cases s with
  | nil => simp [passCharacter] at hc
  | cons d s =>
    rw [pass.eq_def]
    split
    · simp_all
    · simp_all
    · split
      · simp_all
      · simp_all

/-- A string that nobody asks for is gone over to its end, whatever it stands for. -/
theorem pass_eq_ok_iff {s t : List Char} :
    pass s = .ok t ↔ ∃ l : Literal, s = l.inner ++ '"' :: t := by
  constructor
  · intro h
    fun_induction pass s with
    | case1 => cases h
    | case2 =>
      cases h
      exact ⟨[], rfl⟩
    | case3 => cases h
    | case4 c s hquote u hu ih =>
      obtain ⟨l, rfl⟩ := ih h
      obtain ⟨p, hp⟩ := (passCharacter_eq_ok_iff (by simpa using hquote)).1 hu
      exact ⟨p :: l, by simp [hp]⟩
  · rintro ⟨l, rfl⟩
    induction l with
    | nil => simp [pass]
    | cons p l ih =>
      have hs := p.head?_chars_append (Literal.inner l ++ '"' :: t)
      have hp := (passCharacter_eq_ok_iff hs).2 ⟨p, rfl⟩
      rw [Literal.inner_cons, List.append_assoc]
      exact pass_step hs hp ih

end SlideGraph.Json.Quoted
