import SlideGraph.Proofs.Json.Place
import SlideGraph.Proofs.Json.Reader.Basic

/-!
# Texts that are cut off

What a step makes of a text up to a cut is compared with what it makes of the whole. A step that
has come to its end before the cut, or has refused the text, does not look behind the cut. A step
that has not waits for more. Only a number has no end of its own: it may seem to be read where it
is cut off.
-/

namespace SlideGraph.Json

variable {α β : Type}

/-! ### Steps that have an end of their own -/

/-- What a step makes of a text up to a cut, and of the text with `u` behind it. -/
inductive Follows (u : List Char) : Step α → Step α → Prop
  | done (a : α) (t : List Char) : Follows u (.ok (a, t)) (.ok (a, t ++ u))
  | waiting (y : Step α) : Follows u (.error .truncated) y
  | refused (e e' : Fault) : Follows u (.error e) (.error e')

/-- Go on with what a step has read and left. -/
def after (k : α → List Char → Step β) : Step α → Step β
  | .error e => .error e
  | .ok (a, t) => k a t

theorem Follows.after {u : List Char} {x y : Step α} {k : α → List Char → Step β}
    (h : Follows u x y) (hk : ∀ a t, x = .ok (a, t) → Follows u (k a t) (k a (t ++ u))) :
    Follows u (after k x) (after k y) := by
  cases h with
  | done a t => exact hk a t rfl
  | waiting y => exact .waiting _
  | refused e e' => exact .refused e e'

/-- What a step makes of a text up to a cut, where it goes on behind `p`, and of the text with `u`
behind it. Inside a number it may refuse the text or seem to have come to its end. `Open` says what
it may have read then. -/
inductive Partway (Open : α → Step α → Prop) (p u : List Char) : Step α → Step α → Prop
  | follows {x y : Step α} : Follows u x y → Partway Open p u x y
  | malformed {y : Step α} : InNumber p u → Partway Open p u (.error .malformed) y
  | within {a : α} {y : Step α} : InNumber p u → Open a y → Partway Open p u (.ok (a, [])) y

theorem Partway.mono {Open Open' : α → Step α → Prop} {p u : List Char} {x y : Step α}
    (h : Partway Open p u x y) (hopen : ∀ a y, Open a y → Open' a y) : Partway Open' p u x y := by
  cases h with
  | follows h => exact .follows h
  | malformed hin => exact .malformed hin
  | within hin ha => exact .within hin (hopen _ _ ha)

theorem Partway.map {Open : α → Step α → Prop} {Open' : β → Step β → Prop} {p u : List Char}
    {x y : Step α} (h : Partway Open p u x y) (f : α → β)
    (hopen : ∀ a, Open a y → Open' (f a) (after (fun a t => .ok (f a, t)) y)) :
    Partway Open' p u (after (fun a t => .ok (f a, t)) x) (after (fun a t => .ok (f a, t)) y) := by
  cases h with
  | follows h => exact .follows (h.after fun a t _ => .done (f a) t)
  | malformed hin => exact .malformed hin
  | within hin ha => exact .within hin (hopen _ ha)

theorem follows_literal (a : α) (word p u : List Char) :
    Follows u ((literal word p).map (a, ·)) ((literal word (p ++ u)).map (a, ·)) := by
  induction word generalizing p with
  | nil => exact .done a p
  | cons c word ih =>
    cases p with
    | nil => exact .waiting _
    | cons d p =>
      by_cases hc : c = d
      · simpa only [List.cons_append, literal, if_pos hc] using ih p
      · simp only [List.cons_append, literal, if_neg hc]
        exact .refused _ _

/-! ### Strings -/

namespace Quoted

/-- Hexadecimal digits take one byte each. -/
theorem utf8Size_hexDigit {c : Char} {n : Nat} (h : hexDigit? c = some n) : c.utf8Size = 1 := by
  have hle : c ≤ 'f' := by
    unfold hexDigit? at h
    split_ifs at h with h₁ h₂ h₃
    · exact Char.le_trans h₁.2 (by decide)
    · exact h₂.2
    · exact Char.le_trans h₃.2 (by decide)
  exact Char.utf8Size_eq_one_iff.2 (UInt32.le_trans hle (by decide))

theorem hexQuad_short {p : List Char} (h : p.length < 4) :
    hexQuad p = if (String.ofList p).utf8ByteSize < 4 then .error .truncated
      else .error .malformed := by
  rw [hexQuad.eq_def]
  split
  · simp only [List.length_cons] at h
    omega
  · rfl

theorem utf8ByteSize_short {p u : List Char} (h : p.length < 4) {r : Nat × List Char}
    (hquad : hexQuad (p ++ u) = .ok r) : (String.ofList p).utf8ByteSize < 4 := by
  obtain ⟨a, b, c, d, hs, -⟩ := hexQuad_eq_ok_iff.1 hquad
  have ha := utf8Size_hexDigit a.valid
  have hb := utf8Size_hexDigit b.valid
  have hc := utf8Size_hexDigit c.valid
  match p, h with
  | [], _ => simp
  | [x], _ => simp_all
  | [x, y], _ => simp_all
  | [x, y, z], _ => simp_all

theorem follows_hexQuad (p u : List Char) : Follows u (hexQuad p) (hexQuad (p ++ u)) := by
  by_cases hp : p.length < 4
  · rw [hexQuad_short hp]
    cases hy : hexQuad (p ++ u) with
    | error e =>
      split_ifs
      · exact .waiting _
      · exact .refused _ _
    | ok r =>
      rw [if_pos (utf8ByteSize_short hp hy)]
      exact .waiting _
  · obtain ⟨a, b, c, d, rest, rfl⟩ : ∃ a b c d rest, p = a :: b :: c :: d :: rest := by
      rcases p with _ | ⟨a, _ | ⟨b, _ | ⟨c, _ | ⟨d, rest⟩⟩⟩⟩
      · simp at hp
      · simp at hp
      · simp at hp
      · simp at hp
      · exact ⟨a, b, c, d, rest, rfl⟩
    simp only [List.cons_append, hexQuad]
    split
    · exact .done _ _
    · exact .refused _ _

/-- The second of a surrogate pair, behind the first. -/
def secondHalf (n : Nat) : List Char → Step Char
  | [] | ['\\'] => .error .truncated
  | '\\' :: 'u' :: rest => after (fun m rest =>
      if isTrailing m then .ok (Char.ofNat (joinSurrogates n m), rest) else .error .malformed)
      (hexQuad rest)
  | _ => .error .malformed

theorem secondHalf_code (n : Nat) (s : List Char) :
    secondHalf n ('\\' :: 'u' :: s) = after (fun m rest =>
      if isTrailing m then .ok (Char.ofNat (joinSurrogates n m), rest) else .error .malformed)
      (hexQuad s) := rfl

theorem secondHalf_cons {c : Char} (hc : c ≠ '\\') (n : Nat) (s : List Char) :
    secondHalf n (c :: s) = .error .malformed := by
  simp [secondHalf, hc]

theorem secondHalf_escape {e : Char} (he : e ≠ 'u') (n : Nat) (s : List Char) :
    secondHalf n ('\\' :: e :: s) = .error .malformed := by
  simp [secondHalf, he]

theorem codePoint_eq (s : List Char) : codePoint s = after (fun n rest =>
    if isTrailing n then .error .malformed
    else if isLeading n then secondHalf n rest
    else .ok (Char.ofNat n, rest)) (hexQuad s) := by
  rw [codePoint]
  cases hexQuad s with
  | error e => rfl
  | ok r =>
    obtain ⟨n, rest⟩ := r
    simp only [after]
    refine if_congr Iff.rfl rfl (if_congr Iff.rfl ?_ rfl)
    split
    · rfl
    · rfl
    · rename_i rest
      rw [secondHalf_code]
      cases hexQuad rest <;> rfl
    · simp [secondHalf, *]

theorem follows_secondHalf (n : Nat) (p u : List Char) :
    Follows u (secondHalf n p) (secondHalf n (p ++ u)) := by
  rcases p with _ | ⟨c, p⟩
  · exact .waiting _
  by_cases hc : c = '\\'
  · subst hc
    rcases p with _ | ⟨e, p⟩
    · exact .waiting _
    by_cases he : e = 'u'
    · subst he
      refine (follows_hexQuad p u).after ?_
      intro m rest _
      split_ifs
      · exact .done _ _
      · exact .refused _ _
    · rw [List.cons_append, List.cons_append, secondHalf_escape he, secondHalf_escape he]
      exact .refused _ _
  · rw [List.cons_append, secondHalf_cons hc, secondHalf_cons hc]
    exact .refused _ _

theorem follows_codePoint (p u : List Char) : Follows u (codePoint p) (codePoint (p ++ u)) := by
  rw [codePoint_eq, codePoint_eq]
  refine (follows_hexQuad p u).after ?_
  intro n rest _
  split_ifs
  · exact .refused _ _
  · exact follows_secondHalf n rest u
  · exact .done _ _

theorem character_cons {c : Char} (hc : c ≠ '\\') (s : List Char) :
    character (c :: s) = if c < ' ' then .error .malformed else .ok (c, s) := by
  simp [character, hc]

theorem character_escape {e : Char} (he : e ≠ 'u') (s : List Char) :
    character ('\\' :: e :: s) =
      (shortEscape? e).elim (.error .malformed) fun c => .ok (c, s) := by
  simp only [character]
  cases shortEscape? e <;> rfl

theorem follows_character (p u : List Char) : Follows u (character p) (character (p ++ u)) := by
  rcases p with _ | ⟨c, p⟩
  · exact .waiting _
  by_cases hc : c = '\\'
  · subst hc
    rcases p with _ | ⟨e, p⟩
    · exact .waiting _
    by_cases he : e = 'u'
    · subst he
      exact follows_codePoint p u
    · rw [List.cons_append, List.cons_append, character_escape he, character_escape he]
      cases shortEscape? e with
      | none => exact .refused _ _
      | some d => exact .done d p
  · rw [List.cons_append, character_cons hc, character_cons hc]
    split_ifs
    · exact .refused _ _
    · exact .done c p

theorem passCharacter_cons {c : Char} (hc : c ≠ '\\') (s : List Char) :
    passCharacter (c :: s) = if c < ' ' then .error .malformed else .ok s := by
  simp [passCharacter, hc]

theorem passCharacter_escape {e : Char} (he : e ≠ 'u') (s : List Char) :
    passCharacter ('\\' :: e :: s) =
      if (shortEscape? e).isSome then .ok s else .error .malformed := by
  simp [passCharacter]

theorem passCharacter_code (s : List Char) : (passCharacter ('\\' :: 'u' :: s)).map ((), ·) =
    after (fun _ rest => .ok ((), rest)) (hexQuad s) := by
  rw [passCharacter]
  cases hexQuad s <;> rfl

theorem follows_passCharacter (p u : List Char) :
    Follows u ((passCharacter p).map ((), ·)) ((passCharacter (p ++ u)).map ((), ·)) := by
  rcases p with _ | ⟨c, p⟩
  · exact .waiting _
  by_cases hc : c = '\\'
  · subst hc
    rcases p with _ | ⟨e, p⟩
    · exact .waiting _
    by_cases he : e = 'u'
    · subst he
      rw [List.cons_append, List.cons_append, passCharacter_code, passCharacter_code]
      exact (follows_hexQuad p u).after fun _ rest _ => .done () rest
    · rw [List.cons_append, List.cons_append, passCharacter_escape he, passCharacter_escape he]
      split_ifs
      · exact .done () p
      · exact .refused _ _
  · rw [List.cons_append, passCharacter_cons hc, passCharacter_cons hc]
    split_ifs
    · exact .refused _ _
    · exact .done () p

theorem scan_cons {c : Char} (hc : c ≠ '"') (s : List Char) : scan (c :: s) =
    after (fun d t => after (fun ds v => .ok (d :: ds, v)) (scan t)) (character (c :: s)) := by
  rw [scan]
  · split
    · rename_i hs
      rw [hs]
      rfl
    · rename_i d t hs
      rw [hs]
      simp only [after]
      split
      · rename_i ht
        rw [ht]
      · rename_i ht
        rw [ht]
  · exact hc

theorem pass_cons (a : α) {c : Char} (hc : c ≠ '"') (s : List Char) :
    (pass (c :: s)).map (a, ·) =
      after (fun _ t => (pass t).map (a, ·)) ((passCharacter (c :: s)).map ((), ·)) := by
  rw [pass]
  · split
    · rename_i hs
      rw [hs]
      rfl
    · rename_i t hs
      rw [hs]
      rfl
  · exact hc

theorem follows_scan (p u : List Char) : Follows u (scan p) (scan (p ++ u)) := by
  induction hn : p.length using Nat.strongRecOn generalizing p with
  | ind n ih =>
    rcases p with _ | ⟨c, p⟩
    · rw [scan]
      exact .waiting _
    by_cases hc : c = '"'
    · subst hc
      rw [List.cons_append, scan, scan]
      exact .done [] p
    · rw [List.cons_append, scan_cons hc, scan_cons hc]
      refine (follows_character (c :: p) u).after ?_
      intro d t hd
      have hlt := character_length hd
      exact (ih t.length (hn ▸ hlt) t rfl).after fun ds v _ => .done (d :: ds) v

theorem follows_pass (a : α) (p u : List Char) :
    Follows u ((pass p).map (a, ·)) ((pass (p ++ u)).map (a, ·)) := by
  induction hn : p.length using Nat.strongRecOn generalizing p with
  | ind n ih =>
    rcases p with _ | ⟨c, p⟩
    · rw [pass]
      exact .waiting _
    by_cases hc : c = '"'
    · subst hc
      rw [List.cons_append, pass, pass]
      exact .done a p
    · rw [List.cons_append, pass_cons a hc, pass_cons a hc]
      refine (follows_passCharacter (c :: p) u).after ?_
      intro _ t ht
      have hlt := passCharacter_length (Opening.map_eq_ok_iff.1 ht).1
      exact ih t.length (hn ▸ hlt) t rfl

end Quoted

/-! ### Numbers -/

namespace Numeral

/-- What a step that reads numeric characters makes of a text up to a cut, and of the text with `u`
behind it. The step may have come to an end only because the text has. -/
inductive Trails (p u : List Char) : Step α → Step α → Prop
  | done (a : α) (t : List Char) : Trails p u (.ok (a, t)) (.ok (a, t ++ u))
  | refused (e e' : Fault) : Trails p u (.error e) (.error e')
  | waiting (y : Step α) : (∀ c ∈ p, isNumeric c = true) →
    (∀ r, y = .ok r → ∃ c ∈ u.head?, isNumeric c = true) → Trails p u (.error .truncated) y
  | within (a : α) (y : Step α) : ¬Ends u → Trails p u (.ok (a, [])) y

theorem Trails.append {w p u : List Char} {x y : Step α} (hw : ∀ c ∈ w, isNumeric c = true)
    (h : Trails p u x y) : Trails (w ++ p) u x y := by
  cases h with
  | done a t => exact .done a t
  | refused e e' => exact .refused e e'
  | waiting y hp hu =>
    refine .waiting y ?_ hu
    intro c hc
    rcases List.mem_append.1 hc with hc | hc
    · exact hw c hc
    · exact hp c hc
  | within a y hu => exact .within a y hu

theorem Trails.after {p u : List Char} {x y : Step α} {k : α → List Char → Step β}
    (h : Trails p u x y)
    (htakes : ∀ a t, x = .ok (a, t) → ∃ w, p = w ++ t ∧ ∀ c ∈ w, isNumeric c = true)
    (hk : ∀ a t, x = .ok (a, t) → Trails t u (k a t) (k a (t ++ u)))
    (hnil : ∀ a, x = .ok (a, []) → ∃ b, k a [] = .ok (b, [])) :
    Trails p u (after k x) (after k y) := by
  cases h with
  | done a t =>
    obtain ⟨w, rfl, hw⟩ := htakes a t rfl
    exact (hk a t rfl).append hw
  | refused e e' => exact .refused e e'
  | waiting y hp hu =>
    refine .waiting _ hp ?_
    intro r hr
    cases y with
    | error e => cases hr
    | ok r' => exact hu r' rfl
  | within a y hu =>
    obtain ⟨b, hb⟩ := hnil a rfl
    simp only [Json.after, hb]
    exact .within b _ hu

theorem exists_digits {c : Char} (hc : c.isDigit = true) (s : List Char) :
    ∃ ds t, c :: s = ds ++ t ∧ IsDigits ds ∧ ∀ d ∈ t.head?, d.isDigit = false := by
  refine ⟨(c :: s).takeWhile Char.isDigit, (c :: s).dropWhile Char.isDigit,
    List.takeWhile_append_dropWhile.symm, ⟨by simp [hc], ?_⟩, ?_⟩
  · exact fun d hd => List.mem_takeWhile_imp hd
  · intro d hd
    have hnot := List.head?_dropWhile_not Char.isDigit (c :: s)
    rwa [hd] at hnot

theorem digits_cons {c : Char} (hc : c.isDigit = false) (s : List Char) :
    digits (c :: s) = .error .malformed := by
  simp [digits, hc]

theorem trails_digits (p u : List Char) : Trails p u (digits p) (digits (p ++ u)) := by
  rcases p with _ | ⟨c, p⟩
  · refine .waiting _ (by simp) ?_
    rintro ⟨ds, t⟩ hr
    obtain ⟨rfl, hds⟩ := digits_sound hr
    obtain ⟨d, ds', rfl, hd⟩ := hds.exists_cons
    exact ⟨d, rfl, isNumeric_of_isDigit hd⟩
  cases hc : c.isDigit with
  | false =>
    rw [List.cons_append, digits_cons hc, digits_cons hc]
    exact .refused _ _
  | true =>
    obtain ⟨ds, t, hs, hds, ht⟩ := exists_digits hc p
    rw [hs, digits_complete hds ht, List.append_assoc]
    rcases t with _ | ⟨d, t⟩
    · by_cases hu : Ends u
      · rw [List.nil_append, digits_complete hds fun c hc => (hu c hc).1]
        exact .done ds []
      · exact .within ds _ hu
    · rw [digits_complete hds (by simpa using ht)]
      exact .done ds (d :: t)

/-- Digits before a point or an exponent, of which a zero stands alone. -/
def wholeOf : List Char → List Char → Step (List Char)
  | '0' :: _ :: _, _ => .error .malformed
  | ds, t => .ok (ds, t)

theorem wholePart_eq (s : List Char) : wholePart s = after wholeOf (digits s) := by
  rw [wholePart]
  split
  · rename_i hs
    rw [hs]
    rfl
  · rename_i hs
    rw [hs]
    rfl
  · rename_i r hzero hs
    obtain ⟨ds, t⟩ := r
    rw [hs, after, wholeOf.eq_def]
    split
    · exact absurd rfl (hzero _ _ _)
    · rfl

theorem wholePart_zero {d : Char} (hd : d.isDigit = true) (s : List Char) :
    wholePart ('0' :: d :: s) = .error .malformed := by
  simp [wholePart, digits, hd]

theorem trails_wholePart (p u : List Char) : Trails p u (wholePart p) (wholePart (p ++ u)) := by
  by_cases hzero : ∃ d s, p = '0' :: d :: s ∧ d.isDigit = true
  · obtain ⟨d, s, rfl, hd⟩ := hzero
    rw [List.cons_append, List.cons_append, wholePart_zero hd, wholePart_zero hd]
    exact .refused _ _
  have hwhole {ds t : List Char} (hs : digits p = .ok (ds, t)) (v : List Char) :
      wholeOf ds v = .ok (ds, v) := by
    obtain ⟨rfl, hds⟩ := digits_sound hs
    rw [wholeOf.eq_def]
    split
    · rename_i d ds
      exact absurd ⟨d, ds ++ t, rfl, hds.2 d (by simp)⟩ hzero
    · rfl
  rw [wholePart_eq, wholePart_eq]
  refine (trails_digits p u).after ?_ ?_ ?_
  · intro ds t hs
    obtain ⟨rfl, hds⟩ := digits_sound hs
    exact ⟨ds, rfl, hds.numeric⟩
  · intro ds t hs
    rw [hwhole hs, hwhole hs]
    exact .done ds t
  · intro ds hs
    exact ⟨ds, hwhole hs []⟩

theorem trails_fractionPart (p u : List Char) :
    Trails p u (fractionPart p) (fractionPart (p ++ u)) := by
  rcases p with _ | ⟨c, p⟩
  · by_cases hu : Ends u
    · have hpart : fractionPart u = .ok ([], u) :=
        fractionPart_complete .none fun c hc => ⟨(hu c hc).1, (hu c hc).2.1⟩
      rw [List.nil_append, hpart]
      exact .done [] []
    · exact .within [] _ hu
  by_cases hc : c = '.'
  · subst hc
    have hpoint : ∀ c ∈ ['.'], isNumeric c = true := List.forall_mem_singleton.2 (by decide)
    exact (trails_digits p u).append hpoint
  · have hpart (s : List Char) : fractionPart (c :: s) = .ok ([], c :: s) := by
      simp [fractionPart, hc]
    rw [List.cons_append, hpart, hpart]
    exact .done [] (c :: p)

/-- The digits of an exponent behind its sign. -/
def exponentDigits (minus : Bool) (s : List Char) : Step (Option (Bool × List Char)) :=
  after (fun ds t => .ok (some (minus, ds), t)) (digits s)

theorem exists_digit_of_exponent {minus : Bool} {s : List Char}
    {r : Option (Bool × List Char) × List Char} (h : exponentDigits minus s = .ok r) :
    ∃ c ∈ s.head?, c.isDigit = true := by
  cases hs : digits s with
  | error e =>
    rw [exponentDigits, hs] at h
    cases h
  | ok r' =>
    obtain ⟨rfl, hds⟩ := digits_sound hs
    obtain ⟨d, ds, hd, hdigit⟩ := hds.exists_cons
    exact ⟨d, by simp [hd], hdigit⟩

theorem exponentPart_cons {c : Char} (hc : c = 'e' ∨ c = 'E') (s : List Char) :
    exponentPart (c :: s) = exponentDigits (exponentSign s).1 (exponentSign s).2 := by
  simp only [exponentPart, if_pos hc, exponentDigits]
  cases digits (exponentSign s).2 <;> rfl

theorem exponentSign_cons {c : Char} (hplus : c ≠ '+') (hminus : c ≠ '-') (s : List Char) :
    exponentSign (c :: s) = (false, c :: s) := by
  simp [exponentSign, hplus, hminus]

theorem trails_exponentDigits (minus : Bool) (p u : List Char) :
    Trails p u (exponentDigits minus p) (exponentDigits minus (p ++ u)) := by
  refine (trails_digits p u).after ?_ (fun ds t _ => .done _ t) fun ds _ => ⟨_, rfl⟩
  intro ds t hs
  obtain ⟨rfl, hds⟩ := digits_sound hs
  exact ⟨ds, rfl, hds.numeric⟩

/-- The part of an exponent behind its letter. -/
theorem trails_exponentSign (p u : List Char) :
    Trails p u (exponentDigits (exponentSign p).1 (exponentSign p).2)
      (exponentDigits (exponentSign (p ++ u)).1 (exponentSign (p ++ u)).2) := by
  rcases p with _ | ⟨c, p⟩
  · refine .waiting _ (by simp) ?_
    intro r hr
    rcases u with _ | ⟨d, u⟩
    · cases hr
    by_cases hplus : d = '+'
    · exact ⟨d, rfl, by simp [hplus, isNumeric]⟩
    by_cases hminus : d = '-'
    · exact ⟨d, rfl, by simp [hminus, isNumeric]⟩
    rw [List.nil_append, exponentSign_cons hplus hminus] at hr
    obtain ⟨d', hd', hdigit⟩ := exists_digit_of_exponent hr
    exact ⟨d', hd', isNumeric_of_isDigit hdigit⟩
  by_cases hplus : c = '+'
  · subst hplus
    have hsign : ∀ d ∈ ['+'], isNumeric d = true := List.forall_mem_singleton.2 (by decide)
    exact (trails_exponentDigits false p u).append hsign
  by_cases hminus : c = '-'
  · subst hminus
    have hsign : ∀ d ∈ ['-'], isNumeric d = true := List.forall_mem_singleton.2 (by decide)
    exact (trails_exponentDigits true p u).append hsign
  rw [List.cons_append, exponentSign_cons hplus hminus, exponentSign_cons hplus hminus]
  exact trails_exponentDigits false (c :: p) u

theorem trails_exponentPart (p u : List Char) :
    Trails p u (exponentPart p) (exponentPart (p ++ u)) := by
  rcases p with _ | ⟨c, p⟩
  · by_cases hu : Ends u
    · have hpart : exponentPart u = .ok (none, u) := exponentPart_complete .none hu
      rw [List.nil_append, hpart]
      exact .done none []
    · exact .within none _ hu
  by_cases hc : c = 'e' ∨ c = 'E'
  · have hletter : ∀ d ∈ [c], isNumeric d = true := by
      refine List.forall_mem_singleton.2 ?_
      rcases hc with rfl | rfl <;> decide
    rw [List.cons_append, exponentPart_cons hc, exponentPart_cons hc]
    exact (trails_exponentSign p u).append hletter
  · have hpart (s : List Char) : exponentPart (c :: s) = .ok (none, c :: s) := by
      simp only [exponentPart, if_neg hc]
    rw [List.cons_append, hpart, hpart]
    exact .done none (c :: p)

theorem magnitude_eq (negative : Bool) (s : List Char) :
    magnitude negative s = after (fun whole s => after (fun fraction s =>
      after (fun exponent s => .ok (⟨negative, whole, fraction, exponent⟩, s)) (exponentPart s))
      (fractionPart s)) (wholePart s) := by
  rw [magnitude]
  cases wholePart s with
  | error e => rfl
  | ok r =>
    simp only [after]
    cases fractionPart r.2 with
    | error e => rfl
    | ok r =>
      simp only
      cases exponentPart r.2 <;> rfl

theorem trails_magnitude (negative : Bool) (p u : List Char) :
    Trails p u (magnitude negative p) (magnitude negative (p ++ u)) := by
  rw [magnitude_eq, magnitude_eq]
  refine (trails_wholePart p u).after ?_ (fun whole t _ => ?_) fun whole _ => ⟨_, rfl⟩
  · intro whole t hs
    obtain ⟨rfl, hds, -⟩ := wholePart_sound hs
    exact ⟨whole, rfl, hds.numeric⟩
  refine (trails_fractionPart t u).after ?_ (fun fraction t _ => ?_) fun fraction _ => ⟨_, rfl⟩
  · intro fraction t hs
    obtain ⟨f, rfl, hf⟩ := fractionPart_sound hs
    exact ⟨f, rfl, hf.numeric⟩
  refine (trails_exponentPart t u).after ?_ (fun exponent t _ => .done _ t)
    fun exponent _ => ⟨_, rfl⟩
  intro exponent t hs
  obtain ⟨e, rfl, he⟩ := exponentPart_sound hs
  exact ⟨e, rfl, he.numeric⟩

theorem trails_scan (p u : List Char) : Trails p u (scan p) (scan (p ++ u)) := by
  rcases p with _ | ⟨c, p⟩
  · refine .waiting _ (by simp) ?_
    rintro ⟨n, t⟩ hs
    obtain ⟨w, rfl, hw⟩ := scan_sound hs
    obtain ⟨c, w, rfl, -⟩ := hw.begins
    exact ⟨c, rfl, hw.numeric c List.mem_cons_self⟩
  by_cases hc : c = '-'
  · subst hc
    have hsign : ∀ d ∈ ['-'], isNumeric d = true := List.forall_mem_singleton.2 (by decide)
    exact (trails_magnitude true p u).append hsign
  · have hscan (s : List Char) : scan (c :: s) = magnitude false (c :: s) := by
      simp [scan, hc]
    rw [List.cons_append, hscan, hscan]
    exact trails_magnitude false (c :: p) u

/-! ### Integers that are cut off -/

theorem le_of_absorb {n k : Nat} {ds : List Char} (h : absorb n ds = (k, [])) : n ≤ k := by
  induction ds generalizing n with
  | nil =>
    cases h
    exact Nat.le_refl _
  | cons d ds ih =>
    rw [absorb] at h
    split at h
    · have := ih h
      omega
    · cases h

/-- The first digits of an integer that fits 64 bits are one that is no greater. -/
theorem exists_absorb_of_append {n k : Nat} {ds es : List Char}
    (h : absorb n (ds ++ es) = (k, [])) : ∃ j ≤ k, absorb n ds = (j, []) := by
  induction ds generalizing n with
  | nil => exact ⟨n, le_of_absorb h, rfl⟩
  | cons d ds ih =>
    rw [List.cons_append, absorb] at h
    split at h
    · rename_i hd
      obtain ⟨j, hj, hds⟩ := ih h
      exact ⟨j, hj, by rw [absorb, if_pos hd, hds]⟩
    · cases h

theorem wholePart_eq_ok {s t ds : List Char} (h : wholePart s = .ok (ds, t)) :
    ds = s.takeWhile Char.isDigit ∧ t = s.dropWhile Char.isDigit := by
  rw [wholePart] at h
  split at h
  · cases h
  · cases h
  · rename_i hs
    cases h
    exact (digits_eq_ok hs).2

theorem negative_of_scan {s t : List Char} {n : Numeral} (h : scan s = .ok (n, t)) :
    n.negative = (s.head? == some '-') := by
  rw [scan.eq_def] at h
  split at h
  · obtain ⟨_, -, hn, -⟩ := magnitude_sound h
    exact hn
  · rename_i s hminus
    obtain ⟨_, -, hn, -⟩ := magnitude_sound h
    rw [hn, eq_comm, beq_eq_false_iff_ne]
    intro hs
    obtain ⟨u, rfl⟩ := List.head?_eq_some_iff.1 hs
    exact hminus u rfl

theorem parts_of_scan {s t : List Char} {n : Numeral} (h : scan s = .ok (n, t))
    (hn : n.negative = false) : ∃ s₁ s₂, wholePart s = .ok (n.whole, s₁) ∧
      fractionPart s₁ = .ok (n.fraction, s₂) ∧ exponentPart s₂ = .ok (n.exponent, t) := by
  rw [scan.eq_def] at h
  split at h
  · obtain ⟨_, -, htrue, -⟩ := magnitude_sound h
    rw [hn] at htrue
    cases htrue
  · rw [magnitude] at h
    split at h
    · cases h
    · rename_i hwhole
      split at h
      · cases h
      · rename_i hfraction
        split at h
        · cases h
        · rename_i hexponent
          cases h
          exact ⟨_, _, hwhole, hfraction, hexponent⟩

/-- A number without a point and an exponent ends in front of any other character. -/
theorem parts_of_none {c : Char} {s t u v : List Char}
    (hfraction : fractionPart (c :: s) = .ok ([], u)) (hexponent : exponentPart u = .ok (none, v)) :
    fractionPart (c :: t) = .ok ([], c :: t) ∧ exponentPart (c :: t) = .ok (none, c :: t) := by
  have hpoint : c ≠ '.' := by
    rintro rfl
    exact (digits_sound hfraction).2.1 rfl
  have hpart (s : List Char) : fractionPart (c :: s) = .ok ([], c :: s) := by
    simp [fractionPart, hpoint]
  rw [hpart] at hfraction
  cases hfraction
  have hletter : ¬(c = 'e' ∨ c = 'E') := by
    intro hc
    rw [exponentPart_cons hc, exponentDigits] at hexponent
    cases hs : digits (exponentSign s).2 <;> simp [hs, after] at hexponent
  exact ⟨hpart t, by simp only [exponentPart, if_neg hletter]⟩

/-- What is read of an integer that is cut off, if it can be read as a number, is an integer that is
no greater. -/
theorem exists_natural_of_cut {p u t : List Char} {n n' : Numeral} {k : Nat}
    (hp : scan p = .ok (n, [])) (hpu : scan (p ++ u) = .ok (n', t))
    (hk : n'.number? = some (.natural k)) : ∃ j ≤ k, n.number? = some (.natural j) := by
  obtain ⟨hnegative', hfraction', hexponent', habsorb⟩ := number?_eq_natural_iff.1 hk
  have hnegative : n.negative = false := by
    rcases p with _ | ⟨c, p⟩
    · cases hp
    · rw [negative_of_scan hp, ← hnegative', negative_of_scan hpu]
      rfl
  obtain ⟨s₁, s₂, hwhole, hfraction, hexponent⟩ := parts_of_scan hp hnegative
  obtain ⟨s₁', s₂', hwhole', hpart, hpart'⟩ := parts_of_scan hpu hnegative'
  rw [hfraction'] at hpart
  rw [hexponent'] at hpart'
  obtain ⟨htake', hdrop'⟩ := wholePart_eq_ok hwhole'
  obtain ⟨-, hdrop⟩ := wholePart_eq_ok hwhole
  rcases s₁ with _ | ⟨d, s₁⟩
  · obtain ⟨rfl, hdigits, -⟩ := wholePart_sound hwhole
    rw [List.append_nil, List.takeWhile_append_of_pos hdigits.2] at htake'
    rw [htake'] at habsorb
    obtain ⟨j, hj, habsorb⟩ := exists_absorb_of_append habsorb
    have hn : n.fraction = [] ∧ s₂ = [] := by simpa [fractionPart, eq_comm] using hfraction
    have hn' : n.exponent = none := by simpa [hn.2, exponentPart, eq_comm] using hexponent
    exact ⟨j, hj, number?_eq_natural_iff.2 ⟨hnegative, hn.1, hn', habsorb⟩⟩
  · -- the digits end before the cut, and no point and no exponent follows
    rw [List.dropWhile_append, ← hdrop] at hdrop'
    rw [hdrop'] at hpart
    obtain ⟨hfraction₁, hexponent₁⟩ := parts_of_none (t := s₁) hpart hpart'
    simp only [hfraction₁, Except.ok.injEq, Prod.mk.injEq] at hfraction
    rw [← hfraction.2, hexponent₁] at hexponent
    simp at hexponent

end Numeral

namespace Number

/-- What may be read of a number that is cut off: of an integer an integer that is no greater. -/
def Cut (k : Number) (y : Step Number) : Prop :=
  ∀ n t, y = .ok (.natural n, t) → ∃ j ≤ n, k = .natural j

/-- The number that a numeral is. -/
def ofNumeral (n : Numeral) (t : List Char) : Step Number :=
  match n.number? with
  | some k => .ok (k, t)
  | none => .error .malformed

theorem scan_eq (s : List Char) : scan s = after ofNumeral (Numeral.scan s) := by
  rw [scan]
  cases Numeral.scan s <;> rfl

theorem ofNumeral_eq_ok_iff {n : Numeral} {k : Number} {t u : List Char} :
    ofNumeral n t = .ok (k, u) ↔ n.number? = some k ∧ t = u := by
  rw [ofNumeral]
  cases n.number? <;> simp

theorem partway_scan {q : List Char} (hq : Balanced q) {p : List Char} (hp : p ≠ [])
    (u : List Char) : Partway Cut (q ++ p) u (scan p) (scan (p ++ u)) := by
  have htrails := Numeral.trails_scan p u
  rw [scan_eq, scan_eq]
  generalize hx : Numeral.scan p = x at htrails
  generalize hy : Numeral.scan (p ++ u) = y at htrails
  cases htrails with
  | refused e e' => exact .follows (.refused e e')
  | waiting y _ _ => exact .follows (.waiting _)
  | done n t =>
    simp only [after, ofNumeral]
    cases n.number? with
    | none => exact .follows (.refused _ _)
    | some k => exact .follows (.done k t)
  | within n y hu =>
    obtain ⟨w, hw, htext⟩ := Numeral.scan_sound hx
    rw [List.append_nil] at hw
    have hin : InNumber (q ++ p) u :=
      inNumber_of_numeric hq hp (hw ▸ htext.numeric) (exists_numeric_of_not_ends hu)
    cases hn : n.number? with
    | none =>
      simp only [after, ofNumeral, hn]
      exact .malformed hin
    | some k =>
      simp only [after, ofNumeral, hn]
      refine .within hin ?_
      intro m t hm
      cases y with
      | error e => cases hm
      | ok r =>
        obtain ⟨hm, -⟩ := ofNumeral_eq_ok_iff.1 hm
        obtain ⟨j, hj, hnj⟩ := Numeral.exists_natural_of_cut hx hy hm
        exact ⟨j, hj, Option.some.inj (hn.symm.trans hnj)⟩

/-- A number that nobody asks for is refused where it is cut off behind a character that is no
digit. -/
theorem partway_pass (a : α) {q : List Char} (hq : Balanced q) {p : List Char} (hp : p ≠ [])
    (u : List Char) :
    Partway (fun b _ => b = a) (q ++ p) u ((pass p).map (a, ·)) ((pass (p ++ u)).map (a, ·)) := by
  have htrails := Numeral.trails_scan p u
  rw [pass, pass]
  generalize hx : Numeral.scan p = x at htrails
  generalize Numeral.scan (p ++ u) = y at htrails
  cases htrails with
  | refused e e' => exact .follows (.refused _ _)
  | done n t => exact .follows (.done a t)
  | waiting y hnumeric hu =>
    cases y with
    | error e => exact .follows (.refused _ _)
    | ok r => exact .malformed (inNumber_of_numeric hq hp hnumeric (hu r rfl))
  | within n y hu =>
    obtain ⟨w, hw, htext⟩ := Numeral.scan_sound hx
    rw [List.append_nil] at hw
    have hin : InNumber (q ++ p) u :=
      inNumber_of_numeric hq hp (hw ▸ htext.numeric) (exists_numeric_of_not_ends hu)
    exact .within hin rfl

end Number

end SlideGraph.Json
