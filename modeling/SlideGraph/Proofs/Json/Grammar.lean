import Mathlib.Data.List.TakeWhile
import Mathlib.Tactic.Common
import SlideGraph.Json.Quoted
import SlideGraph.Json.Number

/-!
# The grammar of JSON

What a JSON text is, apart from any reader. A text is a sequence of tokens with blanks between
them, and the tokens are those of a `Tree`. The tree keeps how its strings and numbers are
written, so that a string without characters, such as half of a surrogate pair, is part of the
grammar too.
-/

namespace SlideGraph.Json

/-! ### Strings -/

/-- A hexadecimal digit with its value. -/
structure HexDigit where
  char : Char
  value : Nat
  valid : Quoted.hexDigit? char = some value

/-- How one place of a string is written. -/
inductive Piece
  /-- A character that stands for itself. -/
  | plain (c : Char) (valid : ' ' ≤ c ∧ c ≠ '"' ∧ c ≠ '\\')
  /-- A backslash and the letter of an escape. -/
  | short (letter meaning : Char) (valid : Quoted.shortEscape? letter = some meaning)
  /-- A backslash, the letter `u` and four digits. -/
  | code (a b c d : HexDigit)

namespace Piece

/-- The characters that a piece is written with. -/
def chars : Piece → List Char
  | plain c _ => [c]
  | short letter _ _ => ['\\', letter]
  | code a b c d => ['\\', 'u', a.char, b.char, c.char, d.char]

/-- The number that four digits give. -/
def codeOf (a b c d : HexDigit) : Nat :=
  ((a.value * 16 + b.value) * 16 + c.value) * 16 + d.value

/-- No piece is written like the end of the string. -/
theorem head?_chars_append (p : Piece) (s : List Char) : (p.chars ++ s).head? ≠ some '"' := by
  cases p with
  | plain c valid => simpa [chars] using valid.2.1
  | short letter meaning valid => simp [chars]
  | code a b c d => simp [chars]

end Piece

/-- A string as it is written, without its quotes. -/
abbrev Literal := List Piece

namespace Literal

/-- The characters between the quotes. -/
def inner (l : Literal) : List Char := l.flatMap Piece.chars

@[simp] theorem inner_nil : inner [] = [] := rfl

@[simp] theorem inner_cons (p : Piece) (l : Literal) : inner (p :: l) = p.chars ++ inner l := rfl

@[simp] theorem inner_append (l m : Literal) : inner (l ++ m) = inner l ++ inner m :=
  List.flatMap_append

/-- The token of a string. -/
def token (l : Literal) : List Char := '"' :: (l.inner ++ ['"'])

/-- The characters that a string stands for. The two halves of a surrogate pair make one
character, and a half without the other makes none. -/
def denote? : Literal → Option (List Char)
  | [] => some []
  | .plain c _ :: l => (denote? l).map (c :: ·)
  | .short _ c _ :: l => (denote? l).map (c :: ·)
  | .code a b c d :: l =>
    if Quoted.isTrailing (Piece.codeOf a b c d) then none
    else if Quoted.isLeading (Piece.codeOf a b c d) then
      match l with
      | .code a' b' c' d' :: l =>
        if Quoted.isTrailing (Piece.codeOf a' b' c' d') then
          (denote? l).map (Char.ofNat
            (Quoted.joinSurrogates (Piece.codeOf a b c d) (Piece.codeOf a' b' c' d')) :: ·)
        else none
      | _ => none
    else (denote? l).map (Char.ofNat (Piece.codeOf a b c d) :: ·)

section

open Quoted Piece

variable {a b c d a' b' c' d' : HexDigit} {l : Literal}

theorem denote?_code (htrail : isTrailing (codeOf a b c d) = false)
    (hlead : isLeading (codeOf a b c d) = false) :
    denote? (.code a b c d :: l) = (denote? l).map (Char.ofNat (codeOf a b c d) :: ·) := by
  rw [denote?.eq_def]
  simp only [htrail, hlead, Bool.false_eq_true, if_false]

theorem denote?_pair (htrail : isTrailing (codeOf a b c d) = false)
    (hlead : isLeading (codeOf a b c d) = true)
    (hpair : isTrailing (codeOf a' b' c' d') = true) :
    denote? (.code a b c d :: .code a' b' c' d' :: l) = (denote? l).map
      (Char.ofNat (joinSurrogates (codeOf a b c d) (codeOf a' b' c' d')) :: ·) := by
  rw [denote?.eq_def]
  simp only [htrail, hlead, hpair, Bool.false_eq_true, if_false, if_true]

end

/-- The string that a literal stands for. -/
def string? (l : Literal) : Option String := l.denote?.map String.ofList

end Literal

/-! ### Numbers -/

/-- Digits, at least one. -/
def IsDigits (ds : List Char) : Prop := ds ≠ [] ∧ ∀ d ∈ ds, d.isDigit

theorem IsDigits.exists_cons {ds : List Char} (h : IsDigits ds) :
    ∃ d ds', ds = d :: ds' ∧ d.isDigit = true := by
  obtain ⟨d, ds', rfl⟩ := List.exists_cons_of_ne_nil h.1
  exact ⟨d, ds', rfl, h.2 d List.mem_cons_self⟩

namespace Numeral

/-- The point and the digits after it are written as `s`. -/
inductive FractionText : List Char → List Char → Prop
  | none : FractionText [] []
  | some {ds} : IsDigits ds → FractionText ds ('.' :: ds)

/-- The exponent is written as `s`. -/
inductive ExponentText : Option (Bool × List Char) → List Char → Prop
  | none : ExponentText none []
  | bare {c ds} : c = 'e' ∨ c = 'E' → IsDigits ds → ExponentText (some (false, ds)) (c :: ds)
  | plus {c ds} :
    c = 'e' ∨ c = 'E' → IsDigits ds → ExponentText (some (false, ds)) (c :: '+' :: ds)
  | minus {c ds} :
    c = 'e' ∨ c = 'E' → IsDigits ds → ExponentText (some (true, ds)) (c :: '-' :: ds)

/-- The sign in front of a number. -/
def sign (n : Numeral) : List Char := if n.negative then ['-'] else []

/-- The numeral is written as `s`. Before the point a zero stands alone. -/
def Text (n : Numeral) (s : List Char) : Prop :=
  IsDigits n.whole ∧ (n.whole.head? = some '0' → n.whole = ['0']) ∧
    ∃ f e, FractionText n.fraction f ∧ ExponentText n.exponent e ∧
      s = n.sign ++ (n.whole ++ (f ++ e))

end Numeral

/-! ### Trees -/

/-- A value that is a single token. -/
inductive Scalar
  | null
  | bool (b : Bool)
  | number (n : Numeral) (text : List Char) (valid : n.Text text)
  | string (l : Literal)

/-- A value as it is written, blanks apart. -/
inductive Tree
  | scalar (x : Scalar)
  | array (items : List Tree)
  | object (members : List (Literal × Tree))

/-- The characters of a token. -/
abbrev Token := List Char

/-- The token of a scalar. -/
def Scalar.token : Scalar → Token
  | null => ['n', 'u', 'l', 'l']
  | bool true => ['t', 'r', 'u', 'e']
  | bool false => ['f', 'a', 'l', 's', 'e']
  | number _ text _ => text
  | string l => l.token

/-- The tokens from behind an item to the closing bracket. -/
def behind (close : Char) : List (List Token) → List Token
  | [] => [[close]]
  | p :: ps => [','] :: (p ++ behind close ps)

/-- The tokens from behind the opening bracket to the closing one, of items with the given
tokens. -/
def enclosed (close : Char) : List (List Token) → List Token
  | [] => [[close]]
  | p :: ps => p ++ behind close ps

namespace Tree

/-- The tokens of a value. -/
def tokens : Tree → List Token
  | scalar x => [x.token]
  | array vs => ['['] :: enclosed ']' (vs.map tokens)
  | object ms => ['{'] :: enclosed '}' (ms.map fun m => m.1.token :: [':'] :: tokens m.2)
decreasing_by
  · have := List.sizeOf_lt_of_mem ‹_›; simp only [array.sizeOf_spec]; omega
  · obtain ⟨k, v⟩ := m
    have := List.sizeOf_lt_of_mem ‹_ ∈ ms›
    simp only [Prod.mk.sizeOf_spec, object.sizeOf_spec] at *
    omega

/-- The tokens of a member of an object. -/
def memberTokens (m : Literal × Tree) : List Token := m.1.token :: [':'] :: m.2.tokens

@[simp] theorem tokens_scalar (x : Scalar) : (scalar x).tokens = [x.token] := by simp [tokens]

@[simp] theorem tokens_array (vs : List Tree) :
    (array vs).tokens = ['['] :: enclosed ']' (vs.map tokens) := by simp [tokens]

@[simp] theorem tokens_object (ms : List (Literal × Tree)) :
    (object ms).tokens = ['{'] :: enclosed '}' (ms.map memberTokens) := by
  simp only [tokens, List.cons.injEq, true_and]
  rfl

end Tree

/-! ### Blanks between tokens -/

/-- Characters that may stand between tokens. -/
def Blanks (s : List Char) : Prop := ∀ c ∈ s, isBlank c = true

instance (s : List Char) : Decidable (Blanks s) :=
  List.decidableBAll (fun c => isBlank c = true) s

theorem dropBlanks_append {bs : List Char} (h : Blanks bs) (s : List Char) :
    dropBlanks (bs ++ s) = dropBlanks s :=
  List.dropWhile_append_of_pos h

theorem dropBlanks_cons {c : Char} (h : isBlank c = false) (s : List Char) :
    dropBlanks (c :: s) = c :: s := by
  simp [dropBlanks, h]

theorem exists_blanks (s : List Char) : ∃ bs, Blanks bs ∧ s = bs ++ dropBlanks s := by
  refine ⟨s.takeWhile isBlank, ?_, List.takeWhile_append_dropWhile.symm⟩
  intro c hc
  exact List.mem_takeWhile_imp hc

theorem exists_blanks_cons {c : Char} {s t : List Char} (h : dropBlanks s = c :: t) :
    ∃ bs, Blanks bs ∧ s = bs ++ c :: t := by
  obtain ⟨bs, hbs, hs⟩ := exists_blanks s
  rw [h] at hs
  exact ⟨bs, hbs, hs⟩

theorem isEmpty_dropBlanks_iff {s : List Char} : (dropBlanks s).isEmpty ↔ Blanks s := by
  rw [List.isEmpty_iff, dropBlanks, List.dropWhile_eq_nil_iff]
  rfl

/-- The text `s` has the given tokens, each of them behind any blanks. -/
inductive Spaced : List Token → List Char → Prop
  | nil : Spaced [] []
  | cons {bs : List Char} {x : Token} {xs : List Token} {s : List Char} :
    Blanks bs → Spaced xs s → Spaced (x :: xs) (bs ++ (x ++ s))

/-- The text `s` is the value `v`, with any blanks between its tokens and around it. -/
def Tree.IsDocument (v : Tree) (s : List Char) : Prop :=
  ∃ w bs, s = w ++ bs ∧ Spaced v.tokens w ∧ Blanks bs

theorem spaced_nil_iff {w : List Char} : Spaced [] w ↔ w = [] := by
  constructor
  · rintro ⟨⟩
    rfl
  · rintro rfl
    exact .nil

theorem spaced_cons_iff {x : Token} {xs : List Token} {w : List Char} :
    Spaced (x :: xs) w ↔ ∃ bs s, w = bs ++ (x ++ s) ∧ Blanks bs ∧ Spaced xs s := by
  constructor
  · rintro (_ | ⟨hbs, hs⟩)
    exact ⟨_, _, rfl, hbs, hs⟩
  · rintro ⟨bs, s, rfl, hbs, hs⟩
    exact .cons hbs hs

/-- A token at the front of a text. -/
theorem Spaced.token (x : Token) {xs : List Token} {s : List Char} (h : Spaced xs s) :
    Spaced (x :: xs) (x ++ s) := by
  have hbs : Blanks [] := by simp [Blanks]
  exact .cons hbs h

theorem spaced_append_iff {xs ys : List Token} {w : List Char} :
    Spaced (xs ++ ys) w ↔ ∃ u v, w = u ++ v ∧ Spaced xs u ∧ Spaced ys v := by
  induction xs generalizing w with
  | nil => simp [spaced_nil_iff]
  | cons x xs ih =>
    rw [List.cons_append, spaced_cons_iff]
    constructor
    · rintro ⟨bs, s, rfl, hbs, hs⟩
      obtain ⟨u, v, rfl, hu, hv⟩ := ih.1 hs
      exact ⟨bs ++ (x ++ u), v, by simp, .cons hbs hu, hv⟩
    · rintro ⟨u, v, rfl, hu, hv⟩
      obtain ⟨bs, s, rfl, hbs, hs⟩ := spaced_cons_iff.1 hu
      exact ⟨bs, s ++ v, by simp, hbs, ih.2 ⟨s, v, rfl, hs, hv⟩⟩

/-- More blanks may stand in front of a token. -/
theorem Spaced.blanks {bs w : List Char} {x : Token} {xs : List Token} (hbs : Blanks bs)
    (h : Spaced (x :: xs) w) : Spaced (x :: xs) (bs ++ w) := by
  obtain ⟨bs', s, rfl, hbs', hs⟩ := spaced_cons_iff.1 h
  rw [← List.append_assoc]
  refine .cons ?_ hs
  intro c hc
  rcases List.mem_append.1 hc with hc | hc
  · exact hbs c hc
  · exact hbs' c hc

/-- The text of some of the tokens is no longer than the text of all. -/
theorem Spaced.sublist {xs ys : List Token} {w : List Char} (hxs : xs.Sublist ys)
    (h : Spaced ys w) : ∃ u, u.length ≤ w.length ∧ Spaced xs u := by
  induction hxs generalizing w with
  | slnil => exact ⟨w, Nat.le_refl _, h⟩
  | cons y _ ih =>
    obtain ⟨bs, s, rfl, -, hs⟩ := spaced_cons_iff.1 h
    obtain ⟨u, hu, hxs⟩ := ih hs
    refine ⟨u, ?_, hxs⟩
    simp only [List.length_append]
    omega
  | cons_cons y _ ih =>
    obtain ⟨bs, s, rfl, -, hs⟩ := spaced_cons_iff.1 h
    obtain ⟨u, hu, hxs⟩ := ih hs
    refine ⟨y ++ u, ?_, .token y hxs⟩
    simp only [List.length_append]
    omega

/-! ### The front of a text -/

/-- The character does not go on with a number. -/
def Stops (c : Char) : Prop := c.isDigit = false ∧ c ≠ '.' ∧ c ≠ 'e' ∧ c ≠ 'E'

/-- The text does not go on with a number. -/
def Ends (t : List Char) : Prop := ∀ c ∈ t.head?, Stops c

theorem ends_of_blanks {bs : List Char} (h : Blanks bs) : Ends bs := by
  intro c hc
  have hblank := h c (List.mem_of_mem_head? hc)
  simp only [isBlank, Bool.or_eq_true, beq_iff_eq] at hblank
  rcases hblank with ((rfl | rfl) | rfl) | rfl <;> simp [Stops]

/-- The first token begins with a character, no blank, that has the property. -/
def Begins (p : Char → Prop) (xs : List Token) : Prop :=
  ∃ c x rest, xs = (c :: x) :: rest ∧ isBlank c = false ∧ p c

theorem Begins.mono {p q : Char → Prop} {xs : List Token} (h : Begins p xs)
    (hpq : ∀ c, p c → q c) : Begins q xs := by
  obtain ⟨c, x, rest, rfl, hc, hp⟩ := h
  exact ⟨c, x, rest, rfl, hc, hpq c hp⟩

/-- Without the blanks in front a text begins like its first token. -/
theorem Begins.dropBlanks {p : Char → Prop} {xs : List Token} {w : List Char} (hxs : Begins p xs)
    (h : Spaced xs w) (t : List Char) :
    ∃ c s, dropBlanks (w ++ t) = c :: s ++ t ∧ p c ∧ Spaced xs (c :: s) := by
  obtain ⟨c, x, rest, rfl, hc, hp⟩ := hxs
  obtain ⟨bs, s, rfl, hbs, hs⟩ := spaced_cons_iff.1 h
  refine ⟨c, x ++ s, ?_, hp, .token (c :: x) hs⟩
  simp [dropBlanks_append hbs, dropBlanks_cons hc]

/-- A number ends in front of a token that does not go on with it. -/
theorem Begins.ends {xs : List Token} {w : List Char} (hxs : Begins Stops xs) (h : Spaced xs w)
    (t : List Char) : Ends (w ++ t) := by
  obtain ⟨c, x, rest, rfl, hc, hp⟩ := hxs
  obtain ⟨bs, s, rfl, hbs, -⟩ := spaced_cons_iff.1 h
  cases bs with
  | nil =>
    rintro d hd
    simp only [List.nil_append, List.cons_append, List.head?_cons, Option.mem_some_iff] at hd
    exact hd ▸ hp
  | cons b bs =>
    rintro d hd
    have hb : Ends [b] := ends_of_blanks fun c hc => hbs c (by simp_all)
    simp only [List.cons_append, List.head?_cons, Option.mem_some_iff] at hd
    exact hb d (by simp [hd])

/-! ### The front of a value -/

theorem isBlank_of_isDigit {c : Char} (h : c.isDigit = true) : isBlank c = false := by
  by_contra hc
  simp only [isBlank, Bool.not_eq_false, Bool.or_eq_true, beq_iff_eq] at hc
  rcases hc with ((rfl | rfl) | rfl) | rfl <;> revert h <;> decide

/-- The character may be the first one of the scalar. -/
def Scalar.Starts : Scalar → Char → Prop
  | null, c => c = 'n'
  | bool _, c => c = 't' ∨ c = 'f'
  | number .., c => c = '-' ∨ c.isDigit = true
  | string _, c => c = '"'

/-- The character may be the first one of the value. -/
def Tree.Starts : Tree → Char → Prop
  | scalar x, c => x.Starts c
  | array _, c => c = '['
  | object _, c => c = '{'

theorem Numeral.Text.begins {n : Numeral} {s : List Char} (h : n.Text s) :
    ∃ c t, s = c :: t ∧ (c = '-' ∨ c.isDigit = true) := by
  obtain ⟨hdigits, -, f, e, -, -, rfl⟩ := h
  rw [sign]
  split
  · exact ⟨'-', _, rfl, .inl rfl⟩
  · obtain ⟨c, ds, hw, hc⟩ := hdigits.exists_cons
    exact ⟨c, ds ++ (f ++ e), by simp [hw], .inr hc⟩

theorem Scalar.begins (x : Scalar) : Begins x.Starts [x.token] := by
  cases x with
  | null => exact ⟨'n', _, [], rfl, by decide, rfl⟩
  | bool b =>
    cases b with
    | true => exact ⟨'t', _, [], rfl, by decide, .inl rfl⟩
    | false => exact ⟨'f', _, [], rfl, by decide, .inr rfl⟩
  | number n text valid =>
    obtain ⟨c, t, rfl, hc⟩ := valid.begins
    refine ⟨c, t, [], rfl, ?_, hc⟩
    rcases hc with rfl | hc
    · decide
    · exact isBlank_of_isDigit hc
  | string l => exact ⟨'"', _, [], rfl, by decide, rfl⟩

theorem Tree.begins (v : Tree) : Begins v.Starts v.tokens := by
  cases v with
  | scalar x =>
    rw [tokens_scalar]
    exact x.begins
  | array vs => exact ⟨'[', [], _, tokens_array vs, by decide, rfl⟩
  | object ms => exact ⟨'{', [], _, tokens_object ms, by decide, rfl⟩

/-- No value starts with a closing bracket. -/
theorem Tree.Starts.ne {v : Tree} {c : Char} (h : v.Starts c) : c ≠ ']' ∧ c ≠ '}' := by
  constructor <;> rintro rfl
  all_goals
    cases v with
    | scalar x => cases x <;> simp [Starts, Scalar.Starts] at h
    | array vs => simp [Starts] at h
    | object ms => simp [Starts] at h

/-! ### Nesting -/

/-- At most `depth` brackets of the value are open at a time. -/
def Tree.within : Nat → Tree → Bool
  | _, scalar _ => true
  | 0, _ => false
  | depth + 1, array vs => vs.all (within depth)
  | depth + 1, object ms => ms.all fun m => within depth m.2

theorem sublist_enclosed {close : Char} {ps : List (List Token)} {p : List Token} (h : p ∈ ps) :
    p.Sublist (enclosed close ps) := by
  have behind {ps : List (List Token)} (h : p ∈ ps) : p.Sublist (behind close ps) := by
    induction ps with
    | nil => simp at h
    | cons q ps ih =>
      refine .cons _ ?_
      rcases List.mem_cons.1 h with rfl | h
      · exact List.sublist_append_left _ _
      · exact (ih h).trans (List.sublist_append_right _ _)
  cases ps with
  | nil => simp at h
  | cons q ps =>
    rcases List.mem_cons.1 h with rfl | h
    · exact List.sublist_append_left _ _
    · exact (behind h).trans (List.sublist_append_right _ _)

/-- A value has no more brackets than its text has characters. -/
theorem Spaced.within {depth : Nat} {v : Tree} {w : List Char} (h : Spaced v.tokens w)
    (hdepth : w.length ≤ depth) : v.within depth = true := by
  induction depth generalizing v w with
  | zero =>
    cases v with
    | scalar x => rfl
    | array vs =>
      rw [Tree.tokens_array] at h
      obtain ⟨bs, s, rfl, -, -⟩ := spaced_cons_iff.1 h
      simp at hdepth
    | object ms =>
      rw [Tree.tokens_object] at h
      obtain ⟨bs, s, rfl, -, -⟩ := spaced_cons_iff.1 h
      simp at hdepth
  | succ depth ih =>
    cases v with
    | scalar x => rfl
    | array vs =>
      rw [Tree.tokens_array] at h
      obtain ⟨bs, s, rfl, -, hs⟩ := spaced_cons_iff.1 h
      rw [Tree.within, List.all_eq_true]
      intro v hv
      obtain ⟨u, hu, hv⟩ := hs.sublist (sublist_enclosed (List.mem_map_of_mem hv))
      refine ih hv ?_
      simp only [List.length_append, List.length_cons] at hdepth
      omega
    | object ms =>
      rw [Tree.tokens_object] at h
      obtain ⟨bs, s, rfl, -, hs⟩ := spaced_cons_iff.1 h
      rw [Tree.within, List.all_eq_true]
      intro m hm
      have hsub : m.2.tokens.Sublist (Tree.memberTokens m) := .cons _ (.cons _ (.refl _))
      obtain ⟨u, hu, hv⟩ := hs.sublist (hsub.trans (sublist_enclosed (List.mem_map_of_mem hm)))
      refine ih hv ?_
      simp only [List.length_append, List.length_cons] at hdepth
      omega

end SlideGraph.Json
