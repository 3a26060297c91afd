import Mathlib.Tactic.Common
import SlideGraph.Text.Basic
import SlideGraph.Text.Style

/-!
# Styled texts without their styles

A control sequence is an escape character with a bracket, parameters and the letter `m` behind it.
Painting a text that has no escape character in it puts such sequences around it and changes
nothing else, so the text is left when they are removed, and likewise in the middle of others.
-/

namespace SlideGraph.Text

/-! ### Removing control sequences -/

/-- Whether a character may stand in the parameters of a control sequence. -/
def isParameter (c : Char) : Bool := c.isDigit || c = ';'

/-- What stands behind the parameters of a control sequence and their end. -/
def behindParameters? : List Char → Option (List Char)
  | [] => none
  | c :: cs =>
    if c = 'm' then some cs else if isParameter c then behindParameters? cs else none

/-- What stands behind the control sequence with which a text begins. -/
def behindSequence? : List Char → Option (List Char)
  | '\x1b' :: '[' :: cs => behindParameters? cs
  | _ => none

theorem length_behindParameters? {cs rest : List Char} (h : behindParameters? cs = some rest) :
    rest.length < cs.length := by
  induction cs with
  | nil => cases h
  | cons c cs ih =>
    rw [behindParameters?] at h
    rw [List.length_cons]
    split_ifs at h
    · cases h
      exact Nat.lt_succ_self _
    · exact Nat.lt_succ_of_lt (ih h)

theorem length_behindSequence? {cs rest : List Char} (h : behindSequence? cs = some rest) :
    rest.length < cs.length := by
  unfold behindSequence? at h
  split at h
  · have := length_behindParameters? h
    simp only [List.length_cons]
    omega
  · cases h

/-- A text without its control sequences. -/
def strip : List Char → List Char
  | [] => []
  | c :: cs =>
    match h : behindSequence? (c :: cs) with
    | some rest =>
      have := length_behindSequence? h
      strip rest
    | none => c :: strip cs
termination_by cs => cs.length
decreasing_by
  · assumption
  · exact Nat.lt_succ_self _

theorem strip_cons_of_ne {c : Char} (hc : c ≠ '\x1b') (cs : List Char) :
    strip (c :: cs) = c :: strip cs := by
  have hnone : behindSequence? (c :: cs) = none := by
    rw [behindSequence?]
    rintro cs' h
    exact hc (List.cons.inj h).1
  rw [strip]
  split
  · rename_i h
    cases hnone.symm.trans h
  · rfl

/-- What has no escape character in it stays. -/
theorem strip_append_of_not_mem {cs : List Char} (h : '\x1b' ∉ cs) (rest : List Char) :
    strip (cs ++ rest) = cs ++ strip rest := by
  induction cs with
  | nil => rfl
  | cons c cs ih =>
    rw [List.mem_cons, not_or] at h
    rw [List.cons_append, strip_cons_of_ne (Ne.symm h.1), ih h.2, List.cons_append]

theorem behindParameters?_append {cs : List Char} (h : ∀ c ∈ cs, isParameter c = true)
    (rest : List Char) : behindParameters? (cs ++ 'm' :: rest) = some rest := by
  induction cs with
  | nil => rfl
  | cons c cs ih =>
    rw [List.forall_mem_cons] at h
    have hm : c ≠ 'm' := by
      rintro rfl
      exact absurd h.1 (by decide)
    rw [List.cons_append, behindParameters?, if_neg hm, if_pos h.1, ih h.2]

theorem isParameter_of_mem_repr {n : Nat} {c : Char} (h : c ∈ n.repr.toList) :
    isParameter c = true := by
  rw [Nat.toList_repr] at h
  simp [isParameter, Nat.isDigit_of_mem_toDigits (by decide) (by decide) h]

/-- Nothing but parameters stands between the bracket and the end of a sequence. -/
theorem isParameter_of_mem_intersperse {ps : List Nat} {c : Char}
    (h : c ∈ ((ps.map Nat.repr).intersperse ";").flatMap String.toList) : isParameter c = true := by
  induction ps with
  | nil => cases h
  | cons p ps ih =>
    cases ps with
    | nil => exact isParameter_of_mem_repr (by simpa using h)
    | cons q ps =>
      simp only [List.map_cons, List.intersperse_cons_cons, List.flatMap_cons,
        List.mem_append] at h ih
      rcases h with h | h | h
      · exact isParameter_of_mem_repr h
      · obtain rfl : c = ';' := by simpa using h
        rfl
      · exact ih h

/-- A control sequence is removed. -/
theorem strip_sequence (ps : List Nat) (rest : List Char) :
    strip (Style.sequence ps ++ rest) = strip rest := by
  have hbehind : behindSequence? (Style.sequence ps ++ rest) = some rest := by
    simp only [Style.sequence, List.cons_append, List.nil_append, List.append_assoc]
    exact behindParameters?_append (fun c hc => isParameter_of_mem_intersperse hc) rest
  have hcons : ∃ cs, Style.sequence ps ++ rest = '\x1b' :: cs := ⟨_, rfl⟩
  obtain ⟨cs, hcs⟩ := hcons
  rw [hcs] at hbehind ⊢
  rw [strip]
  split
  · rename_i h
    cases hbehind.symm.trans h
    rfl
  · rename_i h
    cases hbehind.symm.trans h

theorem resume_of_not_mem (on : List Char) {cs : List Char} (h : '\x1b' ∉ cs) :
    Style.resume on cs = cs := by
  induction cs with
  | nil => rfl
  | cons c cs ih =>
    rw [List.mem_cons, not_or] at h
    rw [Style.resume, ih h.2]
    rintro cs' hc
    exact absurd hc.symm h.1

/-! ### Texts with and without their styles -/

/-- Without its control sequences a text is another, whatever stands behind it. -/
def Strips (styled plain : String) : Prop :=
  ∀ rest, strip (styled.toList ++ rest) = plain.toList ++ strip rest

theorem Strips.strip_eq {styled plain : String} (h : Strips styled plain) :
    strip styled.toList = plain.toList := by
  have hnil : strip [] = [] := by rw [strip]
  simpa [hnil] using h []

theorem strips_of_not_mem {s : String} (h : '\x1b' ∉ s.toList) : Strips s s :=
  strip_append_of_not_mem h

theorem Strips.append {s t s' t' : String} (h : Strips s t) (h' : Strips s' t') :
    Strips (s ++ s') (t ++ t') := by
  intro rest
  rw [String.toList_append, String.toList_append, List.append_assoc, List.append_assoc, h, h']

/-- What is left of a text is left of it behind another that has no escape character in it. -/
theorem Strips.behind {s t before : String} (h : Strips s t) (hbefore : '\x1b' ∉ before.toList) :
    Strips (before ++ s) (before ++ t) :=
  (strips_of_not_mem hbefore).append h

theorem strips_paint (style : Style) {s : String} (h : '\x1b' ∉ s.toList) :
    Strips (style.paint true s) (style.paint false s) := by
  intro rest
  have hoff : Style.off = Style.sequence [0] := by decide +kernel
  have hpaint : (style.paint true s).toList = style.on ++ (s.toList ++ Style.off) := by
    rw [Style.paint, if_pos rfl, String.toList_ofList, Style.wrap, resume_of_not_mem _ h]
  rw [hpaint, Style.on, List.append_assoc, List.append_assoc, strip_sequence,
    strip_append_of_not_mem h, hoff, strip_sequence]
  rfl

theorem lines_cons (l : String) (ls : List String) : lines (l :: ls) = l ++ "\n" ++ lines ls := by
  rw [lines, lines, List.map_cons, String.join_cons]

theorem lines_append (ls ls' : List String) : lines (ls ++ ls') = lines ls ++ lines ls' := by
  rw [lines, lines, lines, List.map_append, String.join_append]

theorem lines_flatMap {α : Type} (f : α → List String) (as : List α) :
    lines (as.flatMap f) = String.join (as.map fun a => lines (f a)) := by
  induction as with
  | nil => rfl
  | cons a as ih => rw [List.flatMap_cons, lines_append, ih, List.map_cons, String.join_cons]

theorem strips_lines {ss ts : List String} (h : List.Forall₂ Strips ss ts) :
    Strips (lines ss) (lines ts) := by
  induction h with
  | nil => exact fun rest => rfl
  | cons hline _ ih =>
    rw [lines_cons, lines_cons]
    exact (hline.append (strips_of_not_mem (by decide))).append ih

end SlideGraph.Text
