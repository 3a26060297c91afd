import Mathlib.Data.List.TakeWhile
import Mathlib.Tactic.Common
import SlideGraph.Text.Blank

/-!
# The pieces of comma-separated lists

What stands between two commas is a piece with blanks around it, or it is blank altogether. The
pieces are those texts that neither begin nor end with a blank. So a comma cuts a list into two
lists, and pieces that are joined by commas are found again, whatever blanks stand around them.
-/

namespace SlideGraph.Text

/-- A text is cut at a separator as a list is cut. -/
theorem between_eq_splitOn (separator : Char) (cs : List Char) :
    between separator cs = cs.splitOn separator := by
  induction cs with
  | nil => rfl
  | cons c cs ih =>
    rw [between, List.splitOn_cons_eq_if_modifyHead, ← ih]
    simp only [beq_iff_eq]
    split_ifs with hc
    · rfl
    · cases h : between separator cs with
      | nil => exact absurd h (between_ne_nil separator cs)
      | cons piece pieces => rfl

/-- The text neither begins nor ends with a blank. -/
structure Bare (cs : List Char) : Prop where
  head : ∀ c, cs.head? = some c → isBlank c = false
  last : ∀ c, cs.getLast? = some c → isBlank c = false

variable {before cs after : List Char}

theorem dropWhile_append_bare (hbefore : ∀ c ∈ before, isBlank c = true)
    (hhead : ∀ c, cs.head? = some c → isBlank c = false) :
    (before ++ cs).dropWhile isBlank = cs := by
  rw [List.dropWhile_append_of_pos hbefore]
  cases cs with
  | nil => rfl
  | cons c cs => rw [List.dropWhile_cons_of_neg (by simp [hhead c rfl])]

theorem trimEnd_append_bare (hafter : ∀ c ∈ after, isBlank c = true)
    (hlast : ∀ c, cs.getLast? = some c → isBlank c = false) : trimEnd (cs ++ after) = cs := by
  rw [trimEnd, List.reverse_append, dropWhile_append_bare, List.reverse_reverse]
  · simpa using hafter
  · simpa using hlast

theorem trim_of_blank (h : ∀ c ∈ cs, isBlank c = true) : trim cs = [] := by
  rw [trim, List.dropWhile_eq_nil_iff.2 h]
  rfl

/-- The blanks around a text are dropped, and nothing else. -/
theorem trim_append (hbefore : ∀ c ∈ before, isBlank c = true)
    (hafter : ∀ c ∈ after, isBlank c = true) (h : Bare cs) : trim (before ++ cs ++ after) = cs := by
  cases cs with
  | nil =>
    apply trim_of_blank
    simpa using fun c hc => hc.elim (hbefore c) (hafter c)
  | cons c cs =>
    have hhead : ∀ d, (c :: cs ++ after).head? = some d → isBlank d = false := h.head
    rw [trim, List.append_assoc, dropWhile_append_bare hbefore hhead,
      trimEnd_append_bare hafter h.last]

theorem exists_trimEnd (cs : List Char) : ∃ after, (∀ c ∈ after, isBlank c = true) ∧
    cs = trimEnd cs ++ after ∧ ∀ c, (trimEnd cs).getLast? = some c → isBlank c = false := by
  refine ⟨(cs.reverse.takeWhile isBlank).reverse, ?_, ?_, ?_⟩
  · intro c hc
    exact List.mem_takeWhile_imp (List.mem_reverse.1 hc)
  · rw [trimEnd, ← List.reverse_append, List.takeWhile_append_dropWhile, List.reverse_reverse]
  · intro c hc
    rw [trimEnd, List.getLast?_reverse] at hc
    have := List.head?_dropWhile_not isBlank cs.reverse
    rw [hc] at this
    simpa using this

/-- Around what is left of a text there were blanks. -/
theorem exists_trim (cs : List Char) : ∃ before after, (∀ c ∈ before, isBlank c = true) ∧
    (∀ c ∈ after, isBlank c = true) ∧ cs = before ++ trim cs ++ after ∧ Bare (trim cs) := by
  obtain ⟨after, hafter, hcs, hlast⟩ := exists_trimEnd (cs.dropWhile isBlank)
  refine ⟨cs.takeWhile isBlank, after, fun c hc => List.mem_takeWhile_imp hc, hafter, ?_, ?_, hlast⟩
  · rw [trim, List.append_assoc, ← hcs, List.takeWhile_append_dropWhile]
  · intro c hc
    have hhead : (cs.dropWhile isBlank).head? = some c := by
      rw [hcs, List.head?_append, ← trim, hc]
      rfl
    have := List.head?_dropWhile_not isBlank cs
    rw [hhead] at this
    simpa using this

/-! ### Pieces -/

/-- The pieces that stand between commas: what is not blank, without the blanks around it. -/
inductive Pieces : List (List Char) → List String → Prop
  | nil : Pieces [] []
  | blank {raw : List Char} {raws : List (List Char)} {pieces : List String}
      (hraw : ∀ c ∈ raw, isBlank c = true) (h : Pieces raws pieces) : Pieces (raw :: raws) pieces
  | piece {before cs after : List Char} {raws : List (List Char)} {pieces : List String}
      (hbefore : ∀ c ∈ before, isBlank c = true) (hafter : ∀ c ∈ after, isBlank c = true)
      (hne : cs ≠ []) (hbare : Bare cs) (h : Pieces raws pieces) :
      Pieces ((before ++ cs ++ after) :: raws) (String.ofList cs :: pieces)

theorem pieces_iff {raws : List (List Char)} {pieces : List String} :
    Pieces raws pieces ↔
      pieces = ((raws.map trim).filter (!·.isEmpty)).map String.ofList := by
  constructor
  · intro h
    induction h with
    | nil => rfl
    | blank hraw h ih =>
      rw [List.map_cons, trim_of_blank hraw]
      exact ih
    | piece hbefore hafter hne hbare h ih =>
      rw [List.map_cons, trim_append hbefore hafter hbare,
        List.filter_cons_of_pos (by simpa using hne), List.map_cons, ← ih]
  · rintro rfl
    induction raws with
    | nil => exact .nil
    | cons raw raws ih =>
      obtain ⟨before, after, hbefore, hafter, hraw, hbare⟩ := exists_trim raw
      rw [List.map_cons]
      by_cases hne : trim raw = []
      · rw [List.filter_cons_of_neg (by simp [hne])]
        refine .blank ?_ ih
        rw [hraw, hne]
        simpa using fun c hc => hc.elim (hbefore c) (hafter c)
      · rw [List.filter_cons_of_pos (by simpa using hne), List.map_cons]
        nth_rewrite 1 [hraw]
        exact .piece hbefore hafter hne hbare ih

/-- The pieces of a list are those that stand between its commas. -/
theorem splitCommas_iff {s : String} {pieces : List String} :
    Pieces (s.toList.splitOn ',') pieces ↔ pieces = splitCommas s := by
  rw [pieces_iff, splitCommas, Text.pieces, between_eq_splitOn]

/-! ### Joining and cutting -/

/-- The text can be a piece: there is something in it, but no comma, and no blank at its ends. -/
structure IsPiece (s : String) : Prop where
  nonempty : s ≠ ""
  no_comma : ',' ∉ s.toList
  bare : Bare s.toList

/-- The text is the piece with any blanks around it. -/
def Around (piece text : String) : Prop :=
  ∃ before after, (∀ c ∈ before, isBlank c = true) ∧ (∀ c ∈ after, isBlank c = true) ∧
    text.toList = before ++ piece.toList ++ after

theorem separator_notMem_between {separator : Char} {raw : List Char}
    (h : raw ∈ between separator cs) : separator ∉ raw := by
  induction cs generalizing raw with
  | nil => simp_all [between]
  | cons c cs ih =>
    rw [between] at h
    split_ifs at h with hc
    · rcases List.mem_cons.1 h with rfl | h
      · simp
      · exact ih h
    · obtain ⟨first, rest, hcs⟩ := List.exists_cons_of_ne_nil (between_ne_nil separator cs)
      rw [hcs] at h ih
      rcases List.mem_cons.1 h with rfl | h
      · simpa [Ne.symm hc] using ih List.mem_cons_self
      · exact ih (List.mem_cons_of_mem _ h)

theorem isPiece_of_mem {s piece : String} (h : piece ∈ splitCommas s) : IsPiece piece := by
  obtain ⟨cs, hcs, rfl⟩ := List.mem_map.1 h
  obtain ⟨hcs, hne⟩ := List.mem_filter.1 hcs
  obtain ⟨raw, hraw, rfl⟩ := List.mem_map.1 hcs
  obtain ⟨before, after, -, -, heq, hbare⟩ := exists_trim raw
  have hcomma : ',' ∉ trim raw := by
    intro hmem
    apply separator_notMem_between hraw
    rw [heq]
    simp [hmem]
  refine ⟨?_, by simpa using hcomma, by simpa using hbare⟩
  simpa using hne

/-- A comma between two lists makes one list of them. -/
theorem splitCommas_append (s t : String) :
    splitCommas (s ++ "," ++ t) = splitCommas s ++ splitCommas t := by
  have hbetween : between ',' (s.toList ++ ',' :: t.toList) =
      between ',' s.toList ++ between ',' t.toList := by
    simp only [between_eq_splitOn, List.splitOn]
    exact List.splitOnP_append_cons _ _ (beq_self_eq_true ',')
  simp [splitCommas, pieces, hbetween]

theorem splitCommas_of_around {piece text : String} (hpiece : IsPiece piece)
    (h : Around piece text) : splitCommas text = [piece] := by
  obtain ⟨before, after, hbefore, hafter, htext⟩ := h
  have hblank {cs : List Char} (hcs : ∀ c ∈ cs, isBlank c = true) : ',' ∉ cs :=
    fun hcomma => absurd (hcs ',' hcomma) (by decide)
  have hcomma : ',' ∉ text.toList := by
    simp [htext, hblank hbefore, hblank hafter, hpiece.no_comma]
  have hne : piece.toList ≠ [] := by simpa using hpiece.nonempty
  rw [splitCommas, pieces, between_eq_splitOn, List.splitOn_eq_singleton hcomma, List.map_singleton,
    htext, trim_append hbefore hafter hpiece.bare]
  simp [hne]

/-- Pieces that are joined by commas, with blanks around them, are the pieces of the whole. -/
theorem splitCommas_intercalate {pieces texts : List String} (hpieces : ∀ p ∈ pieces, IsPiece p)
    (h : List.Forall₂ Around pieces texts) :
    splitCommas (String.intercalate "," texts) = pieces := by
  induction h with
  | nil => rfl
  | @cons piece text pieces texts htext h ih =>
    have hfirst := splitCommas_of_around (hpieces piece List.mem_cons_self) htext
    have hrest := ih fun p hp => hpieces p (List.mem_cons_of_mem _ hp)
    cases h with
    | nil => rw [String.intercalate_singleton, hfirst]
    | cons htext' h =>
      rw [String.intercalate_cons_cons, splitCommas_append, hfirst, hrest, List.singleton_append]

/-- What comes out of a list are pieces. A comma between two lists puts the pieces of the second
behind those of the first. The pieces of a list that are joined by commas again, with any blanks
around each of them, come out as they were, and so does every list of texts that can be pieces. -/
theorem splitCommas_laws (s : String) :
    (∀ piece ∈ splitCommas s, IsPiece piece) ∧
      (∀ t, splitCommas (s ++ "," ++ t) = splitCommas s ++ splitCommas t) ∧
      (∀ texts, List.Forall₂ Around (splitCommas s) texts →
        splitCommas (String.intercalate "," texts) = splitCommas s) ∧
      ∀ pieces texts, (∀ piece ∈ pieces, IsPiece piece) → List.Forall₂ Around pieces texts →
        splitCommas (String.intercalate "," texts) = pieces := by
  refine ⟨fun piece => isPiece_of_mem, splitCommas_append s, fun texts h => ?_, ?_⟩
  · exact splitCommas_intercalate (fun piece => isPiece_of_mem) h
  · exact fun pieces texts => splitCommas_intercalate

/-- A blank need not be a space, and there may be one inside a piece. -/
theorem splitCommas_laws_exits :
    let s := "\u2003escape, ,dead ends,"
    let texts := ["escape\t", "\u00a0dead ends"]
    ("dead ends" ∈ splitCommas s ∧ IsPiece "dead ends") ∧
      splitCommas (s ++ "," ++ "loot\u3000") = ["escape", "dead ends", "loot"] ∧
      (List.Forall₂ Around (splitCommas s) texts ∧
        splitCommas "escape\t,\u00a0dead ends" = splitCommas s) ∧
      splitCommas "\u0085dead ends\x0b" = ["dead ends"] := by
  intro s texts
  have hblank {c : Char} (hc : isBlank c = true) : ∀ d ∈ [c], isBlank d = true := by simpa using hc
  have hs : splitCommas s = ["escape", "dead ends"] := by decide +kernel
  have hmem : "dead ends" ∈ splitCommas s := by simp [hs]
  have hloot : splitCommas "loot\u3000" = ["loot"] := by decide +kernel
  have haround : List.Forall₂ Around (splitCommas s) texts := by
    rw [hs]
    exact .cons ⟨[], ['\t'], by simp, hblank (by decide), by decide⟩
      (.cons ⟨['\u00a0'], [], hblank (by decide), by simp, by decide⟩ .nil)
  obtain ⟨hpieces, happend, hsame, hjoined⟩ := splitCommas_laws s
  have hpiece := hpieces _ hmem
  refine ⟨⟨hmem, hpiece⟩, ?_, ⟨haround, hsame texts haround⟩, ?_⟩
  · rw [happend, hs, hloot]
    rfl
  · refine hjoined ["dead ends"] ["\u0085dead ends\x0b"] (by simpa using hpiece) ?_
    exact .cons ⟨['\u0085'], ['\x0b'], hblank (by decide), hblank (by decide), by decide⟩ .nil

end SlideGraph.Text
