import Mathlib
import SlideGraph.Playthrough.Summary
import SlideGraph.Proofs.Text.Style

/-!
# The report for a terminal

A coloured report is the report without colours once its control sequences are removed, whatever
else the names and the failures in it are. It has a block for each result, with a bullet for each
failure, and the numbers at its top count the blocks.
-/

namespace SlideGraph

open Text (Strips Style strip lines strips_of_not_mem strips_paint)

/-! ### Numbers and times -/

/-- There is no control character in the text. -/
def Text.Printed (s : String) : Prop := ∀ c ∈ s.toList, 32 ≤ c.toNat

section

open Text (Printed)

instance (s : String) : Decidable (Printed s) :=
  List.decidableBAll (fun c : Char => 32 ≤ c.toNat) s.toList

theorem Text.Printed.not_mem {s : String} (h : Printed s) {c : Char} (hc : c.toNat < 32) :
    c ∉ s.toList :=
  fun hmem => absurd (h c hmem) (Nat.not_le.2 hc)

theorem Text.Printed.append {s t : String} (hs : Printed s) (ht : Printed t) :
    Printed (s ++ t) := by
  intro c hc
  rw [String.toList_append, List.mem_append] at hc
  exact hc.elim (hs c) (ht c)

theorem le_of_mem_toDigits {n : Nat} {c : Char} (h : c ∈ Nat.toDigits 10 n) : 32 ≤ c.toNat := by
  have hdigit : c.isDigit = true := Nat.isDigit_of_mem_toDigits (by decide) (by decide) h
  exact Nat.le_trans (by decide) (Char.isDigit_iff_toNat.1 hdigit).1

theorem printed_repr (n : Nat) : Printed n.repr := by
  intro c hc
  rw [Nat.toList_repr] at hc
  exact le_of_mem_toDigits hc

theorem printed_percentage (part whole : Nat) : Printed (percentage part whole) :=
  ((printed_repr _).append (by decide)).append (printed_repr _)

namespace Duration

theorem le_of_mem_fraction {places n : Nat} {c : Char} (h : c ∈ fraction places n) :
    32 ≤ c.toNat := by
  have hpadded := (List.dropWhile_sublist _).subset (List.mem_reverse.1 h)
  rw [List.mem_reverse, List.mem_append, List.mem_replicate] at hpadded
  rcases hpadded with ⟨-, rfl⟩ | hdigit
  · decide
  · exact le_of_mem_toDigits hdigit

theorem printed_inUnit (places : Nat) {name : String} (hname : Printed name) (n : Nat) :
    Printed (inUnit places name n) := by
  rw [inUnit]
  have hwhole := printed_repr (n / Nat.pow 10 places)
  split
  · exact hwhole.append hname
  · have hfraction : Printed (String.ofList (fraction places (n % Nat.pow 10 places))) := by
      intro c hc
      rw [String.toList_ofList] at hc
      exact le_of_mem_fraction hc
    exact ((hwhole.append (by decide)).append hfraction).append hname

theorem printed_text (d : Duration) : Printed d.text := by
  rw [text]
  split_ifs
  · exact printed_inUnit 9 (by decide) _
  · exact printed_inUnit 6 (by decide) _
  · exact printed_inUnit 3 (by decide) _
  · exact (printed_repr _).append (by decide)

end Duration

end

namespace Playthrough

open Text (Printed)

/-! ### Removing the colours -/

/-- No text of a result that a report shows has the character in it. -/
structure Result.Lacks (c : Char) (r : Result) : Prop where
  script : c ∉ r.script.toList
  finalSlide : c ∉ r.finalSlide.toList
  failures : ∀ f ∈ r.failures, c ∉ f.toList

namespace Summary

variable {r : Result} {rs : List Result}

theorem printed_steps (r : Result) : Printed (steps r) :=
  (((printed_repr _).append (by decide)).append (printed_repr _)).append (by decide)

theorem printed_successRate (rs : List Result) : Printed (successRate rs) :=
  (printed_percentage _ _).append (by decide)

theorem strips_of_printed {s : String} (h : Printed s) : Strips s s :=
  strips_of_not_mem (h.not_mem (by decide))

/-- Line by line, a result is left when its colours are removed. -/
theorem strips_consoleResult (h : r.Lacks '\x1b') :
    List.Forall₂ Strips (consoleResult true r) (consoleResult false r) := by
  have hverdict : Strips
      (if r.passed then good.paint true "✅ PASS" else bad.paint true "❌ FAIL")
      (if r.passed then good.paint false "✅ PASS" else bad.paint false "❌ FAIL") := by
    split
    · exact strips_paint good (by decide)
    · exact strips_paint bad (by decide)
  have hfailures : List.Forall₂ Strips
      (r.failures.map fun f => "     • " ++ bad.paint true f)
      (r.failures.map fun f => "     • " ++ bad.paint false f) := by
    rw [List.forall₂_map_left_iff, List.forall₂_map_right_iff, List.forall₂_same]
    exact fun f hf => (strips_paint bad (h.failures f hf)).behind (by decide)
  have hbullets : List.Forall₂ Strips
      (if r.failures.isEmpty then []
        else "   Failures:" :: r.failures.map fun f => "     • " ++ bad.paint true f)
      (if r.failures.isEmpty then []
        else "   Failures:" :: r.failures.map fun f => "     • " ++ bad.paint false f) := by
    split
    · exact .nil
    · exact .cons (strips_of_not_mem (by decide)) hfailures
  have hblank : List.Forall₂ Strips [""] [""] := .cons (strips_of_not_mem (by decide)) .nil
  refine List.rel_append (List.rel_append ?_ hbullets) hblank
  have hspace := hverdict.append (strips_of_not_mem (s := " ") (by decide))
  refine .cons (hspace.append (strips_paint name h.script)) ?_
  refine .cons ((strips_of_printed (printed_steps r)).behind (by decide)) ?_
  refine .cons ((strips_of_not_mem h.finalSlide).behind (by decide)) ?_
  exact .cons ((strips_of_printed r.duration.printed_text).behind (by decide)) .nil

theorem strips_results (h : ∀ r ∈ rs, r.Lacks '\x1b') :
    List.Forall₂ Strips (rs.flatMap (consoleResult true)) (rs.flatMap (consoleResult false)) := by
  induction rs with
  | nil => exact .nil
  | cons r rs ih =>
    rw [List.forall_mem_cons] at h
    exact List.rel_append (strips_consoleResult h.1) (ih h.2)

/-- The report is left when its colours are removed. -/
theorem strips_console (h : ∀ r ∈ rs, r.Lacks '\x1b') (total : Duration) :
    Strips (console true rs total) (console false rs total) := by
  have hpainted (style : Style) (n : Nat) :
      Strips (style.paint true n.repr) (style.paint false n.repr) :=
    strips_paint style ((printed_repr n).not_mem (by decide))
  refine Text.strips_lines (List.rel_append ?_ (strips_results h))
  refine .cons (strips_of_not_mem (by decide)) ?_
  refine .cons (strips_paint title (by decide)) ?_
  refine .cons (strips_paint rule (by decide)) ?_
  refine .cons ((strips_of_printed (printed_repr _)).behind (by decide)) ?_
  refine .cons ((hpainted good _).behind (by decide)) ?_
  refine .cons ((hpainted bad _).behind (by decide)) ?_
  refine .cons ((strips_of_printed (printed_successRate rs)).behind (by decide)) ?_
  refine .cons ((strips_of_printed total.printed_text).behind (by decide)) ?_
  exact .cons (strips_of_not_mem (by decide)) .nil

/-! ### Blocks -/

/-- The text of a result: a verdict with the name, the counts, and a bullet for each failure. -/
inductive Block (r : Result) : String → Prop
  | mk {verdict : String} {bullets : List String}
      (hverdict : verdict = if r.passed then "✅ PASS" else "❌ FAIL")
      (hbullets : List.Forall₂ (fun f b => b = "     • " ++ f ++ "\n") r.failures bullets) :
      Block r (verdict ++ " " ++ r.script ++ "\n" ++ "   Steps: " ++ steps r ++ "\n" ++
        "   Final slide: " ++ r.finalSlide ++ "\n" ++ "   Time: " ++ r.duration.text ++ "\n" ++
        (if bullets = [] then "" else "   Failures:\n" ++ String.join bullets) ++ "\n")

/-- The text of a result where texts may be coloured. -/
inductive Styled (colored : Bool) (r : Result) : String → Prop
  | mk {verdict : String} {bullets : List String}
      (hverdict : verdict =
        if r.passed then good.paint colored "✅ PASS" else bad.paint colored "❌ FAIL")
      (hbullets : List.Forall₂ (fun f b => b = "     • " ++ bad.paint colored f ++ "\n")
        r.failures bullets) :
      Styled colored r (verdict ++ " " ++ name.paint colored r.script ++ "\n" ++
        "   Steps: " ++ steps r ++ "\n" ++ "   Final slide: " ++ r.finalSlide ++ "\n" ++
        "   Time: " ++ r.duration.text ++ "\n" ++
        (if bullets = [] then "" else "   Failures:\n" ++ String.join bullets) ++ "\n")

theorem Styled.block {b : String} (h : Styled false r b) : Block r b := by
  cases h with
  | mk hverdict hbullets => exact .mk hverdict hbullets

/-- The heading of a list stands there only if the list has items. -/
theorem lines_bullets (head : String) (bullet : String → String) (fs : List String) :
    lines (if fs.isEmpty then [] else head :: fs.map bullet) =
      if (fs.map fun f => bullet f ++ "\n") = [] then ""
      else head ++ "\n" ++ String.join (fs.map fun f => bullet f ++ "\n") := by
  cases fs with
  | nil => rfl
  | cons f fs => simp [lines, String.join_cons, Function.comp_def, String.append_assoc]

theorem forall₂_bullets (bullet : String → String) (fs : List String) :
    List.Forall₂ (fun f b => b = bullet f ++ "\n") fs (fs.map fun f => bullet f ++ "\n") := by
  rw [List.forall₂_map_right_iff, List.forall₂_same]
  exact fun f _ => rfl

theorem styled_consoleResult (colored : Bool) (r : Result) :
    Styled colored r (lines (consoleResult colored r)) := by
  have hlines := lines_bullets "   Failures:" (fun f => "     • " ++ bad.paint colored f) r.failures
  refine (congrArg (Styled colored r) ?_).mp (.mk rfl (forall₂_bullets _ r.failures))
  simp only [consoleResult, Text.lines_append, hlines]
  simp only [Text.lines_cons, String.append_assoc]
  rfl

theorem forall₂_styled (colored : Bool) (rs : List Result) :
    List.Forall₂ (Styled colored) rs (rs.map fun r => lines (consoleResult colored r)) := by
  rw [List.forall₂_map_right_iff, List.forall₂_same]
  exact fun r _ => styled_consoleResult colored r

theorem forall₂_block (rs : List Result) :
    List.Forall₂ Block rs (rs.map fun r => lines (consoleResult false r)) :=
  (forall₂_styled false rs).imp fun _ _ => Styled.block

theorem startsWith_eq (s start : String) :
    s.startsWith start = start.toList.isPrefixOf s.toList := by
  rw [Bool.eq_iff_iff, String.startsWith_string_iff, List.isPrefixOf_iff_prefix]

/-- The verdict is the beginning of a block. -/
theorem Block.startsWith {b : String} (h : Block r b) :
    b.startsWith "✅ PASS" = r.passed ∧ b.startsWith "❌ FAIL" = !r.passed := by
  cases h with
  | mk hverdict hbullets =>
    subst hverdict
    rw [startsWith_eq, startsWith_eq]
    cases r.passed <;> simp [List.isPrefixOf]

theorem countP_blocks {blocks : List String} (h : List.Forall₂ Block rs blocks) :
    blocks.countP (·.startsWith "✅ PASS") = passed rs ∧
      blocks.countP (·.startsWith "❌ FAIL") = rs.countP fun r => !r.passed := by
  induction h with
  | nil => exact ⟨rfl, rfl⟩
  | cons hblock _ ih =>
    obtain ⟨hpass, hfail⟩ := hblock.startsWith
    rw [passed] at ih ⊢
    simp only [List.countP_cons, hpass, hfail, ih, and_self]

theorem passed_add_failed (rs : List Result) : passed rs + failed rs = rs.length :=
  Nat.add_sub_cancel' List.countP_le_length

theorem failed_eq (rs : List Result) : failed rs = rs.countP fun r => !r.passed := by
  have hlength := List.length_eq_countP_add_countP Result.passed (l := rs)
  have htotal := passed_add_failed rs
  have hnot : (rs.countP fun r => !r.passed) = rs.countP fun r => ¬ r.passed = true := by
    congr 1
    funext r
    cases r.passed <;> rfl
  rw [passed] at htotal
  omega

/-! ### Lines -/

/-- How many lines of a text begin with another text. -/
def lineCount (start text : String) : Nat :=
  (text.toList.splitOn '\n').countP (start.toList.isPrefixOf ·)

/-- Lines are counted one by one if there is no line break in any of them. -/
theorem lineCount_lines {start : String} (hstart : start ≠ "") {ls : List String}
    (h : ∀ l ∈ ls, '\n' ∉ l.toList) :
    lineCount start (lines ls) = ls.countP (start.toList.isPrefixOf ·.toList) := by
  rw [lineCount]
  induction ls with
  | nil => simp [lines, hstart]
  | cons l ls ih =>
    rw [List.forall_mem_cons] at h
    have htext : (lines (l :: ls)).toList = l.toList ++ '\n' :: (lines ls).toList := by
      simp [Text.lines_cons]
    rw [htext, List.splitOn_append_cons_self_of_not_mem h.1, List.countP_cons, List.countP_cons,
      ih h.2]

theorem not_mem_consoleResult (h : r.Lacks '\n') :
    ∀ l ∈ consoleResult false r, '\n' ∉ l.toList := by
  have hsteps : '\n' ∉ (steps r).toList := (printed_steps r).not_mem (by decide)
  have htime : '\n' ∉ r.duration.text.toList := r.duration.printed_text.not_mem (by decide)
  have hbullets : ∀ l ∈ (if r.failures.isEmpty then []
      else "   Failures:" :: r.failures.map fun f => "     • " ++ bad.paint false f),
      '\n' ∉ l.toList := by
    split
    · simp
    · simpa [Style.paint] using h.failures
  simp only [consoleResult, List.forall_mem_append, List.forall_mem_cons]
  refine ⟨⟨⟨?_, ?_, ?_, ?_, by simp⟩, hbullets⟩, by decide, by simp⟩
  · cases r.passed <;> simp [Style.paint, h.script]
  · simp [hsteps]
  · simp [h.finalSlide]
  · simp [htime]

/-- A result has one line with its verdict and one with a bullet for each failure. -/
theorem countP_consoleResult (r : Result) :
    (consoleResult false r).countP ("✅ PASS ".toList.isPrefixOf ·.toList) =
        (if r.passed then 1 else 0) ∧
      (consoleResult false r).countP ("❌ FAIL ".toList.isPrefixOf ·.toList) =
        (if r.passed then 0 else 1) ∧
      (consoleResult false r).countP ("     • ".toList.isPrefixOf ·.toList) =
        r.failures.length := by
  refine ⟨?_, ?_, ?_⟩ <;> cases hpassed : r.passed <;> cases hfailures : r.failures <;>
    simp [consoleResult, Style.paint, hpassed, hfailures, List.isPrefixOf, List.countP_map,
      Function.comp_def]

/-- The lines above the results. -/
def heading (rs : List Result) (total : Duration) : List String := ["",
  "📊 Playthrough Results Summary",
  "==============================",
  "Total scripts: " ++ rs.length.repr,
  "Passed: " ++ (passed rs).repr,
  "Failed: " ++ (failed rs).repr,
  "Success rate: " ++ successRate rs,
  "Total time: " ++ total.text,
  ""]

theorem console_eq (rs : List Result) (total : Duration) :
    console false rs total = lines (heading rs total ++ rs.flatMap (consoleResult false)) := rfl

theorem printed_heading (rs : List Result) (total : Duration) :
    ∀ l ∈ heading rs total, Printed l := by
  simp only [heading, List.forall_mem_cons]
  refine ⟨by decide, by decide, by decide, ?_, ?_, ?_, ?_, ?_, by decide, by simp⟩
  · exact Printed.append (by decide) (printed_repr _)
  · exact Printed.append (by decide) (printed_repr _)
  · exact Printed.append (by decide) (printed_repr _)
  · exact Printed.append (by decide) (printed_successRate rs)
  · exact Printed.append (by decide) total.printed_text

/-- The lines above the results look like none of theirs. -/
theorem countP_heading (rs : List Result) (total : Duration) {start : String}
    (h : start = "✅ PASS " ∨ start = "❌ FAIL " ∨ start = "     • ") :
    (heading rs total).countP (start.toList.isPrefixOf ·.toList) = 0 := by
  rcases h with rfl | rfl | rfl <;> simp [heading, List.isPrefixOf]

theorem lineCount_console (h : ∀ r ∈ rs, r.Lacks '\n') (total : Duration) {start : String}
    (hstart : start = "✅ PASS " ∨ start = "❌ FAIL " ∨ start = "     • ") :
    lineCount start (console false rs total) =
      (rs.map fun r => (consoleResult false r).countP (start.toList.isPrefixOf ·.toList)).sum := by
  have hne : start ≠ "" := by rcases hstart with rfl | rfl | rfl <;> decide
  rw [console_eq, lineCount_lines hne, List.countP_append, countP_heading rs total hstart,
    Nat.zero_add, List.countP_flatMap]
  · rfl
  · rw [List.forall_mem_append]
    refine ⟨fun l hl => (printed_heading rs total l hl).not_mem (by decide), fun l hl => ?_⟩
    obtain ⟨r, hr, hl⟩ := List.mem_flatMap.1 hl
    exact not_mem_consoleResult (h r hr) l hl

theorem sum_map_ite (p : Result → Bool) (rs : List Result) :
    (rs.map fun r => if p r then 1 else 0).sum = rs.countP p := by
  induction rs with
  | nil => rfl
  | cons r rs ih => rw [List.map_cons, List.sum_cons, ih, List.countP_cons, Nat.add_comm]

/-- Colours change nothing in a report but control sequences. Under its heading the report has the
block of each result in order. The numbers in the heading make up the number of results, and they
count the blocks that begin with the one verdict and with the other. If no text of a result has a
line break in it, they count the lines with a verdict too, and there is a line with a bullet for
each failure. -/
theorem console_rules (h : ∀ r ∈ rs, r.Lacks '\x1b') (total : Duration) :
    strip (console true rs total).toList = (console false rs total).toList ∧
    ∃ (blocks : List String) (passed failed : Nat), List.Forall₂ Block rs blocks ∧
      console false rs total = "\n📊 Playthrough Results Summary\n" ++
        "==============================\n" ++ "Total scripts: " ++ rs.length.repr ++ "\n" ++
        "Passed: " ++ passed.repr ++ "\n" ++ "Failed: " ++ failed.repr ++ "\n" ++
        "Success rate: " ++ successRate rs ++ "\n" ++ "Total time: " ++ total.text ++ "\n\n" ++
        String.join blocks ∧
      passed + failed = rs.length ∧
      passed = blocks.countP (·.startsWith "✅ PASS") ∧
      failed = blocks.countP (·.startsWith "❌ FAIL") ∧
      ((∀ r ∈ rs, r.Lacks '\n') →
        lineCount "✅ PASS " (console false rs total) = passed ∧
        lineCount "❌ FAIL " (console false rs total) = failed ∧
        lineCount "     • " (console false rs total) =
          (rs.map fun r => r.failures.length).sum) := by
  have hblocks := forall₂_block rs
  obtain ⟨hpassed, hfailed⟩ := countP_blocks hblocks
  refine ⟨(strips_console h total).strip_eq, _, passed rs, failed rs, hblocks, ?_,
    passed_add_failed rs, hpassed.symm, ?_, fun hlines => ?_⟩
  · rw [console_eq, Text.lines_append, Text.lines_flatMap]
    apply String.toList_inj.1
    simp [heading, lines]
  · rw [failed_eq, hfailed]
  · have hfalse : (fun r : Result => if r.passed then 0 else 1) =
        fun r => if !r.passed then 1 else 0 := by
      funext r
      cases r.passed <;> rfl
    rw [lineCount_console hlines total (.inl rfl),
      lineCount_console hlines total (.inr (.inl rfl)),
      lineCount_console hlines total (.inr (.inr rfl))]
    simp only [countP_consoleResult, hfalse, sum_map_ite, failed_eq, passed, and_self]

/-- A name and failures that look like parts of control sequences and like verdicts are left as
they are, and are not taken for verdicts. -/
theorem console_rules_brackets :
    let r : Result :=
      ⟨"[0m ✅ PASS", false, 2, 3, "m", ["[1;31mé", "✅ PASS "],
        .ofNanoseconds 4000000, none⟩
    let total : Duration := .ofNanoseconds 9
    r.Lacks '\x1b' ∧ r.Lacks '\n' ∧
      strip (console true [r] total).toList = (console false [r] total).toList ∧
      lineCount "✅ PASS " (console false [r] total) = 0 ∧
      lineCount "❌ FAIL " (console false [r] total) = 1 ∧
      lineCount "     • " (console false [r] total) = 2 := by
  intro r total
  have hescape : r.Lacks '\x1b' := ⟨by decide, by decide, by decide⟩
  have hbreak : r.Lacks '\n' := ⟨by decide, by decide, by decide⟩
  have hresults : ∀ x ∈ [r], x.Lacks '\x1b' := by simpa using hescape
  obtain ⟨hstrip, blocks, passed, failed, hblocks, -, -, hpassed, hfailed, hlines⟩ :=
    console_rules hresults total
  obtain ⟨hpass, hfail, hbullets⟩ := hlines (by simpa using hbreak)
  obtain ⟨hnone, hone⟩ := countP_blocks hblocks
  refine ⟨hescape, hbreak, hstrip, ?_, ?_, hbullets⟩
  · rw [hpass, hpassed, hnone]
    rfl
  · rw [hfail, hfailed, hone]
    rfl

end Summary

end Playthrough

end SlideGraph
