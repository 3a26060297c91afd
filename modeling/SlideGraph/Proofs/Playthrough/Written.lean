import SlideGraph.Proofs.Playthrough.Summary

/-!
# What is written of results

Whatever form is asked for, all results are written, one after the other: as items of an array, as
entries under headings, or as the blocks for a terminal. The numbers above the entries count them.
-/

namespace SlideGraph.Playthrough.Summary

open Text (Style lines)

variable {r : Result} {rs : List Result}

/-! ### Entries -/

/-- The text of a result under a heading: a verdict with the name, the counts, and an item for each
failure. -/
inductive Entry (r : Result) : String → Prop
  | mk {items : List String}
      (hitems : List.Forall₂ (fun f i => i = "  - " ++ f ++ "\n") r.failures items) :
      Entry r ("### " ++ (if r.passed then "✅" else "❌") ++ " " ++ r.script ++ "\n\n" ++
        "- **Steps**: " ++ steps r ++ "\n" ++ "- **Final slide**: `" ++ r.finalSlide ++ "`\n" ++
        "- **Time**: " ++ r.duration.text ++ "\n" ++
        (if items = [] then "" else "- **Failures**:\n" ++ String.join items) ++ "\n")

theorem entry_markdownResult (r : Result) : Entry r (lines (markdownResult r)) := by
  have hlines := lines_bullets "- **Failures**:" ("  - " ++ ·) r.failures
  refine (congrArg (Entry r) ?_).mp (.mk (forall₂_bullets _ r.failures))
  simp only [markdownResult, Text.lines_append, hlines]
  simp only [Text.lines_cons, String.append_assoc]
  rfl

theorem forall₂_entry (rs : List Result) :
    List.Forall₂ Entry rs (rs.map fun r => lines (markdownResult r)) := by
  rw [List.forall₂_map_right_iff, List.forall₂_same]
  exact fun r _ => entry_markdownResult r

/-- The verdict is the beginning of an entry. -/
theorem Entry.startsWith {e : String} (h : Entry r e) :
    e.startsWith "### ✅" = r.passed ∧ e.startsWith "### ❌" = !r.passed := by
  cases h with
  | mk hitems =>
    rw [startsWith_eq, startsWith_eq]
    cases r.passed <;> simp [List.isPrefixOf]

theorem countP_entries {entries : List String} (h : List.Forall₂ Entry rs entries) :
    entries.countP (·.startsWith "### ✅") = passed rs ∧
      entries.countP (·.startsWith "### ❌") = rs.countP fun r => !r.passed := by
  induction h with
  | nil => exact ⟨rfl, rfl⟩
  | cons hentry _ ih =>
    obtain ⟨hpass, hfail⟩ := hentry.startsWith
    rw [passed] at ih ⊢
    simp only [List.countP_cons, hpass, hfail, ih, and_self]

/-- The text above the entries. -/
def overview (rs : List Result) (stamp : String) : String :=
  "# Slideweave Playthrough Results\n\n" ++ "_Generated " ++ stamp ++ "_\n\n" ++
    "## Summary\n\n" ++ "- **Total scripts**: " ++ rs.length.repr ++ "\n" ++
    "- **Passed**: " ++ (passed rs).repr ++ "\n" ++ "- **Failed**: " ++ (failed rs).repr ++ "\n" ++
    "- **Success rate**: " ++ successRate rs ++ "\n\n" ++ "## Detailed Results\n\n"

/-- Under its headings a document has the entry of each result in order. The numbers in the overview
count the entries that begin with the one verdict and with the other, and make up the number of
results. -/
theorem markdown_rules (rs : List Result) (stamp : String) :
    ∃ entries, List.Forall₂ Entry rs entries ∧
      markdown rs stamp = overview rs stamp ++ String.join entries ∧
      passed rs = entries.countP (·.startsWith "### ✅") ∧
      failed rs = entries.countP (·.startsWith "### ❌") ∧ passed rs + failed rs = rs.length := by
  have hentries := forall₂_entry rs
  have htext : markdown rs stamp =
      overview rs stamp ++ String.join (rs.map fun r => lines (markdownResult r)) := by
    have hnil : lines [] = "" := rfl
    unfold markdown overview
    simp only [Text.lines_append, Text.lines_flatMap, Text.lines_cons, hnil]
    apply String.toList_inj.1
    simp
  obtain ⟨hpassed, hfailed⟩ := countP_entries hentries
  refine ⟨_, hentries, htext, ?_, ?_, passed_add_failed rs⟩
  · rw [hpassed]
  · rw [hfailed, failed_eq]

/-! ### Reports -/

/-- The text of a report on results in a form, with an item, an entry or a block for each of
them. -/
inductive Reported (colored : Bool) (rs : List Result) (summed total : Duration)
    (stamp : String) : Format → String → Prop
  | json : Reported colored rs summed total stamp .json
      ((Json.Value.array (rs.map Result.toValue)).indented ++ "\n")
  | markdown {entries : List String} (h : List.Forall₂ Entry rs entries) :
      Reported colored rs summed total stamp .markdown (overview rs stamp ++ String.join entries)
  | console {blocks : List String} (h : List.Forall₂ (Styled colored) rs blocks) :
      Reported colored rs summed total stamp .console
        ("\n" ++ title.paint colored "📊 Playthrough Results Summary" ++ "\n" ++
          rule.paint colored "==============================" ++ "\n" ++
          "Total scripts: " ++ rs.length.repr ++ "\n" ++
          "Passed: " ++ good.paint colored (passed rs).repr ++ "\n" ++
          "Failed: " ++ bad.paint colored (failed rs).repr ++ "\n" ++
          "Success rate: " ++ successRate rs ++ "\n" ++ "Total time: " ++ summed.text ++ "\n\n" ++
          String.join blocks ++ "🏁 Total time: " ++ total.text ++ "\n")

variable {colored : Bool} {summed total : Duration} {stamp : String}

/-- If there are results, the report on all of them is written. -/
theorem reported_written (hne : rs ≠ []) (format : Format) :
    Reported colored rs summed total stamp format
      (written format colored rs summed total stamp) := by
  have hsome : rs.isEmpty = false := by simpa using hne
  cases format with
  | json => exact .json
  | markdown =>
    obtain ⟨entries, hentries, htext, -⟩ := markdown_rules rs stamp
    rw [written, hsome, if_neg Bool.false_ne_true, htext]
    exact .markdown hentries
  | console =>
    refine (congrArg (Reported colored rs summed total stamp .console) ?_).mp
      (.console (forall₂_styled colored rs))
    rw [written, hsome, if_neg Bool.false_ne_true, console, Text.lines_append, Text.lines_flatMap]
    apply String.toList_inj.1
    simp [lines]

end SlideGraph.Playthrough.Summary
