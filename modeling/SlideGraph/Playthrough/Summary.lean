import SlideGraph.Arithmetic.Percentage
import SlideGraph.Playthrough.Result
import SlideGraph.Text.Basic
import SlideGraph.Text.Style

/-!
# Summaries of results

The results of playthroughs are summed up for a terminal, as a document with headings, or as data.
-/

namespace SlideGraph.Playthrough

open Text (Style lines)

/-- The forms in which results can be summed up. -/
inductive Format
  | json
  | markdown
  | console
deriving DecidableEq, Repr

namespace Format

def ofName? : String → Option Format
  | "json" => some json
  | "markdown" => some markdown
  | "console" => some console
  | _ => none

end Format

namespace Summary

def passed (rs : List Result) : Nat := rs.countP Result.passed

/-- The number of results that did not pass. -/
def failed (rs : List Result) : Nat := rs.length - passed rs

/-- The share of results that passed. -/
def successRate (rs : List Result) : String := percentage (passed rs) rs.length ++ "%"

/-- How many of its steps a script took. -/
def steps (r : Result) : String := r.stepsRun.repr ++ "/" ++ r.stepsTotal.repr ++ " replayed"

/-! ### For a terminal -/

/-- A title. -/
def title : Style := ⟨[1, 96]⟩

/-- The line under a title. -/
def rule : Style := ⟨[36]⟩

/-- What is as it should be. -/
def good : Style := ⟨[32]⟩

/-- What is not as it should be. -/
def bad : Style := ⟨[31]⟩

def name : Style := ⟨[1]⟩

/-- A result in lines. -/
def consoleResult (colored : Bool) (r : Result) : List String :=
  [(if r.passed then good.paint colored "✅ PASS" else bad.paint colored "❌ FAIL") ++ " " ++
      name.paint colored r.script,
    "   Steps: " ++ steps r,
    "   Final slide: " ++ r.finalSlide,
    "   Time: " ++ r.duration.text] ++
  (if r.failures.isEmpty then []
    else "   Failures:" :: r.failures.map fun f => "     • " ++ bad.paint colored f) ++
  [""]

/-- The results for a terminal, under what they have in common. -/
def console (colored : Bool) (rs : List Result) (total : Duration) : String :=
  lines (["",
    title.paint colored "📊 Playthrough Results Summary",
    rule.paint colored "==============================",
    "Total scripts: " ++ rs.length.repr,
    "Passed: " ++ good.paint colored (passed rs).repr,
    "Failed: " ++ bad.paint colored (failed rs).repr,
    "Success rate: " ++ successRate rs,
    "Total time: " ++ total.text,
    ""] ++ rs.flatMap (consoleResult colored))

/-! ### With headings -/

/-- A result in lines under a heading. -/
def markdownResult (r : Result) : List String :=
  ["### " ++ (if r.passed then "✅" else "❌") ++ " " ++ r.script,
    "",
    "- **Steps**: " ++ steps r,
    "- **Final slide**: `" ++ r.finalSlide ++ "`",
    "- **Time**: " ++ r.duration.text] ++
  (if r.failures.isEmpty then [] else "- **Failures**:" :: r.failures.map ("  - " ++ ·)) ++
  [""]

/-- The results under headings. The stamp says when they were summed up. -/
def markdown (rs : List Result) (stamp : String) : String :=
  lines (["# Slideweave Playthrough Results",
    "",
    "_Generated " ++ stamp ++ "_",
    "",
    "## Summary",
    "",
    "- **Total scripts**: " ++ rs.length.repr,
    "- **Passed**: " ++ (passed rs).repr,
    "- **Failed**: " ++ (failed rs).repr,
    "- **Success rate**: " ++ successRate rs,
    "",
    "## Detailed Results",
    ""] ++ rs.flatMap markdownResult)

/-! ### As data -/

/-- The results as data, one item a line. -/
def json (rs : List Result) : String := (Result.listToValue rs).indented ++ "\n"

/-! ### In any form -/

/-- What is written of the results of a run in a form. The clock is read when they are summed up for
a terminal, and once more at the end. -/
def written (format : Format) (colored : Bool) (rs : List Result) (summed total : Duration)
    (stamp : String) : String :=
  match format with
  | .json => json rs
  | .markdown =>
    if rs.isEmpty then lines ["# Slideweave Playthrough Results", "", "_No scripts executed._"]
    else markdown rs stamp
  | .console =>
    (if rs.isEmpty then lines ["No scripts executed."] else console colored rs summed) ++
      lines ["🏁 Total time: " ++ total.text]

end Summary

end SlideGraph.Playthrough
