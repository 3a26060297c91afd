import Mathlib.Data.List.Forall2
import Mathlib.Tactic.Common
import SlideGraph.Program
import SlideGraph.Proofs.Text.Style

/-!
# What a run of the program prints

The list of the slides has a row for each slide, and a replay a line for each step that succeeded.
What is told of a failure names what it is about, and what it was caused by if something else had
gone wrong before.
-/

namespace SlideGraph

open Text (lines)

namespace Program

/-! ### Slides -/

/-- The row of a slide: its id in a column of 25, and what it has. -/
inductive Row (id : String) (slide : Slide) : String → Prop
  | mk {gap : String} (hblank : ∀ c ∈ gap.toList, c = ' ')
      (hwidth : (id ++ gap).length = max 25 id.length) :
      Row id slide ("  " ++ id ++ gap ++ " - " ++ slide.buttons.size.repr ++ " buttons" ++
        (if slide.isMinigame then ", minigame" else "") ++
        slide.fallback.elim "" (", falls back to " ++ ·))

theorem row_slideLine (id : String) (slide : Slide) : Row id slide (slideLine id slide) := by
  have hblank : ∀ c ∈ (String.ofList (List.replicate (25 - id.length) ' ')).toList, c = ' ' := by
    simp
  have hwidth : (id ++ String.ofList (List.replicate (25 - id.length) ' ')).length =
      max 25 id.length := by
    rw [String.length_append, String.length_ofList, List.length_replicate]
    omega
  refine (congrArg (Row id slide) ?_).mp (.mk hblank hwidth)
  rw [slideLine]
  cases slide.fallback <;> rfl

/-- The slides are listed in the order of the catalog, each in a row. -/
theorem slideList_rows (c : Catalog) :
    ∃ rows, List.Forall₂ (fun e row => Row e.1 e.2 row) c.entries rows ∧
      slideList c = lines ("Available slides:" :: rows) := by
  refine ⟨_, ?_, rfl⟩
  rw [List.forall₂_map_right_iff, List.forall₂_same]
  exact fun e _ => row_slideLine e.1 e.2

/-! ### Replays -/

theorem noteLines_eq_mapIdx (colored : Bool) (position : Nat)
    (notes : List (Playthrough.Step × String)) :
    noteLines colored position notes = notes.mapIdx fun i n =>
      "   " ++ aside.paint colored ("#" ++ (position + i).repr) ++ " " ++ n.1.text ++ " " ++
        aside.paint colored n.2 := by
  induction notes generalizing position with
  | nil => rfl
  | cons n notes ih =>
    rw [noteLines, ih, List.mapIdx_cons]
    simp only [Nat.add_zero, Nat.add_assoc, Nat.add_comm 1]

/-- A replay is told by its script and by the steps that succeeded, counted from one. -/
theorem replayLines_eq (colored : Bool) (r : Playthrough.Replay) :
    replayLines colored r = ("🧪 Replaying: " ++ highlight.paint colored r.result.script) ::
      r.notes.mapIdx fun i n =>
        "   " ++ aside.paint colored ("#" ++ (i + 1).repr) ++ " " ++ n.1.text ++ " " ++
          aside.paint colored n.2 := by
  rw [replayLines, noteLines_eq_mapIdx]
  simp only [Nat.add_comm 1]

/-! ### Failures -/

namespace Failure

/-- What a failure is about: the path of a file, or the paths under which there are no scripts. -/
def subject : Failure → String
  | slides e => e.origin
  | configUnreadable path _ | configMalformed path _ | graphIssues path _
  | script (.unreadable path _) | script (.malformed path _) | outputUnavailable path _ => path
  | noScripts paths => paths

/-- A message names what the failure is about. -/
theorem subject_infix_message (f : Failure) : f.subject.toList <:+: f.message.toList := by
  have hwithin (s t u : String) : t.toList <:+: (s ++ t ++ u).toList :=
    ⟨s.toList, u.toList, by simp⟩
  have hbehind (s t : String) : t.toList <:+: (s ++ t).toList := ⟨s.toList, [], by simp⟩
  cases f with
  | slides e =>
    cases e with
    | unreachable origin fault => exact hwithin _ origin _
    | malformed origin fault => exact hwithin _ origin _
  | configUnreadable path fault => exact hbehind _ path
  | configMalformed path fault => exact hbehind _ path
  | graphIssues path count =>
    have htext : (graphIssues path count).message =
        path ++ " has " ++ count.repr ++ " graph issue(s)" := rfl
    rw [htext, String.append_assoc, String.append_assoc, String.toList_append]
    exact (List.prefix_append _ _).isInfix
  | script e =>
    cases e with
    | unreadable path fault => exact hbehind _ path
    | malformed path fault => exact hbehind _ path
  | noScripts paths => exact hwithin _ paths _
  | outputUnavailable path fault => exact hbehind _ path

/-- What is told of a failure, line by line. -/
inductive Told (words : Cause → String) (f : Failure) : List String → Prop
  | alone (h : f.cause? = none) : Told words f ["Error: " ++ f.message]
  | caused {cause : Cause} (h : f.cause? = some cause) :
      Told words f ["Error: " ++ f.message, "", "Caused by:", "    " ++ words cause]

variable {words : Cause → String} {f : Failure} {ls : List String}

theorem told_report (words : Cause → String) (f : Failure) :
    ∃ ls, Told words f ls ∧ f.report words = lines ls := by
  rw [report]
  cases h : f.cause? with
  | none => exact ⟨_, .alone h, by simp [lines]⟩
  | some cause =>
    refine ⟨_, .caused h, ?_⟩
    apply String.toList_inj.1
    simp [lines]

/-- The first line names what the failure is about. -/
theorem Told.names (h : Told words f ls) : ∃ l rest, ls = l :: rest ∧
    f.subject.toList <:+: l.toList := by
  have hfirst : f.subject.toList <:+: ("Error: " ++ f.message).toList := by
    rw [String.toList_append]
    exact f.subject_infix_message.trans (List.suffix_append _ _).isInfix
  cases h with
  | alone h => exact ⟨_, _, rfl, hfirst⟩
  | caused h => exact ⟨_, _, rfl, hfirst⟩

end Failure

end Program

end SlideGraph
