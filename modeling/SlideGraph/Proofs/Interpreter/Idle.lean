import Mathlib.Data.Nat.Count
import SlideGraph.Proofs.Interpreter.Stop

/-!
# Actions that mean nothing

An action without tokens, of no known operation or with too few operands does nothing, and a skip
passes over it as over any other. So a run comes to the same without such actions; only the places
behind them move up. This is shown of two runs at once, which may also begin in different states, as
long as no requirement tells these apart.
-/

namespace SlideGraph

/-! ### What means nothing -/

/-- An action that means nothing: it is empty, its first token names no operation, or its operands
are fewer than its operation needs. -/
inductive Action.Ignorable : Action → Prop
  | empty : Ignorable ⟨[]⟩
  | unknown {token : String} (operands : List String) :
    (∀ o : Opcode, o.name ≠ token) → Ignorable ⟨token :: operands⟩
  | tooShort (o : Opcode) {operands : List String} :
    operands.length < o.arity → Ignorable ⟨o.name :: operands⟩

theorem Action.ignorable_iff {a : Action} : a.Ignorable ↔ ∃ o, a.instruction = .error o := by
  constructor
  · intro h
    cases h with
    | empty => exact ⟨.empty, rfl⟩
    | @unknown token operands hnone =>
      have hname : Opcode.ofName? token = none := by
        rw [Opcode.ofName?, List.find?_eq_none]
        intro o _
        simpa using hnone o
      exact ⟨.unknown token, by simp only [instruction, hname]⟩
    | @tooShort o operands hshort =>
      have hnone : instructionOf o operands = none := by
        rw [← Option.isNone_iff_eq_none, ← Option.not_isSome, isSome_instructionOf]
        simpa using hshort
      exact ⟨.tooShort o operands.length, by simp only [instruction, Opcode.ofName?_name, hnone]⟩
  · rintro ⟨oversight, h⟩
    obtain ⟨tokens⟩ := a
    cases tokens with
    | nil => exact .empty
    | cons token operands =>
      simp only [instruction] at h
      cases hname : Opcode.ofName? token with
      | none =>
        refine .unknown operands fun o ho => ?_
        rw [← ho, Opcode.ofName?_name] at hname
        cases hname
      | some o =>
        cases hi : instructionOf o operands with
        | none =>
          obtain rfl := Opcode.name_of_ofName? hname
          have hsome := isSome_instructionOf o operands
          rw [hi] at hsome
          exact .tooShort o (by simpa using hsome)
        | some i => simp [hname, hi] at h

/-- A termination with its place moved. -/
def Termination.moved (f : Nat → Nat) : Termination → Termination
  | .completed => .completed
  | .exited i => .exited (f i)
  | .requirementFailed i => .requirementFailed (f i)

namespace Interpreter

variable {mode : NestedSkip} {index : Nat} {frame : Frame} {a : Action} {as : List Action}
  {R : GameState → GameState → Prop} {s t : GameState}

/-- Neither begins nor ends a block what means nothing, so every skip passes over it. -/
theorem meet_of_ignorable (h : a.Ignorable) (mode : NestedSkip) (skip : Skip) :
    skip.meet mode a = .passes skip := by
  obtain ⟨o, ho⟩ := Action.ignorable_iff.1 h
  have hopens : a.opens skip.label = false := by
    refine Bool.eq_false_iff.2 fun hopens => ?_
    rw [Action.opens_iff.1 hopens] at ho
    cases ho
  have hcloses : a.closes skip.label = false := by
    refine Bool.eq_false_iff.2 fun hcloses => ?_
    rw [Action.instruction_of_closes hcloses] at ho
    cases ho
  simp [Skip.meet, hopens, hcloses]

/-- An action that means nothing leaves all that a run knows as it is. -/
theorem step_of_ignorable (h : a.Ignorable) (mode : NestedSkip) (index : Nat) (frame : Frame) :
    (step mode index frame a).frame = frame ∧ (step mode index frame a).stop = none ∧
      ((step mode index frame a).stretch = .skip 1 ∨
        (step mode index frame a).stretch = .ignore) := by
  obtain ⟨state, labels, skip⟩ := frame
  cases skip with
  | none =>
    obtain ⟨o, ho⟩ := Action.ignorable_iff.1 h
    rw [step_unskipped, live_of_error ho]
    exact ⟨rfl, rfl, .inr rfl⟩
  | some skip =>
    rw [step_passes (meet_of_ignorable h mode skip)]
    exact ⟨rfl, rfl, .inl rfl⟩

/-- Of the place of an action the end of the run keeps that place. -/
theorem moved_of_stop {u : Termination} (h : (step mode index frame a).stop = some u)
    (f : Nat → Nat) : (u.moved fun _ => f index) = u.moved f := by
  rcases (step_of_stop h).2.2 with ⟨-, rfl⟩ | ⟨-, -, rfl⟩ <;> rfl

/-! ### Two runs at once -/

/-- A relation between states of which no requirement among the actions can tell one from the
other, now or after the same changes. -/
structure Indistinct (R : GameState → GameState → Prop) (as : List Action) : Prop where
  apply {s t : GameState} (c : GameState.Change) : R s t → R (s.apply c) (t.apply c)
  fails {s t : GameState} {a : Action} {i : Instruction} : a ∈ as → a.instruction = .ok i →
    R s t → i.fails s = i.fails t

theorem indistinct_eq (as : List Action) : Indistinct Eq as :=
  ⟨fun c h => congrArg (·.apply c) h, fun _ _ h => h ▸ rfl⟩

theorem Indistinct.applyAll (h : Indistinct R as) (cs : List GameState.Change) (hst : R s t) :
    R (s.applyAll cs) (t.applyAll cs) := by
  induction cs generalizing s t with
  | nil => exact hst
  | cons c cs ih => exact ih (h.apply c hst)

/-- Two steps that come to the same, the second of them at the place `index`. -/
structure Step.Alike (R : GameState → GameState → Prop) (index : Nat) (x y : Step) : Prop where
  state : R x.frame.state y.frame.state
  labels : y.frame.labels = x.frame.labels
  skip : y.frame.skip = x.frame.skip
  stretch : y.stretch = x.stretch
  stop : y.stop = x.stop.map (·.moved fun _ => index)

theorem Step.Alike.frame_eq {x y : Step} (h : Step.Alike R index x y) :
    y.frame = ⟨y.frame.state, x.frame.labels, x.frame.skip⟩ := by
  rw [← h.labels, ← h.skip]

theorem Indistinct.live (hR : Indistinct R as) (ha : a ∈ as) (hst : R s t) (m n : Nat)
    (labels : List String) :
    Step.Alike R n (live m ⟨s, labels, none⟩ a) (live n ⟨t, labels, none⟩ a) := by
  cases hi : a.instruction with
  | error o =>
    rw [live_of_error hi, live_of_error hi]
    exact ⟨hst, rfl, rfl, rfl, rfl⟩
  | ok i =>
    have hstretch : (Interpreter.live n ⟨t, labels, none⟩ a).stretch =
        (Interpreter.live m ⟨s, labels, none⟩ a).stretch := by
      rw [stretch_live_of_ok hi, stretch_live_of_ok hi]
    have hfails := hR.fails ha hi hst
    refine ⟨?_, ?_, ?_, hstretch, ?_⟩ <;>
      simp only [live_of_ok hi, frame_dispatch, stop_dispatch, hfails]
    · exact hR.applyAll i.changes hst
    · by_cases hexit : i = .exit
      · simp [hexit, Termination.moved]
      · by_cases hfailed : i.fails t = true ∧ labels = []
        · simp [hexit, hfailed, Termination.moved]
        · simp only [hexit, hfailed, if_false, Option.map_none]

/-- An action comes to the same in states that it cannot tell apart, at whatever places. -/
theorem Indistinct.step (hR : Indistinct R as) (ha : a ∈ as) (hst : R s t)
    (mode : NestedSkip) (m n : Nat) (labels : List String) (skip : Option Skip) :
    Step.Alike R n (step mode m ⟨s, labels, skip⟩ a) (step mode n ⟨t, labels, skip⟩ a) := by
  cases skip with
  | none => exact hR.live ha hst m n labels
  | some skip =>
    simp only [Interpreter.step]
    cases skip.meet mode a with
    | resumes => exact hR.live ha hst m n labels
    | passes skip' => exact ⟨hst, rfl, rfl, rfl, rfl⟩

/-- A run comes to the same as another that meets `n` more actions and carries out none of them.
The places move by `f`. -/
structure Result.Thins (R : GameState → GameState → Prop) (f : Nat → Nat) (n : Nat)
    (whole part : Result) : Prop where
  state : R whole.state part.state
  routes : part.routes = whole.routes
  termination : part.report.termination = whole.report.termination.moved f
  dispatched : part.report.dispatched = whole.report.dispatched
  passed : ∃ k l, whole.report.skipped = part.report.skipped + k ∧
    whole.report.ignored = part.report.ignored + l ∧ k + l = n

theorem Result.Thins.ended {f : Nat → Nat} (hst : R s t) (u : Termination) (w : Stretch) :
    Thins R f 0 (.ended s u w) (.ended t (u.moved f) w) :=
  ⟨hst, rfl, rfl, rfl, 0, 0, rfl, rfl, rfl⟩

theorem Result.Thins.after {f : Nat → Nat} {n : Nat} {whole part : Result}
    (h : Thins R f n whole part) (w : Stretch) : Thins R f n (whole.after w) (part.after w) := by
  obtain ⟨k, l, hskipped, hignored, hn⟩ := h.passed
  refine ⟨h.state, ?_, h.termination, ?_, k, l, ?_, ?_, hn⟩ <;>
    simp only [Result.after, h.routes, h.dispatched, hskipped, hignored, Nat.add_assoc]

/-- One more action that the longer run passes over. -/
theorem Result.Thins.pass {f : Nat → Nat} {n : Nat} {whole part : Result} {w : Stretch}
    (h : Thins R f n whole part) (hw : w = .skip 1 ∨ w = .ignore) :
    Thins R f (n + 1) (whole.after w) part := by
  obtain ⟨k, l, hskipped, hignored, hn⟩ := h.passed
  rcases hw with rfl | rfl
  · refine ⟨h.state, h.routes, h.termination, ?_, k + 1, l, ?_, ?_, by omega⟩ <;>
      simp only [Result.after, Stretch.skip, h.dispatched, hskipped, hignored] <;> omega
  · refine ⟨h.state, h.routes, h.termination, ?_, k, l + 1, ?_, ?_, by omega⟩ <;>
      simp only [Result.after, Stretch.ignore, h.dispatched, hskipped, hignored] <;> omega

/-- A run that meets no more actions, at the same places, has the same report. -/
theorem Result.Thins.report_eq {f : Nat → Nat} {whole part : Result} (h : Thins R f 0 whole part)
    (hf : ∀ u : Termination, u.moved f = u) : part.report = whole.report := by
  obtain ⟨k, l, hskipped, hignored, hkl⟩ := h.passed
  obtain ⟨rfl, rfl⟩ : k = 0 ∧ l = 0 := by omega
  have htermination := h.termination
  have hdispatched := h.dispatched
  rw [hf] at htermination
  obtain ⟨_, _, ⟨_, _, _, _⟩⟩ := whole
  obtain ⟨_, _, ⟨_, _, _, _⟩⟩ := part
  simp only [Nat.add_zero] at htermination hdispatched hskipped hignored ⊢
  rw [htermination, hdispatched, hskipped, hignored]

/-! ### Leaving actions out -/

section

variable (gone : Nat → Prop) [DecidablePred gone]

/-- What is left of a list, whose first action has the position `index`, without the actions at
some places. -/
def withoutFrom (index : Nat) (as : List Action) : List Action :=
  ((as.zipIdx index).filter fun p => ¬gone p.2).map Prod.fst

/-- What is left of a list without the actions at some places. -/
def without (actions : List Action) : List Action := withoutFrom gone 0 actions

/-- The place to which an action moves if the actions at some places before it are left out. -/
def closeUp (i : Nat) : Nat := i - Nat.count gone i

/-- How many of the next `n` places from `index` on are left out. -/
def leftOut (index n : Nat) : Nat := Nat.count (fun k => gone (index + k)) n

theorem withoutFrom_cons (index : Nat) (a : Action) (as : List Action) :
    withoutFrom gone index (a :: as) =
      if gone index then withoutFrom gone (index + 1) as
      else a :: withoutFrom gone (index + 1) as := by
  by_cases h : gone index <;> simp [withoutFrom, List.zipIdx_cons, h]

theorem closeUp_succ (i : Nat) :
    closeUp gone (i + 1) = if gone i then closeUp gone i else closeUp gone i + 1 := by
  have := Nat.count_le (p := gone) (n := i)
  by_cases h : gone i <;> simp only [closeUp, Nat.count_succ, h, if_true, if_false] <;> omega

theorem leftOut_succ (index n : Nat) :
    leftOut gone index (n + 1) = leftOut gone (index + 1) n + if gone index then 1 else 0 := by
  rw [leftOut, Nat.count_succ', leftOut]
  simp only [Nat.add_zero, Nat.add_assoc, Nat.add_comm 1]

theorem leftOut_zero (n : Nat) : leftOut gone 0 n = Nat.count gone n := by
  simp only [leftOut, Nat.zero_add]

end

/-- A run and the run without some actions that mean nothing, from states that no requirement tells
apart, come to the same. -/
theorem thins_runFrom {gone : Nat → Prop} [DecidablePred gone] (hR : Indistinct R as)
    (hgone : ∀ k a, as[k]? = some a → gone (index + k) → a.Ignorable) (hst : R s t)
    (mode : NestedSkip) (labels : List String) (skip : Option Skip) :
    Result.Thins R (closeUp gone)
      (leftOut gone index (momentsFrom mode index ⟨s, labels, skip⟩ as).length)
      (runFrom mode index ⟨s, labels, skip⟩ as).result
      (runFrom mode (closeUp gone index) ⟨t, labels, skip⟩
        (withoutFrom gone index as)).result := by
  induction as generalizing index s t labels skip with
  | nil => exact .ended hst .completed {}
  | cons a as ih =>
    have hR' : Indistinct R as := ⟨hR.apply, fun ha => hR.fails (List.mem_cons_of_mem _ ha)⟩
    have hgone' : ∀ k b, as[k]? = some b → gone (index + 1 + k) → b.Ignorable := by
      intro k b hb hk
      rw [Nat.add_right_comm, Nat.add_assoc] at hk
      exact hgone (k + 1) b (by rw [List.getElem?_cons_succ, hb]) hk
    rw [withoutFrom_cons, momentsFrom, result_runFrom_cons]
    by_cases hg : gone index
    · -- the action is left out, and is passed over where it is not
      obtain ⟨hframe, hstop, hstretch⟩ :=
        step_of_ignorable (hgone 0 a rfl hg) mode index ⟨s, labels, skip⟩
      have hthins := ih hR' hgone' hst labels skip
      rw [closeUp_succ, if_pos hg] at hthins
      rw [if_pos hg, hframe, hstop, List.length_cons, leftOut_succ, if_pos hg]
      exact hthins.pass hstretch
    · have halike := hR.step List.mem_cons_self hst mode index (closeUp gone index) labels
        skip
      rw [if_neg hg, result_runFrom_cons, halike.stop, halike.stretch, List.length_cons,
        leftOut_succ, if_neg hg]
      cases hstop : (step mode index ⟨s, labels, skip⟩ a).stop with
      | some u =>
        simp only [Option.map_some]
        rw [moved_of_stop hstop]
        exact .ended halike.state u _
      | none =>
        have hthins := ih hR' hgone' halike.state
          (step mode index ⟨s, labels, skip⟩ a).frame.labels
          (step mode index ⟨s, labels, skip⟩ a).frame.skip
        rw [closeUp_succ, if_neg hg] at hthins
        simp only [Option.map_none]
        rw [halike.frame_eq]
        exact hthins.after _

/-- From states that no requirement tells apart a list does the same. -/
theorem Indistinct.run_eq {actions : List Action} (hR : Indistinct R actions)
    (mode : NestedSkip) (hst : R s t) :
    R (run mode s actions).state (run mode t actions).state ∧
      (run mode t actions).result.routes = (run mode s actions).result.routes ∧
      (run mode t actions).report = (run mode s actions).report := by
  -- nothing is left out
  have hgone : ∀ (k : Nat) (a : Action), actions[k]? = some a → False → a.Ignorable :=
    fun _ _ _ h => h.elim
  have hthins := @thins_runFrom 0 actions R s t (fun _ => False) _ hR hgone hst mode [] none
  have hwithout : withoutFrom (fun _ => False) 0 actions = actions := by simp [withoutFrom]
  rw [hwithout, leftOut_zero, Nat.count_false] at hthins
  refine ⟨hthins.state, hthins.routes, hthins.report_eq fun u => ?_⟩
  cases u <;> simp [Termination.moved, closeUp]

/-- Leaving out any actions that mean nothing changes neither the state at the end, the routes, the
number of actions that are carried out nor the way in which the run ends. The place at which it ends
moves up by the actions left out before it. What is skipped or ignored is less by the actions left
out that the run came to. -/
theorem ignorable_rules {gone : Nat → Prop} [DecidablePred gone] {actions : List Action}
    (hgone : ∀ i a, actions[i]? = some a → gone i → a.Ignorable) (mode : NestedSkip)
    (state : GameState) :
    let whole := run mode state actions
    let part := run mode state (without gone actions)
    part.state = whole.state ∧ part.result.routes = whole.result.routes ∧
      part.report.dispatched = whole.report.dispatched ∧
      part.report.termination =
        whole.report.termination.moved (fun i => i - Nat.count gone i) ∧
      part.report.skipped + part.report.ignored +
          Nat.count gone (moments mode state actions).length =
        whole.report.skipped + whole.report.ignored := by
  intro whole part
  have hgone' : ∀ k a, actions[k]? = some a → gone (0 + k) → a.Ignorable := by
    intro k a ha hk
    rw [Nat.zero_add] at hk
    exact hgone k a ha hk
  have hthins :=
    thins_runFrom (indistinct_eq actions) hgone' (Eq.refl state) mode [] none
  rw [leftOut_zero] at hthins
  refine ⟨hthins.state.symm, hthins.routes, hthins.dispatched, hthins.termination, ?_⟩
  obtain ⟨k, l, hskipped, hignored, hkl⟩ := hthins.passed
  have hskipped' : whole.report.skipped = part.report.skipped + k := hskipped
  have hignored' : whole.report.ignored = part.report.ignored + l := hignored
  have hcount : k + l = Nat.count gone (moments mode state actions).length := hkl
  omega

/-- A hall that nobody without a key may enter, between actions that mean nothing. -/
def cluttered : List Action := [⟨[]⟩, ⟨["StartBlock", "hall"]⟩, ⟨["RequireItem", "key"]⟩,
  ⟨["StartBlock"]⟩, ⟨["Knock", "hall"]⟩, ⟨["EndBlock", "hall"]⟩, ⟨["Route"]⟩,
  ⟨["RequireItem", "lamp"]⟩, ⟨["SetGameState", "lamp"]⟩]

/-- Of the five actions that mean nothing in the list, four are left out. The run comes to three of
them, one while it skips, and ends three places earlier. -/
theorem ignorable_rules_cluttered :
    let gone : Nat → Prop := fun i => i = 0 ∨ i = 3 ∨ i = 6 ∨ i = 8
    (∀ i a, cluttered[i]? = some a → gone i → a.Ignorable) ∧
      (run .labelMatch .empty cluttered).report = ⟨.requirementFailed 7, 4, 2, 2⟩ ∧
      (run .labelMatch .empty (without gone cluttered)).report.termination =
        .requirementFailed 4 ∧
      (run .labelMatch .empty (without gone cluttered)).report.dispatched = 4 ∧
      (run .labelMatch .empty (without gone cluttered)).report.skipped +
        (run .labelMatch .empty (without gone cluttered)).report.ignored + 3 = 4 := by
  intro gone
  have hgone : ∀ i a, cluttered[i]? = some a → gone i → a.Ignorable := by
    rintro i a ha (rfl | rfl | rfl | rfl) <;> cases ha
    · exact .empty
    · exact .tooShort .startBlock (by decide)
    · exact .tooShort .route (by decide)
    · exact .tooShort .setGameState (by decide)
  obtain ⟨-, -, hdispatched, htermination, hpassed⟩ := ignorable_rules hgone .labelMatch .empty
  have hreport : (run .labelMatch .empty cluttered).report = ⟨.requirementFailed 7, 4, 2, 2⟩ := by
    decide
  have hreached : Nat.count gone (moments .labelMatch .empty cluttered).length = 3 := by decide
  have hplace : Nat.count gone 7 = 3 := by decide
  rw [hreport] at hdispatched htermination hpassed
  rw [hreached] at hpassed
  exact ⟨hgone, hreport, htermination.trans (by rw [Termination.moved, hplace]), hdispatched,
    hpassed⟩

end Interpreter

end SlideGraph
