import SlideGraph.Proofs.Interpreter.Step

/-!
# Where a run stops

Every action that a run comes to is counted once, as carried out, skipped or ignored. A run comes
to all of its actions, unless it carries out an exit or a requirement that fails where no block is
open. There it stops: the actions behind do not matter, and without this last action the run would
have come to the same.
-/

namespace SlideGraph

/-- The actions that a report counts, in whatever way. -/
def Report.total (r : Report) : Nat := r.dispatched + r.skipped + r.ignored

namespace Interpreter

variable {mode : NestedSkip} {index : Nat} {frame after : Frame} {a : Action} {as : List Action}
  {ms : List Moment} {t : Termination}

/-! ### Counting -/

/-- The actions of a stretch. -/
def Stretch.total (w : Stretch) : Nat := w.dispatched + w.skipped + w.ignored

theorem Stretch.total_append (v w : Stretch) : (v ++ w).total = v.total + w.total := by
  simp only [total, dispatched_append, skipped_append, ignored_append]
  omega

theorem Step.total_stretch (s : Step) : s.stretch.total = 1 := by
  cases h : s.tally <;>
    simp [stretch, h, Stretch.total, Stretch.dispatch, Stretch.skip, Stretch.ignore]

/-- What some moments of a run add to it. -/
def stretchOf (ms : List Moment) : Stretch := ms.foldr (fun m w => m.step.stretch ++ w) {}

/-- Every moment counts once. -/
theorem total_stretchOf (ms : List Moment) : (stretchOf ms).total = ms.length := by
  induction ms with
  | nil => rfl
  | cons m ms ih =>
    have hcons : stretchOf (m :: ms) = m.step.stretch ++ stretchOf ms := rfl
    rw [hcons, Stretch.total_append, Step.total_stretch, ih, List.length_cons, Nat.add_comm]

theorem Outcome.result_behindAll (o : Outcome) (ms : List Moment) :
    (o.behindAll ms).result = o.result.after (stretchOf ms) := by
  induction ms with
  | nil => simp [stretchOf]
  | cons m ms ih =>
    rw [behindAll_cons, result_behind, ih, Result.after_after]
    rfl

/-! ### The end -/

/-- A step ends the run only if it carries out an exit, or a requirement that fails where no block
is open. It changes nothing. -/
theorem step_of_stop (h : (step mode index frame a).stop = some t) :
    step mode index frame a =
        { frame, tally := .dispatched, effects := [.logged (dispatchRecord index a)],
          stop := some t } ∧
      frame.skip = none ∧
      (a.instruction = .ok .exit ∧ t = .exited index ∨
        a.Fails frame.state ∧ frame.labels = [] ∧ t = .requirementFailed index) := by
  obtain ⟨state, labels, skip⟩ := frame
  -- the end of a skip is the end of a block, which ends no run
  have hskip : skip = none := by
    cases skip with
    | none => rfl
    | some skip =>
      simp only [step] at h
      split at h
      · rename_i hmeet
        have hi := Action.instruction_of_closes (closes_of_resumes hmeet)
        rw [live_of_ok hi] at h
        simp [stop_dispatch, Instruction.fails] at h
      · cases h
  subst hskip
  rw [step_unskipped] at h ⊢
  cases hi : a.instruction with
  | error o =>
    rw [live_of_error hi] at h
    cases h
  | ok i =>
    rw [live_of_ok hi] at h ⊢
    simp only [stop_dispatch] at h
    split at h
    · rename_i hexit
      obtain rfl : Termination.exited index = t := Option.some.inj h
      subst hexit
      exact ⟨rfl, rfl, .inl ⟨rfl, rfl⟩⟩
    · split at h
      · rename_i hfails
        obtain rfl : Termination.requirementFailed index = t := Option.some.inj h
        obtain ⟨hfails, rfl⟩ := hfails
        rw [dispatch_of_fails hfails]
        exact ⟨rfl, rfl, .inr ⟨⟨i, hi, hfails⟩, rfl, rfl⟩⟩
      · cases h

/-- A run carries out all of its actions, or ends with one of them. -/
theorem leads_or_stops (mode : NestedSkip) (index : Nat) (frame : Frame) (as : List Action) :
    (∃ ms after, Leads mode index frame as ms after) ∨
      ∃ n a ms after t, as[n]? = some a ∧ Leads mode index frame (as.take n) ms after ∧
        (step mode (index + n) after a).stop = some t := by
  induction as generalizing index frame with
  | nil => exact .inl ⟨[], frame, .nil⟩
  | cons a as ih =>
    cases hstop : (step mode index frame a).stop with
    | some t => exact .inr ⟨0, a, [], frame, t, rfl, .nil, hstop⟩
    | none =>
      rcases ih (index + 1) (step mode index frame a).frame with
        ⟨ms, after, h⟩ | ⟨n, b, ms, after, t, hb, h, ht⟩
      · exact .inl ⟨_, after, .cons hstop h⟩
      · rw [Nat.add_right_comm, Nat.add_assoc] at ht
        exact .inr ⟨n + 1, b, _, after, t, hb, .cons hstop h, ht⟩

/-- A run that carries out all of its actions comes to what they add up to. -/
theorem Leads.result_runFrom (h : Leads mode index frame as ms after) :
    (runFrom mode index frame as).result = .ended after.state .completed (stretchOf ms) := by
  have hrun := h.runFrom_append []
  rw [List.append_nil] at hrun
  rw [hrun, Outcome.result_behindAll, runFrom, Outcome.result_ended, Result.ended_after,
    Stretch.append_nil]

/-- A run that ends with an action does not look at the actions behind it. -/
theorem Leads.runFrom_of_stop (h : Leads mode index frame as ms after)
    (hstop : (step mode (index + as.length) after a).stop = some t) (rest others : List Action) :
    runFrom mode index frame (as ++ a :: rest) = runFrom mode index frame (as ++ a :: others) := by
  rw [h.runFrom_append, h.runFrom_append, runFrom, runFrom]
  simp only [hstop]

/-- What is seen of a run that ends with an action. -/
theorem Leads.result_of_stop (h : Leads mode index frame as ms after)
    (hstop : (step mode (index + as.length) after a).stop = some t) (rest : List Action) :
    (runFrom mode index frame (as ++ a :: rest)).result =
      .ended after.state t (stretchOf ms ++ .dispatch) := by
  rw [h.runFrom_append, Outcome.result_behindAll, result_runFrom_cons, hstop,
    (step_of_stop hstop).1]
  exact Result.ended_after after.state t (stretchOf ms) .dispatch

/-- The action that ends a run is the last that it comes to. -/
theorem Leads.momentsFrom_of_stop (h : Leads mode index frame as ms after)
    (hstop : (step mode (index + as.length) after a).stop = some t) (rest : List Action) :
    momentsFrom mode index frame (as ++ a :: rest) =
      ms ++ [⟨after, step mode (index + as.length) after a⟩] := by
  rw [h.momentsFrom_append, momentsFrom]
  simp only [hstop, Option.isSome_some, if_true]

/-! ### Runs of whole lists -/

/-- A run that ends at a place counts the actions up to there and does not look at those behind.
The actions before the place alone come to their end, in the same state and by the same routes, and
differ in the one action that is carried out at the place. -/
structure StopsAt (mode : NestedSkip) (state : GameState) (actions : List Action) (i : Nat) :
    Prop where
  inside : i < actions.length
  total : (run mode state actions).report.total = i + 1
  replaced (others : List Action) :
    run mode state (actions.take (i + 1) ++ others) = run mode state actions
  completed : (run mode state (actions.take i)).report.termination = .completed
  state_eq : (run mode state (actions.take i)).state = (run mode state actions).state
  routes_eq : (run mode state (actions.take i)).result.routes =
    (run mode state actions).result.routes
  skipped_eq : (run mode state (actions.take i)).report.skipped =
    (run mode state actions).report.skipped
  ignored_eq : (run mode state (actions.take i)).report.ignored =
    (run mode state actions).report.ignored
  dispatched_succ : (run mode state (actions.take i)).report.dispatched + 1 =
    (run mode state actions).report.dispatched

/-- Two runs of which one carries out a single action more, and ends with it. -/
theorem StopsAt.of_result {state last : GameState} {actions : List Action} {i : Nat} {w : Stretch}
    (hi : i < actions.length) (hw : w.total = i)
    (hbefore : (run mode state (actions.take i)).result = .ended last .completed w)
    (hall : (run mode state actions).result = .ended last t (w ++ .dispatch))
    (hreplaced : ∀ others, run mode state (actions.take (i + 1) ++ others) =
      run mode state actions) : StopsAt mode state actions i := by
  have hreport : (run mode state actions).report =
      ⟨t, w.dispatched + 1, w.skipped, w.ignored⟩ := congrArg Result.report hall
  have hreport' : (run mode state (actions.take i)).report =
      ⟨.completed, w.dispatched, w.skipped, w.ignored⟩ := congrArg Result.report hbefore
  refine
    { inside := hi
      total := ?_
      replaced := hreplaced
      completed := by rw [hreport']
      state_eq := (congrArg Result.state hbefore).trans (congrArg Result.state hall).symm
      routes_eq := ?_
      skipped_eq := by rw [hreport, hreport']
      ignored_eq := by rw [hreport, hreport']
      dispatched_succ := by rw [hreport, hreport'] }
  · rw [hreport, ← hw]
    simp only [Report.total, Stretch.total]
    omega
  · rw [hbefore, hall]
    simp [Result.ended, Stretch.dispatch]

/-- A run that carries out the actions before a place and ends with the action there stops at the
place. -/
theorem Leads.stopsAt {state : GameState} {actions : List Action} {i : Nat}
    (ha : actions[i]? = some a) (h : Leads mode 0 { state } (actions.take i) ms after)
    (hstop : (step mode i after a).stop = some t) :
    StopsAt mode state actions i ∧
      (run mode state actions).result = .ended after.state t (stretchOf ms ++ .dispatch) ∧
      (moments mode state actions)[i]? = some ⟨after, step mode i after a⟩ := by
  obtain ⟨hi, hget⟩ := List.getElem?_eq_some_iff.1 ha
  have hlength : (actions.take i).length = i := by
    rw [List.length_take, Nat.min_eq_left (Nat.le_of_lt hi)]
  have hcount : ms.length = i := by rw [h.length_eq, hlength]
  have hstop' : (step mode (0 + (actions.take i).length) after a).stop = some t := by
    rw [hlength, Nat.zero_add, hstop]
  have hsplit : actions.take i ++ a :: actions.drop (i + 1) = actions := by
    rw [← hget, ← List.drop_eq_getElem_cons hi, List.take_append_drop]
  have hall := h.result_of_stop hstop' (actions.drop (i + 1))
  have hmoments := h.momentsFrom_of_stop hstop' (actions.drop (i + 1))
  rw [hsplit] at hall hmoments
  refine ⟨.of_result hi ((total_stretchOf ms).trans hcount) h.result_runFrom hall ?_, hall, ?_⟩
  · intro others
    have hothers := h.runFrom_of_stop hstop' others (actions.drop (i + 1))
    rw [hsplit] at hothers
    rw [List.take_succ_eq_append_getElem hi, hget, List.append_assoc]
    exact hothers
  · rw [hlength, Nat.zero_add] at hmoments
    rw [moments, hmoments, List.getElem?_append_right (Nat.le_of_eq hcount), hcount, Nat.sub_self]
    rfl

/-- Every action that a run comes to is counted once: all of them if the run comes to the end of
its list, and those up to its last action otherwise. This is an exit, or a requirement that fails
where no block is open. -/
theorem stopping_rules (mode : NestedSkip) (state : GameState) (actions : List Action) :
    ((run mode state actions).report.termination = .completed →
      (run mode state actions).report.total = actions.length) ∧
    (∀ i, (run mode state actions).report.termination = .exited i →
      StopsAt mode state actions i ∧
        ∃ a, actions[i]? = some a ∧ a.instruction = .ok .exit) ∧
    (∀ i, (run mode state actions).report.termination = .requirementFailed i →
      StopsAt mode state actions i ∧
        ∃ a here, actions[i]? = some a ∧ (moments mode state actions)[i]? = some here ∧
          here.before = ⟨(run mode state actions).state, [], none⟩ ∧
          a.Fails here.before.state) := by
  rcases leads_or_stops mode 0 { state } actions with
    ⟨ms, after, h⟩ | ⟨n, a, ms, after, t, ha, h, hstop⟩
  · have hreport : (run mode state actions).report =
        ⟨.completed, (stretchOf ms).dispatched, (stretchOf ms).skipped, (stretchOf ms).ignored⟩ :=
      congrArg Result.report h.result_runFrom
    refine ⟨fun _ => ?_, fun i hi => ?_, fun i hi => ?_⟩
    · have htotal : (run mode state actions).report.total = (stretchOf ms).total :=
        congrArg Report.total hreport
      rw [htotal, total_stretchOf, h.length_eq]
    · rw [hreport] at hi
      cases hi
    · rw [hreport] at hi
      cases hi
  · rw [Nat.zero_add] at hstop
    obtain ⟨hstops, hresult, hhere⟩ := h.stopsAt ha hstop
    obtain ⟨-, hskip, hcause⟩ := step_of_stop hstop
    have hstate : (run mode state actions).state = after.state := congrArg Result.state hresult
    have hterm : (run mode state actions).report.termination = t :=
      congrArg (·.report.termination) hresult
    rw [hterm]
    rcases hcause with ⟨hexit, rfl⟩ | ⟨hfails, hlabels, rfl⟩
    · refine ⟨fun hc => (nomatch hc), fun i hi => ?_, fun i hi => (nomatch hi)⟩
      obtain rfl : n = i := Termination.exited.inj hi
      exact ⟨hstops, a, ha, hexit⟩
    · refine ⟨fun hc => (nomatch hc), fun i hi => (nomatch hi), fun i hi => ?_⟩
      obtain rfl : n = i := Termination.requirementFailed.inj hi
      refine ⟨hstops, a, _, ha, hhere, ?_, hfails⟩
      rw [hstate, ← hlabels, ← hskip]

/-- A desk that nobody without a key may open, a way to the hall, and a lamp that is needed to come
to the exit. -/
def desk : List Action := [⟨["StartBlock", "desk"]⟩, ⟨["RequireItem", "key"]⟩, ⟨["Knock"]⟩,
  ⟨["EndBlock", "desk"]⟩, ⟨["Route"]⟩, ⟨["Route", "hall"]⟩, ⟨["RequireItem", "lamp"]⟩, ⟨["Exit"]⟩,
  ⟨["AddItem", "rope"]⟩]

/-- Without a lamp the run stops at the second requirement; with one it stops at the exit. Both
have counted every action up to there. -/
theorem stopping_rules_desk :
    (run .labelMatch .empty desk).report = ⟨.requirementFailed 6, 5, 1, 1⟩ ∧
      StopsAt .labelMatch .empty desk 6 ∧
      (run .labelMatch ⟨.ofList ["lamp"], .empty⟩ desk).report = ⟨.exited 7, 6, 1, 1⟩ ∧
      StopsAt .labelMatch ⟨.ofList ["lamp"], .empty⟩ desk 7 ∧
      (run .labelMatch .empty (desk.take 6)).report.total = 6 := by
  refine ⟨by decide, ?_, by decide, ?_, ?_⟩
  · exact ((stopping_rules .labelMatch .empty desk).2.2 6 (by decide)).1
  · exact ((stopping_rules .labelMatch ⟨.ofList ["lamp"], .empty⟩ desk).2.1 7 (by decide)).1
  · exact (stopping_rules .labelMatch .empty (desk.take 6)).1 (by decide)

end Interpreter

end SlideGraph
