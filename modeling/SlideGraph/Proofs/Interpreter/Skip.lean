import Mathlib.Order.Bounds.Defs
import SlideGraph.Proofs.Action.Reading
import SlideGraph.Proofs.Interpreter.Moments

/-!
# Where a skip ends

A skip behind a failed requirement looks at its actions one by one and counts how deep it is. Seen
from outside it ends at the first end of its label that has as many ends as starts of the label
between itself and the requirement; with matched labels, at the first end of its label. Nothing is
asked of the list: its marks need not be nested, and blocks may stay open.
-/

namespace SlideGraph

/-- Whether an instruction is a requirement that the state does not meet. -/
def Instruction.fails (state : GameState) : Instruction → Bool
  | .requireItem r => !r.holds (state.hasItem r.key)
  | .requireFlag r => !r.holds (state.flag r.key)
  | _ => false

namespace Action

/-- The action is a requirement that the state does not meet. -/
def Fails (a : Action) (state : GameState) : Prop :=
  ∃ i, a.instruction = .ok i ∧ i.fails state = true

/-! ### Marks of a label -/

theorem closes_iff {a : Action} {label : String} :
    a.closes label = true ↔ ∃ more, a.tokens = Opcode.endBlock.name :: label :: more := by
  obtain ⟨tokens⟩ := a
  rcases tokens with _ | ⟨token, _ | ⟨first, more⟩⟩ <;>
    simp [closes, opcodeToken, operand, operands]

theorem opens_iff {a : Action} {label : String} :
    a.opens label = true ↔ a.instruction = .ok (.startBlock label) := by
  rw [instruction_eq_startBlock_iff]
  obtain ⟨tokens⟩ := a
  rcases tokens with _ | ⟨token, _ | ⟨first, more⟩⟩ <;>
    simp [opens, opcodeToken, operand, operands]

theorem instruction_of_closes {a : Action} {label : String} (h : a.closes label = true) :
    a.instruction = .ok .endBlock := by
  obtain ⟨more, htokens⟩ := closes_iff.1 h
  exact instruction_eq_endBlock_iff.2 ⟨label :: more, htokens⟩

/-- No action is a start and an end. -/
theorem closes_of_opens {a : Action} {label : String} (h : a.opens label = true)
    (label' : String) : a.closes label' = false := by
  by_contra hcloses
  have hend := instruction_of_closes (Bool.not_eq_false _ ▸ hcloses)
  rw [opens_iff.1 h] at hend
  cases hend

end Action

namespace Interpreter

variable {mode : NestedSkip} {skip skip' : Skip} {a : Action} {as : List Action}

/-! ### The end, seen from the place of the skip -/

/-- The skip can end at the action with this position in the list ahead: the action ends the label
of the skip, and where depth is tracked, the ends of the label before it are as many as the starts
with those that are open already. -/
def Skip.EndsAt (mode : NestedSkip) (skip : Skip) (as : List Action) (n : Nat) : Prop :=
  (∃ a, as[n]? = some a ∧ a.closes skip.label = true) ∧
    (mode = .depthTracked → (as.take n).countP (·.closes skip.label) =
      skip.depth + (as.take n).countP (·.opens skip.label))

/-- With matched labels nothing counts as inside. -/
def Skip.Fits (mode : NestedSkip) (skip : Skip) : Prop := mode = .labelMatch → skip.depth = 0

theorem meet_resumes_iff (hfits : skip.Fits mode) :
    skip.meet mode a = .resumes ↔ skip.EndsAt mode (a :: as) 0 := by
  obtain ⟨label, depth⟩ := skip
  simp only [Skip.meet, Skip.EndsAt, List.getElem?_cons_zero, Option.some.injEq, exists_eq_left',
    List.take_zero, List.countP_nil]
  by_cases hopens : a.opens label = true
  · have hcloses := Action.closes_of_opens hopens label
    cases mode <;> simp [hopens, hcloses]
  · cases mode with
    | labelMatch =>
      obtain rfl : depth = 0 := hfits rfl
      cases a.closes label <;> simp
    | depthTracked => cases a.closes label <;> cases depth <;> simp [hopens]

/-- What an action does to the depth. -/
theorem depth_of_passes (h : skip.meet mode a = .passes skip') :
    skip'.label = skip.label ∧
      (mode = .labelMatch → skip'.depth ≤ skip.depth) ∧
      (mode = .depthTracked → skip'.depth + [a].countP (·.closes skip.label) =
        skip.depth + [a].countP (·.opens skip.label)) := by
  obtain ⟨label, depth⟩ := skip
  simp only [Skip.meet] at h
  cases hopens : a.opens label with
  | true =>
    have hcloses := Action.closes_of_opens hopens label
    cases mode with
    | labelMatch =>
      simp only [hcloses, reduceCtorEq, false_and, if_false, Bool.false_eq_true] at h
      cases h
      simp
    | depthTracked =>
      simp only [hopens, and_self, if_true] at h
      cases h
      simp [hopens, hcloses]
  | false =>
    simp only [hopens, Bool.false_eq_true, and_false, if_false] at h
    cases hcloses : a.closes label with
    | true =>
      cases depth with
      | zero => simp [hcloses] at h
      | succ depth =>
        simp only [hcloses, if_true] at h
        cases h
        simp [hopens, hcloses]
    | false =>
      simp only [hcloses, Bool.false_eq_true, if_false] at h
      cases h
      simp [hopens, hcloses]

theorem Skip.Fits.passes (hfits : skip.Fits mode) (h : skip.meet mode a = .passes skip') :
    skip'.Fits mode := by
  intro hmode
  have hdepth := (depth_of_passes h).2.1 hmode
  rw [hfits hmode] at hdepth
  exact Nat.le_zero.1 hdepth

/-- Behind an action that is passed over the end is where it was. -/
theorem endsAt_succ_iff (h : skip.meet mode a = .passes skip') (n : Nat) :
    skip.EndsAt mode (a :: as) (n + 1) ↔ skip'.EndsAt mode as n := by
  obtain ⟨hlabel, -, hdepth⟩ := depth_of_passes h
  have hcons (p : Action → Bool) :
      (a :: as.take n).countP p = [a].countP p + (as.take n).countP p := by
    rw [← List.countP_append, List.singleton_append]
  simp only [Skip.EndsAt, List.getElem?_cons_succ, List.take_succ_cons, hcons, hlabel]
  refine and_congr_right fun _ => forall_congr' fun hmode => ?_
  have := hdepth hmode
  omega

/-! ### The actions in between -/

/-- The run passes over the action and changes nothing that it knows, except of the skip itself. -/
structure Moment.Passed (m : Moment) (state : GameState) (labels : List String) : Prop where
  state_before : m.before.state = state
  labels_before : m.before.labels = labels
  state_after : m.step.frame.state = state
  labels_after : m.step.frame.labels = labels
  tally : m.step.tally = .skipped
  effects : m.step.effects = []

theorem step_passes {state : GameState} {labels : List String}
    (h : skip.meet mode a = .passes skip') (index : Nat) :
    step mode index ⟨state, labels, some skip⟩ a =
      { frame := ⟨state, labels, some skip'⟩, tally := .skipped } := by
  simp only [step, h]

/-- A skip passes over the actions in front of its end. -/
theorem exists_leads_passed (hfits : skip.Fits mode) {n : Nat} (hn : n ≤ as.length)
    (hend : ∀ k < n, ¬skip.EndsAt mode as k) (index : Nat) (state : GameState)
    (labels : List String) :
    ∃ ms skip', Leads mode index ⟨state, labels, some skip⟩ (as.take n) ms
        ⟨state, labels, some skip'⟩ ∧ (∀ m ∈ ms, m.Passed state labels) ∧ skip'.Fits mode ∧
      skip'.label = skip.label ∧
      ∀ k, skip'.EndsAt mode (as.drop n) k ↔ skip.EndsAt mode as (n + k) := by
  induction n generalizing as skip index with
  | zero =>
    refine ⟨[], skip, .nil, by simp, hfits, rfl, ?_⟩
    intro k
    rw [List.drop_zero, Nat.zero_add]
  | succ n ih =>
    cases as with
    | nil => simp at hn
    | cons a as =>
      cases hmeet : skip.meet mode a with
      | resumes => exact absurd ((meet_resumes_iff hfits).1 hmeet) (hend 0 (Nat.succ_pos n))
      | passes next =>
        have hahead (k : Nat) : skip.EndsAt mode (a :: as) (k + 1) ↔ next.EndsAt mode as k :=
          endsAt_succ_iff hmeet k
        have hstep : step mode index ⟨state, labels, some skip⟩ a =
            { frame := ⟨state, labels, some next⟩, tally := .skipped } := step_passes hmeet index
        have hnext : ∀ k < n, ¬next.EndsAt mode as k := by
          intro k hk h
          exact hend (k + 1) (Nat.succ_lt_succ hk) ((hahead k).2 h)
        obtain ⟨ms, skip', hleads, hpassed, hfits', hlabel, hends⟩ :=
          ih (hfits.passes hmeet) (Nat.le_of_succ_le_succ hn) hnext (index + 1)
        have hstop : (step mode index ⟨state, labels, some skip⟩ a).stop = none := by rw [hstep]
        refine ⟨⟨_, step mode index ⟨state, labels, some skip⟩ a⟩ :: ms, skip',
          .cons hstop (by rw [hstep]; exact hleads), ?_, hfits',
          hlabel.trans (depth_of_passes hmeet).1, ?_⟩
        · intro m hm
          rcases List.mem_cons.1 hm with rfl | hm
          · rw [hstep]
            exact ⟨rfl, rfl, rfl, rfl, rfl, rfl⟩
          · exact hpassed m hm
        · intro k
          rw [List.drop_succ_cons, hends k, ← hahead, Nat.add_right_comm]

/-- Actions that are passed over count as skipped and do nothing else. -/
theorem Outcome.behindAll_passed {state : GameState} {labels : List String} {ms : List Moment}
    (h : ∀ m ∈ ms, m.Passed state labels) (o : Outcome) :
    o.behindAll ms =
      { o with report := { o.report with skipped := o.report.skipped + ms.length } } := by
  induction ms with
  | nil => rfl
  | cons m ms ih =>
    have hm := h m List.mem_cons_self
    rw [behindAll_cons, ih fun m hm => h m (List.mem_cons_of_mem _ hm)]
    simp [behind, hm.tally, hm.effects, Tally.count, Nat.add_assoc]

/-! ### The action at either end -/

theorem dispatch_of_fails {i : Instruction} {state : GameState} (h : i.fails state = true)
    (index : Nat) (labels : List String) :
    dispatch index ⟨state, labels, none⟩ i = require index ⟨state, labels, none⟩ false := by
  cases i with
  | requireItem r =>
    simp only [Instruction.fails, Bool.not_eq_true'] at h
    rw [dispatch, h]
  | requireFlag r =>
    simp only [Instruction.fails, Bool.not_eq_true'] at h
    rw [dispatch, h]
  | _ => cases h

/-- What the log says of an action that is carried out. -/
def dispatchRecord (index : Nat) (a : Action) : LogRecord :=
  .debug (place index ++ ": " ++ Text.quotedList a.tokens)

/-- A failed requirement inside a block begins a skip to the end of the innermost block. -/
theorem step_fails {frame : Frame} {index : Nat} {label : String} {outer : List String}
    (hdispatched : (step mode index frame a).tally = .dispatched) (h : a.Fails frame.state)
    (hlabels : frame.labels = label :: outer) :
    step mode index frame a =
      { frame := ⟨frame.state, label :: outer, some ⟨label, 0⟩⟩, tally := .dispatched,
        effects := [.logged (dispatchRecord index a)] } := by
  obtain ⟨i, hi, hfails⟩ := h
  obtain ⟨state, labels, skip⟩ := frame
  cases hlabels
  have hlive : live index ⟨state, label :: outer, none⟩ a =
      { frame := ⟨state, label :: outer, some ⟨label, 0⟩⟩, tally := .dispatched,
        effects := [.logged (dispatchRecord index a)] } := by
    simp only [live, hi, dispatch_of_fails hfails]
    rfl
  cases skip with
  | none => exact hlive
  | some skip =>
    simp only [step] at hdispatched ⊢
    split
    · exact hlive
    · -- what a skip passes over is not carried out
      rename_i hmeet
      simp [hmeet] at hdispatched

/-- The end of a skip is carried out and closes the block in which the skip began. -/
theorem step_ends {state : GameState} {outer : List String} (hfits : skip.Fits mode)
    (h : skip.EndsAt mode (a :: as) 0) (index : Nat) :
    step mode index ⟨state, skip.label :: outer, some skip⟩ a =
      { frame := ⟨state, outer, none⟩, tally := .dispatched,
        effects := [.logged (dispatchRecord index a)] } := by
  obtain ⟨⟨b, hb, hcloses⟩, -⟩ := id h
  obtain rfl : a = b := by simpa using hb
  simp only [step, (meet_resumes_iff hfits).2 h, live, Action.instruction_of_closes hcloses]
  rfl

/-! ### The end, seen from the list -/

/-- The actions strictly between two places. -/
def between (actions : List Action) (i m : Nat) : List Action := (actions.take m).drop (i + 1)

/-- A skip to the end of `label` that begins at place `i` can end at place `m`: there the label is
ended, and where depth is tracked, the label is ended as often as begun in between. -/
structure CanEnd (mode : NestedSkip) (label : String) (actions : List Action) (i m : Nat) :
    Prop where
  above : i < m
  closes : ∃ a, actions[m]? = some a ∧ a.closes label = true
  balanced : mode = .depthTracked → (between actions i m).countP (·.closes label) =
    (between actions i m).countP (·.opens label)

theorem canEnd_iff {label : String} {actions : List Action} {i n : Nat} :
    CanEnd mode label actions i (i + 1 + n) ↔
      Skip.EndsAt mode ⟨label, 0⟩ (actions.drop (i + 1)) n := by
  have hbetween : between actions i (i + 1 + n) = (actions.drop (i + 1)).take n := by
    rw [between, List.drop_take, Nat.add_sub_cancel_left]
  constructor
  · rintro ⟨-, hcloses, hbalanced⟩
    rw [hbetween] at hbalanced
    rw [← List.getElem?_drop] at hcloses
    refine ⟨hcloses, fun hmode => ?_⟩
    rw [hbalanced hmode, Nat.zero_add]
  · rintro ⟨hcloses, hbalanced⟩
    rw [List.getElem?_drop] at hcloses
    refine ⟨by omega, hcloses, fun hmode => ?_⟩
    rw [hbetween, hbalanced hmode, Nat.zero_add]

theorem CanEnd.exists_eq {label : String} {actions : List Action} {i m : Nat}
    (h : CanEnd mode label actions i m) :
    ∃ n, m = i + 1 + n ∧ Skip.EndsAt mode ⟨label, 0⟩ (actions.drop (i + 1)) n := by
  obtain ⟨n, rfl⟩ := Nat.exists_eq_add_of_le h.above
  exact ⟨n, rfl, canEnd_iff.1 h⟩

/-! ### Skips in a run -/

/-- A skip goes to the first action at which it can end, and that action closes the block. -/
theorem exists_leads_ends (hfits : skip.Fits mode) {n : Nat} (hend : skip.EndsAt mode as n)
    (hleast : ∀ k < n, ¬skip.EndsAt mode as k) (index : Nat) (state : GameState)
    (outer : List String) :
    ∃ ms c last, Leads mode index ⟨state, skip.label :: outer, some skip⟩ (as.take (n + 1))
        (ms ++ [last]) ⟨state, outer, none⟩ ∧ ms.length = n ∧
      (∀ m ∈ ms, m.Passed state (skip.label :: outer)) ∧ as[n]? = some c ∧
      last.before.labels = skip.label :: outer ∧
      last.step =
        { frame := ⟨state, outer, none⟩, tally := .dispatched,
          effects := [.logged (dispatchRecord (index + n) c)] } := by
  obtain ⟨c, hc, -⟩ := hend.1
  obtain ⟨hn, rfl⟩ := List.getElem?_eq_some_iff.1 hc
  obtain ⟨ms, skip', hleads, hpassed, hfits', hlabel, hends⟩ :=
    exists_leads_passed hfits (Nat.le_of_lt hn) hleast index state (skip.label :: outer)
  have hlength : ms.length = n := by
    rw [hleads.length_eq, List.length_take, Nat.min_eq_left (Nat.le_of_lt hn)]
  have hlast : skip'.EndsAt mode (as[n] :: as.drop (n + 1)) 0 := by
    rw [← List.drop_eq_getElem_cons hn]
    exact (hends 0).2 hend
  have hstep : step mode (index + n) ⟨state, skip.label :: outer, some skip'⟩ as[n] =
      { frame := ⟨state, outer, none⟩, tally := .dispatched,
        effects := [.logged (dispatchRecord (index + n) as[n])] } := by
    rw [← hlabel]
    exact step_ends hfits' hlast (index + n)
  have hclosing : Leads mode (index + n) ⟨state, skip.label :: outer, some skip'⟩ [as[n]] _ _ :=
    .single (by rw [hstep])
  have hall := hleads.append (by
    rw [List.length_take, Nat.min_eq_left (Nat.le_of_lt hn)]
    exact hclosing)
  rw [hstep, ← List.take_succ_eq_append_getElem hn] at hall
  exact ⟨ms, as[n], _, hall, hlength, hpassed, hc, rfl, rfl⟩

/-- A skip that can end nowhere passes over all that is left. -/
theorem exists_leads_all (hfits : skip.Fits mode) (hend : ∀ n, ¬skip.EndsAt mode as n)
    (index : Nat) (state : GameState) (labels : List String) :
    ∃ ms skip', Leads mode index ⟨state, labels, some skip⟩ as ms ⟨state, labels, some skip'⟩ ∧
      ∀ m ∈ ms, m.Passed state labels := by
  obtain ⟨ms, skip', hleads, hpassed, -, -, -⟩ :=
    exists_leads_passed hfits (Nat.le_refl as.length) (fun k _ => hend k) index state labels
  rw [List.take_length] at hleads
  exact ⟨ms, skip', hleads, hpassed⟩

/-- The run comes with a failed requirement inside a block to the beginning of a skip. -/
theorem exists_leads_requirement {state : GameState} {actions : List Action} {i : Nat}
    {here : Moment} {label : String} {outer : List String} (ha : actions[i]? = some a)
    (hhere : (moments mode state actions)[i]? = some here)
    (hdispatched : here.step.tally = .dispatched) (hfails : a.Fails here.before.state)
    (hlabels : here.before.labels = label :: outer) :
    i + 1 ≤ actions.length ∧ ∃ ms, ms.length = i + 1 ∧
      Leads mode 0 { state } (actions.take (i + 1)) ms
        ⟨here.before.state, label :: outer, some ⟨label, 0⟩⟩ := by
  obtain ⟨b, ms, hb, hleads, hstep⟩ := exists_leads hhere
  obtain rfl : b = a := Option.some.inj (hb.symm.trans ha)
  obtain ⟨hi, hget⟩ := List.getElem?_eq_some_iff.1 hb
  rw [Nat.zero_add] at hstep
  rw [hstep] at hdispatched
  have hskip := step_fails hdispatched hfails hlabels
  have hsingle : Leads mode i here.before [b] _ _ := .single (by rw [hskip])
  have hupto := hleads.extend (Nat.le_of_lt hi) (k := 1) (by
    rw [List.drop_eq_getElem_cons hi, hget, List.take_succ_cons, List.take_zero, Nat.zero_add]
    exact hsingle)
  rw [hskip] at hupto
  refine ⟨hi, _, ?_, hupto⟩
  rw [hupto.length_eq, List.length_take, Nat.min_eq_left hi]

/-- A requirement that fails inside a block sends the run to the first place at which its skip can
end. Up to there nothing changes and every action counts as skipped, the action there closes the
block, and the run goes on behind it. Without such a place the run is over: everything behind the
requirement is skipped. -/
theorem skip_rules {state : GameState} {actions : List Action} {i : Nat} {here : Moment}
    {label : String} {outer : List String} (ha : actions[i]? = some a)
    (hhere : (moments mode state actions)[i]? = some here)
    (hdispatched : here.step.tally = .dispatched) (hfails : a.Fails here.before.state)
    (hlabels : here.before.labels = label :: outer) :
    (∀ m, IsLeast {m | CanEnd mode label actions i m} m →
      (∀ k, i < k → k < m → ∃ x, (moments mode state actions)[k]? = some x ∧
        x.Passed here.before.state (label :: outer)) ∧
      (∃ x c, (moments mode state actions)[m]? = some x ∧ actions[m]? = some c ∧
        x.before.labels = label :: outer ∧
        x.step =
          { frame := ⟨here.before.state, outer, none⟩, tally := .dispatched,
            effects := [.logged (dispatchRecord m c)] }) ∧
      run mode state actions =
        (runFrom mode (m + 1) ⟨here.before.state, outer, none⟩ (actions.drop (m + 1))).behindAll
          ((moments mode state actions).take (m + 1))) ∧
    ((∀ m, ¬CanEnd mode label actions i m) →
      run mode state actions =
        (⟨here.before.state, [], ⟨.completed, 0, actions.length - (i + 1), 0⟩⟩ : Outcome).behindAll
          ((moments mode state actions).take (i + 1))) := by
  obtain ⟨hi, ms, hlength, hupto⟩ :=
    exists_leads_requirement ha hhere hdispatched hfails hlabels
  have hfits : Skip.Fits mode ⟨label, 0⟩ := fun _ => rfl
  constructor
  · rintro m ⟨hm, hleast⟩
    obtain ⟨n, rfl, hends⟩ := CanEnd.exists_eq hm
    have hnone : ∀ k < n, ¬Skip.EndsAt mode ⟨label, 0⟩ (actions.drop (i + 1)) k := by
      intro k hk h
      have := hleast (canEnd_iff.2 h)
      omega
    obtain ⟨ms', c, last, hahead, rfl, hpassed, hc, hlast, hclosing⟩ :=
      exists_leads_ends hfits hends hnone (i + 1) here.before.state outer
    rw [List.getElem?_drop] at hc
    obtain ⟨hlt, -⟩ := List.getElem?_eq_some_iff.1 hc
    -- the run up to the end of the skip and with it
    have hall := hupto.extend hi (by rw [Nat.zero_add]; exact hahead)
    rw [← Nat.add_assoc] at hall
    obtain ⟨hmoments, hrun⟩ := run_of_leads hlt hall
    have hget (k : Nat) (hk : k < i + 1 + ms'.length + 1) :
        (moments mode state actions)[k]? = (ms ++ (ms' ++ [last]))[k]? := by
      rw [← hmoments, List.getElem?_take_of_lt hk]
    refine ⟨?_, ⟨last, c, ?_, hc, hlast, hclosing⟩, ?_⟩
    · intro k hik hkm
      obtain ⟨j, rfl⟩ : ∃ j, k = i + 1 + j := Nat.exists_eq_add_of_le hik
      have hj : j < ms'.length := by omega
      refine ⟨ms'[j], ?_, hpassed _ (List.getElem_mem hj)⟩
      rw [hget _ (by omega), ← hlength, List.getElem?_append_right (Nat.le_add_right _ _),
        Nat.add_sub_cancel_left, List.getElem?_append_left hj, List.getElem?_eq_getElem hj]
    · rw [hget _ (by omega), ← hlength, List.getElem?_append_right (Nat.le_add_right _ _),
        Nat.add_sub_cancel_left, List.getElem?_concat_length]
    · rw [hmoments]
      exact hrun
  · intro hnone
    have hnone' : ∀ n, ¬Skip.EndsAt mode ⟨label, 0⟩ (actions.drop (i + 1)) n :=
      fun n h => hnone _ (canEnd_iff.2 h)
    obtain ⟨ms', skip', hahead, hpassed⟩ :=
      exists_leads_all hfits hnone' (i + 1) here.before.state (label :: outer)
    obtain ⟨hmoments, hrun⟩ := run_of_leads hi hupto
    have hrest := hahead.runFrom_append []
    rw [List.append_nil] at hrest
    rw [hmoments, hrun, hrest, Outcome.behindAll_passed hpassed, hahead.length_eq,
      List.length_drop]
    simp [runFrom, Outcome.ended]

/-- A maze: the mark of a desk inside the hall ends nothing, an inner hall is passed over, and the
hall is left by its own end. A second end then finds no block. -/
def maze : List Action := [⟨["StartBlock", "hall"]⟩, ⟨["RequireItem", "key"]⟩,
  ⟨["StartBlock", "hall"]⟩, ⟨["EndBlock", "desk"]⟩, ⟨["EndBlock", "hall"]⟩, ⟨["AddItem", "lamp"]⟩,
  ⟨["EndBlock", "hall"]⟩, ⟨["EndBlock"]⟩, ⟨["Route", "roof"]⟩]

/-- Without the key the skip in the maze ends at the second end of the hall. -/
theorem skip_rules_maze :
    ∃ here, (moments .depthTracked .empty maze)[1]? = some here ∧
      here.step.tally = .dispatched ∧ Action.Fails ⟨["RequireItem", "key"]⟩ here.before.state ∧
      here.before.labels = ["hall"] ∧ IsLeast {m | CanEnd .depthTracked "hall" maze 1 m} 6 ∧
      run .depthTracked .empty maze =
        (runFrom .depthTracked 7 { state := .empty } (maze.drop 7)).behindAll
          ((moments .depthTracked .empty maze).take 7) := by
  have hfails : Action.Fails ⟨["RequireItem", "key"]⟩ .empty := ⟨_, rfl, rfl⟩
  have hleast : IsLeast {m | CanEnd .depthTracked "hall" maze 1 m} 6 := by
    refine ⟨⟨by decide, ⟨_, rfl, by decide⟩, fun _ => by decide⟩, ?_⟩
    rintro m ⟨habove, ⟨a, ha, hcloses⟩, hbalanced⟩
    by_contra hm
    have hm : m = 2 ∨ m = 3 ∨ m = 4 ∨ m = 5 := by omega
    rcases hm with rfl | rfl | rfl | rfl
    · cases ha
      revert hcloses
      decide
    · cases ha
      revert hcloses
      decide
    · -- the end of the inner hall
      revert hbalanced
      decide
    · cases ha
      revert hcloses
      decide
  have hrules := @skip_rules .depthTracked _ .empty maze 1 _ _ _ rfl rfl rfl hfails rfl
  exact ⟨_, rfl, rfl, hfails, rfl, hleast, (hrules.1 6 hleast).2.2⟩

end Interpreter

end SlideGraph
