import SlideGraph.Proofs.Interpreter.Influence
import SlideGraph.Proofs.Interpreter.Straight
import SlideGraph.Proofs.Session.Outcome

/-!
# A flag that is toggled twice

A flag that is missing counts as false where its value is asked for, and its button is shown all
the same. To toggle a flag twice sets it to the value as which it was read before. If it was set,
nothing at all has changed. If it was missing it is false then: no run can tell the difference, but
the button of the flag is hidden.
-/

namespace SlideGraph

/-- The action that toggles a flag. -/
def Action.toggle (key : String) : Action := ⟨[Opcode.setGameState.name, key, "toggle"]⟩

theorem Action.instruction_toggle (key : String) :
    (toggle key).instruction = .ok (.setFlag key (some .toggle)) := rfl

namespace Interpreter

theorem instructions_map_toggle (keys : List String) :
    instructions (keys.map Action.toggle) = keys.map fun key => .setFlag key (some .toggle) := by
  induction keys with
  | nil => rfl
  | cons key keys ih =>
    rw [List.map_cons, List.map_cons, instructions_of_ok (Action.instruction_toggle key) (by simp),
      ih]

/-- To toggle flags requires nothing. -/
theorem allMet_map_toggle (state : GameState) (keys : List String) :
    AllMet state (instructions (keys.map Action.toggle)) := by
  rw [instructions_map_toggle]
  induction keys generalizing state with
  | nil => trivial
  | cons key keys ih => exact ⟨rfl, ih _⟩

end Interpreter

namespace Session

variable {s : Session} {key button : String}

/-! ### Toggling -/

/-- A list that toggles flags does nothing else. -/
theorem session_evaluate_map_toggle (s : Session) (keys : List String) :
    (s.evaluate (keys.map Action.toggle)).session =
      { s with state := s.state.applyAll (keys.map .toggleFlag) } := by
  have hstraight : Interpreter.Straight 0 s.state (keys.map Action.toggle)
      (s.result (keys.map Action.toggle)) :=
    Interpreter.straight_runFrom (Interpreter.allMet_map_toggle s.state keys) s.nestedSkip 0 []
  have hstate : (s.result (keys.map Action.toggle)).state =
      s.state.applyAll (keys.map .toggleFlag) := by
    rw [hstraight.state_eq, Interpreter.instructions_map_toggle, List.flatMap_map,
      List.map_eq_flatMap]
    rfl
  have hroutes : (s.result (keys.map Action.toggle)).routes = [] := by
    rw [hstraight.routes, Interpreter.instructions_map_toggle, List.flatMap_map]
    simp [Instruction.routes]
  rw [session_evaluate, hstate, hroutes]
  rfl

/-- The session after two actions that toggle one flag. -/
def toggleTwice (s : Session) (key : String) : Session :=
  (s.evaluate [.toggle key, .toggle key]).session

theorem toggleTwice_eq (s : Session) (key : String) :
    s.toggleTwice key = { s with state := s.state.apply (.setFlag key (s.state.flag key)) } := by
  have htwo := session_evaluate_map_toggle s [key, key]
  have happly := GameState.apply_toggleFlag_twice s.state key
  rw [← happly]
  -- A list of two keys is mapped to the list of two actions.
  exact htwo

/-- It makes no difference whether the flag is toggled by one list or by two. -/
theorem session_evaluate_toggle_toggle (s : Session) (key : String) :
    ((s.evaluate [.toggle key]).session.evaluate [.toggle key]).session = s.toggleTwice key := by
  have hone := fun s : Session => session_evaluate_map_toggle s [key]
  rw [List.map_singleton] at hone
  rw [hone, hone, toggleTwice_eq, ← GameState.apply_toggleFlag_twice]
  rfl

/-! ### What is as before -/

theorem toggleTwice_of_set (h : s.state.flag? key ≠ none) : s.toggleTwice key = s := by
  obtain ⟨value, hvalue⟩ := Option.ne_none_iff_exists'.1 h
  have hflag : s.state.flag key = value := by simp [GameState.flag, hvalue]
  rw [toggleTwice_eq, hflag, GameState.apply_setFlag_self hvalue]

theorem flag_toggleTwice (s : Session) (key k : String) :
    (s.toggleTwice key).state.flag k = s.state.flag k := by
  rw [toggleTwice_eq, GameState.flag_apply]
  by_cases hk : k = key <;> simp [hk]

/-- Toggling the flag twice takes the button away: it is the flag of the button, and it is
missing. -/
def Loses (s : Session) (key button : String) : Prop :=
  s.state.flag? key = none ∧ buttonKey s.navigation.current button = key

instance (s : Session) (key button : String) : Decidable (s.Loses key button) :=
  inferInstanceAs (Decidable (_ ∧ _))

theorem isVisible_of_loses (h : s.Loses key button) : s.isVisible button = true := by
  rw [isVisible_eq_true_iff, h.2, h.1]
  simp

theorem isVisible_toggleTwice (s : Session) (key button : String) :
    (s.toggleTwice key).isVisible button =
      (s.isVisible button && !decide (s.Loses key button)) := by
  by_cases hkey : buttonKey s.navigation.current button = key
  · cases hflag : s.state.flag? key with
    | none =>
      have hloses : s.Loses key button := ⟨hflag, hkey⟩
      rw [toggleTwice_eq, isVisible, GameState.flag?_apply]
      simp [hkey, hloses, GameState.flag, hflag]
    | some value =>
      have hset : s.state.flag? key ≠ none := by simp [hflag]
      have hkeeps : ¬s.Loses key button := fun h => hset h.1
      simp [toggleTwice_of_set hset, hkeeps]
  · have hkeeps : ¬s.Loses key button := fun h => hkey h.2
    rw [toggleTwice_eq, isVisible, GameState.flag?_apply]
    simp [hkey, hkeeps, isVisible]

theorem snapshot_toggleTwice (s : Session) (key : String) :
    (s.toggleTwice key).snapshot = s.snapshot.map fun p => { p with
      buttons := p.buttons.map fun view =>
        { view with visible := view.visible && !decide (s.Loses key view.name) }
      flags := (s.toggleTwice key).state.flags } := by
  have hcurrent : (s.toggleTwice key).currentSlide = s.currentSlide := by
    rw [toggleTwice_eq]
    rfl
  rw [snapshot, snapshot, hcurrent]
  cases s.currentSlide with
  | error e => rfl
  | ok here =>
    simp only [Except.map, isVisible_toggleTwice, List.map_map, Function.comp_def]
    rw [toggleTwice_eq]
    rfl

/-! ### Pressing -/

/-- What comes of pressing a button: an error, or the report and where the player is then. -/
def outcome (s : Session) (button : String) : Except SessionError (Report × Navigation) :=
  (s.press button).map fun turn => (turn.answer, turn.session.navigation)

/-- A run cannot tell a missing flag from one that is false. -/
theorem result_toggleTwice (s : Session) (key : String) (actions : List Action) :
    ((s.toggleTwice key).result actions).report = (s.result actions).report ∧
      ((s.toggleTwice key).result actions).routes = (s.result actions).routes := by
  have hagree : Interpreter.AgreeOn (Interpreter.testedItems actions)
      (Interpreter.testedFlags actions) s.state (s.toggleTwice key).state := by
    constructor
    · intro item _
      rw [toggleTwice_eq]
      rfl
    · intro k _
      exact (flag_toggleTwice s key k).symm
  obtain ⟨-, hroutes, hreport⟩ :=
    (Interpreter.indistinct_agreeOn actions).run_eq s.nestedSkip hagree
  rw [toggleTwice_eq] at hroutes hreport ⊢
  exact ⟨hreport, hroutes⟩

theorem outcome_toggleTwice (h : ¬s.Loses key button) :
    (s.toggleTwice key).outcome button = s.outcome button := by
  have hnavigation : (s.toggleTwice key).navigation = s.navigation := by rw [toggleTwice_eq]
  have hpressable : (s.toggleTwice key).pressable button = s.pressable button := by
    have hv := isVisible_toggleTwice s key button
    rw [toggleTwice_eq] at hv ⊢
    simp only [pressable, hv, h]
    simp [currentSlide]
  rw [outcome, outcome, press_eq, press_eq, hpressable]
  cases s.pressable button with
  | error e => rfl
  | ok b =>
    obtain ⟨hreport, hroutes⟩ := result_toggleTwice s key b.actions
    simp only [Except.map, answer_evaluate, session_evaluate, hreport, hroutes, hnavigation]

/-- A button that is taken away cannot be pressed any more. -/
theorem press_toggleTwice_of_loses (h : s.Loses key button) :
    (s.toggleTwice key).press button =
      .error (.buttonHidden s.navigation.current button) := by
  have hv : (s.toggleTwice key).isVisible button = false := by
    simp [isVisible_toggleTwice, h]
  have hpress := press_eq_buttonHidden_iff.2 (isVisible_eq_false_iff.1 hv)
  rw [toggleTwice_eq] at hpress ⊢
  exact hpress

/-- What can be seen and done in one session can be seen and done in the other. -/
structure Restored (s t : Session) : Prop where
  flags : ∀ key, t.state.flag key = s.state.flag key
  shown : ∀ button, s.catalog.Defines s.navigation.current button →
    t.isVisible button = s.isVisible button
  buttons : t.snapshot.map Snapshot.buttons = s.snapshot.map Snapshot.buttons
  pressed : ∀ button, s.catalog.Defines s.navigation.current button →
    t.outcome button = s.outcome button

theorem restored_toggleTwice_iff :
    s.Restored (s.toggleTwice key) ↔
      ∀ button, s.catalog.Defines s.navigation.current button → ¬s.Loses key button := by
  constructor
  · intro h button hbutton hloses
    have hshown := h.shown button hbutton
    rw [isVisible_toggleTwice, isVisible_of_loses hloses] at hshown
    simp [hloses] at hshown
  · intro h
    refine ⟨flag_toggleTwice s key, ?_, ?_, ?_⟩
    · intro button hbutton
      simp [isVisible_toggleTwice, h button hbutton]
    · rw [snapshot_toggleTwice]
      cases hp : s.snapshot with
      | error e => rfl
      | ok p =>
        have hviews : (p.buttons.map fun view =>
            { view with visible := view.visible && !decide (s.Loses key view.name) }) =
              p.buttons := by
          refine (List.map_congr_left fun view hview => ?_).trans (List.map_id p.buttons)
          simp [h view.name (mem_snapshot hp hview).1]
        exact congrArg Except.ok hviews
    · intro button hbutton
      exact outcome_toggleTwice (h button hbutton)

/-- Of whatever session, when a flag is toggled twice, by one list or by two, all flags are read as
before. If it was set the session is the same. If it was missing and is that of a button on the
current slide, then this button was shown and is hidden, and it cannot be pressed any more. Every
other button is shown or hidden as before, also in a snapshot, and pressing it fails as before or
succeeds with the same report and leads to the same place. So everything is as before if and only if
the flag was set or is not that of a button of the current slide. -/
theorem toggle_rules (s : Session) (key : String) :
    let t := s.toggleTwice key
    ((s.evaluate [.toggle key]).session.evaluate [.toggle key]).session = t ∧
      (∀ k, t.state.flag k = s.state.flag k) ∧
      (s.state.flag? key ≠ none → t = s) ∧
      (∀ button, t.isVisible button = (s.isVisible button && !decide (s.Loses key button))) ∧
      (t.snapshot = s.snapshot.map fun p => { p with
        buttons := p.buttons.map fun view =>
          { view with visible := view.visible && !decide (s.Loses key view.name) }
        flags := t.state.flags }) ∧
      (∀ button,
        if s.Loses key button then
          s.isVisible button = true ∧
            t.press button = .error (.buttonHidden s.navigation.current button)
        else t.outcome button = s.outcome button) ∧
      (s.Restored t ↔
        ∀ button, s.catalog.Defines s.navigation.current button → ¬s.Loses key button) := by
  refine ⟨session_evaluate_toggle_toggle s key, flag_toggleTwice s key, toggleTwice_of_set,
    isVisible_toggleTwice s key, snapshot_toggleTwice s key, fun button => ?_,
    restored_toggleTwice_iff⟩
  split
  · rename_i hloses
    exact ⟨isVisible_of_loses hloses, press_toggleTwice_of_loses hloses⟩
  · rename_i hkeeps
    exact outcome_toggleTwice hkeeps

/-- The tunnel is declared to be hidden and is hidden again. A flag for a window can be toggled as
well, since there is no window. -/
theorem toggle_rules_prison :
    let c := Catalog.ofDeck 0 prison
    let s : Session := ⟨c, c.seed .empty, { current := "cell" }, .labelMatch⟩
    s.state.flag? "cell.tunnel" = some false ∧ s.toggleTwice "cell.tunnel" = s ∧
      s.state.flag? "cell.window" = none ∧ s.Restored (s.toggleTwice "cell.window") := by
  intro c s
  have htunnel : s.state.flag? "cell.tunnel" = some false := by decide
  obtain ⟨-, -, hsame, -⟩ := toggle_rules s "cell.tunnel"
  obtain ⟨-, -, -, -, -, -, hrestored⟩ := toggle_rules s "cell.window"
  refine ⟨htunnel, hsame (by simp [htunnel]), by decide, hrestored.2 ?_⟩
  have hkeys : ∀ e ∈ c.entries, ∀ f ∈ e.2.buttons.entries,
      buttonKey "cell" f.1 ≠ "cell.window" := by decide
  rintro button ⟨here, b, hhere, hb⟩ ⟨-, hkey⟩
  exact hkeys _ (Catalog.mem_entries_of_slide hhere) _ (OrderedMap.mem_entries_iff.2 hb) hkey

/-- Nothing is declared for the bed. It is shown and can be searched at first, and when its flag has
been toggled twice it is hidden. -/
theorem not_restored_prison :
    let c := Catalog.ofDeck 0 prison
    let s : Session := ⟨c, c.seed .empty, { current := "cell" }, .labelMatch⟩
    let t := s.toggleTwice "cell.bed"
    c.Defines "cell" "bed" ∧ s.isVisible "bed" = true ∧ t.isVisible "bed" = false ∧
      s.outcome "bed" = .ok (⟨.completed, 1, 0, 0⟩, { current := "cell" }) ∧
      t.outcome "bed" = .error (.buttonHidden "cell" "bed") ∧
      ¬∀ (s : Session) (key : String), s.Restored (s.toggleTwice key) := by
  intro c s t
  have hbed : c.Defines "cell" "bed" := ⟨_, _, rfl, rfl⟩
  have hhidden : t.isVisible "bed" = false := by decide
  refine ⟨hbed, by decide, hhidden, by decide, by decide, fun h => ?_⟩
  have hshown := (h s "cell.bed").shown "bed" hbed
  exact absurd (hshown.symm.trans hhidden) (by decide)

end Session

end SlideGraph
