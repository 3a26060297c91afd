import SlideGraph.Proofs.Catalog.Issues
import SlideGraph.Proofs.Interpreter.Routes
import SlideGraph.Session

/-!
# What the operations of a session do

One lemma for each operation: when it succeeds and what the session is then. A list of actions acts
on a session by the state and the routes of its run alone.
-/

namespace SlideGraph

/-! ### Navigation -/

namespace Navigation

/-- Go to slides one after the other. -/
def visit (n : Navigation) (slides : List String) : Navigation := slides.foldl changeSlide n

theorem follow_fst (n : Navigation) (effects : List Effect) :
    (n.follow effects).1 = n.visit (effects.filterMap Effect.route?) := by
  induction effects generalizing n with
  | nil => rfl
  | cons e effects ih =>
    cases e with
    | logged r => exact ih n
    | routed slide => exact ih (n.changeSlide slide)

theorem revision_visit (n : Navigation) (slides : List String) :
    (n.visit slides).revision = n.revision + slides.length := by
  induction slides generalizing n with
  | nil => rfl
  | cons slide slides ih =>
    rw [List.length_cons, Nat.add_comm slides.length, ← Nat.add_assoc]
    exact ih (n.changeSlide slide)

/-- One ends on the last slide that one visits. -/
theorem current_visit (n : Navigation) (slides : List String) :
    (n.visit slides).current = slides.getLast?.getD n.current := by
  induction slides generalizing n with
  | nil => rfl
  | cons slide slides ih =>
    rw [List.getLast?_cons, Option.getD_some]
    exact ih (n.changeSlide slide)

/-- All listeners hear of a change, the first to subscribe first. -/
theorem heard_changeEvents (n : Navigation) (slide : String) :
    (n.changeEvents slide).filterMap Event.heard? = (List.range n.listeners).map (·, slide) :=
  List.filterMap_map.trans (congrFun List.filterMap_eq_map _)

theorem fallback_eq_ok_iff {n : Navigation} {c : Catalog} {target : String} :
    n.fallback c = .ok target ↔
      ∃ here, c.slide n.current = .ok here ∧ here.fallback = some target := by
  rw [fallback]
  cases c.slide n.current with
  | error e => simp
  | ok here => cases hf : here.fallback <;> simp [hf]

/-- There are two ways in which no fallback is found. -/
theorem fallback_eq_error_iff {n : Navigation} {c : Catalog} {e : NavigationError} :
    n.fallback c = .error e ↔
      (e = .catalog (.slideNotFound n.current) ∧ c.contains n.current = false) ∨
        ∃ here, c.slide n.current = .ok here ∧ here.fallback = none ∧
          e = .missingFallback n.current := by
  rw [fallback]
  cases h : c.slide n.current with
  | error e' =>
    obtain ⟨rfl, hc⟩ := Catalog.slide_eq_error_iff.1 h
    simp [hc, eq_comm]
  | ok here =>
    have hc : c.contains n.current = true := Catalog.contains_iff.2 ⟨here, h⟩
    cases hf : here.fallback <;> simp [hf, hc, eq_comm]

end Navigation

namespace Session

variable {s : Session}

/-! ### Looking -/

theorem snapshot_eq_ok_iff {p : Snapshot} :
    s.snapshot = .ok p ↔ ∃ here, s.currentSlide = .ok here ∧
      p = ⟨s.navigation.current, here.isMinigame,
        here.buttons.keys.map fun name => ⟨name, s.isVisible name⟩, s.state.items, s.state.flags,
        s.navigation.revision⟩ := by
  rw [snapshot]
  cases s.currentSlide with
  | error e => simp
  | ok here => simp [eq_comm]

theorem pressable_eq_ok_iff {button : String} {b : Button} :
    s.pressable button = .ok b ↔ s.isVisible button = true ∧
      ∃ here, s.currentSlide = .ok here ∧ here.buttons.get? button = some b := by
  simp only [pressable]
  split_ifs with hv
  · cases s.currentSlide with
    | error e => simp [hv]
    | ok here => cases hb : here.buttons.get? button <;> simp [hv, hb]
  · simp [hv]

/-- There are three ways in which a button cannot be pressed. -/
theorem pressable_eq_error_iff {button : String} {e : SessionError} :
    s.pressable button = .error e ↔
      (s.isVisible button = false ∧ e = .buttonHidden s.navigation.current button) ∨
      (s.isVisible button = true ∧ s.catalog.contains s.navigation.current = false ∧
        e = .catalog (.slideNotFound s.navigation.current)) ∨
      (s.isVisible button = true ∧ ∃ here, s.currentSlide = .ok here ∧
        here.buttons.get? button = none ∧ e = .buttonNotFound s.navigation.current button) := by
  simp only [pressable]
  split_ifs with hv
  · cases h : s.currentSlide with
    | error e' =>
      obtain ⟨rfl, hc⟩ := Catalog.slide_eq_error_iff.1 h
      simp [hv, hc, eq_comm]
    | ok here =>
      have hc : s.catalog.contains s.navigation.current = true := Catalog.contains_iff.2 ⟨here, h⟩
      cases hb : here.buttons.get? button <;> simp [hv, hc, hb, eq_comm]
  · rw [Bool.not_eq_true] at hv
    simp only [hv, Except.error.injEq, true_and, Bool.false_eq_true, false_and, or_false]
    exact eq_comm

/-! ### Acting -/

/-- What is seen of the run of a list of actions in a session. -/
def result (s : Session) (actions : List Action) : Interpreter.Result :=
  (Interpreter.run s.nestedSkip s.state actions).result

theorem answer_evaluate (s : Session) (actions : List Action) :
    (s.evaluate actions).answer = (s.result actions).report := rfl

theorem session_evaluate (s : Session) (actions : List Action) :
    (s.evaluate actions).session = { s with
      state := (s.result actions).state
      navigation := s.navigation.visit (s.result actions).routes } := by
  simp only [evaluate, Navigation.follow_fst]
  rfl

theorem press_eq (s : Session) (button : String) :
    s.press button = (s.pressable button).map fun b =>
      { s.evaluate b.actions with events := .logged (.debug
        ("button `" ++ buttonKey s.navigation.current button ++ "` pressed")) ::
          (s.evaluate b.actions).events } := by
  rw [press]
  cases s.pressable button <;> rfl

end Session

end SlideGraph
