import SlideGraph.Proofs.Session.Operations

/-!
# Runs of sessions

A session is opened on a catalog and then takes commands one after the other. A command that fails
leaves the session as it is. Whatever every command keeps, a run of commands keeps. The journey of
a command is the slides to which it leads, in order.
-/

namespace SlideGraph

namespace Session

variable {c : Catalog} {config : Config} {s : Session}

/-! ### Opening -/

/-- A session as it is when it has just been opened on a catalog. -/
inductive Opened (c : Catalog) (config : Config) : Session → Prop
  | fresh {turn : Turn Unit} (h : Session.fresh c config = .ok turn) : Opened c config turn.session
  | resumed (state : GameState) {turn : Turn Unit} (h : resume c state config = .ok turn) :
    Opened c config turn.session

theorem resume_eq_ok_iff {state : GameState} {turn : Turn Unit} :
    resume c state config = .ok turn ↔ ∃ start, c.start = .ok start ∧
      turn = ⟨(), ⟨c, state, { current := start }, config.nestedSkip⟩,
        [.logged (.info ("session opened on `" ++ start ++ "`"))]⟩ := by
  rw [resume]
  cases c.start with
  | error e => simp
  | ok start => simp [eq_comm]

/-- A session is opened on the start slide of the catalog, with the settings it is given. -/
theorem Opened.eq (h : Opened c config s) : ∃ state start, c.start = .ok start ∧
    s = ⟨c, state, { current := start }, config.nestedSkip⟩ := by
  cases h with
  | fresh h =>
    obtain ⟨start, hstart, rfl⟩ := resume_eq_ok_iff.1 h
    exact ⟨_, start, hstart, rfl⟩
  | resumed state h =>
    obtain ⟨start, hstart, rfl⟩ := resume_eq_ok_iff.1 h
    exact ⟨state, start, hstart, rfl⟩

/-! ### Commands -/

/-- The session after a command. -/
def after (s : Session) (command : Command) : Session :=
  match s.perform command with
  | .error _ => s
  | .ok turn => turn.session

/-- The session after commands in order. -/
def afterAll (s : Session) (commands : List Command) : Session := commands.foldl after s

/-- What each of some commands keeps, a run of them keeps. -/
theorem afterAll_invariant {P : Session → Prop} {allowed : Command → Prop}
    (hstep : ∀ s command, allowed command → P s → P (s.after command)) (hs : P s)
    (commands : List Command) (h : ∀ command ∈ commands, allowed command) :
    P (s.afterAll commands) := by
  induction commands generalizing s with
  | nil => exact hs
  | cons command commands ih =>
    apply ih (hstep s command (h _ List.mem_cons_self) hs)
    intro d hd
    exact h d (List.mem_cons_of_mem _ hd)

/-- A session that is opened on a catalog and then takes commands. -/
def Reachable (c : Catalog) (config : Config) (s : Session) : Prop :=
  ∃ s₀ commands, Opened c config s₀ ∧ s = s₀.afterAll commands

/-! ### Journeys -/

/-- The slides to which a command leads, in order. One that fails leads nowhere. -/
def journey (s : Session) : Command → List String
  | .press button =>
    match s.pressable button with
    | .error _ => []
    | .ok b => (s.result b.actions).routes
  | .evaluate actions => (s.result actions).routes
  | .finishMinigame _ =>
    match s.navigation.fallback s.catalog with
    | .error _ => []
    | .ok target => [target]
  | .goTo slide => if s.catalog.contains slide then [slide] else []
  | .changeSlide slide => [slide]
  | .subscribe => []
  | .change _ => []

/-- What a command does to a session: the state changes, the player goes on a journey, and listeners
may be added. -/
theorem after_eq (s : Session) (command : Command) : ∃ state listeners,
    s.after command = { s with
      state
      navigation := { s.navigation.visit (s.journey command) with listeners } } := by
  cases command with
  | press button =>
    rw [after, perform, press_eq, journey]
    cases s.pressable button with
    | error e => exact ⟨s.state, s.navigation.listeners, rfl⟩
    | ok b =>
      exact ⟨(s.result b.actions).state, (s.navigation.visit (s.result b.actions).routes).listeners,
        session_evaluate s b.actions⟩
  | evaluate actions =>
    exact ⟨(s.result actions).state, (s.navigation.visit (s.result actions).routes).listeners,
      session_evaluate s actions⟩
  | finishMinigame success =>
    rw [after, perform, finishMinigame, Navigation.finishMinigame, journey]
    cases s.navigation.fallback s.catalog with
    | error e => exact ⟨s.state, s.navigation.listeners, rfl⟩
    | ok target => exact ⟨s.state, s.navigation.listeners, rfl⟩
  | goTo slide =>
    rw [after, perform, goTo, journey]
    cases h : s.catalog.slide slide with
    | error e =>
      rw [(Catalog.slide_eq_error_iff.1 h).2]
      exact ⟨s.state, s.navigation.listeners, rfl⟩
    | ok here =>
      rw [Catalog.contains_iff.2 ⟨here, h⟩]
      exact ⟨s.state, s.navigation.listeners, rfl⟩
  | changeSlide slide => exact ⟨s.state, s.navigation.listeners, rfl⟩
  | subscribe => exact ⟨s.state, s.navigation.listeners + 1, rfl⟩
  | change d => exact ⟨s.state.apply d, s.navigation.listeners, rfl⟩

theorem catalog_after (s : Session) (command : Command) :
    (s.after command).catalog = s.catalog := by
  obtain ⟨state, listeners, h⟩ := s.after_eq command
  rw [h]

theorem nestedSkip_after (s : Session) (command : Command) :
    (s.after command).nestedSkip = s.nestedSkip := by
  obtain ⟨state, listeners, h⟩ := s.after_eq command
  rw [h]

/-- A session keeps its catalog and its settings. -/
theorem Reachable.eq (h : Reachable c config s) : (∃ start, c.start = .ok start) ∧
    s.catalog = c ∧ s.nestedSkip = config.nestedSkip := by
  obtain ⟨s₀, commands, hopened, rfl⟩ := h
  obtain ⟨state, start, hstart, rfl⟩ := hopened.eq
  refine ⟨⟨start, hstart⟩, ?_⟩
  apply afterAll_invariant (P := fun s => s.catalog = c ∧ s.nestedSkip = config.nestedSkip)
    ?_ ⟨rfl, rfl⟩ commands fun _ _ => trivial
  intro s command _ hs
  rw [catalog_after, nestedSkip_after]
  exact hs

/-- After a command the player is at the end of its journey. -/
theorem current_after (s : Session) (command : Command) :
    (s.after command).navigation.current =
      (s.journey command).getLast?.getD s.navigation.current := by
  obtain ⟨state, listeners, h⟩ := s.after_eq command
  rw [h, ← Navigation.current_visit]

end Session

end SlideGraph
