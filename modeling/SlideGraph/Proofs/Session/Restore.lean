import SlideGraph.Proofs.GameState.Document
import SlideGraph.Proofs.Session.Run

/-!
# Saving a session and restoring it

A session is saved as the document of its game state. A new session of the same catalog that takes
up the state and goes to the old slide is like the old one: what is asked of both has the same
answers from then on. Nothing else of a session has a say in them, save that the revisions are
counted from another number.
-/

namespace SlideGraph

namespace Session

variable {c : Catalog} {config : Config} {s t : Session} {offset : Int}

/-! ### Requests -/

/-- What can be asked of a session. -/
inductive Request
  | perform (command : Command)
  | isVisible (button : String)

/-- What a request is answered with. -/
inductive Answer
  | done (result : Except SessionError (Option Report))
  | shown (visible : Bool)

/-- The answer to a request, and the session then. -/
def ask (s : Session) : Request → Answer × Session
  | .perform command => (.done ((s.perform command).map Turn.answer), s.after command)
  | .isVisible button => (.shown (s.isVisible button), s)

/-- What is seen of requests in order: each answer, and the snapshot then. -/
def observe (s : Session) : List Request → List (Answer × Except CatalogError Snapshot)
  | [] => []
  | r :: rs => ((s.ask r).1, (s.ask r).2.snapshot) :: (s.ask r).2.observe rs

/-- The snapshots differ in their revisions only, and there by `offset`. -/
def Shifted (offset : Int) : Except CatalogError Snapshot → Except CatalogError Snapshot → Prop
  | .ok p, .ok q => p = { q with revision := p.revision } ∧ (p.revision : Int) = q.revision + offset
  | .error e, .error e' => e = e'
  | _, _ => False

/-- The answers are the same, and the snapshots are but for the revision. -/
def SameBut (offset : Int) (x y : Answer × Except CatalogError Snapshot) : Prop :=
  x.1 = y.1 ∧ Shifted offset x.2 y.2

/-! ### Sessions that are alike -/

/-- The sessions differ in their listeners and in their revisions only, and there by `offset`. -/
structure Alike (offset : Int) (s t : Session) : Prop where
  catalog : s.catalog = t.catalog
  state : s.state = t.state
  nestedSkip : s.nestedSkip = t.nestedSkip
  current : s.navigation.current = t.navigation.current
  revision : (s.navigation.revision : Int) = t.navigation.revision + offset

namespace Alike

theorem isVisible (h : Alike offset s t) (button : String) :
    s.isVisible button = t.isVisible button := by
  rw [Session.isVisible, Session.isVisible, h.state, h.current]

theorem currentSlide (h : Alike offset s t) : s.currentSlide = t.currentSlide := by
  rw [Session.currentSlide, Session.currentSlide, h.catalog, h.current]

theorem snapshot (h : Alike offset s t) : Shifted offset s.snapshot t.snapshot := by
  rw [Session.snapshot, Session.snapshot, h.currentSlide]
  cases t.currentSlide with
  | error e => rfl
  | ok here =>
    refine ⟨?_, h.revision⟩
    simp [h.state, h.current, h.isVisible]

theorem pressable (h : Alike offset s t) (button : String) :
    s.pressable button = t.pressable button := by
  simp only [Session.pressable, h.isVisible, h.currentSlide, h.current]

theorem fallback (h : Alike offset s t) :
    s.navigation.fallback s.catalog = t.navigation.fallback t.catalog := by
  rw [Navigation.fallback, Navigation.fallback, h.catalog, h.current]

theorem result (h : Alike offset s t) (actions : List Action) :
    s.result actions = t.result actions := by
  rw [Session.result, Session.result, h.nestedSkip, h.state]

/-- Going to the same slides keeps sessions alike. -/
theorem visit (h : Alike offset s t) (slides : List String) {state state' : GameState}
    (hstate : state = state') (listeners listeners' : Nat) :
    Alike offset
      { s with state, navigation := { s.navigation.visit slides with listeners } }
      { t with
        state := state'
        navigation := { t.navigation.visit slides with listeners := listeners' } } where
  catalog := h.catalog
  state := hstate
  nestedSkip := h.nestedSkip
  current := by simp only [Navigation.current_visit, h.current]
  revision := by
    have := h.revision
    simp only [Navigation.revision_visit]
    push_cast
    omega

theorem evaluate (h : Alike offset s t) (actions : List Action) :
    (s.evaluate actions).answer = (t.evaluate actions).answer ∧
      Alike offset (s.evaluate actions).session (t.evaluate actions).session := by
  rw [answer_evaluate, answer_evaluate, session_evaluate, session_evaluate, h.result]
  exact ⟨rfl, h.visit _ rfl _ _⟩

/-- A command has the same answer in sessions that are alike, and keeps them alike. -/
theorem perform (h : Alike offset s t) (command : Command) :
    (s.perform command).map Turn.answer = (t.perform command).map Turn.answer ∧
      Alike offset (s.after command) (t.after command) := by
  cases command with
  | press button =>
    rw [after, after, Session.perform, Session.perform, press_eq, press_eq, h.pressable]
    cases t.pressable button with
    | error e => exact ⟨rfl, h⟩
    | ok b =>
      obtain ⟨hanswer, hsession⟩ := h.evaluate b.actions
      exact ⟨by simp only [Except.map, Turn.map, hanswer], hsession⟩
  | evaluate actions =>
    obtain ⟨hanswer, hsession⟩ := h.evaluate actions
    exact ⟨by simp only [Session.perform, Except.map, Turn.map, hanswer], hsession⟩
  | finishMinigame success =>
    rw [after, after, Session.perform, Session.perform, Session.finishMinigame,
      Session.finishMinigame, Navigation.finishMinigame, Navigation.finishMinigame, h.fallback]
    cases t.navigation.fallback t.catalog with
    | error e => exact ⟨rfl, h⟩
    | ok target => exact ⟨rfl, h.visit [target] h.state _ _⟩
  | goTo slide =>
    rw [after, after, Session.perform, Session.perform, Session.goTo, Session.goTo, h.catalog]
    cases t.catalog.slide slide with
    | error e => exact ⟨rfl, h⟩
    | ok here => exact ⟨rfl, h.visit [slide] h.state _ _⟩
  | changeSlide slide => exact ⟨rfl, h.visit [slide] h.state _ _⟩
  | subscribe => exact ⟨rfl, h.visit [] h.state _ _⟩
  | change d => exact ⟨rfl, h.visit [] (congrArg (GameState.apply · d) h.state) _ _⟩

theorem ask (h : Alike offset s t) (r : Request) :
    (s.ask r).1 = (t.ask r).1 ∧ Alike offset (s.ask r).2 (t.ask r).2 := by
  cases r with
  | perform command =>
    obtain ⟨hanswer, hafter⟩ := h.perform command
    exact ⟨congrArg Answer.done hanswer, hafter⟩
  | isVisible button => exact ⟨congrArg Answer.shown (h.isVisible button), h⟩

/-- Sessions that are alike stay so whatever is asked of them. -/
theorem observe (h : Alike offset s t) (requests : List Request) :
    List.Forall₂ (SameBut offset) (s.observe requests) (t.observe requests) := by
  induction requests generalizing s t with
  | nil => exact .nil
  | cons r requests ih =>
    obtain ⟨hanswer, hask⟩ := h.ask r
    exact .cons ⟨hanswer, hask.snapshot⟩ (ih hask)

end Alike

/-! ### Restoring -/

/-- The session `t` takes up the document of the game state of `s` and goes to its slide. -/
def RestoresTo (c : Catalog) (config : Config) (s t : Session) : Prop :=
  ∃ state opened restored,
    GameState.reader.document s.state.toValue.compact.toList = .ok state ∧
      resume c state config = .ok opened ∧
      opened.session.goTo s.navigation.current = .ok restored ∧ t = restored.session

theorem exists_restoresTo (h : Reachable c config s)
    (hknown : c.contains s.navigation.current = true) :
    ∃ t, RestoresTo c config s t ∧ Alike (s.navigation.revision - 1) s t := by
  obtain ⟨⟨start, hstart⟩, hcatalog, hskip⟩ := h.eq
  obtain ⟨here, hhere⟩ := Catalog.contains_iff.1 hknown
  obtain ⟨opened, hopened, hsession⟩ : ∃ opened, resume c s.state config = .ok opened ∧
      opened.session = ⟨c, s.state, { current := start }, config.nestedSkip⟩ :=
    ⟨_, resume_eq_ok_iff.2 ⟨start, hstart, rfl⟩, rfl⟩
  -- going to the old slide is the only change since, so the revision is one
  have hgo : opened.session.goTo s.navigation.current =
      .ok (opened.session.changeSlide s.navigation.current) := by
    simp only [goTo, hsession, hhere]
  refine ⟨_, ⟨s.state, opened, _, s.state.document_toValue, hopened, hgo, rfl⟩, ?_⟩
  rw [hsession]
  refine ⟨hcatalog, rfl, hskip, rfl, ?_⟩
  simp only [changeSlide, Navigation.changeSlide]
  omega

/-- On a known slide a session can be saved and restored. The new session shows what the old one
shows, except for the revision, and from then on whatever is asked of both, in any order, has the
same answers and leaves them with the same snapshots, with revisions that stay equally far apart. -/
theorem observe_restored (h : Reachable c config s)
    (hknown : c.contains s.navigation.current = true) :
    ∃ t, RestoresTo c config s t ∧
      (∃ p, s.snapshot = .ok p ∧
        t.snapshot = .ok { p with revision := t.navigation.revision }) ∧
      ∃ offset, ∀ requests,
        List.Forall₂ (SameBut offset) (s.observe requests) (t.observe requests) := by
  obtain ⟨t, ht, halike⟩ := exists_restoresTo h hknown
  refine ⟨t, ht, ?_, _, halike.observe⟩
  obtain ⟨here, hhere⟩ := Catalog.contains_iff.1 hknown
  have hcurrent : s.currentSlide = .ok here := by
    rw [currentSlide, h.eq.2.1]
    exact hhere
  have hcurrent' : t.currentSlide = .ok here := halike.currentSlide.symm.trans hcurrent
  refine ⟨_, snapshot_eq_ok_iff.2 ⟨here, hcurrent, rfl⟩, ?_⟩
  refine snapshot_eq_ok_iff.2 ⟨here, hcurrent', ?_⟩
  simp [halike.state, halike.current, halike.isVisible]

/-- A room with a lamp that goes out for good. -/
def lamp : Deck := .ofList [
  ("room", { buttons := .ofList [("lamp", {
    visible := some true
    actions := [⟨["SetGameState", "room.lamp", "false"]⟩, ⟨["AddItem", "bulb"]⟩] })] })]

/-- The lamp that is out when the session is saved is out when it is restored. -/
theorem observe_restored_lamp :
    let c := Catalog.ofDeck 0 lamp
    let s := afterAll ⟨c, c.seed .empty, { current := "room" }, .labelMatch⟩ [.press "lamp"]
    Reachable c {} s ∧ c.contains s.navigation.current = true ∧
      ∃ t, RestoresTo c {} s t ∧ (∃ p, t.snapshot = .ok p ∧ p.inventory = ["bulb"]) ∧
        t.isVisible "lamp" = false := by
  intro c s
  have hopen : Opened c {} ⟨c, c.seed .empty, { current := "room" }, .labelMatch⟩ :=
    .fresh (show Session.fresh c {} = .ok ⟨(), _, _⟩ from rfl)
  have hs : Reachable c {} s := ⟨_, _, hopen, rfl⟩
  have hknown : c.contains s.navigation.current = true := rfl
  refine ⟨hs, hknown, ?_⟩
  obtain ⟨t, ht, ⟨p, hp, hsnapshot⟩, offset, hobserve⟩ := observe_restored hs hknown
  refine ⟨t, ht, ⟨_, hsnapshot, ?_⟩, ?_⟩
  · cases hp
    rfl
  · have hlamp := (List.forall₂_cons.1 (hobserve [.isVisible "lamp"])).1.1
    exact (Answer.shown.inj hlamp).symm

end Session

end SlideGraph
