import SlideGraph.Proofs.Session.InPlace

/-!
# When the operations of a session fail

Each operation fails for reasons of its own, which are asked for in a fixed order: a button is
looked for only if it is not hidden, and only on a slide that is there. An operation that fails
leaves everything as it is. What is shown of a session agrees with what can be done in it.
-/

namespace SlideGraph

/-- A turn leads from a session to a slide: that is the current slide, which has changed once more,
and all else of the session is as it was. Each listener has heard of the slide once. -/
structure Turn.LeadsTo {α : Type} (t : Turn α) (s : Session) (target : String) : Prop where
  session : t.session = { s with
    navigation := ⟨target, s.navigation.revision + 1, s.navigation.listeners⟩ }
  heard : t.events.filterMap Event.heard? = (List.range s.navigation.listeners).map (·, target)

namespace Session

variable {s : Session} {button : String}

/-! ### Pressing -/

/-- A button is hidden only by a flag that has been set to false. -/
theorem isVisible_eq_false_iff :
    s.isVisible button = false ↔
      s.state.flag? (buttonKey s.navigation.current button) = some false := by
  rw [isVisible]
  cases s.state.flag? (buttonKey s.navigation.current button) <;> simp

theorem isVisible_eq_true_iff :
    s.isVisible button = true ↔
      s.state.flag? (buttonKey s.navigation.current button) ≠ some false := by
  rw [← Bool.not_eq_false, ne_eq, isVisible_eq_false_iff]

theorem press_eq_error_iff {e : SessionError} :
    s.press button = .error e ↔ s.pressable button = .error e := by
  rw [press_eq]
  cases s.pressable button <;> simp [Except.map]

theorem press_eq_buttonHidden_iff :
    s.press button = .error (.buttonHidden s.navigation.current button) ↔
      s.state.flag? (buttonKey s.navigation.current button) = some false := by
  rw [press_eq_error_iff, pressable_eq_error_iff, isVisible_eq_false_iff]
  simp

theorem press_eq_slideNotFound_iff (h : s.isVisible button = true) :
    s.press button = .error (.catalog (.slideNotFound s.navigation.current)) ↔
      s.catalog.contains s.navigation.current = false := by
  rw [press_eq_error_iff, pressable_eq_error_iff]
  simp [h]

theorem press_eq_buttonNotFound_iff (h : s.isVisible button = true) {here : Slide}
    (hhere : s.currentSlide = .ok here) :
    s.press button = .error (.buttonNotFound s.navigation.current button) ↔
      here.buttons.get? button = none := by
  rw [press_eq_error_iff, pressable_eq_error_iff]
  simp [h, hhere]

/-- A press that succeeds is a run of the actions of the button, with a record in front. -/
theorem press_of_get? (h : s.isVisible button = true) {here : Slide}
    (hhere : s.currentSlide = .ok here) {b : Button} (hb : here.buttons.get? button = some b) :
    s.press button = .ok { s.evaluate b.actions with events := .logged (.debug
      ("button `" ++ buttonKey s.navigation.current button ++ "` pressed")) ::
        (s.evaluate b.actions).events } := by
  rw [press_eq, pressable_eq_ok_iff.2 ⟨h, here, hhere, hb⟩, Except.map]

/-! ### Going on -/

theorem leadsTo_changeSlide (s : Session) (target : String) :
    (s.changeSlide target).LeadsTo s target :=
  ⟨rfl, s.navigation.heard_changeEvents target⟩

/-- A record in front makes no difference to where a turn leads. -/
theorem leadsTo_logged {target : String} {t : Turn Unit} (h : t.LeadsTo s target) (r : LogRecord) :
    { t with events := .logged r :: t.events }.LeadsTo s target :=
  ⟨h.session, h.heard⟩

theorem goTo_eq (s : Session) (id : String) :
    s.goTo id = if s.catalog.contains id then .ok (s.changeSlide id)
      else .error (.catalog (.slideNotFound id)) := by
  rw [goTo]
  cases h : s.catalog.slide id with
  | error e =>
    obtain ⟨rfl, hc⟩ := Catalog.slide_eq_error_iff.1 h
    simp [hc]
  | ok here => simp [Catalog.contains_iff.2 ⟨here, h⟩]

theorem finishMinigame_eq_error_iff {success : Bool} {e : NavigationError} :
    s.finishMinigame success = .error (.navigation e) ↔
      s.navigation.fallback s.catalog = .error e := by
  rw [finishMinigame, Navigation.finishMinigame]
  cases s.navigation.fallback s.catalog <;> simp

/-- Leaving a minigame is going to its fallback, with a record in front. -/
theorem finishMinigame_of_fallback {here : Slide} (hhere : s.currentSlide = .ok here)
    {target : String} (h : here.fallback = some target) (success : Bool) :
    s.finishMinigame success = .ok { s.changeSlide target with events := .logged (.debug
      ("minigame on `" ++ s.navigation.current ++ "` finished (success: " ++
        Text.truth success ++ ")")) :: (s.changeSlide target).events } := by
  rw [finishMinigame, Navigation.finishMinigame,
    Navigation.fallback_eq_ok_iff.2 ⟨here, hhere, h⟩]
  rfl

/-! ### Looking -/

/-- A snapshot lists the buttons of the current slide. -/
theorem mem_snapshot {p : Snapshot} (h : s.snapshot = .ok p) {view : ButtonView}
    (hview : view ∈ p.buttons) :
    s.catalog.Defines s.navigation.current view.name ∧
      view.visible = s.isVisible view.name := by
  obtain ⟨here, hhere, rfl⟩ := snapshot_eq_ok_iff.1 h
  obtain ⟨name, hname, rfl⟩ := List.mem_map.1 hview
  obtain ⟨⟨_, b⟩, hb, rfl⟩ := List.mem_map.1 hname
  exact ⟨⟨here, b, hhere, OrderedMap.mem_entries_iff.1 hb⟩, rfl⟩

/-- A button that is shown can be pressed, and one that is not shown is hidden. -/
theorem press_of_mem_snapshot {p : Snapshot} (h : s.snapshot = .ok p) {view : ButtonView}
    (hview : view ∈ p.buttons) :
    if view.visible then ∃ turn, s.press view.name = .ok turn
    else s.press view.name = .error (.buttonHidden s.navigation.current view.name) := by
  obtain ⟨⟨here, b, hhere, hb⟩, hvisible⟩ := mem_snapshot h hview
  rw [hvisible]
  cases hv : s.isVisible view.name with
  | false => exact press_eq_buttonHidden_iff.2 (isVisible_eq_false_iff.1 hv)
  | true => exact ⟨_, press_of_get? hv hhere hb⟩

/-! ### The rules -/

/-- Of whatever session, when each operation fails and how it succeeds. Pressing a button fails for
a flag that is false, else for a slide that is not there, else for a button that is not there, and
is otherwise a run of the actions of the button. Going to a slide fails only for a slide that is not
there, and leads to it otherwise. Leaving a minigame fails for a slide that is not there and for one
without a fallback, and leads to the fallback otherwise, whether it was won or not. An operation
that is done in place and fails has changed nothing and told nobody. The buttons of a snapshot that
are shown can be pressed, the others are hidden. -/
theorem outcome_rules (s : Session) :
    let current := s.navigation.current
    (∀ button,
      (s.press button = .error (.buttonHidden current button) ↔
        s.state.flag? (buttonKey current button) = some false) ∧
      (s.state.flag? (buttonKey current button) ≠ some false →
        (s.press button = .error (.catalog (.slideNotFound current)) ↔
          s.catalog.contains current = false) ∧
        ∀ here, s.catalog.slide current = .ok here →
          (s.press button = .error (.buttonNotFound current button) ↔
            here.buttons.get? button = none) ∧
          ∀ b, here.buttons.get? button = some b → ∃ turn, s.press button = .ok turn ∧
            turn.answer = (s.evaluate b.actions).answer ∧
            turn.session = (s.evaluate b.actions).session ∧
            turn.events.filterMap Event.heard? =
              (s.evaluate b.actions).events.filterMap Event.heard?)) ∧
    (∀ id, (s.goTo id = if s.catalog.contains id then .ok (s.changeSlide id)
        else .error (.catalog (.slideNotFound id))) ∧
      (s.catalog.contains id = true → ∃ turn, s.goTo id = .ok turn ∧ turn.LeadsTo s id)) ∧
    (∀ success,
      (s.finishMinigame success = .error (.navigation (.catalog (.slideNotFound current))) ↔
        s.catalog.contains current = false) ∧
      (s.finishMinigame success = .error (.navigation (.missingFallback current)) ↔
        ∃ here, s.catalog.slide current = .ok here ∧ here.fallback = none) ∧
      ∀ here target, s.catalog.slide current = .ok here → here.fallback = some target →
        ∃ turn, s.finishMinigame success = .ok turn ∧
          turn.session = (s.changeSlide target).session ∧
          turn.events.filterMap Event.heard? =
            (s.changeSlide target).events.filterMap Event.heard? ∧
          turn.LeadsTo s target) ∧
    (∀ command events,
      (∀ e, s.perform command = .error e →
        (Attempt.perform command).on ⟨s, events⟩ = (.error e, ⟨s, events⟩)) ∧
      ∀ turn, s.perform command = .ok turn →
        (Attempt.perform command).on ⟨s, events⟩ =
          (.ok turn.answer, ⟨turn.session, events ++ turn.events⟩)) ∧
    ∀ p, s.snapshot = .ok p → ∀ view ∈ p.buttons,
      if view.visible then ∃ turn, s.press view.name = .ok turn
      else s.press view.name = .error (.buttonHidden current view.name) := by
  intro current
  refine ⟨fun button => ⟨press_eq_buttonHidden_iff, fun hflag => ?_⟩,
    fun id => ⟨s.goTo_eq id, fun hid => ⟨_, (s.goTo_eq id).trans (if_pos hid),
      s.leadsTo_changeSlide id⟩⟩,
    fun success => ⟨?_, ?_, ?_⟩,
    fun command events => ⟨fun e => Attempt.on_perform_of_error, fun turn =>
      Attempt.on_perform_of_ok⟩,
    fun p hp view hview => press_of_mem_snapshot hp hview⟩
  · have hv : s.isVisible button = true := by
      rw [← Bool.not_eq_false, isVisible_eq_false_iff]
      exact hflag
    refine ⟨press_eq_slideNotFound_iff hv, fun here hhere =>
      ⟨press_eq_buttonNotFound_iff hv hhere, fun b hb => ?_⟩⟩
    exact ⟨_, press_of_get? hv hhere hb, rfl, rfl, rfl⟩
  · rw [finishMinigame_eq_error_iff, Navigation.fallback_eq_error_iff]
    simp [current]
  · rw [finishMinigame_eq_error_iff, Navigation.fallback_eq_error_iff]
    simp [current]
  · intro here target hhere htarget
    exact ⟨_, finishMinigame_of_fallback hhere htarget success, rfl, rfl,
      leadsTo_logged (s.leadsTo_changeSlide target) _⟩

/-- A cell in which a pin lies, with a door that takes the pin and a tunnel that is hidden. -/
def prison : Deck := .ofList [
  ("cell", { buttons := .ofList [
    ("bed", { actions := [⟨["AddItem", "pin"]⟩] }),
    ("door", { visible := some true, actions := [⟨["RequireItem", "pin"]⟩, ⟨["Route", "lock"]⟩] }),
    ("tunnel", { visible := some false, actions := [⟨["Route", "outside"]⟩] })] }),
  ("lock", { tag := some .minigame, fallback := some "cell" })]

/-- The bed can be searched, the tunnel is hidden, and the cell is no minigame to be left. One can
go to the lock, but not outside, and the lock leads back to the cell. -/
theorem outcome_rules_prison :
    let c := Catalog.ofDeck 0 prison
    let s : Session := ⟨c, c.seed .empty, { current := "cell" }, .labelMatch⟩
    let locked : Session := { s with navigation := ⟨"lock", 4, 2⟩ }
    s.state.flag? "cell.bed" ≠ some false ∧
      (∃ here, c.slide "cell" = .ok here ∧ here.fallback = none ∧
        here.buttons.get? "bed" = some ⟨none, [⟨["AddItem", "pin"]⟩]⟩) ∧
      (∃ turn, s.press "bed" = .ok turn ∧ turn.session.state.items = ["pin"]) ∧
      s.press "window" = .error (.buttonNotFound "cell" "window") ∧
      (∃ p, s.snapshot = .ok p ∧ ⟨"tunnel", false⟩ ∈ p.buttons) ∧
      s.press "tunnel" = .error (.buttonHidden "cell" "tunnel") ∧
      s.finishMinigame true = .error (.navigation (.missingFallback "cell")) ∧
      (Attempt.perform (.finishMinigame true)).on ⟨s, []⟩ =
        (.error (.navigation (.missingFallback "cell")), ⟨s, []⟩) ∧
      s.goTo "outside" = .error (.catalog (.slideNotFound "outside")) ∧
      (∃ turn, s.goTo "lock" = .ok turn ∧ turn.session.navigation = ⟨"lock", 1, 0⟩ ∧
        turn.session.state = s.state) ∧
      ∃ turn, locked.finishMinigame false = .ok turn ∧
        turn.session.navigation = ⟨"cell", 5, 2⟩ ∧ turn.session.state = s.state ∧
        turn.events.filterMap Event.heard? = [(0, "cell"), (1, "cell")] ∧
        (Attempt.perform (.finishMinigame false)).on ⟨locked, []⟩ =
          (.ok none, ⟨turn.session, turn.events⟩) := by
  intro c s locked
  obtain ⟨here, hhere, hfallback, hbed, hwindow⟩ : ∃ here, c.slide "cell" = .ok here ∧
      here.fallback = none ∧ here.buttons.get? "bed" = some ⟨none, [⟨["AddItem", "pin"]⟩]⟩ ∧
        here.buttons.get? "window" = none := ⟨_, rfl, rfl, rfl, rfl⟩
  obtain ⟨lock, hlock, hback⟩ : ∃ lock, c.slide "lock" = .ok lock ∧ lock.fallback = some "cell" :=
    ⟨_, rfl, rfl⟩
  obtain ⟨hpress, hgo, hfinish, hperform, hsnapshot⟩ := outcome_rules s
  have hflag : s.state.flag? "cell.bed" ≠ some false := by decide
  have hflag' : s.state.flag? "cell.window" ≠ some false := by decide
  obtain ⟨turn, hturn, -, hsession, -⟩ :=
    (((hpress "bed").2 hflag).2 here hhere).2 _ hbed
  obtain ⟨p, hp, htunnel⟩ : ∃ p, s.snapshot = .ok p ∧ ⟨"tunnel", false⟩ ∈ p.buttons :=
    ⟨_, rfl, by decide⟩
  have hleave := (hfinish true).2.1.2 ⟨here, hhere, hfallback⟩
  obtain ⟨entry, hentry, hto⟩ := (hgo "lock").2 (by decide)
  obtain ⟨-, -, hfinish', hperform', -⟩ := outcome_rules locked
  obtain ⟨exit, hexit, -, -, hout⟩ := (hfinish' false).2.2 lock "cell" hlock hback
  refine ⟨hflag, ⟨here, hhere, hfallback, hbed⟩, ⟨turn, hturn, ?_⟩,
    (((hpress "window").2 hflag').2 here hhere).1.2 hwindow, ⟨p, hp, htunnel⟩,
    hsnapshot p hp _ htunnel, hleave, ?_, (hgo "outside").1,
    ⟨entry, hentry, ?_, ?_⟩, exit, hexit, ?_, ?_, hout.heard, ?_⟩
  · rw [hsession]
    rfl
  · refine (hperform (.finishMinigame true) []).1 _ ?_
    rw [perform, hleave]
    rfl
  · rw [hto.session]
  · rw [hto.session]
  · rw [hout.session]
  · rw [hout.session]
  · refine (hperform' (.finishMinigame false) []).2 (exit.map fun _ => none) ?_
    rw [perform, hexit]
    rfl

end Session

end SlideGraph
