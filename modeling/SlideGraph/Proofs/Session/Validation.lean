import SlideGraph.Proofs.Action.Reading
import SlideGraph.Proofs.Session.Run

/-!
# What the issues of a catalog say of its sessions

In a session that leaves the known slides only by its own buttons and fallbacks, the player is
always on a slide of the catalog, or else on the target of an issue. So a catalog without issues
has no session in which a slide is missing.
-/

namespace SlideGraph

namespace Session

variable {c : Catalog} {config : Config} {s : Session}

/-- A command that comes from outside names slides of the catalog only. -/
def Command.Known (c : Catalog) : Command → Prop
  | .evaluate actions =>
    ∀ a ∈ actions, ∀ target, Catalog.routeTarget? a = some target → c.contains target = true
  | .changeSlide slide => c.contains slide = true
  | .press _ | .finishMinigame _ | .goTo _ | .subscribe | .change _ => True

/-- The routes of a run are those that a scan of its actions finds. -/
theorem routeTarget?_of_mem_routes {actions : List Action} {slide : String}
    (h : slide ∈ (s.result actions).routes) :
    ∃ a ∈ actions, Catalog.routeTarget? a = some slide := by
  obtain ⟨a, ha, hroute⟩ := Interpreter.mem_routes_runFrom h
  rw [Action.instruction_eq_route_iff] at hroute
  exact ⟨a, ha, Catalog.routeTarget?_eq_some_iff.2 hroute⟩

/-- A journey leads to slides that are accounted for. -/
theorem accounted_of_mem_journey {command : Command} (hknown : command.Known s.catalog)
    {slide : String} (h : slide ∈ s.journey command) : s.catalog.Accounted slide := by
  cases command with
  | press button =>
    rw [journey] at h
    split at h
    · simp at h
    · rename_i b hb
      obtain ⟨-, here, hhere, hbutton⟩ := pressable_eq_ok_iff.1 hb
      obtain ⟨a, ha, htarget⟩ := routeTarget?_of_mem_routes h
      exact Catalog.accounted_of_route hhere hbutton ha htarget
  | evaluate actions =>
    obtain ⟨a, ha, htarget⟩ := routeTarget?_of_mem_routes h
    exact .inl (hknown a ha slide htarget)
  | finishMinigame success =>
    rw [journey] at h
    split at h
    · simp at h
    · rename_i target htarget
      obtain ⟨here, hhere, hfallback⟩ := Navigation.fallback_eq_ok_iff.1 htarget
      rw [List.mem_singleton.1 h]
      exact Catalog.accounted_of_fallback hhere hfallback
  | goTo id =>
    rw [journey] at h
    split_ifs at h with hid
    · rw [List.mem_singleton.1 h]
      exact .inl hid
    · simp at h
  | changeSlide id =>
    rw [List.mem_singleton.1 h]
    exact .inl hknown
  | subscribe => simp [journey] at h
  | change d => simp [journey] at h

/-- The invariant of such a session: it stays on its catalog, on a slide that is accounted for. -/
def OnAccounted (c : Catalog) (s : Session) : Prop :=
  s.catalog = c ∧ c.Accounted s.navigation.current

theorem Opened.onAccounted (h : Opened c config s) : OnAccounted c s := by
  obtain ⟨state, start, hstart, rfl⟩ := h.eq
  exact ⟨rfl, .inl (Catalog.contains_of_start hstart)⟩

theorem OnAccounted.after {command : Command} (hknown : command.Known c) (h : OnAccounted c s) :
    OnAccounted c (s.after command) := by
  obtain ⟨rfl, hcurrent⟩ := h
  refine ⟨s.catalog_after command, ?_⟩
  rw [current_after]
  cases hlast : (s.journey command).getLast? with
  | none => exact hcurrent
  | some slide => exact accounted_of_mem_journey hknown (List.mem_of_getLast? hlast)

/-! ### Catalogs without issues -/

theorem OnAccounted.contains (h : OnAccounted c s) (hc : c.issues = []) :
    s.catalog.contains s.navigation.current = true := by
  obtain ⟨rfl, hcurrent | ⟨i, hi, -⟩⟩ := h
  · exact hcurrent
  · simp [hc] at hi

/-- On a known slide nothing fails for want of the slide. -/
theorem found_of_contains (h : s.catalog.contains s.navigation.current = true) :
    (∃ here, s.currentSlide = .ok here) ∧ (∃ p, s.snapshot = .ok p) ∧
      (∀ button id, s.press button ≠ .error (.catalog (.slideNotFound id))) ∧
      ∀ success id, s.finishMinigame success ≠
        .error (.navigation (.catalog (.slideNotFound id))) := by
  obtain ⟨here, hhere⟩ := Catalog.contains_iff.1 h
  refine ⟨⟨here, hhere⟩, ⟨_, snapshot_eq_ok_iff.2 ⟨here, hhere, rfl⟩⟩, ?_, ?_⟩
  · intro button id hpress
    rw [press_eq] at hpress
    cases hb : s.pressable button with
    | ok b => simp [hb, Except.map] at hpress
    | error e =>
      simp only [hb, Except.map, Except.error.injEq] at hpress
      subst hpress
      simp [pressable_eq_error_iff, h] at hb
  · intro success id hfinish
    rw [finishMinigame, Navigation.finishMinigame] at hfinish
    cases hf : s.navigation.fallback s.catalog with
    | ok target => simp [hf] at hfinish
    | error e =>
      simp only [hf, Except.error.injEq, SessionError.navigation.injEq] at hfinish
      subst hfinish
      simp [Navigation.fallback_eq_error_iff, h] at hf

/-- A minigame that cannot be left for want of a fallback is an issue. -/
theorem missingFallback_of_finishMinigame {success : Bool} {id : String} {here : Slide}
    (hhere : s.currentSlide = .ok here) (hgame : here.isMinigame = true)
    (h : s.finishMinigame success = .error (.navigation (.missingFallback id))) :
    id = s.navigation.current ∧ .missingFallback id ∈ s.catalog.issues := by
  rw [finishMinigame, Navigation.finishMinigame] at h
  cases hf : s.navigation.fallback s.catalog with
  | ok target => simp [hf] at h
  | error e =>
    simp only [hf, Except.error.injEq, SessionError.navigation.injEq] at h
    subst h
    rw [Navigation.fallback_eq_error_iff] at hf
    rcases hf with ⟨h, -⟩ | ⟨here', hhere', hnone, h⟩
    · cases h
    · obtain rfl : id = s.navigation.current := NavigationError.missingFallback.inj h
      rw [currentSlide] at hhere
      rw [hhere] at hhere'
      cases hhere'
      exact ⟨rfl, Catalog.missingFallback_mem_issues hhere hgame hnone⟩

/-! ### Soundness -/

/-- The issues of a catalog foretell what can go wrong in its sessions, whatever buttons are
pressed, minigames finished and known slides gone to, in any order. -/
theorem issues_sound (hopen : Opened c config s) (commands : List Command)
    (hknown : ∀ command ∈ commands, command.Known c) :
    let t := s.afterAll commands
    let current := t.navigation.current
    (c.contains current = true ∨ (∃ slide button, .danglingRoute slide button current ∈ c.issues) ∨
      ∃ slide, .danglingFallback slide current ∈ c.issues) ∧
    (∀ success id here, t.currentSlide = .ok here → here.isMinigame = true →
      t.finishMinigame success = .error (.navigation (.missingFallback id)) →
        id = current ∧ .missingFallback id ∈ c.issues) ∧
    (c.issues = [] →
      (∃ here, t.currentSlide = .ok here) ∧ (∃ p, t.snapshot = .ok p) ∧
      (∀ button id, t.press button ≠ .error (.catalog (.slideNotFound id))) ∧
      ∀ success id, t.finishMinigame success ≠
        .error (.navigation (.catalog (.slideNotFound id)))) := by
  intro t current
  have ht : OnAccounted c t := afterAll_invariant
    (fun _ command hc hs => OnAccounted.after hc hs) hopen.onAccounted commands hknown
  refine ⟨?_, ?_, fun hc => found_of_contains (ht.contains hc)⟩
  · rcases ht.2 with h | ⟨i, hi, htarget⟩
    · exact .inl h
    · cases i with
      | danglingFallback slide target =>
        obtain rfl : target = current := Option.some.inj htarget
        exact .inr (.inr ⟨slide, hi⟩)
      | danglingRoute slide button target =>
        obtain rfl : target = current := Option.some.inj htarget
        exact .inr (.inl ⟨slide, button, hi⟩)
      | missingFallback slide => cases htarget
  · intro success id here hhere hgame h
    have := missingFallback_of_finishMinigame hhere hgame h
    rwa [ht.1] at this

/-- A hall whose door leads to a cellar that is not there, and a minigame that cannot be left. -/
def crooked : Deck := .ofList [
  ("hall", { buttons := .ofList [("door", { actions := [⟨["Route", "cellar"]⟩] })] }),
  ("dice", { tag := some .minigame })]

/-- Behind the door the player is where an issue says, and the minigame is as an issue says. -/
theorem issues_sound_crooked :
    let c := Catalog.ofDeck 0 crooked
    let s : Session := ⟨c, c.seed .empty, { current := "hall" }, .labelMatch⟩
    Opened c {} s ∧ (∀ command ∈ [.press "door", .goTo "dice"], Command.Known c command) ∧
      (s.afterAll [.press "door"]).navigation.current = "cellar" ∧
      (c.contains "cellar" = true ∨
        (∃ slide button, .danglingRoute slide button "cellar" ∈ c.issues) ∨
        ∃ slide, .danglingFallback slide "cellar" ∈ c.issues) ∧
      (s.afterAll [.press "door", .goTo "dice"]).finishMinigame true =
        .error (.navigation (.missingFallback "dice")) ∧ .missingFallback "dice" ∈ c.issues := by
  intro c s
  have hopen : Opened c {} s := .fresh (show Session.fresh c {} = .ok ⟨(), s, _⟩ from rfl)
  have hdoor : ∀ command ∈ [.press "door"], Command.Known c command := by simp [Command.Known]
  have hdice : ∀ command ∈ [.press "door", .goTo "dice"], Command.Known c command := by
    simp [Command.Known]
  refine ⟨hopen, hdice, rfl, (issues_sound hopen _ hdoor).1, rfl, ?_⟩
  exact ((issues_sound hopen _ hdice).2.1 true "dice" _ rfl rfl rfl).2

end Session

end SlideGraph
