import SlideGraph.Proofs.Interpreter.Dispatched
import SlideGraph.Proofs.Session.InPlace
import SlideGraph.Proofs.Session.Run

/-!
# The history of a session

Every change of the slide is counted, told to the log as a notice, and heard by the listeners of
that time in the order in which they subscribed. So the notices of a session and what each listener
has heard spell out its history: the slides to which its commands led, in order.
-/

namespace SlideGraph

/-! ### News -/

namespace Event

/-- Whether it tells of a slide: a notice in the log, or a listener that hears of it. -/
def isNews : Event → Bool
  | logged r => r.level == .info
  | heard _ _ => true

/-- The text of a notice in the log. -/
def notice? : Event → Option String
  | logged r => if r.level = .info then some r.message else none
  | heard _ _ => none

theorem filterMap_notice?_filter (es : List Event) :
    (es.filter isNews).filterMap notice? = es.filterMap notice? := by
  rw [List.filterMap_filter]
  congr 1
  funext e
  cases e with
  | logged r => by_cases h : r.level = .info <;> simp [isNews, notice?, h]
  | heard listener slide => rfl

theorem filterMap_heard?_filter (es : List Event) :
    (es.filter isNews).filterMap heard? = es.filterMap heard? := by
  rw [List.filterMap_filter]
  congr 1
  funext e
  cases e with
  | logged r => simp [heard?]
  | heard listener slide => rfl

/-- What one listener has heard, in order. -/
def heardBy (listener : Nat) (es : List Event) : List String :=
  (es.filterMap heard?).filterMap fun (l, slide) => if l = listener then some slide else none

/-- A listener hears of those changes at which it was there. -/
theorem heardBy_of_heard {listener : Nat} {es : List Event} {changes : List (String × Nat)}
    (h : es.filterMap heard? = changes.flatMap fun (slide, n) => (List.range n).map (·, slide)) :
    heardBy listener es = (changes.filter fun change => listener < change.2).map Prod.fst := by
  rw [heardBy, h]
  clear h
  induction changes with
  | nil => rfl
  | cons change changes ih =>
    obtain ⟨slide, n⟩ := change
    have hone : ((List.range n).map (·, slide)).filterMap
        (fun (l, slide) => if l = listener then some slide else none) =
          if listener < n then [slide] else [] := by
      induction n with
      | zero => rfl
      | succ n ihn =>
        rw [List.range_succ, List.map_append, List.filterMap_append, ihn]
        rcases Nat.lt_trichotomy listener n with hn | rfl | hn
        · simp [hn, Nat.lt_succ_of_lt hn, Nat.ne_of_gt hn]
        · simp
        · simp [Nat.not_lt_of_gt hn, Nat.not_lt.2 hn, Nat.ne_of_lt hn]
    rw [List.flatMap_cons, List.filterMap_append, hone, ih, List.filter_cons]
    by_cases hn : listener < n <;> simp [hn]

end Event

namespace Navigation

/-- The notice of a change. -/
def changeText (before after : String) : String := "slide change: " ++ before ++ " -> " ++ after

/-- What is told of going to slides one after the other. -/
def news (n : Navigation) : List String → List Event
  | [] => []
  | slide :: slides => n.changeEvents slide ++ (n.changeSlide slide).news slides

theorem listeners_visit (n : Navigation) (slides : List String) :
    (n.visit slides).listeners = n.listeners := by
  induction slides generalizing n with
  | nil => rfl
  | cons slide slides ih => exact ih (n.changeSlide slide)

theorem filter_changeEvents (n : Navigation) (slide : String) :
    (n.changeEvents slide).filter Event.isNews = n.changeEvents slide := by
  rw [List.filter_eq_self]
  intro e he
  rcases List.mem_cons.1 he with rfl | he
  · rfl
  · obtain ⟨listener, -, rfl⟩ := List.mem_map.1 he
    rfl

/-- What a run puts into the log is no news, so only its routes are. -/
theorem filter_follow {effects : List Effect} (h : Interpreter.Quiet effects) (n : Navigation) :
    (n.follow effects).2.filter Event.isNews = n.news (effects.filterMap Effect.route?) := by
  induction effects generalizing n with
  | nil => rfl
  | cons e effects ih =>
    have hrest : Interpreter.Quiet effects := fun r hr => h r (List.mem_cons_of_mem e hr)
    cases e with
    | logged r =>
      have hr : Event.isNews (.logged r) = false :=
        beq_eq_false_iff_ne.2 (h r List.mem_cons_self)
      rw [follow, List.filter_cons_of_neg (by simp [hr])]
      exact ih hrest n
    | routed slide =>
      rw [follow, List.filter_append, filter_changeEvents, ih hrest]
      rfl

/-- All listeners hear of each slide, the first to subscribe first. -/
theorem heard_news (n : Navigation) (slides : List String) :
    (n.news slides).filterMap Event.heard? =
      slides.flatMap fun slide => (List.range n.listeners).map (·, slide) := by
  induction slides generalizing n with
  | nil => rfl
  | cons slide slides ih =>
    rw [news, List.filterMap_append, heard_changeEvents, ih, List.flatMap_cons]
    rfl

/-- The notices go from slide to slide. -/
theorem notices_news (n : Navigation) (slides : List String) :
    (n.news slides).filterMap Event.notice? =
      List.zipWith changeText (n.current :: slides) slides := by
  induction slides generalizing n with
  | nil => rfl
  | cons slide slides ih =>
    have hchange : (n.changeEvents slide).filterMap Event.notice? =
        [changeText n.current slide] := by
      have hheard : ((List.range n.listeners).map (Event.heard · slide)).filterMap
          Event.notice? = [] := by simp [Event.notice?]
      exact congrArg _ hheard
    rw [news, List.filterMap_append, hchange, ih]
    rfl

end Navigation

namespace Session

variable {c : Catalog} {config : Config} {s : Session} {command : Command}

/-! ### What one command tells -/

theorem filter_evaluate (s : Session) (actions : List Action) :
    (s.evaluate actions).events.filter Event.isNews =
      s.navigation.news (s.result actions).routes :=
  Navigation.filter_follow (Interpreter.quiet_runFrom s.nestedSkip 0 _ actions) s.navigation

/-- A command that fails leads nowhere. -/
theorem journey_of_error {e : SessionError} (h : s.perform command = .error e) :
    s.journey command = [] := by
  cases command with
  | press button =>
    rw [perform, press_eq] at h
    rw [journey]
    cases hb : s.pressable button with
    | error e => rfl
    | ok b => simp [hb, Except.map] at h
  | finishMinigame success =>
    rw [perform, finishMinigame, Navigation.finishMinigame] at h
    rw [journey]
    cases hf : s.navigation.fallback s.catalog with
    | error e => rfl
    | ok target => simp [hf, Except.map] at h
  | goTo slide =>
    rw [perform, goTo] at h
    cases hslide : s.catalog.slide slide with
    | error e => simp [journey, (Catalog.slide_eq_error_iff.1 hslide).2]
    | ok here => simp [hslide, Except.map] at h
  | evaluate actions => cases h
  | changeSlide slide => cases h
  | subscribe => cases h
  | change d => cases h

/-- The news of a command are those of its journey. -/
theorem filter_perform {turn : Turn (Option Report)} (h : s.perform command = .ok turn) :
    turn.events.filter Event.isNews = s.navigation.news (s.journey command) := by
  have hone (slide : String) : s.navigation.news [slide] = s.navigation.changeEvents slide :=
    List.append_nil _
  cases command with
  | press button =>
    rw [perform, press_eq] at h
    rw [journey]
    cases hb : s.pressable button with
    | error e => simp [hb, Except.map] at h
    | ok b =>
      simp only [hb, Except.map, Except.ok.injEq] at h
      subst h
      exact filter_evaluate s b.actions
  | evaluate actions =>
    cases h
    exact filter_evaluate s actions
  | finishMinigame success =>
    rw [perform, finishMinigame, Navigation.finishMinigame] at h
    rw [journey]
    cases hf : s.navigation.fallback s.catalog with
    | error e => simp [hf, Except.map] at h
    | ok target =>
      simp only [hf, Except.map, Except.ok.injEq] at h
      subst h
      simp only [Turn.map, hone]
      exact Navigation.filter_changeEvents s.navigation target
  | goTo slide =>
    rw [perform, goTo] at h
    cases hslide : s.catalog.slide slide with
    | error e => simp [hslide, Except.map] at h
    | ok here =>
      simp only [hslide, Except.map, Except.ok.injEq] at h
      subst h
      rw [journey, if_pos (Catalog.contains_iff.2 ⟨here, hslide⟩), hone]
      exact Navigation.filter_changeEvents s.navigation slide
  | changeSlide slide =>
    cases h
    rw [journey, hone]
    exact Navigation.filter_changeEvents s.navigation slide
  | subscribe =>
    cases h
    rfl
  | change d =>
    cases h
    rw [journey, Navigation.news, List.filter_eq_nil_iff]
    intro e he
    obtain ⟨r, hr, rfl⟩ := List.mem_map.1 he
    simp [Event.isNews, GameState.level_of_mem_records hr]

/-- The number of a new listener is the number of those there were before. -/
theorem answer_subscribe (s : Session) : s.subscribe.answer = s.navigation.listeners := rfl

/-- Only who subscribes is one listener more. -/
theorem listeners_after (s : Session) (command : Command) :
    (s.after command).navigation.listeners =
      s.navigation.listeners + if command == .subscribe then 1 else 0 := by
  cases command with
  | press button =>
    rw [after, perform, press_eq]
    cases s.pressable button with
    | error e => rfl
    | ok b =>
      have h := congrArg (fun t : Session => t.navigation.listeners) (session_evaluate s b.actions)
      exact h.trans (Navigation.listeners_visit _ _)
  | evaluate actions =>
    have h := congrArg (fun t : Session => t.navigation.listeners) (session_evaluate s actions)
    exact h.trans (Navigation.listeners_visit _ _)
  | finishMinigame success =>
    rw [after, perform, finishMinigame, Navigation.finishMinigame]
    cases s.navigation.fallback s.catalog <;> rfl
  | goTo slide =>
    rw [after, perform, goTo]
    cases s.catalog.slide slide <;> rfl
  | changeSlide slide => rfl
  | subscribe => rfl
  | change d => rfl

/-! ### What a run tells -/

/-- The slides to which commands lead, in order. -/
def history (s : Session) : List Command → List String
  | [] => []
  | command :: commands => s.journey command ++ (s.after command).history commands

/-- The changes of the slide that commands bring, in order: where each leads, and how many
listeners there are then. -/
def changes (s : Session) : List Command → List (String × Nat)
  | [] => []
  | command :: commands =>
    (s.journey command).map (·, s.navigation.listeners) ++ (s.after command).changes commands

/-- What is told of the changes that commands bring. -/
def tidings (s : Session) : List Command → List Event
  | [] => []
  | command :: commands =>
    s.navigation.news (s.journey command) ++ (s.after command).tidings commands

theorem map_fst_changes (s : Session) (commands : List Command) :
    (s.changes commands).map Prod.fst = s.history commands := by
  induction commands generalizing s with
  | nil => rfl
  | cons command commands ih => simp [changes, history, ih, Function.comp_def]

theorem changes_append (s : Session) (before rest : List Command) :
    s.changes (before ++ rest) = s.changes before ++ (s.afterAll before).changes rest := by
  induction before generalizing s with
  | nil => rfl
  | cons command before ih =>
    rw [List.cons_append, changes, ih, changes, List.append_assoc]
    rfl

theorem listeners_afterAll (s : Session) (commands : List Command) :
    (s.afterAll commands).navigation.listeners =
      s.navigation.listeners + commands.count .subscribe := by
  induction commands generalizing s with
  | nil => rfl
  | cons command commands ih =>
    have hrest := ih (s.after command)
    rw [listeners_after] at hrest
    rw [List.count_cons]
    exact hrest.trans (by omega)

/-- At each change there are the listeners of the beginning and some of those who subscribe. -/
theorem listeners_of_mem_changes {commands : List Command} {change : String × Nat}
    (h : change ∈ s.changes commands) :
    s.navigation.listeners ≤ change.2 ∧
      change.2 ≤ s.navigation.listeners + commands.count .subscribe := by
  induction commands generalizing s with
  | nil => cases h
  | cons command commands ih =>
    rcases List.mem_append.1 h with h | h
    · obtain ⟨slide, -, rfl⟩ := List.mem_map.1 h
      exact ⟨Nat.le_refl _, Nat.le_add_right _ _⟩
    · obtain ⟨hlower, hupper⟩ := ih h
      rw [listeners_after] at hlower hupper
      rw [List.count_cons]
      omega

theorem current_afterAll (s : Session) (commands : List Command) :
    (s.afterAll commands).navigation.current =
      (s.history commands).getLast?.getD s.navigation.current := by
  induction commands generalizing s with
  | nil => rfl
  | cons command commands ih =>
    refine (ih (s.after command)).trans ?_
    rw [current_after, history, List.getLast?_append]
    cases ((s.after command).history commands).getLast? <;> rfl

theorem revision_afterAll (s : Session) (commands : List Command) :
    (s.afterAll commands).navigation.revision =
      s.navigation.revision + (s.history commands).length := by
  induction commands generalizing s with
  | nil => rfl
  | cons command commands ih =>
    obtain ⟨state, listeners, h⟩ := s.after_eq command
    have hrevision : (s.after command).navigation.revision =
        s.navigation.revision + (s.journey command).length := by
      rw [h]
      exact Navigation.revision_visit s.navigation _
    refine (ih (s.after command)).trans ?_
    rw [hrevision, history, List.length_append, Nat.add_assoc]

theorem heard_tidings (s : Session) (commands : List Command) :
    (s.tidings commands).filterMap Event.heard? =
      (s.changes commands).flatMap fun (slide, listeners) =>
        (List.range listeners).map (·, slide) := by
  induction commands generalizing s with
  | nil => rfl
  | cons command commands ih =>
    rw [tidings, List.filterMap_append, Navigation.heard_news, ih, changes, List.flatMap_append,
      List.flatMap_map]

/-- A chain from slide to slide can be taken apart at any slide. -/
theorem zipWith_chain {α β : Type} (f : α → α → β) (a : α) (xs ys : List α) :
    List.zipWith f (a :: (xs ++ ys)) (xs ++ ys) =
      List.zipWith f (a :: xs) xs ++ List.zipWith f (xs.getLast?.getD a :: ys) ys := by
  induction xs generalizing a with
  | nil => simp
  | cons x xs ih => simp [ih x, List.getLast?_cons]

theorem notices_tidings (s : Session) (commands : List Command) :
    (s.tidings commands).filterMap Event.notice? =
      List.zipWith Navigation.changeText (s.navigation.current :: s.history commands)
        (s.history commands) := by
  induction commands generalizing s with
  | nil => rfl
  | cons command commands ih =>
    rw [tidings, List.filterMap_append, Navigation.notices_news, ih, current_after]
    exact (zipWith_chain Navigation.changeText _ _ _).symm

/-! ### Sessions that are lived through -/

/-- A session in place after a command, also if that failed. -/
def Live.after (live : Live) (command : Command) : Live :=
  ((Attempt.perform command).on live).2

/-- A session in place after commands in order. -/
def Live.afterAll (live : Live) (commands : List Command) : Live := commands.foldl Live.after live

theorem Live.after_eq (live : Live) (command : Command) :
    (live.after command).session = live.session.after command ∧
      (live.after command).events.filter Event.isNews = live.events.filter Event.isNews ++
        live.session.navigation.news (live.session.journey command) := by
  rw [Live.after, Session.after]
  cases h : live.session.perform command with
  | error e =>
    rw [Attempt.on_perform_of_error h, journey_of_error h]
    exact ⟨rfl, (List.append_nil _).symm⟩
  | ok turn =>
    rw [Attempt.on_perform_of_ok h, List.filter_append, filter_perform h]
    exact ⟨rfl, rfl⟩

theorem Live.afterAll_eq (live : Live) (commands : List Command) :
    (live.afterAll commands).session = live.session.afterAll commands ∧
      (live.afterAll commands).events.filter Event.isNews =
        live.events.filter Event.isNews ++ live.session.tidings commands := by
  induction commands generalizing live with
  | nil => exact ⟨rfl, (List.append_nil _).symm⟩
  | cons command commands ih =>
    obtain ⟨hsession, hevents⟩ := live.after_eq command
    obtain ⟨ihsession, ihevents⟩ := ih (live.after command)
    rw [hsession] at ihsession ihevents
    rw [hevents, List.append_assoc] at ihevents
    exact ⟨ihsession, ihevents⟩

theorem Live.heard_afterAll (s : Session) (commands : List Command) :
    ((Live.mk s []).afterAll commands).events.filterMap Event.heard? =
      (s.changes commands).flatMap fun (slide, listeners) =>
        (List.range listeners).map (·, slide) := by
  rw [← Event.filterMap_heard?_filter, ((Live.mk s []).afterAll_eq commands).2]
  exact heard_tidings s commands

/-- Who subscribes between two commands hears of the changes that the second and later ones
bring. -/
theorem heardBy_subscribed (s : Session) (before rest : List Command) :
    Event.heardBy (s.afterAll before).subscribe.answer
        ((Live.mk s []).afterAll (before ++ .subscribe :: rest)).events =
      ((s.afterAll before).after .subscribe).history rest := by
  rw [Event.heardBy_of_heard (Live.heard_afterAll s _), answer_subscribe, changes_append,
    List.filter_append]
  have hbefore : (s.changes before).filter
      (fun change => (s.afterAll before).navigation.listeners < change.2) = [] := by
    rw [List.filter_eq_nil_iff]
    intro change hchange
    have hupper := (listeners_of_mem_changes hchange).2
    rw [← listeners_afterAll] at hupper
    simpa using hupper
  have hrest : (((s.afterAll before).after .subscribe).changes rest).filter
      (fun change => (s.afterAll before).navigation.listeners < change.2) =
        ((s.afterAll before).after .subscribe).changes rest := by
    rw [List.filter_eq_self]
    intro change hchange
    have hlower := (listeners_of_mem_changes hchange).1
    rw [listeners_after, beq_self_eq_true, if_pos rfl] at hlower
    exact decide_eq_true hlower
  rw [hbefore, List.nil_append, ← map_fst_changes]
  exact congrArg _ hrest

/-! ### The history -/

/-- A list of actions contributes the routes to the history that its run carries out. Leaving a
minigame contributes the fallback, and going somewhere the slide. What fails contributes nothing.
However a session goes on after it has been opened, the count of changes is the length of the
history, and its last slide is the current one. The notices in the log are a chain from the start
slide along the history. All listeners of the time hear of each change, the first to subscribe
first, and each listener has heard just what came after it subscribed. -/
theorem history_complete {s₀ : Session} (hopened : Opened c config s₀) (commands : List Command) :
    (∀ s : Session,
      (∀ actions,
        let carriedOut := Interpreter.dispatchedFrom s.nestedSkip 0 { state := s.state } actions
        carriedOut.Sublist actions ∧
          carriedOut.length = (s.evaluate actions).answer.dispatched ∧
          s.journey (.evaluate actions) = carriedOut.filterMap Catalog.routeTarget?) ∧
      (∀ button b, s.pressable button = .ok b →
        s.journey (.press button) = s.journey (.evaluate b.actions)) ∧
      (∀ success here target, s.currentSlide = .ok here → here.fallback = some target →
        s.journey (.finishMinigame success) = [target]) ∧
      (∀ id, s.catalog.contains id → s.journey (.goTo id) = [id]) ∧
      (∀ id, s.journey (.changeSlide id) = [id]) ∧
      s.journey .subscribe = [] ∧
      ∀ command e, s.perform command = .error e → s.journey command = []) ∧
    let start := s₀.navigation.current
    let history := s₀.history commands
    let live := (Live.mk s₀ []).afterAll commands
    c.start = .ok start ∧
    live.session.navigation.revision = history.length ∧
    live.session.navigation.current = history.getLast?.getD start ∧
    live.session.navigation.listeners = commands.count .subscribe ∧
    live.events.filterMap Event.notice? =
      List.zipWith Navigation.changeText (start :: history) history ∧
    (live.events.filterMap Event.heard? = (s₀.changes commands).flatMap fun (slide, listeners) =>
      (List.range listeners).map (·, slide)) ∧
    (s₀.changes commands).map Prod.fst = history ∧
    ∀ before rest, commands = before ++ .subscribe :: rest →
      Event.heardBy (s₀.afterAll before).subscribe.answer live.events =
        ((s₀.afterAll before).after .subscribe).history rest := by
  obtain ⟨state, start, hstart, rfl⟩ := hopened.eq
  refine ⟨fun s => ⟨fun actions => ⟨Interpreter.dispatchedFrom_sublist .., ?_, ?_⟩, ?_, ?_, ?_,
    fun id => rfl, rfl, fun command e => journey_of_error⟩, ?_⟩
  · exact Interpreter.length_dispatchedFrom s.nestedSkip 0 { state := s.state } actions
  · exact Interpreter.routes_runFrom s.nestedSkip 0 { state := s.state } actions
  · intro button b hb
    rw [journey, hb]
    rfl
  · intro success here target hhere htarget
    rw [journey, Navigation.fallback_eq_ok_iff.2 ⟨here, hhere, htarget⟩]
  · intro id hid
    rw [journey, if_pos hid]
  intro start' history live
  obtain ⟨hsession, hevents⟩ := (Live.mk _ []).afterAll_eq commands
  refine ⟨hstart, ?_, ?_, ?_, ?_, Live.heard_afterAll _ commands, map_fst_changes _ commands, ?_⟩
  · rw [hsession, revision_afterAll]
    exact Nat.zero_add _
  · rw [hsession, current_afterAll]
  · rw [hsession, listeners_afterAll]
    exact Nat.zero_add _
  · rw [← Event.filterMap_notice?_filter, hevents]
    exact notices_tidings _ commands
  · rintro before rest rfl
    exact heardBy_subscribed _ before rest

/-- A hall whose door leads through a cellar and back, and then out. -/
def corridor : Deck := .ofList [
  ("hall", { buttons := .ofList [("door", { actions := [⟨["Route", "cellar"]⟩, ⟨["Route", "hall"]⟩,
    ⟨["Exit"]⟩, ⟨["Route", "garden"]⟩] })] }),
  ("cellar", { tag := some .minigame, fallback := some "hall" })]

/-- The first listener hears of all changes, the second only of the last one. A door that is not
there and a garden that is not there lead nowhere. -/
theorem history_complete_corridor :
    let c := Catalog.ofDeck 0 corridor
    let s : Session := ⟨c, .empty, { current := "hall" }, .labelMatch⟩
    let rest := [.press "door", .press "window", .goTo "garden", .goTo "cellar", .subscribe,
      .finishMinigame false]
    let live := (Live.mk s []).afterAll (.subscribe :: rest)
    Opened c {} s ∧
      s.history (.subscribe :: rest) = ["cellar", "hall", "cellar", "hall"] ∧
      live.session.navigation.revision = 4 ∧
      live.session.navigation.current = "hall" ∧
      live.events.filterMap Event.notice? = ["slide change: hall -> cellar",
        "slide change: cellar -> hall", "slide change: hall -> cellar",
        "slide change: cellar -> hall"] ∧
      Event.heardBy 0 live.events = ["cellar", "hall", "cellar", "hall"] ∧
      Event.heardBy 1 live.events = ["hall"] := by
  intro c s rest live
  have hresume : resume c .empty {} =
      .ok ⟨(), s, [.logged (.info "session opened on `hall`")]⟩ := rfl
  have hopened : Opened c {} s := .resumed .empty hresume
  have hhistory : s.history (.subscribe :: rest) = ["cellar", "hall", "cellar", "hall"] := by
    decide +kernel
  have hlast : ((s.afterAll (.subscribe :: rest.take 4)).after .subscribe).history
      [.finishMinigame false] = ["hall"] := by decide +kernel
  obtain ⟨-, -, hrevision, hcurrent, -, hnotices, -, -, hheard⟩ :=
    history_complete hopened (.subscribe :: rest)
  have hfirst := hheard [] rest rfl
  have hsecond := hheard (.subscribe :: rest.take 4) [.finishMinigame false] rfl
  rw [hhistory] at hrevision hcurrent hnotices
  -- The session in place is not to be evaluated.
  have hlive : (Live.mk s []).afterAll (.subscribe :: rest) = live := rfl
  rw [hlive] at hrevision hcurrent hnotices hfirst hsecond
  clear_value live
  refine ⟨hopened, hhistory, hrevision, hcurrent, ?_, hfirst.trans hhistory,
    hsecond.trans hlast⟩
  rw [hnotices]
  decide +kernel

end Session

end SlideGraph
