import SlideGraph.Proofs.Session.Operations

/-!
# Operations in place

An operation that answers with an error alone has no say in what is left of the session. Here the
operations change a session where it stands, step by step: what has been changed and told when an
operation fails is not taken back. They do what the others do, so an operation that fails has not
changed or told anything before.
-/

namespace SlideGraph

namespace Session

variable {α : Type}

/-- A session that is changed where it stands, with what has happened so far. -/
structure Live where
  session : Session
  events : List Event

/-- What may fail when it is partly done. -/
abbrev Attempt (α : Type) := ExceptT SessionError (StateM Live) α

namespace Attempt

/-- The answer of an attempt, and what is left of the session, also if it failed. -/
def on (a : Attempt α) (live : Live) : Except SessionError α × Live := (ExceptT.run a).run live

theorem on_bind {β : Type} (a : Attempt α) (f : α → Attempt β) (live : Live) :
    (a >>= f).on live =
      match a.on live with
      | (.error e, live') => (.error e, live')
      | (.ok x, live') => (f x).on live' := by
  simp only [on, ExceptT.run_bind, StateT.run_bind]
  rcases (ExceptT.run a).run live with ⟨_ | _, _⟩ <;> rfl

theorem on_map {β : Type} (f : α → β) (a : Attempt α) (live : Live) :
    (f <$> a).on live = ((a.on live).1.map f, (a.on live).2) := by
  rw [map_eq_pure_bind, on_bind]
  rcases a.on live with ⟨_ | _, _⟩ <;> rfl

@[simp] theorem on_get (live : Live) : (get : Attempt Live).on live = (.ok live, live) := rfl

/-! ### Steps of operations -/

/-- Put a record into the log. -/
def tell (r : LogRecord) : Attempt Unit :=
  modify fun live => { live with events := live.events ++ [.logged r] }

/-- Take a turn that cannot fail. -/
def take (turn : Session → Turn α) : Attempt α := do
  let live ← get
  let t := turn live.session
  set (⟨t.session, live.events ++ t.events⟩ : Live)
  return t.answer

/-- The slide with an id, or else the error that is made of the failure. -/
def slide (failure : CatalogError → SessionError) (id : String) : Attempt Slide := do
  match (← get).session.catalog.slide id with
  | .error e => throw (failure e)
  | .ok here => return here

/-! ### Operations -/

def press (button : String) : Attempt Report := do
  let s := (← get).session
  let current := s.navigation.current
  unless s.isVisible button do
    throw (.buttonHidden current button)
  let here ← slide .catalog current
  match here.buttons.get? button with
  | none => throw (.buttonNotFound current button)
  | some b =>
    tell (.debug ("button `" ++ buttonKey current button ++ "` pressed"))
    take fun s => s.evaluate b.actions

def finishMinigame (success : Bool) : Attempt Unit := do
  let current := (← get).session.navigation.current
  let here ← slide (fun e => .navigation (.catalog e)) current
  match here.fallback with
  | none => throw (.navigation (.missingFallback current))
  | some target =>
    tell (.debug ("minigame on `" ++ current ++ "` finished (success: " ++ Text.truth success ++
      ")"))
    take fun s => s.changeSlide target

def goTo (id : String) : Attempt Unit := do
  let _ ← slide .catalog id
  take fun s => s.changeSlide id

/-- Do what a command says. -/
def perform : Command → Attempt (Option Report)
  | .press button => some <$> press button
  | .evaluate actions => some <$> take fun s => s.evaluate actions
  | .finishMinigame success => (fun _ => none) <$> finishMinigame success
  | .goTo id => (fun _ => none) <$> goTo id
  | .changeSlide id => (fun _ => none) <$> take fun s => s.changeSlide id
  | .subscribe => (fun _ => none) <$> take fun s => s.subscribe
  | .change c => (fun _ => none) <$> take fun s => s.change c

/-- Do what commands say in order, up to the first that fails. -/
def performAll : List Command → Attempt Unit
  | [] => return ()
  | command :: commands => do
    let _ ← perform command
    performAll commands

/-! ### What an attempt leaves -/

/-- An attempt does what an operation says: it is left in a turn, or else where it was. -/
def Follows (a : Attempt α) (s : Session) (outcome : Except SessionError (Turn α)) : Prop :=
  ∀ events, a.on ⟨s, events⟩ =
    match outcome with
    | .error e => (.error e, ⟨s, events⟩)
    | .ok turn => (.ok turn.answer, ⟨turn.session, events ++ turn.events⟩)

variable {s : Session}

theorem follows_take (s : Session) (turn : Session → Turn α) :
    Follows (take turn) s (.ok (turn s)) := fun _ => rfl

theorem on_slide (failure : CatalogError → SessionError) (id : String) (live : Live) :
    (slide failure id).on live =
      match live.session.catalog.slide id with
      | .error e => (.error (failure e), live)
      | .ok here => (.ok here, live) := by
  simp only [slide, on_bind, on_get]
  cases live.session.catalog.slide id <;> rfl

theorem on_tell (r : LogRecord) (live : Live) :
    (tell r).on live = (.ok (), { live with events := live.events ++ [.logged r] }) := rfl

theorem on_take (turn : Session → Turn α) (live : Live) :
    (take turn).on live = (.ok (turn live.session).answer,
      ⟨(turn live.session).session, live.events ++ (turn live.session).events⟩) := rfl

theorem follows_press (s : Session) (button : String) :
    Follows (press button) s (s.press button) := by
  intro events
  simp only [Session.press, pressable, currentSlide, press, on_bind, on_get]
  cases s.isVisible button with
  | false => rfl
  | true =>
    simp only [↓reduceIte, on_bind, on_slide]
    cases s.catalog.slide s.navigation.current with
    | error e => rfl
    | ok here =>
      simp only
      cases here.buttons.get? button with
      | none => rfl
      | some b => simp only [on_bind, on_tell, on_take, List.append_assoc, List.singleton_append]

theorem follows_finishMinigame (s : Session) (success : Bool) :
    Follows (finishMinigame success) s (s.finishMinigame success) := by
  intro events
  simp only [Session.finishMinigame, Navigation.finishMinigame, Navigation.fallback,
    finishMinigame, on_bind, on_get, on_slide]
  cases s.catalog.slide s.navigation.current with
  | error e => rfl
  | ok here =>
    simp only
    cases here.fallback with
    | none => rfl
    | some target =>
      simp only [on_bind, on_tell, on_take, List.append_assoc, List.singleton_append, changeSlide]

theorem follows_goTo (s : Session) (id : String) : Follows (goTo id) s (s.goTo id) := by
  intro events
  simp only [Session.goTo, goTo, on_bind, on_slide]
  cases s.catalog.slide id <;> rfl

theorem Follows.map {β : Type} {a : Attempt α} {outcome : Except SessionError (Turn α)}
    (h : Follows a s outcome) (f : α → β) : Follows (f <$> a) s (outcome.map (Turn.map f)) := by
  intro events
  rw [on_map, h events]
  cases outcome <;> rfl

theorem follows_perform (s : Session) (command : Command) :
    Follows (perform command) s (s.perform command) := by
  cases command with
  | press button => exact (follows_press s button).map some
  | evaluate actions => exact (follows_take s fun s => s.evaluate actions).map some
  | finishMinigame success => exact (follows_finishMinigame s success).map fun _ => none
  | goTo id => exact (follows_goTo s id).map fun _ => none
  | changeSlide id => exact (follows_take s fun s => s.changeSlide id).map fun _ => none
  | subscribe => exact (follows_take s subscribe).map fun _ => none
  | change c => exact (follows_take s fun s => s.change c).map fun _ => none

/-- A command that fails leaves the session where it was, and nothing has happened. -/
theorem on_perform_of_error {s : Session} {command : Command} {events : List Event}
    {e : SessionError} (h : s.perform command = .error e) :
    (perform command).on ⟨s, events⟩ = (.error e, ⟨s, events⟩) := by
  have hon := follows_perform s command events
  rwa [h] at hon

theorem on_perform_of_ok {s : Session} {command : Command} {events : List Event}
    {turn : Turn (Option Report)} (h : s.perform command = .ok turn) :
    (perform command).on ⟨s, events⟩ =
      (.ok turn.answer, ⟨turn.session, events ++ turn.events⟩) := by
  have hon := follows_perform s command events
  rwa [h] at hon

end Attempt

end Session

end SlideGraph
