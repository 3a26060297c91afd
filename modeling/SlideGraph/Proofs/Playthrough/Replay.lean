import SlideGraph.Program
import SlideGraph.Proofs.Session.InPlace
import SlideGraph.Proofs.Session.Run

/-!
# What the result of a replay says

A replay takes the steps of a script up to the first that fails. Its result says how many steps were
taken and where they led, and that is where the steps before the one that failed lead. If none
fails, the result has one complaint for each expectation that does not hold in the end, in order.
-/

namespace SlideGraph.Playthrough

open Session

variable {s t : Session} {steps : List Step}

/-! ### Steps in order -/

/-- From `s` on the steps succeed one after the other and lead to `t`. -/
inductive Leads : Session → List Step → Session → Prop
  | nil (s : Session) : Leads s [] s
  | cons {s t : Session} {step : Step} {steps : List Step} {turn : Turn (Option Report)}
      (h : s.perform step.command = .ok turn) (hrest : Leads turn.session steps t) :
      Leads s (step :: steps) t

/-- From `s` on the first `i` steps succeed and lead to `t`, where the next one fails. -/
structure FailsAt (s : Session) (steps : List Step) (i : Nat) (t : Session) (f : Failure) :
    Prop where
  leads : Leads s (steps.take i) t
  step : steps[i]? = some f.step
  error : t.perform f.step.command = .error f.error

/-- Either some step is the first that fails, or all of them succeed. -/
theorem failsAt_or_leads (s : Session) (steps : List Step) :
    (∃ i t f, FailsAt s steps i t f) ∨ ∃ t, Leads s steps t := by
  induction steps generalizing s with
  | nil => exact .inr ⟨s, .nil s⟩
  | cons step steps ih =>
    cases h : s.perform step.command with
    | error e => exact .inl ⟨0, s, ⟨step, e⟩, .nil s, rfl, h⟩
    | ok turn =>
      rcases ih turn.session with ⟨i, t, f, hf⟩ | ⟨t, ht⟩
      · exact .inl ⟨i + 1, t, f, .cons h hf.leads, hf.step, hf.error⟩
      · exact .inr ⟨t, .cons h ht⟩

theorem Leads.catalog_eq (h : Leads s steps t) : t.catalog = s.catalog := by
  induction h with
  | nil s => rfl
  | cons h _ ih =>
    rename_i s t step steps turn _
    have hafter : s.after step.command = turn.session := by rw [after, h]
    rw [ih, ← hafter, catalog_after]

/-! ### Courses -/

/-- Steps that succeed can be taken off the front of a course. -/
theorem follow_append (name : String) (position : Nat) {before : List Step}
    (h : Leads s before t) (rest : List Step) :
    let course := follow name position s (before ++ rest)
    let tail := follow name (position + before.length) t rest
    course.session = tail.session ∧ course.failure = tail.failure ∧
      course.notes.length = before.length + tail.notes.length := by
  induction h generalizing position with
  | nil s => exact ⟨rfl, rfl, (Nat.zero_add _).symm⟩
  | cons h _ ih =>
    rename_i s t step steps turn _
    obtain ⟨hsession, hfailure, hnotes⟩ := ih (position + 1)
    have hposition : position + (step :: steps).length = position + 1 + steps.length := by
      rw [List.length_cons]
      omega
    rw [hposition]
    simp only [List.cons_append, follow, h]
    refine ⟨hsession, hfailure, ?_⟩
    rw [List.length_cons, hnotes, List.length_cons]
    omega

theorem follow_of_leads (name : String) (h : Leads s steps t) :
    let course := follow name 1 s steps
    course.session = t ∧ course.failure = none ∧ course.stepsRun = steps.length := by
  obtain ⟨hsession, hfailure, hnotes⟩ := follow_append name 1 h []
  rw [List.append_nil] at hsession hfailure hnotes
  refine ⟨hsession, hfailure, ?_⟩
  rw [Course.stepsRun, hfailure, hnotes]
  rfl

/-- A step that fails ends the course where the step began. -/
theorem follow_of_failsAt (name : String) {i : Nat} {f : Failure} (h : FailsAt s steps i t f) :
    let course := follow name 1 s steps
    course.session = t ∧ course.failure = some f ∧ course.stepsRun = i + 1 := by
  obtain ⟨hi, hstep⟩ := List.getElem?_eq_some_iff.1 h.step
  have hcourse := follow_append name 1 h.leads (steps.drop i)
  rw [List.take_append_drop, List.drop_eq_getElem_cons hi, hstep, follow,
    List.length_take_of_le (Nat.le_of_lt hi)] at hcourse
  simp only [h.error, List.length_nil, Nat.add_zero] at hcourse
  obtain ⟨hsession, hfailure, hnotes⟩ := hcourse
  refine ⟨hsession, hfailure, ?_⟩
  rw [Course.stepsRun, hfailure, hnotes]
  rfl

/-- A course ends where the steps lead that are done in place, also if one of them failed. -/
theorem session_follow (name : String) (position : Nat) (s : Session) (steps : List Step)
    (events : List Event) :
    (follow name position s steps).session =
      ((Attempt.performAll (steps.map Step.command)).on ⟨s, events⟩).2.session := by
  induction steps generalizing position s events with
  | nil => rfl
  | cons step steps ih =>
    rw [follow, List.map_cons, Attempt.performAll, Attempt.on_bind]
    cases h : s.perform step.command with
    | error e => rw [Attempt.on_perform_of_error h]
    | ok turn =>
      rw [Attempt.on_perform_of_ok h]
      exact ih (position + 1) turn.session (events ++ turn.events)

/-! ### Expectations -/

/-- One thing that is expected of a session at its end. -/
inductive Expectation
  | slide (id : String)
  | item (name : String)
  | missingItem (name : String)
  | flag (key : String) (value : Bool)

namespace Expectation

/-- Whether it is so. -/
def holds (s : Session) : Expectation → Bool
  | slide id => s.navigation.current == id
  | item name => s.state.hasItem name
  | missingItem name => !s.state.hasItem name
  | flag key value => s.state.flag key == value

/-- What is said if it is not so. -/
def complaint (s : Session) : Expectation → String
  | slide id => "expected slide `" ++ id ++ "`, ended on `" ++ s.navigation.current ++ "`"
  | item name => "expected item `" ++ name ++ "` in inventory"
  | missingItem name => "expected item `" ++ name ++ "` to be absent"
  | flag key value => "expected flag `" ++ key ++ "` = " ++ Text.truth value ++ ", found " ++
      Text.truth (s.state.flag key)

/-- The complaints about those expectations that do not hold, in order. -/
def complaints (s : Session) (xs : List Expectation) : List String :=
  (xs.filter fun x => !x.holds s).map (complaint s)

theorem complaints_append (s : Session) (xs ys : List Expectation) :
    complaints s (xs ++ ys) = complaints s xs ++ complaints s ys := by
  rw [complaints, List.filter_append, List.map_append, complaints, complaints]

theorem complaints_eq_nil_iff {xs : List Expectation} :
    complaints s xs = [] ↔ ∀ x ∈ xs, x.holds s = true := by
  simp [complaints, List.filter_eq_nil_iff]

end Expectation

/-- The expectations one by one: the slide, the items, the items that should be missing, and the
flags in the order of their keys. -/
def Expectations.each (e : Expectations) : List Expectation :=
  e.slide.toList.map .slide ++ e.items.map .item ++ e.missingItems.map .missingItem ++
    e.flags.entries.map fun (key, value) => .flag key value

theorem Expectations.failures_eq (e : Expectations) (s : Session) :
    e.failures s = Expectation.complaints s e.each := by
  have hslide : e.slideFailures s = Expectation.complaints s (e.slide.toList.map .slide) := by
    rw [slideFailures]
    cases e.slide with
    | none => rfl
    | some id =>
      by_cases h : id = s.navigation.current
      · simp [Expectation.complaints, Expectation.holds, h]
      · have hne : (s.navigation.current == id) = false := beq_eq_false_iff_ne.2 (Ne.symm h)
        rw [Expectation.complaints]
        simp only [if_neg h, Option.toList_some, List.map_cons, List.map_nil, Expectation.holds,
          List.filter_cons, hne]
        rfl
  have hitems : e.itemFailures s = Expectation.complaints s (e.items.map .item) := by
    rw [itemFailures, Expectation.complaints, List.filter_map, List.map_map]
    rfl
  have hmissing : e.missingItemFailures s =
      Expectation.complaints s (e.missingItems.map .missingItem) := by
    rw [missingItemFailures, Expectation.complaints, List.filter_map, List.map_map]
    congr 1
    exact List.filter_congr fun name _ => (Bool.not_not _).symm
  have hflags : e.flagFailures s =
      Expectation.complaints s (e.flags.entries.map fun (key, value) => .flag key value) := by
    rw [flagFailures, Expectation.complaints, List.filter_map, List.map_map]
    rfl
  rw [failures, each, hslide, hitems, hmissing, hflags]
  simp only [Expectation.complaints_append]

/-! ### Results -/

section

variable {c : Catalog} {config : Config} {turn : Turn Unit}

theorem fresh_of_isEmpty (h : c.isEmpty = true) :
    Session.fresh c config = .error (.catalog .emptyCatalog) := by
  have hids : c.ids = [] := List.map_eq_nil_iff.2 (List.isEmpty_iff.1 h)
  simp only [Session.fresh, resume, Catalog.start, hids]

theorem exists_fresh (config : Config) (h : c.isEmpty = false) :
    ∃ turn, Session.fresh c config = .ok turn := by
  obtain ⟨id, ids, hids⟩ : ∃ id ids, c.ids = id :: ids := by
    apply List.exists_cons_of_ne_nil
    intro hids
    rw [Catalog.isEmpty, OrderedMap.isEmpty, List.map_eq_nil_iff.1 hids] at h
    cases h
  exact ⟨_, resume_eq_ok_iff.2 ⟨id, by simp only [Catalog.start, hids], rfl⟩⟩

theorem catalog_of_fresh (h : Session.fresh c config = .ok turn) : turn.session.catalog = c := by
  obtain ⟨start, -, rfl⟩ := resume_eq_ok_iff.1 h
  rfl

theorem result_of_fresh (h : Session.fresh c config = .ok turn) (script : Script) :
    (script.replay c config).result =
      script.completed (follow script.name 1 turn.session script.steps) := by
  rw [Script.replay, h]

theorem result_of_isEmpty (h : c.isEmpty = true) (script : Script) :
    (script.replay c config).result = script.unopened (.catalog .emptyCatalog) := by
  rw [Script.replay, fresh_of_isEmpty h]

/-- No more steps are taken than there are, and they stay in the catalog. -/
theorem follow_within (name : String) (s : Session) (steps : List Step) :
    (follow name 1 s steps).stepsRun ≤ steps.length ∧
      (follow name 1 s steps).session.catalog = s.catalog := by
  rcases failsAt_or_leads s steps with ⟨i, t, f, h⟩ | ⟨t, h⟩
  · obtain ⟨hsession, -, hsteps⟩ := follow_of_failsAt name h
    rw [hsession, hsteps]
    exact ⟨(List.getElem?_eq_some_iff.1 h.step).1, h.leads.catalog_eq⟩
  · obtain ⟨hsession, -, hsteps⟩ := follow_of_leads name h
    rw [hsession, hsteps]
    exact ⟨Nat.le_refl _, h.catalog_eq⟩

theorem toOption_snapshot_eq_some_iff {p : Snapshot} :
    s.snapshot.toOption = some p ↔ s.snapshot = .ok p := by
  cases s.snapshot <;> simp [Except.toOption]

/-- A session can be shown where its slide is known. -/
theorem isSome_snapshot (s : Session) :
    s.snapshot.toOption.isSome = s.catalog.contains s.navigation.current := by
  rw [snapshot]
  cases h : s.currentSlide with
  | error e => exact (Catalog.slide_eq_error_iff.1 h).2.symm
  | ok here => exact (Catalog.contains_iff.2 ⟨here, h⟩).symm

/-- What holds of a result however the replay went. -/
theorem result_within (c : Catalog) (config : Config) (script : Script) :
    let r := (script.replay c config).result
    (r.passed = true ↔ r.failures = []) ∧
      r.stepsTotal = script.steps.length ∧ r.stepsRun ≤ r.stepsTotal ∧
      r.snapshot.isSome = c.contains r.finalSlide ∧
      ∀ p, r.snapshot = some p → p.slide = r.finalSlide := by
  cases hc : c.isEmpty with
  | true =>
    rw [result_of_isEmpty hc]
    have hcontains : c.contains "" = false := by
      have hentries : c.slides.entries = [] := List.isEmpty_iff.1 hc
      rw [Catalog.contains, OrderedMap.contains, OrderedMap.get?, hentries]
      rfl
    exact ⟨by simp [Script.unopened], rfl, Nat.zero_le _, hcontains.symm, fun p hp => by cases hp⟩
  | false =>
    obtain ⟨turn, h⟩ := exists_fresh config hc
    obtain ⟨hsteps, hcatalog⟩ := follow_within script.name turn.session script.steps
    rw [result_of_fresh h]
    refine ⟨List.isEmpty_iff, rfl, hsteps, ?_, fun p hp => ?_⟩
    · rw [Script.completed, isSome_snapshot, hcatalog, catalog_of_fresh h]
    · obtain ⟨here, -, rfl⟩ := snapshot_eq_ok_iff.1 (toOption_snapshot_eq_some_iff.1 hp)
      rfl

end

/-! ### Several scripts -/

/-- A replay as it is if nobody measures its time. -/
def Replay.untimed (r : Replay) : Replay :=
  { r with result := { r.result with duration := .ofNanoseconds 0 } }

theorem Script.untimed_replay (c : Catalog) (config : Config) (script : Script) :
    (script.replay c config).untimed = script.replay c config := by
  rw [replay]
  cases Session.fresh c config <;> rfl

/-- Scripts are replayed each for itself. -/
theorem untimed_replayAll (c : Catalog) (config : Config) (took : Nat → Duration) (first : Nat)
    (scripts : List Script) :
    (Program.replayAll c config took first scripts).map Replay.untimed =
      scripts.map fun script => script.replay c config := by
  induction scripts generalizing first with
  | nil => rfl
  | cons script scripts ih =>
    rw [Program.replayAll, List.map_cons, ih, List.map_cons, ← Script.untimed_replay]
    rfl

/-! ### The rules of replays -/

/-- What the result of a replay says. Without slides there is no session. The step that fails first
ends the replay: its number and its error make the one failure, whatever is expected, and the rest
is as if the script had ended before the step. If no step fails, the failures are the complaints
about what is expected and not so. The last session is the one that the steps in place leave. -/
theorem replay_rules (c : Catalog) (config : Config) (script : Script) :
    let r := (script.replay c config).result
    (r.passed = true ↔ r.failures = []) ∧
    r.stepsTotal = script.steps.length ∧ r.stepsRun ≤ r.stepsTotal ∧
    r.snapshot.isSome = c.contains r.finalSlide ∧
    (∀ p, r.snapshot = some p → p.slide = r.finalSlide) ∧
    (c.isEmpty = true → r.passed = false ∧ r.stepsRun = 0 ∧ r.finalSlide = "" ∧
      r.failures.length = 1 ∧ r.snapshot = none) ∧
    (c.isEmpty = false → ∃ turn, Session.fresh c config = .ok turn ∧
      ((∃ i t f, FailsAt turn.session script.steps i t f) ∨
        ∃ t, Leads turn.session script.steps t)) ∧
    (∀ turn, Session.fresh c config = .ok turn →
      (∀ i t f, FailsAt turn.session script.steps i t f →
        r.passed = false ∧ r.stepsRun = i + 1 ∧
        r.failures = ["step " ++ (i + 1).repr ++ " (" ++ f.step.text ++ ") on `" ++
          t.navigation.current ++ "`: " ++ f.error.message] ∧
        (∀ expect, (Script.replay c config { script with expect }).result = r) ∧
        let cut := (Script.replay c config { script with steps := script.steps.take i }).result
        r.finalSlide = cut.finalSlide ∧ r.snapshot = cut.snapshot) ∧
      (∀ t, Leads turn.session script.steps t →
        r.stepsRun = r.stepsTotal ∧ r.finalSlide = t.navigation.current ∧
        r.failures = Expectation.complaints t script.expect.each ∧
        (r.passed = true ↔ ∀ x ∈ script.expect.each, x.holds t = true)) ∧
      ∀ events, let last := ((Attempt.performAll (script.steps.map Step.command)).on
          ⟨turn.session, events⟩).2.session
        r.finalSlide = last.navigation.current ∧ r.snapshot = last.snapshot.toOption) ∧
    ∀ took first scripts, (Program.replayAll c config took first scripts).map Replay.untimed =
      scripts.map fun script => script.replay c config := by
  intro r
  obtain ⟨hpassed, htotal, hrun, hsnapshot, hslide⟩ := result_within c config script
  refine ⟨hpassed, htotal, hrun, hsnapshot, hslide, ?_, ?_, ?_, untimed_replayAll c config⟩
  · intro hc
    have hr : r = script.unopened (.catalog .emptyCatalog) := result_of_isEmpty hc script
    rw [hr]
    exact ⟨rfl, rfl, rfl, rfl, rfl⟩
  · intro hc
    obtain ⟨turn, h⟩ := exists_fresh config hc
    exact ⟨turn, h, failsAt_or_leads turn.session script.steps⟩
  · intro turn h
    have hr : r = script.completed (follow script.name 1 turn.session script.steps) :=
      result_of_fresh h script
    refine ⟨fun i t f hf => ?_, fun t ht => ?_, fun events => ?_⟩
    · obtain ⟨hsession, hfailure, hsteps⟩ := follow_of_failsAt script.name hf
      have hfailures (expect : Expectations) :
          (follow script.name 1 turn.session script.steps).failures expect =
            ["step " ++ (i + 1).repr ++ " (" ++ f.step.text ++ ") on `" ++
              t.navigation.current ++ "`: " ++ f.error.message] := by
        rw [Course.failures, hfailure, hsession, hsteps]
      refine ⟨?_, by rw [hr]; exact hsteps, by rw [hr]; exact hfailures script.expect, ?_, ?_⟩
      · rw [hr, Script.completed, hfailures]
        rfl
      · intro expect
        rw [result_of_fresh h, hr]
        simp only [Script.completed, hfailures]
      · -- the steps before the one that fails lead to the same session
        have hcut := (follow_of_leads script.name hf.leads).1
        rw [result_of_fresh h, hr]
        simp only [Script.completed, hcut, hsession, and_self]
    · obtain ⟨hsession, hfailure, hsteps⟩ := follow_of_leads script.name ht
      have hfailures : r.failures = Expectation.complaints t script.expect.each := by
        rw [hr, Script.completed, Course.failures, hfailure, hsession, Expectations.failures_eq]
      refine ⟨by rw [hr]; exact hsteps, by rw [hr, Script.completed, hsession], hfailures, ?_⟩
      rw [hpassed, hfailures, Expectation.complaints_eq_nil_iff]
    · rw [hr, ← session_follow]
      exact ⟨rfl, rfl⟩

/-- A gate that opens for a token, which is there for whoever rings. -/
def courtyard : Deck := .ofList [
  ("gate", { buttons := .ofList [
    ("bell", { actions := [⟨["AddItem", "token"]⟩] }),
    ("gate", { actions := [⟨["RequireItem", "token"]⟩, ⟨["Route", "yard"]⟩] })] }),
  ("yard", { tag := some .minigame, fallback := some "gate" })]

/-- There is no door, so the player has rung but stays in front of the gate. -/
theorem replay_rules_courtyard :
    let c := Catalog.ofDeck 0 courtyard
    let rung : Script := {
      name := "rung"
      steps := [.press "bell"]
      expect := { slide := some "yard", missingItems := ["token", "token"] } }
    let lost : Script := { rung with steps := [.press "bell", .press "door", .press "gate"] }
    c.isEmpty = false ∧ (Catalog.ofDeck 0 .empty).isEmpty = true ∧
      (lost.replay (Catalog.ofDeck 0 .empty) {}).result.failures.length = 1 ∧
      ∃ turn t, Session.fresh c {} = .ok turn ∧ Leads turn.session rung.steps t ∧
        FailsAt turn.session lost.steps 1 t ⟨.press "door", .buttonNotFound "gate" "door"⟩ ∧
        (rung.replay c {}).result.failures = Expectation.complaints t
          [.slide "yard", .missingItem "token", .missingItem "token"] ∧
        (lost.replay c {}).result.stepsRun = 2 ∧
        (lost.replay c {}).result.snapshot = (rung.replay c {}).result.snapshot := by
  intro c rung lost
  have hempty : (Catalog.ofDeck 0 .empty).isEmpty = true := rfl
  have hnone := (replay_rules (Catalog.ofDeck 0 .empty) {} lost).2.2.2.2.2.1 hempty
  obtain ⟨turn, hturn⟩ : ∃ turn, Session.fresh c {} = .ok turn := ⟨_, rfl⟩
  obtain ⟨t, hrung, hdoor⟩ : ∃ t, Leads turn.session rung.steps t ∧
      t.perform (.press "door") = .error (.buttonNotFound "gate" "door") := by
    cases hturn
    exact ⟨_, .cons rfl (.nil _), rfl⟩
  have hlost : FailsAt turn.session lost.steps 1 t
      ⟨.press "door", .buttonNotFound "gate" "door"⟩ := ⟨hrung, rfl, hdoor⟩
  obtain ⟨-, -, -, -, -, -, -, hrules, -⟩ := replay_rules c {} rung
  obtain ⟨-, -, -, -, -, -, -, hrules', -⟩ := replay_rules c {} lost
  obtain ⟨-, -, hfailures, -⟩ := (hrules turn hturn).2.1 t hrung
  obtain ⟨-, hsteps, -, -, -, hsnapshot⟩ := (hrules' turn hturn).1 1 t _ hlost
  exact ⟨rfl, hempty, hnone.2.2.2.1, turn, t, hturn, hrung, hlost, hfailures, hsteps, hsnapshot⟩

end SlideGraph.Playthrough
