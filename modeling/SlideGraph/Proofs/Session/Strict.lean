import SlideGraph.Proofs.Catalog.Overlay
import SlideGraph.Proofs.Interpreter.Step
import SlideGraph.Proofs.Session.Outcome

/-!
# What is hidden and what is not there

Whether a button is hidden is asked before it is looked for. So a flag that has been set to false
hides its button even where there is no such button, or no such slide. This does not happen as long
as each flag that is false is the flag of a button that is there. If the declarations and the
actions of a catalog hide nothing but its own buttons, it does not happen in any session, unless
something else is hidden from outside.
-/

namespace SlideGraph

/-- The flag that a change can make false. -/
def GameState.Change.hides? : Change → Option String
  | setFlag key false | toggleFlag key => some key
  | setFlag _ true | addItem _ | removeItem _ => none

theorem GameState.flag?_apply_eq_false {s : GameState} {d : Change} {key : String}
    (h : (s.apply d).flag? key = some false) : s.flag? key = some false ∨ d.hides? = some key := by
  rw [flag?_apply] at h
  rcases d with added | removed | ⟨set, _ | _⟩ | toggled
  · exact .inl h
  · exact .inl h
  · by_cases hkey : key = set
    · exact .inr (congrArg some hkey.symm)
    · exact .inl (by simpa [hkey] using h)
  · by_cases hkey : key = set
    · simp [hkey] at h
    · exact .inl (by simpa [hkey] using h)
  · by_cases hkey : key = toggled
    · exact .inr (congrArg some hkey.symm)
    · exact .inl (by simpa [hkey] using h)

namespace Catalog

variable {c : Catalog} {state : GameState}

/-! ### Flags of buttons that are there -/

/-- The button of the key is there, in whatever way the key is split into a slide and a button. -/
def Covers (c : Catalog) (key : String) : Prop :=
  ∀ id button, buttonKey id button = key → c.Defines id button

/-- Without dots in its slide and its name a button has a key that can be split in one way only. -/
theorem covers_of_dotless {id button : String} (hid : '.' ∉ id.toList)
    (hbutton : '.' ∉ button.toList) (h : c.Defines id button) : c.Covers (buttonKey id button) := by
  intro id' button' hkey
  have hlist := congrArg (List.count '.' ∘ String.toList) hkey
  simp only [buttonKey, Function.comp_apply, String.toList_append, List.count_append,
    List.count_eq_zero.2 hid, List.count_eq_zero.2 hbutton] at hlist
  -- There is one dot in the key, so the other slide stands before it as well.
  have hid' : '.' ∉ id'.toList := List.count_eq_zero.1 (by omega)
  obtain ⟨rfl, rfl⟩ := buttonKey_inj hid' hid hkey
  exact h

/-- No flag hides a button that is not there. -/
def Supports (c : Catalog) (state : GameState) : Prop :=
  ∀ key, state.flag? key = some false → c.Covers key

/-- A change does not hide a button that is not there. -/
def Admits (c : Catalog) (d : GameState.Change) : Prop := ∀ key, d.hides? = some key → c.Covers key

/-- No action of a list hides a button that is not there. -/
def AdmitsAll (c : Catalog) (actions : List Action) : Prop :=
  ∀ a ∈ actions, ∀ i, a.instruction = .ok i → ∀ d ∈ i.changes, c.Admits d

/-- A command that comes from outside does not hide a button that is not there. -/
def AdmitsCommand (c : Catalog) : Session.Command → Prop
  | .evaluate actions => c.AdmitsAll actions
  | .change d => c.Admits d
  | _ => True

/-- The author hides only buttons that are there. -/
structure Careful (c : Catalog) : Prop where
  declared : ∀ d ∈ c.declarations, c.Admits d.change
  pressed : ∀ id here button b, c.slide id = .ok here → here.buttons.get? button = some b →
    c.AdmitsAll b.actions

/-! ### One change after the other -/

theorem Supports.apply (h : c.Supports state) {d : GameState.Change} (hd : c.Admits d) :
    c.Supports (state.apply d) := by
  intro key hkey
  rcases GameState.flag?_apply_eq_false hkey with hold | hnew
  · exact h key hold
  · exact hd key hnew

theorem Supports.applyAll (h : c.Supports state) {ds : List GameState.Change}
    (hds : ∀ d ∈ ds, c.Admits d) : c.Supports (state.applyAll ds) := by
  induction ds generalizing state with
  | nil => exact h
  | cons d ds ih =>
    exact ih (h.apply (hds d List.mem_cons_self)) fun e he => hds e (List.mem_cons_of_mem d he)

theorem Supports.run (h : c.Supports state) {actions : List Action} (hactions : c.AdmitsAll actions)
    (mode : NestedSkip) : c.Supports (Interpreter.run mode state actions).state :=
  Interpreter.runFrom_invariant (P := c.Supports)
    (fun a ha i hi _ hs => hs.applyAll (hactions a ha i hi)) h

theorem Careful.supports_seed (h : c.Careful) : c.Supports (c.seed .empty) := by
  rw [seed_eq]
  have hempty : c.Supports .empty := by
    intro key hkey
    cases hkey
  apply hempty.applyAll
  simpa using h.declared

end Catalog

namespace Session

variable {s : Session} {c : Catalog}

/-! ### One command after the other -/

theorem supports_after (hc : c.Careful) {command : Command} (hcommand : c.AdmitsCommand command)
    (h : s.catalog = c ∧ c.Supports s.state) :
    (s.after command).catalog = c ∧ c.Supports (s.after command).state := by
  obtain ⟨rfl, h⟩ := h
  refine ⟨catalog_after s command, ?_⟩
  -- Only the author's actions and what comes from outside change the state.
  cases command with
  | press button =>
    rw [after, perform, press_eq]
    cases hb : s.pressable button with
    | error e => exact h
    | ok b =>
      obtain ⟨-, here, hhere, hget⟩ := pressable_eq_ok_iff.1 hb
      exact h.run (hc.pressed _ here button b hhere hget) s.nestedSkip
  | evaluate actions => exact h.run hcommand s.nestedSkip
  | finishMinigame success =>
    rw [after, perform, finishMinigame, Navigation.finishMinigame]
    cases s.navigation.fallback s.catalog <;> exact h
  | goTo id =>
    rw [after, perform, goTo]
    cases s.catalog.slide id <;> exact h
  | changeSlide id => exact h
  | subscribe => exact h
  | change d => exact h.apply hcommand

/-! ### Pressing what is not there -/

theorem press_of_not_defines {button : String}
    (h : ¬s.catalog.Defines s.navigation.current button) :
    s.press button = .error (
      if s.state.flag? (buttonKey s.navigation.current button) = some false then
        .buttonHidden s.navigation.current button
      else if s.catalog.contains s.navigation.current then
        .buttonNotFound s.navigation.current button
      else .catalog (.slideNotFound s.navigation.current)) := by
  rw [press_eq_error_iff, pressable_eq_error_iff]
  by_cases hflag : s.state.flag? (buttonKey s.navigation.current button) = some false
  · simp [isVisible_eq_false_iff.2 hflag, hflag]
  · have hv := isVisible_eq_true_iff.2 hflag
    rcases Catalog.not_defines_iff.1 h with hc | ⟨here, hhere, hb⟩
    · simp [hflag, hv, hc]
    · have hc : s.catalog.contains s.navigation.current = true :=
        Catalog.contains_iff.2 ⟨here, hhere⟩
      simp [hflag, hv, hc, currentSlide, hhere, hb]

theorem press_eq_hidden_iff {button id name : String} :
    s.press button = .error (.buttonHidden id name) ↔
      id = s.navigation.current ∧ name = button ∧
        s.state.flag? (buttonKey s.navigation.current button) = some false := by
  rw [press_eq_error_iff, pressable_eq_error_iff, isVisible_eq_false_iff]
  simp only [SessionError.buttonHidden.injEq, reduceCtorEq, and_false, or_false, exists_false]
  tauto

/-- What is not there is always reported as such, and only what is there is reported as hidden. -/
structure Strict (s : Session) : Prop where
  slide : ∀ button, s.catalog.contains s.navigation.current = false →
    s.press button = .error (.catalog (.slideNotFound s.navigation.current))
  button : ∀ here button, s.catalog.slide s.navigation.current = .ok here →
    here.buttons.get? button = none →
    s.press button = .error (.buttonNotFound s.navigation.current button)
  hidden : ∀ button id name, s.press button = .error (.buttonHidden id name) →
    s.catalog.Defines s.navigation.current button ∧
      s.state.flag? (buttonKey s.navigation.current button) = some false

theorem strict_iff :
    s.Strict ↔ ∀ button, s.state.flag? (buttonKey s.navigation.current button) = some false →
      s.catalog.Defines s.navigation.current button := by
  constructor
  · intro h button hflag
    exact (h.hidden button _ _ (press_eq_hidden_iff.2 ⟨rfl, rfl, hflag⟩)).1
  · intro h
    refine ⟨?_, ?_, ?_⟩
    · intro button hc
      have hnot : ¬s.catalog.Defines s.navigation.current button :=
        Catalog.not_defines_iff.2 (.inl hc)
      rw [press_of_not_defines hnot, if_neg fun hflag => hnot (h button hflag), hc]
      rfl
    · intro here button hhere hb
      have hnot := Catalog.not_defines_iff.2 (.inr ⟨here, hhere, hb⟩)
      rw [press_of_not_defines hnot, if_neg fun hflag => hnot (h button hflag),
        Catalog.contains_iff.2 ⟨here, hhere⟩]
      rfl
    · intro button id name hpress
      obtain ⟨-, -, hflag⟩ := press_eq_hidden_iff.1 hpress
      exact ⟨h button hflag, hflag⟩

theorem strict_of_supports (h : s.catalog.Supports s.state) : s.Strict :=
  strict_iff.2 fun button hflag => h _ hflag _ button rfl

/-- A session is strict on whatever slide if and only if no flag hides a button that is not
there. -/
theorem strict_changeSlide_iff :
    (∀ id, (s.changeSlide id).session.Strict) ↔ s.catalog.Supports s.state := by
  constructor
  · rintro h key hflag id button rfl
    exact strict_iff.1 (h id) button hflag
  · intro h id
    exact strict_of_supports h

/-- In the game of a careful author only a command from outside can hide what is not there. -/
theorem strict_afterAll (hc : s.catalog.Careful) (h : s.catalog.Supports s.state)
    {commands : List Command} (hcommands : ∀ command ∈ commands, s.catalog.AdmitsCommand command) :
    (s.afterAll commands).Strict := by
  have hkept := afterAll_invariant
    (P := fun t => t.catalog = s.catalog ∧ s.catalog.Supports t.state)
    (fun _ _ hcommand ht => supports_after hc hcommand ht) ⟨rfl, h⟩ commands hcommands
  obtain ⟨hcatalog, hsupports⟩ := hkept
  rw [← hcatalog] at hsupports
  exact strict_of_supports hsupports

/-- In the prison only the tunnel is hidden, and no button hides anything. -/
theorem careful_prison : (Catalog.ofDeck 0 prison).Careful := by
  let c := Catalog.ofDeck 0 prison
  constructor
  · have hdeclared : ∀ d ∈ c.declarations, '.' ∉ d.slide.toList ∧ '.' ∉ d.button.toList := by
      decide
    intro d hd key hkey
    obtain ⟨hslide, hbutton⟩ := hdeclared d hd
    obtain ⟨here, b, hhere, -, hb, -⟩ := Catalog.mem_declarations.1 hd
    have hd' : d.key = key := by
      obtain ⟨slide, button, _ | _⟩ := d
      · exact Option.some.inj hkey
      · cases hkey
    exact hd' ▸ Catalog.covers_of_dotless hslide hbutton ⟨here, b, hhere, hb⟩
  · have hpressed : ∀ e ∈ c.entries, ∀ f ∈ e.2.buttons.entries, ∀ a ∈ f.2.actions,
        (a.instruction.toOption.toList.flatMap Instruction.changes).filterMap
          GameState.Change.hides? = [] := by decide
    intro id here button b hhere hb a ha i hi d hd key hkey
    have hnone := hpressed _ (Catalog.mem_entries_of_slide hhere) _
      (OrderedMap.mem_entries_iff.2 hb) a ha
    rw [hi, List.filterMap_eq_nil_iff] at hnone
    rw [hnone d (by simpa [Except.toOption] using hd)] at hkey
    cases hkey

/-- Of whatever session, a button is reported as hidden if and only if its flag has been set to
false. To press what is not there always fails: it is reported as hidden if there is such a flag for
it, and otherwise as a button or a slide that is not found. So what is not there is reported as such
if and only if the flags of the current slide that are false are those of its buttons, and this on
whatever slide if and only if no flag hides a button that is not there. It is so in every session
of an author who hides only buttons that are there, unless others are hidden from outside. -/
theorem strict_rules :
    (∀ s : Session,
      let current := s.navigation.current
      (∀ button id name, s.press button = .error (.buttonHidden id name) ↔
        id = current ∧ name = button ∧
          s.state.flag? (buttonKey current button) = some false) ∧
      (∀ button, ¬s.catalog.Defines current button →
        s.press button = .error (
          if s.state.flag? (buttonKey current button) = some false then
            .buttonHidden current button
          else if s.catalog.contains current then .buttonNotFound current button
          else .catalog (.slideNotFound current))) ∧
      (s.Strict ↔ ∀ button, s.state.flag? (buttonKey current button) = some false →
        s.catalog.Defines current button) ∧
      ((∀ id, (s.changeSlide id).session.Strict) ↔ s.catalog.Supports s.state)) ∧
    ∀ c : Catalog, c.Careful → ∀ config turn, Session.fresh c config = .ok turn →
      ∀ commands, (∀ command ∈ commands, c.AdmitsCommand command) →
        (turn.session.afterAll commands).Strict := by
  refine ⟨fun s => ⟨fun _ _ _ => press_eq_hidden_iff, fun _ => press_of_not_defines, strict_iff,
    strict_changeSlide_iff⟩, ?_⟩
  intro c hc config turn hturn commands hcommands
  obtain ⟨start, -, rfl⟩ := resume_eq_ok_iff.1 hturn
  exact strict_afterAll hc hc.supports_seed hcommands

/-- Who takes the tunnel out of the cell is nowhere, and is told that there is no such slide. -/
theorem strict_rules_prison :
    let c := Catalog.ofDeck 0 prison
    c.Careful ∧ ∃ turn, Session.fresh c {} = .ok turn ∧
      (¬c.Defines "cell" "window" ∧
        turn.session.press "window" = .error (.buttonNotFound "cell" "window")) ∧
      let commands : List Command :=
        [.evaluate [⟨["SetGameState", "cell.tunnel", "toggle"]⟩], .press "tunnel"]
      (∀ command ∈ commands, c.AdmitsCommand command) ∧
        let s := turn.session.afterAll commands
        s.Strict ∧ s.navigation.current = "outside" ∧ ¬c.Defines "outside" "tunnel" ∧
          s.press "tunnel" = .error (.catalog (.slideNotFound "outside")) := by
  intro c
  obtain ⟨hpress, hfresh⟩ := strict_rules
  have hwindow : ¬c.Defines "cell" "window" :=
    Catalog.not_defines_iff.2 (.inr ⟨_, rfl, by decide⟩)
  have houtside : ¬c.Defines "outside" "tunnel" := Catalog.not_defines_iff.2 (.inl (by decide))
  refine ⟨careful_prison, _, rfl, ⟨hwindow, (hpress _).2.1 "window" hwindow⟩, ?_⟩
  intro commands
  have hadmits : ∀ command ∈ commands, c.AdmitsCommand command := by
    have htunnel : c.Covers (buttonKey "cell" "tunnel") :=
      Catalog.covers_of_dotless (by decide) (by decide) ⟨_, _, rfl, rfl⟩
    intro command hcommand
    simp only [commands, List.mem_cons, List.not_mem_nil, or_false] at hcommand
    rcases hcommand with rfl | rfl
    · intro a ha i hi d hd key hkey
      cases List.mem_singleton.1 ha
      cases hi
      cases List.mem_singleton.1 hd
      cases hkey
      exact htunnel
    · trivial
  have hstrict := hfresh c careful_prison {} _ rfl commands hadmits
  exact ⟨hadmits, hstrict, by decide, houtside, hstrict.slide "tunnel" (by decide)⟩

/-- A flag for a window hides it although there is none in the cell, and a flag for a tunnel hides
it outside, where there is no slide. -/
theorem not_strict_prison :
    let c := Catalog.ofDeck 0 prison
    let s : Session := ⟨c, c.seed .empty, { current := "cell" }, .labelMatch⟩
    let inside := (s.evaluate [⟨["SetGameState", "cell.window", "false"]⟩]).session
    let outside := (s.evaluate
      [⟨["SetGameState", "outside.tunnel", "false"]⟩, ⟨["Route", "outside"]⟩]).session
    ¬c.Defines "cell" "window" ∧ inside.navigation.current = "cell" ∧
      inside.press "window" = .error (.buttonHidden "cell" "window") ∧
      c.contains "outside" = false ∧ outside.navigation.current = "outside" ∧
      outside.press "tunnel" = .error (.buttonHidden "outside" "tunnel") ∧
      ¬∀ s : Session, s.Strict := by
  intro c s inside outside
  have hwindow : ¬c.Defines "cell" "window" := Catalog.not_defines_iff.2 (.inr ⟨_, rfl, rfl⟩)
  have hhidden : inside.press "window" = .error (.buttonHidden "cell" "window") := rfl
  refine ⟨hwindow, by decide, hhidden, by decide, by decide, rfl, fun h => hwindow ?_⟩
  exact ((h inside).hidden "window" "cell" "window" hhidden).1

end Session

end SlideGraph
