import SlideGraph.Proofs.Interpreter.Skip

/-!
# The two ways to end a skip

A run does the same with matched labels and with tracked depth, unless a skip meets the start of a
block with its own label. So both runs keep abreast of each other up to a place where a label is
begun that is open already, behind a requirement inside the open block and in front of any end of
the label. Where no label is begun twice there is no such place.
-/

namespace SlideGraph

/-- The action is a requirement. -/
def Action.IsRequirement (a : Action) : Prop :=
  ∃ r, a.instruction = .ok (.requireItem r) ∨ a.instruction = .ok (.requireFlag r)

namespace Interpreter

/-- A label is begun at `j` and again at `k`, between them stands a requirement at `i`, and from
there on to `k` nothing ends the label. -/
structure BegunAgain (label : String) (actions : List Action) (j i k : Nat) : Prop where
  requirement_after : j < i
  again_after : i < k
  begun : ∃ a, actions[j]? = some a ∧ a.opens label = true
  requirement : ∃ a, actions[i]? = some a ∧ a.IsRequirement
  again : ∃ a, actions[k]? = some a ∧ a.opens label = true
  not_closed : ∀ n a, i < n → n < k → actions[n]? = some a → a.closes label = false

theorem BegunAgain.two_le_countP {label : String} {actions : List Action} {j i k : Nat}
    (h : BegunAgain label actions j i k) : 2 ≤ actions.countP (·.opens label) := by
  obtain ⟨a, ha, hopens⟩ := h.begun
  obtain ⟨b, hb, hopens'⟩ := h.again
  have hjk : j < k := Nat.lt_trans h.requirement_after h.again_after
  have hbefore : 0 < (actions.take k).countP (·.opens label) := by
    rw [← List.getElem?_take_of_lt hjk] at ha
    exact List.countP_pos_iff.2 ⟨a, List.mem_of_getElem? ha, hopens⟩
  have hbehind : 0 < (actions.drop k).countP (·.opens label) := by
    rw [← Nat.add_zero k, ← List.getElem?_drop] at hb
    exact List.countP_pos_iff.2 ⟨b, List.mem_of_getElem? hb, hopens'⟩
  rw [← List.take_append_drop k actions, List.countP_append]
  omega

/-! ### What two runs share -/

/-- Among the actions so far is a requirement behind a start of the label, and behind the
requirement nothing ends the label. -/
def Pending (before : List Action) (label : String) : Prop :=
  ∃ p a q, before = p ++ a :: q ∧ (∃ b ∈ p, b.opens label = true) ∧ a.IsRequirement ∧
    ∀ x ∈ q, x.closes label = false

/-- What is known of a frame behind some actions, as long as no skip has met the start of a block
with its label: the labels of open blocks have been begun, and the depth of a skip is zero. -/
structure Abreast (before : List Action) (frame : Frame) : Prop where
  labels : ∀ label ∈ frame.labels, ∃ b ∈ before, b.opens label = true
  skip : ∀ skip, frame.skip = some skip → skip.depth = 0 ∧ Pending before skip.label

variable {before : List Action} {a : Action} {state : GameState} {labels : List String}

theorem Pending.concat {label : String} (h : Pending before label)
    (ha : a.closes label = false) : Pending (before ++ [a]) label := by
  obtain ⟨p, b, q, rfl, hbegun, hb, hq⟩ := h
  refine ⟨p, b, q ++ [a], by simp, hbegun, hb, ?_⟩
  intro x hx
  rcases List.mem_append.1 hx with hx | hx
  · exact hq x hx
  · rw [List.mem_singleton.1 hx, ha]

theorem Pending.exists_begunAgain {label : String} (h : Pending before label)
    (ha : a.opens label = true) (rest : List Action) :
    ∃ j i k, BegunAgain label (before ++ a :: rest) j i k := by
  obtain ⟨p, c, q, rfl, ⟨b, hb, hopens⟩, hc, hq⟩ := h
  obtain ⟨j, hj, rfl⟩ := List.getElem_of_mem hb
  refine ⟨j, p.length, p.length + 1 + q.length, hj, by omega, ⟨p[j], ?_, hopens⟩,
    ⟨c, ?_, hc⟩, ⟨a, ?_, ha⟩, ?_⟩
  · rw [List.append_assoc, List.getElem?_append_left hj, List.getElem?_eq_getElem hj]
  · simp
  · rw [List.append_assoc, List.getElem?_append_right (by omega)]
    simp [Nat.add_assoc, Nat.add_comm 1]
  · intro n x hin hnk hx
    obtain ⟨m, rfl⟩ : ∃ m, n = p.length + 1 + m := Nat.exists_eq_add_of_le hin
    have hm : m < q.length := by omega
    rw [List.append_assoc, List.getElem?_append_right (by omega)] at hx
    simp only [Nat.add_assoc, Nat.add_sub_cancel_left, List.cons_append, Nat.add_comm 1 m,
      List.getElem?_cons_succ, List.getElem?_append_left hm, List.getElem?_eq_getElem hm,
      Option.some.injEq] at hx
    exact hx ▸ hq _ (List.getElem_mem hm)

/-! ### One action -/

/-- An action that no skip passes over begins no block but its own, and no skip but one to an open
block. -/
theorem frame_live (index : Nat) (state : GameState) (labels : List String) (a : Action) :
    let frame := (live index ⟨state, labels, none⟩ a).frame
    (∀ label ∈ frame.labels, label ∈ labels ∨ a.opens label = true) ∧
      ∀ skip, frame.skip = some skip → skip.depth = 0 ∧ skip.label ∈ labels ∧ a.IsRequirement := by
  have require (isMet : Bool) :
      let frame := (require index ⟨state, labels, none⟩ isMet).frame
      frame.labels = labels ∧ ∀ skip, frame.skip = some skip →
        skip.depth = 0 ∧ skip.label ∈ labels := by
    cases isMet <;> cases labels <;> simp [Interpreter.require]
  have kept : (∀ label ∈ labels, label ∈ labels ∨ a.opens label = true) ∧
      ∀ skip : Skip, none = some skip → skip.depth = 0 ∧ skip.label ∈ labels ∧ a.IsRequirement :=
    ⟨fun label h => .inl h, by simp⟩
  simp only [live]
  cases hi : a.instruction with
  | error o => exact kept
  | ok i =>
    cases i with
    | requireItem r =>
      obtain ⟨hlabels, hskip⟩ := require (r.holds (state.hasItem r.key))
      refine ⟨fun label h => .inl (hlabels ▸ h), fun skip h => ?_⟩
      exact ⟨(hskip skip h).1, (hskip skip h).2, r, .inl hi⟩
    | requireFlag r =>
      obtain ⟨hlabels, hskip⟩ := require (r.holds (state.flag r.key))
      refine ⟨fun label h => .inl (hlabels ▸ h), fun skip h => ?_⟩
      exact ⟨(hskip skip h).1, (hskip skip h).2, r, .inr hi⟩
    | startBlock label =>
      refine ⟨fun l h => ?_, kept.2⟩
      rcases List.mem_cons.1 h with rfl | h
      · exact .inr (Action.opens_iff.2 hi)
      · exact .inl h
    | endBlock =>
      cases labels with
      | nil => exact kept
      | cons label labels => exact ⟨fun l h => kept.1 l (List.mem_cons_of_mem _ h), kept.2⟩
    | setFlag key mode => cases mode <;> exact kept
    | _ => exact kept

theorem Abreast.live (h : Abreast before ⟨state, labels, none⟩) (index : Nat) (a : Action) :
    Abreast (before ++ [a]) (live index ⟨state, labels, none⟩ a).frame := by
  obtain ⟨hlabels, hskip⟩ := frame_live index state labels a
  constructor
  · intro label hl
    rcases hlabels label hl with hl | hl
    · obtain ⟨b, hb, hopens⟩ := h.labels label hl
      exact ⟨b, List.mem_append_left _ hb, hopens⟩
    · exact ⟨a, List.mem_append_right _ (List.mem_singleton_self a), hl⟩
  · intro skip hs
    obtain ⟨hdepth, hl, ha⟩ := hskip skip hs
    exact ⟨hdepth, before, a, [], rfl, h.labels _ hl, ha, fun x hx => nomatch hx⟩

/-- An action that does not begin the label of a skip is the same to both modes, and both frames
behind it are the same. -/
theorem Abreast.step {frame : Frame} (h : Abreast before frame)
    (ha : ∀ label, Pending before label → a.opens label = false) (index : Nat) :
    step .labelMatch index frame a = step .depthTracked index frame a ∧
      Abreast (before ++ [a]) (step .depthTracked index frame a).frame := by
  obtain ⟨state, labels, skip⟩ := frame
  cases skip with
  | none => exact ⟨rfl, h.live index a⟩
  | some skip =>
    obtain ⟨label, depth⟩ := skip
    obtain ⟨rfl, hpending⟩ := h.skip _ rfl
    have hopens := ha label hpending
    have hlive : Abreast before ⟨state, labels, none⟩ := ⟨h.labels, fun skip h => nomatch h⟩
    cases hcloses : a.closes label with
    | true =>
      have hmeet (mode : NestedSkip) : Skip.meet mode ⟨label, 0⟩ a = .resumes := by
        simp [Skip.meet, hopens, hcloses]
      simp only [Interpreter.step, hmeet]
      exact ⟨trivial, hlive.live index a⟩
    | false =>
      have hmeet (mode : NestedSkip) : Skip.meet mode ⟨label, 0⟩ a = .passes ⟨label, 0⟩ := by
        simp [Skip.meet, hopens, hcloses]
      simp only [Interpreter.step, hmeet]
      refine ⟨trivial, ?_, ?_⟩
      · intro l hl
        obtain ⟨b, hb, hbegun⟩ := h.labels l hl
        exact ⟨b, List.mem_append_left _ hb, hbegun⟩
      · rintro _ ⟨⟩
        exact ⟨rfl, hpending.concat hcloses⟩

/-! ### Whole runs -/

/-- Where nothing begins a label that is pending, both modes do the same to the end. -/
theorem Abreast.runFrom_eq {as : List Action} {frame : Frame} (h : Abreast before frame)
    (hnone : ∀ label j i k, ¬BegunAgain label (before ++ as) j i k) (index : Nat) :
    runFrom .labelMatch index frame as = runFrom .depthTracked index frame as := by
  induction as generalizing before frame index with
  | nil => rfl
  | cons a as ih =>
    have ha (label : String) (hpending : Pending before label) : a.opens label = false := by
      by_contra hopens
      obtain ⟨j, i, k, hagain⟩ :=
        hpending.exists_begunAgain (Bool.not_eq_false _ ▸ hopens) as
      exact hnone label j i k hagain
    obtain ⟨hstep, habreast⟩ := h.step ha index
    have hrest := ih habreast (by simpa using hnone) (index + 1)
    rw [runFrom, runFrom, hstep, hrest]

/-- If a run goes otherwise with matched labels than with tracked depth, in its state, its routes,
its report or its log, then some label is begun again while it is open, behind a requirement. So
where no label is begun twice, both ways agree. -/
theorem modes_rules (state : GameState) (actions : List Action) :
    (run .labelMatch state actions ≠ run .depthTracked state actions →
      ∃ label j i k, BegunAgain label actions j i k) ∧
    ((∀ label, actions.countP (·.opens label) ≤ 1) →
      run .labelMatch state actions = run .depthTracked state actions) := by
  have hagree (hnone : ∀ label j i k, ¬BegunAgain label actions j i k) :
      run .labelMatch state actions = run .depthTracked state actions := by
    have habreast : Abreast [] { state } :=
      ⟨fun label h => (nomatch h), fun skip h => (nomatch h)⟩
    exact habreast.runFrom_eq hnone 0
  constructor
  · intro hne
    by_contra hnone
    push Not at hnone
    exact hne (hagree hnone)
  · intro honce
    apply hagree
    intro label j i k h
    have htwice := h.two_le_countP
    have := honce label
    omega

/-- A hall inside a hall, with a lamp behind the inner one. -/
def nestedHalls : List Action := [⟨["StartBlock", "hall"]⟩, ⟨["RequireItem", "key"]⟩,
  ⟨["StartBlock", "hall"]⟩, ⟨["EndBlock", "hall"]⟩, ⟨["AddItem", "lamp"]⟩, ⟨["EndBlock", "hall"]⟩]

/-- A hall and a desk whose marks cross. -/
def crossed : List Action := [⟨["StartBlock", "hall"]⟩, ⟨["RequireItem", "key"]⟩,
  ⟨["StartBlock", "desk"]⟩, ⟨["EndBlock", "hall"]⟩, ⟨["AddItem", "lamp"]⟩, ⟨["EndBlock", "desk"]⟩]

/-- Whoever is without the key gets the lamp in the nested halls with matched labels only. Where the
marks cross, each label is begun once and both ways agree. -/
theorem modes_rules_halls :
    run .labelMatch .empty nestedHalls ≠ run .depthTracked .empty nestedHalls ∧
      (∃ label j i k, BegunAgain label nestedHalls j i k) ∧
      (∀ label, crossed.countP (·.opens label) ≤ 1) ∧
      run .labelMatch .empty crossed = run .depthTracked .empty crossed := by
  have hne : run .labelMatch .empty nestedHalls ≠ run .depthTracked .empty nestedHalls := by
    intro h
    have hstate := congrArg Outcome.state h
    revert hstate
    decide
  have honce (label : String) : crossed.countP (·.opens label) ≤ 1 := by
    by_cases hhall : label = "hall"
    · subst hhall
      decide
    · by_cases hdesk : label = "desk"
      · subst hdesk
        decide
      · have hnone : crossed.countP (·.opens label) = 0 := by
          rw [List.countP_eq_zero]
          simp [crossed, Action.opens, Action.opcodeToken, Action.operand, Action.operands,
            Opcode.name, Ne.symm hhall, Ne.symm hdesk]
        rw [hnone]
        exact Nat.zero_le 1
  exact ⟨hne, (modes_rules .empty nestedHalls).1 hne, honce, (modes_rules .empty crossed).2 honce⟩

end Interpreter

end SlideGraph
