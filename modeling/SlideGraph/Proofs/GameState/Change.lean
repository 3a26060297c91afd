import SlideGraph.GameState
import SlideGraph.Proofs.Collection.KeyMap

/-!
# Changes of a game state

A state is what is found in it, and a change touches one item or one flag of it. So changes that
touch different parts can be made in either order. A flag that is toggled twice is set to what it
was read as, and to set a flag to the value that it has changes nothing.
-/

namespace SlideGraph

namespace GameState

variable {s t : GameState}

/-- A state is determined by what it holds and by the flags that are set in it. -/
theorem ext_lookups (hitems : ∀ item, s.hasItem item = t.hasItem item)
    (hflags : ∀ key, s.flag? key = t.flag? key) : s = t := by
  obtain ⟨inventory, flags⟩ := s
  obtain ⟨inventory', flags'⟩ := t
  have hinventory : inventory = inventory' := by
    apply KeyMap.ext_get?
    intro item
    have hitem : (inventory.get? item).isSome = (inventory'.get? item).isSome := hitems item
    cases h : inventory.get? item <;> cases h' : inventory'.get? item <;> simp [h, h'] at hitem ⊢
  have hflags' : flags = flags' := KeyMap.ext_get? hflags
  rw [hinventory, hflags']

theorem flag_apply (s : GameState) (c : Change) (key : String) :
    (s.apply c).flag key =
      match c with
      | .setFlag set value => if key = set then value else s.flag key
      | .toggleFlag toggled => if key = toggled then !s.flag key else s.flag key
      | _ => s.flag key := by
  rw [flag, flag?_apply]
  cases c with
  | addItem item => rfl
  | removeItem item => rfl
  | setFlag set value => by_cases h : key = set <;> simp [h, flag]
  | toggleFlag toggled => by_cases h : key = toggled <;> simp [h, flag]

/-! ### Flags -/

theorem apply_setFlag_self {key : String} {value : Bool} (h : s.flag? key = some value) :
    s.apply (.setFlag key value) = s := by
  apply ext_lookups
  · intro item
    rfl
  · intro k
    rw [flag?_apply]
    by_cases hk : k = key <;> simp [hk, h]

/-- A flag that was missing is false behind two toggles, any other has its old value. -/
theorem apply_toggleFlag_twice (s : GameState) (key : String) :
    (s.apply (.toggleFlag key)).apply (.toggleFlag key) = s.apply (.setFlag key (s.flag key)) := by
  apply ext_lookups
  · intro item
    rfl
  · intro k
    rw [flag?_apply, flag?_apply, flag?_apply]
    by_cases hk : k = key <;> simp [hk, flag_apply]

/-! ### Changes in either order -/

/-- What a change can touch. -/
inductive Part
  | item (name : String)
  | flag (key : String)
deriving DecidableEq, Repr

/-- What a change touches. -/
def Change.part : Change → Part
  | addItem item | removeItem item => .item item
  | setFlag key _ | toggleFlag key => .flag key

/-- Changes that touch different parts of a state can be made in either order. -/
theorem apply_comm {c d : Change} (h : c.part ≠ d.part) (s : GameState) :
    (s.apply c).apply d = (s.apply d).apply c := by
  apply ext_lookups
  · intro item
    cases c <;> cases d <;> simp only [hasItem_apply] <;> grind [Change.part]
  · intro key
    cases c <;> cases d <;> simp only [flag?_apply, flag_apply] <;> grind [Change.part]

/-! ### Changes one after the other -/

/-- The state after changes, one after the other. -/
def applyAll (s : GameState) (cs : List Change) : GameState := cs.foldl apply s

@[simp] theorem applyAll_nil (s : GameState) : s.applyAll [] = s := rfl

@[simp] theorem applyAll_append (s : GameState) (cs ds : List Change) :
    s.applyAll (cs ++ ds) = (s.applyAll cs).applyAll ds := List.foldl_append

theorem apply_applyAll_comm {c : Change} {ds : List Change} (h : ∀ d ∈ ds, c.part ≠ d.part)
    (s : GameState) : (s.apply c).applyAll ds = (s.applyAll ds).apply c := by
  induction ds generalizing s with
  | nil => rfl
  | cons d ds ih =>
    have hd := apply_comm (h d List.mem_cons_self) s
    have hrest := ih (fun e he => h e (List.mem_cons_of_mem d he)) (s.apply d)
    calc (s.apply c).applyAll (d :: ds) = ((s.apply c).apply d).applyAll ds := rfl
      _ = ((s.apply d).apply c).applyAll ds := by rw [hd]
      _ = (s.applyAll (d :: ds)).apply c := hrest

theorem applyAll_comm {cs ds : List Change} (h : ∀ c ∈ cs, ∀ d ∈ ds, c.part ≠ d.part)
    (s : GameState) : (s.applyAll cs).applyAll ds = (s.applyAll ds).applyAll cs := by
  induction cs generalizing s with
  | nil => rfl
  | cons c cs ih =>
    have hc := apply_applyAll_comm (h c List.mem_cons_self) s
    have hrest := ih (fun e he => h e (List.mem_cons_of_mem c he)) (s.apply c)
    calc (s.applyAll (c :: cs)).applyAll ds = ((s.apply c).applyAll cs).applyAll ds := rfl
      _ = ((s.apply c).applyAll ds).applyAll cs := hrest
      _ = (s.applyAll ds).applyAll (c :: cs) := by rw [hc]; rfl

end GameState

end SlideGraph
