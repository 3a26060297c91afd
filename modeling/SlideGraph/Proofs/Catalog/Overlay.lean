import SlideGraph.Proofs.GameState.Change
import SlideGraph.Proofs.Session.Seeding

/-!
# First flags over a state that is there

The first flags of a catalog are laid over a game state, whatever it holds already: where a button
is declared, the state has the flag as the last declaration says, and elsewhere it is as before. So
it makes no difference to set the first flags twice, or to make changes elsewhere before or after.
-/

namespace SlideGraph

namespace Catalog

variable {c : Catalog} {s : GameState}

/-! ### One flag after the other -/

/-- Set the flag of a button if it declares one, and count it. -/
def sowButton (id : String) (state : GameState × Nat) : String × Button → GameState × Nat
  | (name, b) =>
    match b.visible with
    | none => state
    | some visible => (state.1.apply (.setFlag (buttonKey id name) visible), state.2 + 1)

/-- Set the flags of the buttons of a slide. -/
def sowSlide (state : GameState × Nat) : String × Slide → GameState × Nat
  | (id, slide) =>
    if slide.isMinigame then state else slide.buttons.entries.foldl (sowButton id) state

/-- Set the first flags slide by slide and button by button, and count how often one is set. -/
def sow (c : Catalog) (s : GameState) : GameState × Nat := c.entries.foldl sowSlide (s, 0)

/-- The change that a declaration makes. -/
def Declaration.change (d : Declaration) : GameState.Change := .setFlag d.key d.visible

theorem seed_eq (c : Catalog) (s : GameState) :
    c.seed s = s.applyAll (c.declarations.map Declaration.change) := by
  rw [seed, seeds_eq, GameState.applyAll, List.foldl_map, List.foldl_map]
  rfl

/-- The first flags are those of the slides, whatever the numbers of the instances. -/
theorem seed_congr {c c' : Catalog} (h : c.entries = c'.entries) (s : GameState) :
    c.seed s = c'.seed s := by
  rw [seed, seeds, h, seed, seeds]

/-- A state in which the declared flags have been set, and how often one has been set. -/
def sown (state : GameState × Nat) (ds : List Declaration) : GameState × Nat :=
  (state.1.applyAll (ds.map Declaration.change), state.2 + ds.length)

theorem sown_append (state : GameState × Nat) (ds es : List Declaration) :
    sown state (ds ++ es) = sown (sown state ds) es := by
  simp [sown, Nat.add_assoc]

theorem foldl_sowButton (id : String) (bs : List (String × Button)) (state : GameState × Nat) :
    bs.foldl (sowButton id) state =
      sown state (bs.filterMap fun (name, b) => b.visible.map (Declaration.mk id name)) := by
  induction bs generalizing state with
  | nil => rfl
  | cons e bs ih =>
    obtain ⟨name, b⟩ := e
    rw [List.foldl_cons, ih, List.filterMap_cons]
    cases hb : b.visible with
    | none => simp [sowButton, hb]
    | some visible =>
      have hone : sowButton id state (name, b) = sown state [⟨id, name, visible⟩] := by
        simp only [sowButton, hb]
        rfl
      rw [hone, ← sown_append]
      simp [hb]

theorem sowSlide_eq (state : GameState × Nat) (id : String) (slide : Slide) :
    sowSlide state (id, slide) = sown state (slideDeclarations id slide) := by
  rw [sowSlide, slideDeclarations]
  split
  · rfl
  · exact foldl_sowButton id slide.buttons.entries state

theorem foldl_sowSlide (es : List (String × Slide)) (state : GameState × Nat) :
    es.foldl sowSlide state =
      sown state (es.flatMap fun (id, slide) => slideDeclarations id slide) := by
  induction es generalizing state with
  | nil => rfl
  | cons e es ih => rw [List.foldl_cons, ih, sowSlide_eq, ← sown_append, List.flatMap_cons]

theorem length_seeds (c : Catalog) : c.seeds.length = c.declarations.length := by
  rw [seeds_eq, List.length_map]

/-- One by one the flags come to the same as all together, and are counted as they are set. -/
theorem sow_eq (c : Catalog) (s : GameState) : c.sow s = (c.seed s, c.seeds.length) := by
  rw [sow, foldl_sowSlide, seed_eq, sown, Nat.zero_add, length_seeds]
  rfl

/-! ### What is seen behind them -/

theorem inventory_seed (c : Catalog) (s : GameState) : (c.seed s).inventory = s.inventory := by
  have hfold (ds : List Declaration) (s : GameState) :
      (s.applyAll (ds.map Declaration.change)).inventory = s.inventory := by
    induction ds generalizing s with
    | nil => rfl
    | cons d ds ih => exact ih (s.apply d.change)
  rw [seed_eq, hfold]

/-- The first flags lie over those of the state. -/
theorem flag?_seed_over (c : Catalog) (s : GameState) (key : String) :
    (c.seed s).flag? key = ((c.seed .empty).flag? key).or (s.flag? key) := by
  have hfold (ds : List Declaration) (s : GameState) :
      (s.applyAll (ds.map Declaration.change)).flag? key =
        ((GameState.empty.applyAll (ds.map Declaration.change)).flag? key).or (s.flag? key) := by
    induction ds using List.reverseRecOn with
    | nil => rfl
    | append_singleton ds d ih =>
      have hlast (s : GameState) : (s.applyAll ((ds ++ [d]).map Declaration.change)).flag? key =
          if key = d.key then some d.visible
          else (s.applyAll (ds.map Declaration.change)).flag? key := by
        rw [List.map_append, GameState.applyAll_append]
        exact GameState.flag?_apply _ d.change key
      rw [hlast, hlast, ih]
      split <;> rfl
  rw [seed_eq, seed_eq, hfold]

theorem flag?_seed_eq_none_iff {key : String} :
    (c.seed .empty).flag? key = none ↔ ∀ d ∈ c.declarations, d.key ≠ key := by
  rw [flag?_seed, KeyMap.get?_ofList, List.lookup_eq_none_iff, seeds_eq]
  simp only [List.mem_reverse, List.forall_mem_map, bne_iff_ne]
  exact forall₂_congr fun d _ => ne_comm

theorem seed_seed (c : Catalog) (s : GameState) : c.seed (c.seed s) = c.seed s := by
  apply GameState.ext_lookups
  · intro item
    rw [GameState.hasItem, inventory_seed]
    rfl
  · intro key
    rw [flag?_seed_over c (c.seed s), flag?_seed_over c s, ← Option.or_assoc, Option.or_self]

/-- Changes that touch no flag of a declared button can be made before or after. -/
theorem seed_applyAll {changes : List GameState.Change}
    (h : ∀ change ∈ changes, ∀ d ∈ c.declarations, change.part ≠ .flag d.key) (s : GameState) :
    c.seed (s.applyAll changes) = (c.seed s).applyAll changes := by
  rw [seed_eq, seed_eq]
  apply GameState.applyAll_comm
  intro change hchange declared hdeclared
  obtain ⟨d, hd, rfl⟩ := List.mem_map.1 hdeclared
  exact h change hchange d hd

/-- The first flags are laid over a state. Each button of an ordinary slide that declares something
does so once, and the flags are set and counted for just these. What is held and every other flag
stay as they are, and of the declarations for one key the last in order counts. To set the first
flags again changes nothing, and whatever changes touch none of these flags can be made before or
after. -/
theorem overlay_rules (c : Catalog) (s : GameState) :
    (∀ d, d ∈ c.declarations ↔ ∃ slide b, c.slide d.slide = .ok slide ∧
      slide.isMinigame = false ∧ slide.buttons.get? d.button = some b ∧
        b.visible = some d.visible) ∧
    (c.declarations.map fun d => (d.slide, d.button)).Nodup ∧
    c.sow s = (c.seed s, c.seeds.length) ∧
    c.seeds.length = c.declarations.length ∧
    (c.seed s).inventory = s.inventory ∧
    (∀ key, (∀ d ∈ c.declarations, d.key ≠ key) → (c.seed s).flag? key = s.flag? key) ∧
    (∀ before d after, c.declarations = before ++ d :: after → (∀ e ∈ after, e.key ≠ d.key) →
      (c.seed s).flag? d.key = some d.visible) ∧
    c.seed (c.seed s) = c.seed s ∧
    (∀ changes : List GameState.Change,
      (∀ change ∈ changes, ∀ d ∈ c.declarations, change.part ≠ .flag d.key) →
        c.seed (s.applyAll changes) = (c.seed s).applyAll changes) := by
  refine ⟨fun d => mem_declarations, nodup_declarations c, sow_eq c s, length_seeds c,
    inventory_seed c s, ?_, ?_, seed_seed c s, fun changes h => seed_applyAll h s⟩
  · intro key hkey
    rw [flag?_seed_over, flag?_seed_eq_none_iff.2 hkey, Option.none_or]
  · intro before d after h hlast
    rw [flag?_seed_over, flag?_seed_of_last h hlast, Option.some_or]

/-- A cellar and a crate in it, which declare the lid in two ways under one key, and a minigame with
a pin. -/
def crate : Deck := .ofList [
  ("cellar", { buttons := .ofList [("crate.lid", { visible := some true }), ("stairs", {})] }),
  ("cellar.crate", { buttons := .ofList [("lid", { visible := some false })] }),
  ("lock", { tag := some .minigame, buttons := .ofList [("pin", { visible := some true })] })]

/-- The state knows the lid and the pin already, and the player holds a rope. The lid is written
twice and ends as the second slide says; the pin and the rope stay, and it makes no difference when
the rope is dropped and the pin turned. -/
theorem overlay_rules_crate :
    let c := Catalog.ofDeck 0 crate
    let s : GameState :=
      ⟨.ofList ["rope"], .ofList [("cellar.crate.lid", true), ("lock.pin", false)]⟩
    let changes : List GameState.Change := [.removeItem "rope", .toggleFlag "lock.pin"]
    let lid : Declaration := ⟨"cellar.crate", "lid", false⟩
    c.declarations = [⟨"cellar", "crate.lid", true⟩] ++ lid :: [] ∧
      (∀ e ∈ ([] : List Declaration), e.key ≠ lid.key) ∧
      (∀ d ∈ c.declarations, d.key ≠ "lock.pin") ∧
      (∀ change ∈ changes, ∀ d ∈ c.declarations, change.part ≠ .flag d.key) ∧
      (c.sow s).2 = 2 ∧
      (c.seed s).flag? "cellar.crate.lid" = some false ∧
      (c.seed s).flag? "lock.pin" = some false ∧
      (c.seed s).items = ["rope"] ∧
      c.seed (s.applyAll changes) =
        ⟨.empty, .ofList [("cellar.crate.lid", false), ("lock.pin", true)]⟩ := by
  intro c s changes lid
  have hdeclarations : c.declarations = [⟨"cellar", "crate.lid", true⟩] ++ lid :: [] := by decide
  have hlast : ∀ e ∈ ([] : List Declaration), e.key ≠ lid.key := by simp
  have hpin : ∀ d ∈ c.declarations, d.key ≠ "lock.pin" := by decide
  have happart : ∀ change ∈ changes, ∀ d ∈ c.declarations, change.part ≠ .flag d.key := by decide
  obtain ⟨-, -, hsow, hlength, hinventory, hother, hdeclared, -, hchanges⟩ := overlay_rules c s
  refine ⟨hdeclarations, hlast, hpin, happart, ?_, hdeclared _ lid _ hdeclarations hlast,
    (hother "lock.pin" hpin).trans (by decide), ?_, (hchanges changes happart).trans (by decide)⟩
  · rw [hsow, hlength, hdeclarations]
    rfl
  · rw [GameState.items, hinventory]
    decide

end Catalog

end SlideGraph
