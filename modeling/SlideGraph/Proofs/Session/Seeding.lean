import Mathlib.Data.List.Dedup
import SlideGraph.Proofs.Catalog.Issues
import SlideGraph.Proofs.Collection.KeyMap
import SlideGraph.Proofs.Session.Run

/-!
# The first flags of a session

A slide declares for a button whether it is shown at first, and the flag of the button is set to
that. The flag is found by a key, in which the slide and the button are joined by a dot. Two buttons
may have one key, since there may be dots in their names as well. Then they share a flag, and it
says what the later one declares.
-/

namespace SlideGraph

namespace Catalog

variable {c : Catalog}

/-! ### Declarations -/

/-- A button of a slide, and whether it is shown at first. -/
structure Declaration where
  slide : String
  button : String
  visible : Bool
deriving DecidableEq, Repr

/-- The key of the flag for which the declaration is meant. -/
def Declaration.key (d : Declaration) : String := buttonKey d.slide d.button

/-- The declarations of a slide. A minigame shows its buttons itself. -/
def slideDeclarations (id : String) (slide : Slide) : List Declaration :=
  if slide.isMinigame then []
  else slide.buttons.entries.filterMap fun (name, b) => b.visible.map (⟨id, name, ·⟩)

/-- The declarations of all slides, in order. -/
def declarations (c : Catalog) : List Declaration :=
  c.entries.flatMap fun (id, slide) => slideDeclarations id slide

theorem mem_slideDeclarations {id : String} {slide : Slide} {d : Declaration} :
    d ∈ slideDeclarations id slide ↔ d.slide = id ∧ slide.isMinigame = false ∧
      ∃ b, slide.buttons.get? d.button = some b ∧ b.visible = some d.visible := by
  rw [slideDeclarations]
  cases slide.isMinigame with
  | true => simp
  | false =>
    simp only [Bool.false_eq_true, if_false, List.mem_filterMap, true_and]
    constructor
    · rintro ⟨⟨name, b⟩, hb, hd⟩
      obtain ⟨v, hv, rfl⟩ := Option.map_eq_some_iff.1 hd
      exact ⟨rfl, b, OrderedMap.mem_entries_iff.1 hb, hv⟩
    · rintro ⟨rfl, b, hb, hv⟩
      refine ⟨(d.button, b), OrderedMap.mem_entries_iff.2 hb, ?_⟩
      simp [hv]

theorem mem_declarations {d : Declaration} :
    d ∈ c.declarations ↔ ∃ slide b, c.slide d.slide = .ok slide ∧ slide.isMinigame = false ∧
      slide.buttons.get? d.button = some b ∧ b.visible = some d.visible := by
  rw [declarations, List.mem_flatMap]
  constructor
  · rintro ⟨⟨id, slide⟩, hslide, hd⟩
    obtain ⟨rfl, hkind, b, hb, hv⟩ := mem_slideDeclarations.1 hd
    exact ⟨slide, b, slide_of_mem_entries hslide, hkind, hb, hv⟩
  · rintro ⟨slide, b, hslide, hkind, hb, hv⟩
    exact ⟨(d.slide, slide), mem_entries_of_slide hslide,
      mem_slideDeclarations.2 ⟨rfl, hkind, b, hb, hv⟩⟩

theorem pairwise_slideDeclarations (id : String) (slide : Slide) :
    (slideDeclarations id slide).Pairwise (fun d e => d.button ≠ e.button) := by
  rw [slideDeclarations]
  split
  · exact .nil
  · rw [List.pairwise_filterMap]
    apply (List.pairwise_map.1 slide.buttons.distinct).imp
    rintro ⟨name, b⟩ ⟨name', b'⟩ hne d hd e he
    obtain ⟨v, -, rfl⟩ := Option.map_eq_some_iff.1 hd
    obtain ⟨w, -, rfl⟩ := Option.map_eq_some_iff.1 he
    exact hne

/-- Each button of each slide declares once. -/
theorem nodup_declarations (c : Catalog) :
    (c.declarations.map fun d => (d.slide, d.button)).Nodup := by
  rw [List.Nodup, List.pairwise_map, declarations, List.pairwise_flatMap]
  constructor
  · rintro ⟨id, slide⟩ -
    apply (pairwise_slideDeclarations id slide).imp
    intro d e hne heq
    exact hne (Prod.ext_iff.1 heq).2
  · have hids := nodup_ids c
    rw [← map_fst_entries] at hids
    apply (List.pairwise_map.1 hids).imp
    rintro ⟨id, slide⟩ ⟨id', slide'⟩ hne d hd e he heq
    have hid := (mem_slideDeclarations.1 hd).1
    have hid' := (mem_slideDeclarations.1 he).1
    exact hne (hid.symm.trans ((Prod.ext_iff.1 heq).1.trans hid'))

/-! ### Flags -/

theorem seeds_eq (c : Catalog) : c.seeds = c.declarations.map fun d => (d.key, d.visible) := by
  rw [seeds, declarations, List.map_flatMap]
  congr 1
  funext ⟨id, slide⟩
  simp only [slideSeeds, slideDeclarations]
  split
  · rfl
  · rw [List.map_filterMap]
    simp [Declaration.key, Function.comp_def]

theorem flags_seed (c : Catalog) : (c.seed .empty).flags = KeyMap.ofList c.seeds := by
  have hfold (es : List (String × Bool)) (s : GameState) :
      (es.foldl (fun s e => s.apply (.setFlag e.1 e.2)) s).flags =
        es.foldl (fun m e => m.insert e.1 e.2) s.flags := by
    induction es generalizing s with
    | nil => rfl
    | cons e es ih => exact ih (s.apply (.setFlag e.1 e.2))
  exact hfold c.seeds .empty

theorem flag?_seed (c : Catalog) (key : String) :
    (c.seed .empty).flag? key = (KeyMap.ofList c.seeds).get? key := by
  rw [GameState.flag?, flags_seed]

/-- The last declaration for a key counts. -/
theorem flag?_seed_of_last {before after : List Declaration} {d : Declaration}
    (h : c.declarations = before ++ d :: after) (hlast : ∀ e ∈ after, e.key ≠ d.key) :
    (c.seed .empty).flag? d.key = some d.visible := by
  rw [flag?_seed, seeds_eq, h, List.map_append, List.map_cons]
  apply KeyMap.get?_ofList_append
  rw [List.map_map, List.mem_map]
  rintro ⟨e, he, hkey⟩
  exact hlast e he hkey

/-- There are as many flags as there are different keys. -/
theorem size_seed (c : Catalog) :
    (c.seed .empty).flags.size = (c.declarations.map Declaration.key).dedup.length := by
  have hkeys : c.seeds.map Prod.fst = c.declarations.map Declaration.key := by
    rw [seeds_eq, List.map_map]
    rfl
  rw [flags_seed, KeyMap.size_ofList, hkeys]

theorem isVisible_fresh {config : Config} {turn : Turn Unit}
    (h : Session.fresh c config = .ok turn) (d : Declaration) :
    (turn.session.changeSlide d.slide).session.isVisible d.button =
      ((c.seed .empty).flag? d.key).getD true := by
  obtain ⟨start, -, rfl⟩ := Session.resume_eq_ok_iff.1 h
  rfl

/-! ### Keys -/

/-- A button has its own key among those of slides without a dot. -/
theorem buttonKey_inj {slide slide' button button' : String} (h : '.' ∉ slide.toList)
    (h' : '.' ∉ slide'.toList) (hkey : buttonKey slide button = buttonKey slide' button') :
    slide = slide' ∧ button = button' := by
  have hlist : slide.toList ++ '.' :: button.toList = slide'.toList ++ '.' :: button'.toList := by
    have hchars := congrArg String.toList hkey
    simp only [buttonKey, String.toList_append, List.append_assoc] at hchars
    exact hchars
  -- The slide is what stands before the first dot.
  have htake {cs rest : List Char} (hcs : '.' ∉ cs) :
      (cs ++ '.' :: rest).takeWhile (· ≠ '.') = cs := by
    rw [List.takeWhile_append_of_pos]
    · simp
    · intro c hc
      simp only [ne_eq, decide_not, Bool.not_eq_true', decide_eq_false_iff_not]
      rintro rfl
      exact hcs hc
  have hslide : slide.toList = slide'.toList := by rw [← htake h, hlist, htake h']
  rw [hslide, List.append_cancel_left_eq, List.cons.injEq] at hlist
  exact ⟨String.toList_inj.1 hslide, String.toList_inj.1 hlist.2⟩

theorem nodup_keys_of_dotless (h : ∀ id ∈ c.ids, '.' ∉ id.toList) :
    (c.declarations.map Declaration.key).Nodup := by
  have hdotless : ∀ d ∈ c.declarations, '.' ∉ d.slide.toList := by
    intro d hd
    obtain ⟨slide, b, hslide, -⟩ := mem_declarations.1 hd
    exact h d.slide (mem_ids_of_slide hslide)
  have hdistinct := nodup_declarations c
  apply hdistinct.of_map.map_on
  intro d hd e he hkey
  obtain ⟨hslide, hbutton⟩ := buttonKey_inj (hdotless d hd) (hdotless e he) hkey
  exact List.inj_on_of_nodup_map hdistinct hd he (Prod.ext hslide hbutton)

/-- Each declaration has a flag of its own, which says what is declared and is what is seen in a
session that begins, and no other flags are set. -/
structure SeedsApart (c : Catalog) : Prop where
  flag : ∀ d ∈ c.declarations, (c.seed .empty).flag? d.key = some d.visible
  shown : ∀ config turn, Session.fresh c config = .ok turn → ∀ d ∈ c.declarations,
    (turn.session.changeSlide d.slide).session.isVisible d.button = d.visible
  size : (c.seed .empty).flags.size = c.declarations.length
  count : c.seeds.length = c.declarations.length

theorem seedsApart_iff :
    c.SeedsApart ↔ (c.declarations.map Declaration.key).Nodup := by
  constructor
  · intro h
    have hlength := h.size
    rw [size_seed, ← List.length_map Declaration.key] at hlength
    rw [← List.dedup_eq_self]
    exact (List.dedup_sublist _).eq_of_length hlength
  · intro h
    have hflag : ∀ d ∈ c.declarations, (c.seed .empty).flag? d.key = some d.visible := by
      intro d hd
      obtain ⟨before, after, hsplit⟩ := List.append_of_mem hd
      apply flag?_seed_of_last hsplit
      intro e he hkey
      rw [hsplit, List.map_append, List.map_cons] at h
      have hnew := (List.nodup_cons.1 (List.nodup_append.1 h).2.1).1
      exact hnew (hkey ▸ List.mem_map_of_mem he)
    refine ⟨hflag, ?_, ?_, ?_⟩
    · intro config turn hturn d hd
      rw [isVisible_fresh hturn, hflag d hd]
      rfl
    · rw [size_seed, List.dedup_eq_self.2 h, List.length_map]
    · rw [seeds_eq, List.length_map]

/-- Of whatever slides, the flags are set for just the buttons of ordinary slides that declare
something, each of which declares once. The declarations are counted, and the last one for a key
counts. Each has a flag of its own if and only if no two have one key, as it is if there is no dot
in the ids of the slides. -/
theorem seed_rules (c : Catalog) :
    (∀ d, d ∈ c.declarations ↔ ∃ slide b, c.slide d.slide = .ok slide ∧
      slide.isMinigame = false ∧ slide.buttons.get? d.button = some b ∧
        b.visible = some d.visible) ∧
    (c.declarations.map fun d => (d.slide, d.button)).Nodup ∧
    c.seeds.length = c.declarations.length ∧
    (c.seed .empty).flags.size = (c.declarations.map Declaration.key).dedup.length ∧
    (∀ before d after, c.declarations = before ++ d :: after → (∀ e ∈ after, e.key ≠ d.key) →
      (c.seed .empty).flag? d.key = some d.visible) ∧
    (c.SeedsApart ↔ (c.declarations.map Declaration.key).Nodup) ∧
    ((∀ id ∈ c.ids, '.' ∉ id.toList) → c.SeedsApart) := by
  refine ⟨fun d => mem_declarations, nodup_declarations c, ?_, size_seed c, ?_, seedsApart_iff, ?_⟩
  · rw [seeds_eq, List.length_map]
  · intro before d after h hlast
    exact flag?_seed_of_last h hlast
  · intro hdots
    rw [seedsApart_iff]
    exact nodup_keys_of_dotless hdots

/-- Two slides with a button each, whose keys are the same. -/
def twins : Deck := .ofList [
  ("a", { buttons := .ofList [("b.c", { visible := some true })] }),
  ("a.b", { buttons := .ofList [("c", { visible := some false })] })]

/-- The button of the first slide is declared to be shown, but its flag says otherwise, and there is
one flag for two declarations. -/
theorem seed_twins :
    let c := Catalog.ofDeck 0 twins
    (∃ slide b, c.slide "a" = .ok slide ∧ slide.isMinigame = false ∧
      slide.buttons.get? "b.c" = some b ∧ b.visible = some true) ∧
    (c.seed .empty).flag? (buttonKey "a" "b.c") = some false ∧
    c.seeds.length = 2 ∧ c.declarations.length = 2 ∧ (c.seed .empty).flags.size = 1 ∧
    ¬ c.SeedsApart := by
  intro c
  have hsize : (c.seed .empty).flags.size = 1 := by decide
  refine ⟨⟨_, _, rfl, rfl, rfl, rfl⟩, by decide, by decide, by decide, hsize, fun h => ?_⟩
  have hlength := h.size
  rw [hsize] at hlength
  exact absurd hlength (by decide)

end Catalog

end SlideGraph
