import SlideGraph.Catalog
import SlideGraph.Proofs.Collection.OrderedMap

/-!
# What a catalog says of its slides

A slide that can be looked up is an entry of its catalog, so what is wrong with it is among the
issues. A slide id is *accounted for* if the catalog has it, or else if an issue names it as the
target that leads nowhere. Every fallback and every route of a slide in the catalog leads to an id
that is accounted for.
-/

namespace SlideGraph

/-- The id to which a reference that leads nowhere should lead. -/
def Issue.target? : Issue → Option String
  | .danglingFallback _ target => some target
  | .danglingRoute _ _ target => some target
  | .missingFallback _ => none

namespace Catalog

/-! ### Look-ups -/

theorem slide_eq_ok_iff {c : Catalog} {id : String} {s : Slide} :
    c.slide id = .ok s ↔ ∃ n, c.slides.get? id = some ⟨n, s⟩ := by
  unfold slide find
  cases c.slides.get? id with
  | none => simp [Except.map]
  | some i =>
    obtain ⟨n, s'⟩ := i
    simp [Except.map]

theorem contains_iff {c : Catalog} {id : String} :
    c.contains id = true ↔ ∃ s, c.slide id = .ok s := by
  simp only [contains, OrderedMap.contains, Option.isSome_iff_exists, slide_eq_ok_iff]
  constructor
  · rintro ⟨⟨n, s⟩, h⟩
    exact ⟨s, n, h⟩
  · rintro ⟨s, n, h⟩
    exact ⟨_, h⟩

theorem contains_iff_mem_ids {c : Catalog} {id : String} : c.contains id = true ↔ id ∈ c.ids := by
  rw [ids, contains, OrderedMap.contains, Option.isSome_iff_ne_none, ne_eq,
    OrderedMap.get?_eq_none_iff, not_not]

/-- A look-up fails in one way only, and only for an id that is not there. -/
theorem slide_eq_error_iff {c : Catalog} {id : String} {e : CatalogError} :
    c.slide id = .error e ↔ e = .slideNotFound id ∧ c.contains id = false := by
  unfold slide find contains OrderedMap.contains
  cases c.slides.get? id with
  | none => simp [Except.map, eq_comm]
  | some i => simp [Except.map]

/-- There is a slide with the id, and it has a button with the name. -/
def Defines (c : Catalog) (id button : String) : Prop :=
  ∃ here b, c.slide id = .ok here ∧ here.buttons.get? button = some b

theorem not_defines_iff {c : Catalog} {id button : String} :
    ¬c.Defines id button ↔ c.contains id = false ∨
      ∃ here, c.slide id = .ok here ∧ here.buttons.get? button = none := by
  rw [Defines]
  cases h : c.slide id with
  | error e => simp [(slide_eq_error_iff.1 h).2]
  | ok here =>
    have hc : c.contains id = true := contains_iff.2 ⟨here, h⟩
    cases hb : here.buttons.get? button <;> simp [hc, hb]

theorem mem_entries_of_slide {c : Catalog} {id : String} {s : Slide} (h : c.slide id = .ok s) :
    (id, s) ∈ c.entries := by
  obtain ⟨n, hn⟩ := slide_eq_ok_iff.1 h
  exact List.mem_map.2 ⟨(id, ⟨n, s⟩), OrderedMap.mem_entries_iff.2 hn, rfl⟩

theorem slide_of_mem_entries {c : Catalog} {id : String} {s : Slide} (h : (id, s) ∈ c.entries) :
    c.slide id = .ok s := by
  obtain ⟨⟨k, n, s'⟩, hk, heq⟩ := List.mem_map.1 h
  cases heq
  exact slide_eq_ok_iff.2 ⟨n, OrderedMap.mem_entries_iff.1 hk⟩

theorem map_fst_entries (c : Catalog) : c.entries.map Prod.fst = c.ids := by
  rw [entries, List.map_map]
  rfl

theorem nodup_ids (c : Catalog) : c.ids.Nodup := c.slides.distinct

theorem mem_ids_of_slide {c : Catalog} {id : String} {s : Slide} (h : c.slide id = .ok s) :
    id ∈ c.ids := by
  rw [← map_fst_entries]
  exact List.mem_map_of_mem (mem_entries_of_slide h)

theorem contains_of_start {c : Catalog} {id : String} (h : c.start = .ok id) :
    c.contains id = true := by
  unfold start at h
  split at h
  · rename_i id' rest hids
    cases h
    have hmem : id ∈ c.slides.entries.map Prod.fst := by
      rw [show c.slides.entries.map Prod.fst = c.ids from rfl, hids]
      exact List.mem_cons_self
    obtain ⟨⟨k, i⟩, hk, rfl⟩ := List.mem_map.1 hmem
    rw [contains, OrderedMap.contains, OrderedMap.mem_entries_iff.1 hk]
    rfl
  · cases h

/-! ### References -/

theorem mem_issues {c : Catalog} {id : String} {s : Slide} (h : c.slide id = .ok s) {i : Issue}
    (hi : i ∈ c.slideIssues id s) : i ∈ c.issues :=
  List.mem_flatMap.2 ⟨(id, s), mem_entries_of_slide h, hi⟩

/-- An id is there, or an issue names it as the target that leads nowhere. -/
def Accounted (c : Catalog) (id : String) : Prop :=
  c.contains id = true ∨ ∃ i ∈ c.issues, i.target? = some id

theorem accounted_of_fallback {c : Catalog} {id target : String} {s : Slide}
    (h : c.slide id = .ok s) (hf : s.fallback = some target) : c.Accounted target := by
  by_cases ht : c.contains target = true
  · exact .inl ht
  · refine .inr ⟨.danglingFallback id target, mem_issues h ?_, rfl⟩
    simp [slideIssues, fallbackIssues, hf, ht]

theorem accounted_of_route {c : Catalog} {id name target : String} {s : Slide} {b : Button}
    {a : Action} (h : c.slide id = .ok s) (hb : s.buttons.get? name = some b) (ha : a ∈ b.actions)
    (ht : routeTarget? a = some target) : c.Accounted target := by
  by_cases hc : c.contains target = true
  · exact .inl hc
  · refine .inr ⟨.danglingRoute id name target, mem_issues h ?_, rfl⟩
    refine List.mem_append_right _ (List.mem_flatMap.2 ⟨_, OrderedMap.mem_entries_iff.2 hb, ?_⟩)
    simp only [routeIssues, List.mem_map, List.mem_filter, List.mem_filterMap]
    exact ⟨target, ⟨⟨a, ha, ht⟩, by simp [hc]⟩, rfl⟩

/-- A minigame without a fallback is an issue. -/
theorem missingFallback_mem_issues {c : Catalog} {id : String} {s : Slide} (h : c.slide id = .ok s)
    (hs : s.isMinigame = true) (hf : s.fallback = none) : .missingFallback id ∈ c.issues := by
  refine mem_issues h ?_
  simp [slideIssues, fallbackIssues, hf, hs]

/-- The scan for routes and the interpreter agree on what a route is. -/
theorem routeTarget?_eq_some_iff {a : Action} {target : String} :
    routeTarget? a = some target ↔
      ∃ operands, a.tokens = Opcode.route.name :: target :: operands := by
  obtain ⟨_ | ⟨token, _ | ⟨x, xs⟩⟩⟩ := a <;>
    simp [routeTarget?, Action.opcodeToken, Action.operand, Action.operands]

end Catalog

end SlideGraph
