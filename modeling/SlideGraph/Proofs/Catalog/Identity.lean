import Mathlib.Algebra.Order.BigOperators.Group.List
import Mathlib.Algebra.Order.Group.Nat
import Mathlib.Data.List.Nodup
import Mathlib.Logic.Relation
import SlideGraph.Proofs.Catalog.Issues

/-!
# Slides told apart by instance

A catalog finds the id of an instance, and slides that are equal are still different instances. The
number of an instance is only known to differ from those of the others that are alive with it: when
an instance is gone, its number may be given to a new one. Here catalogs are built and cloned,
slides are held and copied, and owners go away, in any order. At every moment a catalog gives an id
for an instance if and only if the instance was made for that id when this catalog, or the one that
it is a clone of, was built.
-/

namespace SlideGraph

/-! ### Two maps that are filled together -/

/-- Instances by their ids, and ids by the numbers of their instances. -/
structure Registry where
  slides : OrderedMap Instance := .empty
  ids : Nat → Option String := fun _ => none

namespace Registry

variable {r : Registry} {es : List (String × Instance)}

/-- Put an instance into both maps. -/
def register (r : Registry) (e : String × Instance) : Registry where
  slides := r.slides.put e.1 e.2
  ids := Function.update r.ids e.2.number (some e.1)

def ofList (es : List (String × Instance)) : Registry := es.foldl register {}

def idOf (r : Registry) (i : Instance) : Except CatalogError String :=
  match r.ids i.number with
  | some id => .ok id
  | none => .error .unregisteredSlide

/-- Each of the two maps leads back where the other one comes from. -/
def Mutual (r : Registry) : Prop :=
  ∀ n id, r.ids n = some id ↔ ∃ here, r.slides.get? id = some ⟨n, here⟩

/-- An instance may be put in if neither its id nor its number is there. -/
theorem Mutual.register (h : r.Mutual) {id : String} {i : Instance}
    (hid : r.slides.get? id = none) (hnumber : r.ids i.number = none) :
    (r.register (id, i)).Mutual := by
  intro n k
  simp only [Registry.register, Function.update_apply, OrderedMap.get?_put]
  by_cases hn : n = i.number
  · subst hn
    rw [if_pos rfl]
    constructor
    · intro hk
      cases hk
      exact ⟨i.slide, by rw [if_pos rfl]⟩
    · rintro ⟨here, hk⟩
      split_ifs at hk with heq
      · rw [heq]
      · have hold := (h i.number k).2 ⟨here, hk⟩
        rw [hnumber] at hold
        cases hold
  · rw [if_neg hn, h n k]
    refine exists_congr ?_
    intro here
    split_ifs with heq
    · subst heq
      rw [hid]
      refine iff_of_false (by simp) ?_
      intro hi
      cases hi
      exact hn rfl
    · rfl

theorem ofList_concat (es : List (String × Instance)) (e : String × Instance) :
    ofList (es ++ [e]) = (ofList es).register e := by
  rw [ofList, List.foldl_append]
  rfl

theorem slides_ofList (es : List (String × Instance)) :
    (ofList es).slides = OrderedMap.ofList es := by
  induction es using List.reverseRecOn with
  | nil => rfl
  | append_singleton es e ih => rw [ofList_concat, OrderedMap.ofList_concat, ← ih, register]

/-- Equal slides do no harm, as only ids and numbers have to differ. -/
theorem mutual_ofList (hids : (es.map Prod.fst).Nodup)
    (hnumbers : (es.map fun e => e.2.number).Nodup) : (ofList es).Mutual := by
  induction es using List.reverseRecOn with
  | nil =>
    intro n id
    simp [ofList]
  | append_singleton es e ih =>
    rw [List.map_append, List.nodup_append] at hids hnumbers
    obtain ⟨hids, -, hid⟩ := hids
    obtain ⟨hnumbers, -, hnumber⟩ := hnumbers
    have hold := ih hids hnumbers
    rw [ofList_concat]
    refine hold.register ?_ ?_
    · rw [slides_ofList, OrderedMap.get?_eq_none_iff, OrderedMap.keys,
        OrderedMap.entries_ofList hids]
      intro hmem
      exact hid e.1 hmem e.1 (by simp) rfl
    · rw [Option.eq_none_iff_forall_ne_some]
      intro id hsome
      obtain ⟨here, hget⟩ := (hold _ id).1 hsome
      have hmem := OrderedMap.mem_entries_iff.2 hget
      rw [slides_ofList, OrderedMap.entries_ofList hids] at hmem
      exact hnumber e.2.number (List.mem_map.2 ⟨_, hmem, rfl⟩) e.2.number (by simp) rfl

end Registry

namespace Catalog

/-! ### Look-ups by instance -/

variable {c : Catalog} {id : String} {i : Instance}

theorem find_eq_ok_iff : c.find id = .ok i ↔ c.slides.get? id = some i := by
  rw [find]
  cases c.slides.get? id <;> simp

theorem mem_entries_of_find (h : c.find id = .ok i) : (id, i) ∈ c.slides.entries :=
  OrderedMap.mem_entries_iff.2 (find_eq_ok_iff.1 h)

theorem find_number_inj {k : String} {j : Instance} (hi : c.find id = .ok i)
    (hj : c.find k = .ok j) (h : i.number = j.number) : id = k ∧ i = j := by
  have heq :=
    List.inj_on_of_nodup_map c.distinct (mem_entries_of_find hi) (mem_entries_of_find hj) h
  cases heq
  exact ⟨rfl, rfl⟩

theorem idOf_eq_ok_iff : c.idOf i = .ok id ↔ ∃ here, c.find id = .ok ⟨i.number, here⟩ := by
  simp only [find_eq_ok_iff, ← OrderedMap.mem_entries_iff]
  rw [idOf]
  cases hfind : c.slides.entries.find? (fun e => e.2.number == i.number) with
  | none =>
    rw [List.find?_eq_none] at hfind
    refine iff_of_false (by simp) ?_
    rintro ⟨here, hmem⟩
    exact hfind _ hmem (by simp)
  | some e =>
    obtain ⟨k, j⟩ := e
    have hmem := List.mem_of_find?_eq_some hfind
    have hnumber : j.number = i.number := by simpa using List.find?_some hfind
    constructor
    · intro hk
      cases hk
      exact ⟨j.slide, hnumber ▸ hmem⟩
    · rintro ⟨here, hid⟩
      have heq := List.inj_on_of_nodup_map c.distinct hmem hid hnumber
      cases heq
      rfl

theorem exists_find_of_mem_ids (h : id ∈ c.ids) : ∃ i, c.find id = .ok i := by
  obtain ⟨here, hhere⟩ := contains_iff.1 (contains_iff_mem_ids.2 h)
  obtain ⟨n, hn⟩ := slide_eq_ok_iff.1 hhere
  exact ⟨_, find_eq_ok_iff.2 hn⟩

theorem first_le_number {first : Nat} {deck : Deck} {e : String × Instance}
    (h : e ∈ (ofDeck first deck).slides.entries) : first ≤ e.2.number := by
  have hnumber := List.mem_map_of_mem (f := fun e => e.2.number) h
  rw [ofDeck, map_number_enumerate, List.mem_range'_1] at hnumber
  exact hnumber.1

theorem idOf_eq_error_iff :
    c.idOf i = .error .unregisteredSlide ↔ ∀ id, c.idOf i ≠ .ok id := by
  rw [idOf]
  split <;> simp

/-- The maps that are filled from the slides of a catalog answer as the catalog does. -/
theorem registry_eq (c : Catalog) : (Registry.ofList c.slides.entries).slides = c.slides ∧
    ∀ i, (Registry.ofList c.slides.entries).idOf i = c.idOf i := by
  have hslides : (Registry.ofList c.slides.entries).slides = c.slides := by
    rw [Registry.slides_ofList, OrderedMap.ofList_entries]
  have hmutual := Registry.mutual_ofList c.slides.distinct c.distinct
  refine ⟨hslides, ?_⟩
  intro i
  have hid (id : String) :
      (Registry.ofList c.slides.entries).ids i.number = some id ↔ c.idOf i = .ok id := by
    rw [hmutual i.number id, hslides, idOf_eq_ok_iff]
    simp only [find_eq_ok_iff]
  rw [Registry.idOf]
  split
  · rename_i id hsome
    exact ((hid id).1 hsome).symm
  · rename_i hnone
    refine (idOf_eq_error_iff.2 ?_).symm
    intro id hok
    rw [(hid id).2 hok] at hnone
    cases hnone

end Catalog

/-! ### Owners -/

/-- What an instance was made for: an id when a catalog was built, or to be on its own. Births are
counted, and no count comes back. -/
inductive Origin
  | built (birth : Nat) (id : String)
  | single (birth : Nat)
deriving DecidableEq

def Origin.birth : Origin → Nat
  | built birth _ | single birth => birth

/-- What keeps instances alive: catalogs, with the birth of their instances, and whoever holds a
single instance. -/
structure World where
  births : Nat := 0
  catalogs : List (Nat × Catalog) := []
  held : List (Origin × Instance) := []

namespace World

/-- The instance is alive. -/
inductive Live (w : World) : Origin → Instance → Prop
  | catalog {birth : Nat} {c : Catalog} {id : String} {i : Instance}
      (hc : (birth, c) ∈ w.catalogs) (hi : c.find id = .ok i) : w.Live (.built birth id) i
  | held {o : Origin} {i : Instance} (hi : (o, i) ∈ w.held) : w.Live o i

/-- No instance that is alive has the number. -/
def Free (w : World) (n : Nat) : Prop := ∀ o i, w.Live o i → i.number ≠ n

/-- The numbers of what is alive. -/
def numbers (w : World) : List Nat :=
  w.catalogs.flatMap (fun p => p.2.slides.entries.map fun e => e.2.number) ++
    w.held.map fun p => p.2.number

theorem free_of_notMem {w : World} {n : Nat} (h : n ∉ w.numbers) : w.Free n := by
  rintro o i hi rfl
  rw [numbers, List.mem_append, List.mem_flatMap, not_or] at h
  rcases hi with ⟨hc, hi⟩ | ⟨hi⟩
  · exact h.1 ⟨_, hc, List.mem_map.2 ⟨_, Catalog.mem_entries_of_find hi, rfl⟩⟩
  · exact h.2 (List.mem_map.2 ⟨_, hi, rfl⟩)

def addCatalog (w : World) (c : Catalog) : World :=
  { w with births := w.births + 1, catalogs := (w.births, c) :: w.catalogs }

def addSingle (w : World) (i : Instance) : World :=
  { w with births := w.births + 1, held := (.single w.births, i) :: w.held }

/-- One thing happens. A catalog is built of a deck, or a slide is copied or made on its own, and
the new instances have free numbers. Or a catalog is cloned, an instance is held by one more owner
or owners go away, and no instance is new. -/
inductive Step : World → World → Prop
  | build {w : World} {c : Catalog} (deck : Deck) (hdeck : c.entries = deck.entries)
      (hfree : ∀ e ∈ c.slides.entries, w.Free e.2.number) : Step w (w.addCatalog c)
  | single {w : World} {i : Instance} (hfree : w.Free i.number) : Step w (w.addSingle i)
  | clone {w : World} {p : Nat × Catalog} (hp : p ∈ w.catalogs) :
      Step w { w with catalogs := p :: w.catalogs }
  | hold {w : World} {o : Origin} {i : Instance} (hi : w.Live o i) :
      Step w { w with held := (o, i) :: w.held }
  | drop {w : World} {cs : List (Nat × Catalog)} {is : List (Origin × Instance)}
      (hcs : cs ⊆ w.catalogs) (his : is ⊆ w.held) : Step w { w with catalogs := cs, held := is }

/-- A world that has come about from nothing. -/
def Reachable (w : World) : Prop := Relation.ReflTransGen Step {} w

/-! ### What is true of every world -/

/-- Instances that are alive are told apart by their numbers, and a catalog has those that are of
its birth. -/
structure Sound (w : World) : Prop where
  apart : ∀ {o o' i i'}, w.Live o i → w.Live o' i' → i.number = i'.number → o = o' ∧ i = i'
  find : ∀ {birth c id i}, (birth, c) ∈ w.catalogs → w.Live (.built birth id) i → c.find id = .ok i
  live_birth : ∀ {o i}, w.Live o i → o.birth < w.births
  catalog_birth : ∀ {birth c}, (birth, c) ∈ w.catalogs → birth < w.births

variable {w w' : World} {c : Catalog}

theorem sound_empty : Sound {} where
  apart h := by rcases h with ⟨hc, _⟩ | ⟨hi⟩ <;> cases ‹_ ∈ []›
  find h := by cases h
  live_birth h := by rcases h with ⟨hc, _⟩ | ⟨hi⟩ <;> cases ‹_ ∈ []›
  catalog_birth h := by cases h

/-- It does no harm if there are other owners of what is alive anyway. -/
theorem Sound.of_owners (h : w.Sound) (hbirths : w'.births = w.births)
    (hcatalogs : w'.catalogs ⊆ w.catalogs) (hheld : ∀ o i, (o, i) ∈ w'.held → w.Live o i) :
    w'.Sound := by
  have hlive : ∀ {o i}, w'.Live o i → w.Live o i := by
    rintro o i (⟨hc, hi⟩ | ⟨hi⟩)
    · exact .catalog (hcatalogs hc) hi
    · exact hheld o i hi
  constructor
  · intro o o' i i' hi hi'
    exact h.apart (hlive hi) (hlive hi')
  · intro birth c id i hc hi
    exact h.find (hcatalogs hc) (hlive hi)
  · intro o i hi
    rw [hbirths]
    exact h.live_birth (hlive hi)
  · intro birth c hc
    rw [hbirths]
    exact h.catalog_birth (hcatalogs hc)

/-- What is born now is apart from all that is there, and a catalog has what is of its birth. -/
theorem Sound.of_new (h : w.Sound) (new : Origin → Instance → Prop)
    (hbirths : w'.births = w.births + 1)
    (hlive : ∀ {o i}, w'.Live o i → new o i ∨ w.Live o i)
    (hbirth : ∀ {o i}, new o i → o.birth = w.births)
    (hfree : ∀ {o i}, new o i → w.Free i.number)
    (hapart : ∀ {o o' i i'}, new o i → new o' i' → i.number = i'.number → o = o' ∧ i = i')
    (hcatalogs : ∀ {birth c}, (birth, c) ∈ w'.catalogs → (birth, c) ∈ w.catalogs ∨
      birth = w.births ∧ ∀ {id i}, new (.built birth id) i → c.find id = .ok i) : w'.Sound := by
  constructor
  · intro o o' i i' hi hi' hnumber
    rcases hlive hi with hi | hi <;> rcases hlive hi' with hi' | hi'
    · exact hapart hi hi' hnumber
    · exact absurd hnumber.symm (hfree hi o' i' hi')
    · exact absurd hnumber (hfree hi' o i hi)
    · exact h.apart hi hi' hnumber
  · intro birth c id i hc hi
    rcases hcatalogs hc with hc | ⟨rfl, hfind⟩ <;> rcases hlive hi with hi | hi
    · exact absurd (h.catalog_birth hc) (Nat.not_lt.2 (hbirth hi).ge)
    · exact h.find hc hi
    · exact hfind hi
    · exact absurd (h.live_birth hi) (Nat.lt_irrefl _)
  · intro o i hi
    rw [hbirths]
    rcases hlive hi with hi | hi
    · exact Nat.lt_succ_of_le (hbirth hi).le
    · exact Nat.lt_succ_of_lt (h.live_birth hi)
  · intro birth c hc
    rw [hbirths]
    rcases hcatalogs hc with hc | ⟨rfl, -⟩
    · exact Nat.lt_succ_of_lt (h.catalog_birth hc)
    · exact Nat.lt_succ_self _

theorem Sound.addCatalog (h : w.Sound) (hfree : ∀ e ∈ c.slides.entries, w.Free e.2.number) :
    (w.addCatalog c).Sound := by
  refine h.of_new (fun o i => ∃ id, o = .built w.births id ∧ c.find id = .ok i) rfl ?_ ?_ ?_ ?_ ?_
  · rintro o i (⟨hc, hi⟩ | ⟨hi⟩)
    · rcases List.mem_cons.1 hc with heq | hc
      · cases heq
        exact .inl ⟨_, rfl, hi⟩
      · exact .inr (.catalog hc hi)
    · exact .inr (.held hi)
  · rintro o i ⟨id, rfl, -⟩
    rfl
  · rintro o i ⟨id, -, hi⟩
    exact hfree (id, i) (Catalog.mem_entries_of_find hi)
  · rintro o o' i i' ⟨id, rfl, hi⟩ ⟨id', rfl, hi'⟩ hnumber
    obtain ⟨rfl, rfl⟩ := Catalog.find_number_inj hi hi' hnumber
    exact ⟨rfl, rfl⟩
  · intro birth c' hc
    rcases List.mem_cons.1 hc with heq | hc
    · cases heq
      refine .inr ⟨rfl, ?_⟩
      rintro id i ⟨id', ho, hi⟩
      cases ho
      exact hi
    · exact .inl hc

theorem Sound.addSingle (h : w.Sound) {j : Instance} (hfree : w.Free j.number) :
    (w.addSingle j).Sound := by
  refine h.of_new (fun o i => o = .single w.births ∧ i = j) rfl ?_ ?_ ?_ ?_ .inl
  · rintro o i (⟨hc, hi⟩ | ⟨hi⟩)
    · exact .inr (.catalog hc hi)
    · rcases List.mem_cons.1 hi with heq | hi
      · cases heq
        exact .inl ⟨rfl, rfl⟩
      · exact .inr (.held hi)
  · rintro o i ⟨rfl, -⟩
    rfl
  · rintro o i ⟨-, rfl⟩
    exact hfree
  · rintro o o' i i' ⟨rfl, rfl⟩ ⟨rfl, rfl⟩ -
    exact ⟨rfl, rfl⟩

theorem Step.sound (h : Step w w') (hw : w.Sound) : w'.Sound := by
  cases h with
  | build deck hdeck hfree => exact hw.addCatalog hfree
  | single hfree => exact hw.addSingle hfree
  | clone hp =>
    exact hw.of_owners rfl (List.cons_subset.2 ⟨hp, List.Subset.refl _⟩) fun o i hi => .held hi
  | hold hi =>
    refine hw.of_owners rfl (List.Subset.refl _) ?_
    intro o i hmem
    rcases List.mem_cons.1 hmem with heq | hmem
    · cases heq
      exact hi
    · exact .held hmem
  | drop hcs his => exact hw.of_owners rfl hcs fun o i hmem => .held (his hmem)

theorem Reachable.sound (h : w.Reachable) : w.Sound := by
  induction h with
  | refl => exact sound_empty
  | tail _ hstep ih => exact hstep.sound ih

/-! ### What a catalog answers -/

/-- A catalog answers with an id exactly for the instance that was made for it. -/
theorem Sound.idOf_eq_ok_iff (h : w.Sound) {birth : Nat} (hc : (birth, c) ∈ w.catalogs)
    {o : Origin} {i : Instance} (hi : w.Live o i) {id : String} :
    c.idOf i = .ok id ↔ o = .built birth id := by
  rw [Catalog.idOf_eq_ok_iff]
  constructor
  · rintro ⟨here, hfind⟩
    exact (h.apart hi (.catalog hc hfind) rfl).1
  · rintro rfl
    exact ⟨i.slide, h.find hc hi⟩

theorem Sound.idOf_eq_error (h : w.Sound) {birth : Nat} (hc : (birth, c) ∈ w.catalogs)
    {o : Origin} {i : Instance} (hi : w.Live o i) (ho : ∀ id, o ≠ .built birth id) :
    c.idOf i = .error .unregisteredSlide := by
  rw [Catalog.idOf_eq_error_iff]
  intro id hid
  exact ho id ((h.idOf_eq_ok_iff hc hi).1 hid)

/-- In a world that has come about in any way, every deck can be built. A catalog finds the id of
the instance that it gives for an id, and so does every clone. For an instance that is alive,
whoever holds it, the catalog answers with an id if and only if the instance was made for that id
when the catalog was built. So a copy is not registered, however equal it is, and neither is an
instance of another catalog, of the same deck or not. The two maps that are filled together answer
the same. -/
theorem identity_rules (h : w.Reachable) :
    (∀ deck, ∃ first, Step w (w.addCatalog (.ofDeck first deck))) ∧
    ∀ birth c, (birth, c) ∈ w.catalogs →
      (∀ id ∈ c.ids, ∃ i, c.find id = .ok i ∧ c.slide id = .ok i.slide ∧
        ∀ c', (birth, c') ∈ w.catalogs → c'.find id = .ok i ∧ c'.idOf i = .ok id) ∧
      (∀ o i, w.Live o i → ∀ id, c.idOf i = .ok id ↔ o = .built birth id) ∧
      (∀ birth' i, w.Live (.single birth') i → c.idOf i = .error .unregisteredSlide) ∧
      (∀ birth' id i, w.Live (.built birth' id) i → birth' ≠ birth →
        c.idOf i = .error .unregisteredSlide) ∧
      (Registry.ofList c.slides.entries).slides = c.slides ∧
      ∀ i, (Registry.ofList c.slides.entries).idOf i = c.idOf i := by
  have hsound := h.sound
  constructor
  · intro deck
    refine ⟨w.numbers.sum + 1, .build deck (Catalog.entries_ofDeck _ deck) ?_⟩
    intro e he
    refine free_of_notMem ?_
    intro hmem
    exact absurd (List.le_sum_of_mem hmem) (Nat.not_le.2 (Catalog.first_le_number he))
  · intro birth c hc
    refine ⟨?_, ?_, ?_, ?_, c.registry_eq⟩
    · intro id hid
      obtain ⟨i, hi⟩ := Catalog.exists_find_of_mem_ids hid
      refine ⟨i, hi, by rw [Catalog.slide, hi, Except.map], ?_⟩
      intro c' hc'
      have hlive : w.Live (.built birth id) i := .catalog hc hi
      exact ⟨hsound.find hc' hlive, (hsound.idOf_eq_ok_iff hc' hlive).2 rfl⟩
    · intro o i hi id
      exact hsound.idOf_eq_ok_iff hc hi
    · intro birth' i hi
      refine hsound.idOf_eq_error hc hi ?_
      rintro id ⟨⟩
    · intro birth' id i hi hne
      refine hsound.idOf_eq_error hc hi ?_
      rintro k ⟨⟩
      exact hne rfl

/-- Two equal slides are built twice. The number of the first one is given again, while the second
one is still held, and there is a copy. -/
theorem identity_rules_again :
    let deck : Deck := .ofList [("one", {}), ("two", {})]
    let again : Catalog := ⟨⟨[("one", ⟨3, {}⟩), ("two", ⟨8, {}⟩)], by decide⟩, by decide⟩
    let w : World :=
      { births := 3, catalogs := [(1, again), (1, again)],
        held := [(.single 2, ⟨9, {}⟩), (.built 0 "two", ⟨4, {}⟩)] }
    w.Reachable ∧ again.entries = deck.entries ∧
      again.idOf ⟨3, {}⟩ = .ok "one" ∧ again.idOf ⟨8, {}⟩ = .ok "two" ∧
      again.idOf ⟨4, {}⟩ = .error .unregisteredSlide ∧
      again.idOf ⟨9, {}⟩ = .error .unregisteredSlide := by
  intro deck again w
  have hentries : again.entries = deck.entries := by decide
  let before : World := { births := 1, held := [(.built 0 "two", ⟨4, {}⟩)] }
  have hbuild : Step {} (addCatalog {} (.ofDeck 3 deck)) :=
    .build deck (Catalog.entries_ofDeck 3 deck) fun e he => free_of_notMem List.not_mem_nil
  have htwo : (Catalog.ofDeck 3 deck).find "two" = .ok ⟨4, {}⟩ := rfl
  have hbefore : before.Reachable :=
    ((Relation.ReflTransGen.single hbuild).tail (.hold (.catalog (.head _) htwo))).tail
      (.drop (List.nil_subset _) (List.Subset.refl _))
  have hfree : ∀ e ∈ again.slides.entries, e.2.number ∉ before.numbers := by decide
  have hw : w.Reachable :=
    ((hbefore.tail (.build deck hentries fun e he => free_of_notMem (hfree e he))).tail
      (.clone (.head _))).tail (.single (i := ⟨9, {}⟩) (free_of_notMem (by decide)))
  obtain ⟨-, hcatalogs⟩ := identity_rules hw
  obtain ⟨-, hids, hsingle, hother, -⟩ := hcatalogs 1 again (.head _)
  refine ⟨hw, hentries, ?_, ?_, ?_, ?_⟩
  · exact (hids (.built 1 "one") _ (.catalog (.head _) rfl) "one").2 rfl
  · exact (hids (.built 1 "two") _ (.catalog (.head _) rfl) "two").2 rfl
  · exact hother 0 "two" _ (.held (.tail _ (.head _))) (by decide)
  · exact hsingle 2 _ (.held (.head _))

end World

end SlideGraph
