import SlideGraph.Proofs.Catalog.Issues
import SlideGraph.Proofs.Slide.Document

/-!
# Slides in the order of their source

A source may have a slide id more than once, and a slide a button name. Whether the slides come from
a list or from the members of a JSON object, each id stands where it comes first, with the slide it
comes with last, and so it is in the catalog: the game begins with the first slide of the source.
-/

namespace SlideGraph

open Json

/-! ### Members of objects -/

theorem OrderedMap.ofTree?_of_entries? {α : Type} {denote : Tree → Option α} {v : Tree}
    {es : List (String × α)} (h : v.entries? denote = some es) :
    ofTree? denote v = some (ofList es) := by
  rw [ofTree?, h, Option.map_some]

theorem Deck.ofText_of_entries? {text : String} {v : Tree} {es : List (String × Slide)}
    (hv : v.IsDocument text.toList) (hes : v.entries? Slide.ofTree? = some es) :
    Deck.ofText text = .ok (.ofList es) :=
  Deck.reads_reader.document_eq_ok_iff.2 ⟨v, hv, OrderedMap.ofTree?_of_entries? hes⟩

/-- The document of slides whose ids may be repeated. -/
def Slide.pairsToValue (es : List (String × Slide)) : Value :=
  .object (es.map fun (id, here) => (id, here.toValue))

theorem Slide.spells_pairsToValue (es : List (String × Slide)) :
    (Slide.pairsToValue es).Spells (Tree.entries? Slide.ofTree?) es :=
  Value.spells_entries fun e _ => Slide.spells_toValue e.2

/-- The buttons of a slide are the members of the object that its record has for them. -/
theorem Slide.buttons_of_entries? {v b : Tree} {here : Slide} {ms : List (String × Tree)}
    {bs : List (String × Button)} (hhere : Slide.ofTree? v = some here)
    (hms : v.members? Slide.names = some ms) (hb : ("Buttons", b) ∈ ms)
    (hbs : b.entries? Button.ofTree? = some bs) : here.buttons = .ofList bs := by
  rw [ofTree?, hms, Option.bind_some] at hhere
  simp only [ofMembers?, Option.bind_eq_bind, Option.bind_eq_some_iff] at hhere
  obtain ⟨tag, -, buttons, hbuttons, fallback, -, hsome⟩ := hhere
  obtain ⟨m, hm, rfl⟩ := exists_of_field? hbuttons hb
  rw [OrderedMap.ofTree?_of_entries? hbs] at hm
  cases hm
  cases hsome
  rfl

namespace Catalog

/-! ### The catalog -/

theorem slide_ofDeck_iff {first : Nat} {deck : Deck} {id : String} {here : Slide} :
    (ofDeck first deck).slide id = .ok here ↔ deck.get? id = some here := by
  have hentries : (id, here) ∈ (ofDeck first deck).entries ↔ deck.get? id = some here := by
    rw [entries_ofDeck, OrderedMap.mem_entries_iff]
  exact ⟨fun h => hentries.1 (mem_entries_of_slide h), fun h => slide_of_mem_entries (hentries.2 h)⟩

/-- A catalog has the slides of a list in the order of the list, and whatever is asked of it is
answered by the list: the last slide of an id counts, and the first id is where a game begins. -/
structure InSourceOrder (c : Catalog) (es : List (String × Slide)) : Prop where
  ids : c.ids = (es.map Prod.fst).eraseDups
  entries_ids : c.entries.map Prod.fst = c.ids
  mem_entries : ∀ id here, (id, here) ∈ c.entries ↔ c.slide id = .ok here
  size : c.size = c.ids.length
  slide : ∀ before id here after, es = before ++ (id, here) :: after → id ∉ after.map Prod.fst →
    c.slide id = .ok here
  missing : ∀ id e, c.slide id = .error e ↔ e = .slideNotFound id ∧ id ∉ es.map Prod.fst
  start : ∀ id here rest, es = (id, here) :: rest → c.start = .ok id
  empty : c.start = .error .emptyCatalog ↔ es = []

theorem inSourceOrder_ofDeck (first : Nat) (es : List (String × Slide)) :
    (ofDeck first (.ofList es)).InSourceOrder es where
  ids := by rw [ids_ofDeck, OrderedMap.keys_ofList]
  entries_ids := map_fst_entries _
  mem_entries id here := ⟨slide_of_mem_entries, mem_entries_of_slide⟩
  size := (List.length_map Prod.fst).symm
  slide before id here after hes hlast := by
    rw [slide_ofDeck_iff]
    exact (OrderedMap.inSourceOrder_ofList es).get? before id here after hes hlast
  missing id e := by
    rw [slide_eq_error_iff, ← Bool.not_eq_true, contains_iff_mem_ids, ids_ofDeck,
      OrderedMap.keys_ofList, List.mem_eraseDups]
  start id here rest hes := by
    rw [Catalog.start, ids_ofDeck, OrderedMap.keys_ofList, hes, List.map_cons,
      List.eraseDups_cons]
  empty := by
    rw [Catalog.start, ids_ofDeck, OrderedMap.keys_ofList]
    cases es with
    | nil => simp
    | cons e es => simp [List.eraseDups_cons]

/-- From slides whose ids may be repeated, one deck is made, whether they are given as a list or as
the members of an object in a text that is written in any way. There is one map in which each id
stands once, where it comes first, with the slide that it comes with last, and the deck is that map.
The catalog follows it, whatever numbers the instances have. The buttons of a slide follow the
members for them in the same way. -/
theorem source_order_rules (es : List (String × Slide)) :
    (∀ (text : String) (v : Tree), v.IsDocument text.toList →
      v.entries? Slide.ofTree? = some es → Deck.ofText text = .ok (.ofList es)) ∧
    Deck.ofText (Slide.pairsToValue es).compact = .ok (.ofList es) ∧
    (∀ deck : Deck, deck.InSourceOrder es ↔ deck = .ofList es) ∧
    (∀ first, (ofDeck first (.ofList es)).InSourceOrder es) ∧
    (∀ (v b : Tree) (here : Slide) (ms : List (String × Tree)) (bs : List (String × Button)),
      Slide.ofTree? v = some here → v.members? Slide.names = some ms → ("Buttons", b) ∈ ms →
        b.entries? Button.ofTree? = some bs →
          here.buttons = .ofList bs ∧ here.buttons.InSourceOrder bs) := by
  refine ⟨fun text v => Deck.ofText_of_entries?, ?_, ?_, fun first => inSourceOrder_ofDeck first es,
    ?_⟩
  · obtain ⟨v, hv, hes⟩ := (Slide.spells_pairsToValue es).exists_isDocument
    exact Deck.ofText_of_entries? hv hes
  · intro deck
    constructor
    · intro h
      exact h.eq (OrderedMap.inSourceOrder_ofList es)
    · rintro rfl
      exact OrderedMap.inSourceOrder_ofList es
  · intro v b here ms bs hhere hms hb hbs
    rw [Slide.buttons_of_entries? hhere hms hb hbs]
    exact ⟨rfl, OrderedMap.inSourceOrder_ofList bs⟩

/-- The second hall counts, in the place of the first, and so does the second door of a slide. -/
theorem source_order_rules_hall :
    let es : List (String × Slide) :=
      [("hall", {}), ("attic", {}), ("hall", { tag := some .minigame, fallback := some "attic" })]
    let bs : List (String × Button) :=
      [("door", {}), ("lamp", {}), ("door", { visible := some false })]
    (∃ (text : String) (v : Tree), v.IsDocument text.toList ∧
      v.entries? Slide.ofTree? = some es ∧ Deck.ofText text = .ok (.ofList es)) ∧
    (ofDeck 7 (.ofList es)).ids = ["hall", "attic"] ∧
    (ofDeck 7 (.ofList es)).slide "hall" =
      .ok { tag := some .minigame, fallback := some "attic" } ∧
    (ofDeck 7 (.ofList es)).start = .ok "hall" ∧
    ∃ (v b : Tree) (here : Slide) (ms : List (String × Tree)), Slide.ofTree? v = some here ∧
      v.members? Slide.names = some ms ∧ ("Buttons", b) ∈ ms ∧
      b.entries? Button.ofTree? = some bs ∧ here.buttons.keys = ["door", "lamp"] ∧
      here.buttons.get? "door" = some { visible := some false } := by
  intro es bs
  obtain ⟨hread, -, -, hcatalog, hbuttons⟩ := source_order_rules es
  obtain ⟨v, hv, hes⟩ := (Slide.spells_pairsToValue es).exists_isDocument
  obtain ⟨b, -, hbs⟩ := Value.spells_entries fun e (_ : e ∈ bs) => Button.spells_toValue e.2
  obtain ⟨l, -, hl⟩ := Literal.exists_quote "Buttons"
  have hms : (Tree.object [(l, b)]).members? Slide.names = some [("Buttons", b)] := by
    simp [Tree.members?, hl]
  have hhere : Slide.ofTree? (.object [(l, b)]) = some { buttons := .ofList bs } := by
    simp [Slide.ofTree?, Slide.ofMembers?, hms, field?, OrderedMap.ofTree?_of_entries? hbs]
  obtain ⟨-, hbuttons⟩ := hbuttons _ b _ _ bs hhere hms (.head _) hbs
  refine ⟨⟨_, v, hv, hes, hread _ v hv hes⟩, (hcatalog 7).ids, ?_, ?_,
    _, b, _, _, hhere, hms, .head _, hbs, hbuttons.keys, ?_⟩
  · exact (hcatalog 7).slide (es.take 2) _ _ [] rfl (by decide)
  · exact (hcatalog 7).start _ _ _ rfl
  · exact hbuttons.get? (bs.take 2) _ _ [] rfl (by decide)

end Catalog

end SlideGraph
