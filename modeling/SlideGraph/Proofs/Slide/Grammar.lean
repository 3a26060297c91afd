import SlideGraph.Proofs.Json.Reader.Record
import SlideGraph.Slide.Document

/-!
# The grammar of decks

What a JSON tree has to look like to be a deck, and which deck it is. The reader of decks goes
through its text once and stops at the first fault; here a deck, a slide and a button are read off
whole trees. A text is read as a deck if and only if it is a document of a tree that is one.
-/

namespace SlideGraph

open Json

/-! ### Actions -/

/-- The list of actions that a value is: lists of strings. -/
def Action.listOfTree? : Tree → Option (List Action) :=
  Tree.list? fun v => (v.list? Tree.string?).map Action.mk

theorem Action.reads_listReader :
    Reads Action.listReader.read Tree.tokens Action.listOfTree? :=
  (reads_string.list.map Action.mk).list

/-! ### Maps -/

/-- The map that an object is. A key stands where it comes first, with the value it comes with
last. -/
def OrderedMap.ofTree? {α : Type} (denote : Tree → Option α) (v : Tree) : Option (OrderedMap α) :=
  (v.entries? denote).map OrderedMap.ofList

theorem OrderedMap.reads_reader {α : Type} {r : Reader α} {denote : Tree → Option α}
    (h : Reads r.read Tree.tokens denote) :
    Reads (OrderedMap.reader r).read Tree.tokens (OrderedMap.ofTree? denote) :=
  h.entries

/-! ### Buttons -/

namespace Button

/-- The names of the fields, in the order of an array. -/
def names : List String := ["Visible", "Actions"]

/-- The button that the members of a record are. -/
def ofMembers? (ms : List (String × Tree)) : Option Button := do
  let visible ← field? "Visible" (Tree.optional? Tree.bool?) ms
  let actions ← field? "Actions" Action.listOfTree? ms
  some ⟨visible.getD none, actions.getD []⟩

/-- The button that a value is. -/
def ofTree? (v : Tree) : Option Button := (v.members? names).bind ofMembers?

def slots : List (Slot Draft) := [
  ⟨"Visible", Draft.visible, fun x d => { d with visible := some x }, .optional .bool,
    Tree.optional? Tree.bool?, reads_bool.optional⟩,
  ⟨"Actions", Draft.actions, fun x d => { d with actions := some x }, Action.listReader,
    Action.listOfTree?, Action.reads_listReader⟩]

theorem lawful_slots : Slot.Lawful slots {} where
  names := by decide
  blank := by simp [slots]
  get_set := by simp [slots]
  get_set_ne := by simp [slots]
  ext := by
    rintro ⟨_, _⟩ ⟨_, _⟩
    simp [slots]

/-- The button that a draft becomes. -/
def ofDraft (d : Draft) : Button := ⟨d.visible.getD none, d.actions.getD []⟩

theorem fields_iff (ms : List (String × Tree)) (b : Button) :
    (∃ d, (∀ s ∈ slots, field? s.name s.denote ms = some (s.get d)) ∧
      some (ofDraft d) = some b) ↔ ofMembers? ms = some b := by
  simp only [ofMembers?, Option.bind_eq_bind, Option.bind_eq_some_iff]
  constructor
  · rintro ⟨⟨visible, actions⟩, hfields, hb⟩
    exact ⟨visible, hfields _ (.head _), actions, hfields _ (.tail _ (.head _)), hb⟩
  · rintro ⟨visible, hvisible, actions, hactions, hb⟩
    refine ⟨⟨visible, actions⟩, ?_, hb⟩
    simp [slots, hvisible, hactions]

theorem reads_reader : Reads reader.read Tree.tokens ofTree? :=
  lawful_slots.reads_members fields_iff

end Button

/-! ### Slides -/

namespace Slide

/-- The names of the fields, in the order of an array. -/
def names : List String := ["Type", "Buttons", "FallbackSlide"]

/-- The kind that a value is. -/
def kindOfTree? : Tree → Option (Option SlideKind) :=
  Tree.optional? (Tree.name? fun s => some (.ofName s))

/-- The slide that the members of a record are. -/
def ofMembers? (ms : List (String × Tree)) : Option Slide := do
  let tag ← field? "Type" kindOfTree? ms
  let buttons ← field? "Buttons" (OrderedMap.ofTree? Button.ofTree?) ms
  let fallback ← field? "FallbackSlide" (Tree.optional? Tree.string?) ms
  some ⟨tag.getD none, buttons.getD .empty, fallback.getD none⟩

/-- The slide that a value is. -/
def ofTree? (v : Tree) : Option Slide := (v.members? names).bind ofMembers?

def slots : List (Slot Draft) := [
  ⟨"Type", Draft.tag, fun x d => { d with tag := some x },
    .optional (.name fun s => some (.ofName s)), kindOfTree?, (reads_name _).optional⟩,
  ⟨"Buttons", Draft.buttons, fun x d => { d with buttons := some x },
    OrderedMap.reader Button.reader, OrderedMap.ofTree? Button.ofTree?,
    OrderedMap.reads_reader Button.reads_reader⟩,
  ⟨"FallbackSlide", Draft.fallback, fun x d => { d with fallback := some x },
    .optional .string, Tree.optional? Tree.string?, reads_string.optional⟩]

theorem lawful_slots : Slot.Lawful slots {} where
  names := by decide
  blank := by simp [slots]
  get_set := by simp [slots]
  get_set_ne := by simp [slots]
  ext := by
    rintro ⟨_, _, _⟩ ⟨_, _, _⟩
    simp [slots]

/-- The slide that a draft becomes. -/
def ofDraft (d : Draft) : Slide :=
  ⟨d.tag.getD none, d.buttons.getD .empty, d.fallback.getD none⟩

theorem fields_iff (ms : List (String × Tree)) (here : Slide) :
    (∃ d, (∀ s ∈ slots, field? s.name s.denote ms = some (s.get d)) ∧
      some (ofDraft d) = some here) ↔ ofMembers? ms = some here := by
  simp only [ofMembers?, Option.bind_eq_bind, Option.bind_eq_some_iff]
  constructor
  · rintro ⟨⟨tag, buttons, fallback⟩, hfields, hs⟩
    exact ⟨tag, hfields _ (.head _), buttons, hfields _ (.tail _ (.head _)), fallback,
      hfields _ (.tail _ (.tail _ (.head _))), hs⟩
  · rintro ⟨tag, htag, buttons, hbuttons, fallback, hfallback, hs⟩
    refine ⟨⟨tag, buttons, fallback⟩, ?_, hs⟩
    simp [slots, htag, hbuttons, hfallback]

theorem reads_reader : Reads reader.read Tree.tokens ofTree? :=
  lawful_slots.reads_members fields_iff

end Slide

/-! ### Decks -/

namespace Deck

/-- The deck that a value is. -/
def ofTree? : Tree → Option Deck := OrderedMap.ofTree? Slide.ofTree?

theorem reads_reader : Reads reader.read Tree.tokens ofTree? :=
  OrderedMap.reads_reader Slide.reads_reader

/-- A text is read as a deck exactly where it is a document of a tree that is one, and the deck
is that of the tree. In a record of the tree the order of the fields does not matter, and neither
do members with other names. -/
theorem ofText_grammar :
    (∀ s d, ofText s = .ok d ↔ ∃ v : Tree, v.IsDocument s.toList ∧ ofTree? v = some d) ∧
      (∀ ms, Slide.ofMembers? (known Slide.names ms) = Slide.ofMembers? ms) ∧
      ∀ ms, Button.ofMembers? (known Button.names ms) = Button.ofMembers? ms := by
  refine ⟨fun s d => reads_reader.document_eq_ok_iff, ?_, ?_⟩
  · intro ms
    have hnames : Slide.names.Nodup := by decide
    rw [Slide.ofMembers?, Slide.ofMembers?]
    simp only [field?_known hnames (show "Type" ∈ Slide.names by decide),
      field?_known hnames (show "Buttons" ∈ Slide.names by decide),
      field?_known hnames (show "FallbackSlide" ∈ Slide.names by decide)]
  · intro ms
    have hnames : Button.names.Nodup := by decide
    rw [Button.ofMembers?, Button.ofMembers?]
    simp only [field?_known hnames (show "Visible" ∈ Button.names by decide),
      field?_known hnames (show "Actions" ∈ Button.names by decide)]

end Deck

end SlideGraph
