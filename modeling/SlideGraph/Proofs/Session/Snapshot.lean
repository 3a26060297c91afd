import SlideGraph.Proofs.GameState.Document
import SlideGraph.Proofs.Json.Integer
import SlideGraph.Snapshot

/-!
# Snapshots as documents

A snapshot is read from its own text as what it was: the buttons in their order, the inventory, the
flags and the revision, as long as that one fits 64 bits. No field of a snapshot may be missing.
-/

namespace SlideGraph

open Json

/-! ### Buttons -/

namespace ButtonView

/-- The names of the fields, in the order of an array. -/
def names : List String := ["name", "visible"]

/-- The button that the members of a record are. -/
def ofMembers? (ms : List (String × Tree)) : Option ButtonView := do
  let name ← required? "name" Tree.string? ms
  let visible ← required? "visible" Tree.bool? ms
  some ⟨name, visible⟩

/-- The button that a value is. -/
def ofTree? (v : Tree) : Option ButtonView := (v.members? names).bind ofMembers?

def slots : List (Slot Draft) := [
  ⟨"name", Draft.name, fun x d => { d with name := some x }, .string, Tree.string?, reads_string⟩,
  ⟨"visible", Draft.visible, fun x d => { d with visible := some x }, .bool, Tree.bool?,
    reads_bool⟩]

theorem lawful_slots : Slot.Lawful slots {} where
  names := by decide
  blank := by simp [slots]
  get_set := by simp [slots]
  get_set_ne := by simp [slots]
  ext := by
    rintro ⟨_, _⟩ ⟨_, _⟩
    simp [slots]

/-- The button that a draft becomes. -/
def ofDraft? (d : Draft) : Option ButtonView := do some ⟨← d.name, ← d.visible⟩

theorem fields_iff (ms : List (String × Tree)) (b : ButtonView) :
    (∃ d, (∀ s ∈ slots, field? s.name s.denote ms = some (s.get d)) ∧ ofDraft? d = some b) ↔
      ofMembers? ms = some b := by
  simp only [ofMembers?, ofDraft?, Option.bind_eq_bind, Option.bind_eq_some_iff,
    required?_eq_some_iff]
  constructor
  · rintro ⟨⟨_, _⟩, hfields, name, rfl, visible, rfl, hb⟩
    exact ⟨name, hfields _ (.head _), visible, hfields _ (.tail _ (.head _)), hb⟩
  · rintro ⟨name, hname, visible, hvisible, hb⟩
    refine ⟨⟨name, visible⟩, ?_, name, rfl, visible, rfl, hb⟩
    simp [slots, hname, hvisible]

theorem reads_reader : Reads reader.read Tree.tokens ofTree? :=
  lawful_slots.reads_members fields_iff

theorem spells_toValue (b : ButtonView) : b.toValue.Spells ofTree? b := by
  obtain ⟨name, hname, hs⟩ := Value.spells_string b.name
  obtain ⟨visible, hvisible, hb⟩ := Value.spells_bool b.visible
  have hms : ofMembers? [("name", name), ("visible", visible)] = some b := by
    simp [ofMembers?, required?, field?, hs, hb]
  exact Value.spells_record (.cons ⟨rfl, hname⟩ (.cons ⟨rfl, hvisible⟩ .nil)) names hms

end ButtonView

/-! ### Snapshots -/

namespace Snapshot

/-- The names of the fields, in the order of an array. -/
def names : List String := ["slide_id", "minigame", "buttons", "inventory", "flags", "revision"]

/-- The snapshot that the members of a record are. -/
def ofMembers? (ms : List (String × Tree)) : Option Snapshot := do
  let slide ← required? "slide_id" Tree.string? ms
  let minigame ← required? "minigame" Tree.bool? ms
  let buttons ← required? "buttons" (Tree.list? ButtonView.ofTree?) ms
  let inventory ← required? "inventory" (Tree.list? Tree.string?) ms
  let flags ← required? "flags" (KeyMap.ofTree? Tree.bool?) ms
  let revision ← required? "revision" (Tree.natural? UInt64.size) ms
  some ⟨slide, minigame, buttons, inventory, flags, revision⟩

/-- The snapshot that a value is. -/
def ofTree? (v : Tree) : Option Snapshot := (v.members? names).bind ofMembers?

def slots : List (Slot Draft) := [
  ⟨"slide_id", Draft.slide, fun x d => { d with slide := some x }, .string, Tree.string?,
    reads_string⟩,
  ⟨"minigame", Draft.minigame, fun x d => { d with minigame := some x }, .bool, Tree.bool?,
    reads_bool⟩,
  ⟨"buttons", Draft.buttons, fun x d => { d with buttons := some x }, .list ButtonView.reader,
    Tree.list? ButtonView.ofTree?, ButtonView.reads_reader.list⟩,
  ⟨"inventory", Draft.inventory, fun x d => { d with inventory := some x }, .list .string,
    Tree.list? Tree.string?, reads_string.list⟩,
  ⟨"flags", Draft.flags, fun x d => { d with flags := some x }, KeyMap.reader .bool,
    KeyMap.ofTree? Tree.bool?, KeyMap.reads_reader reads_bool⟩,
  ⟨"revision", Draft.revision, fun x d => { d with revision := some x }, .count,
    Tree.natural? UInt64.size, reads_count⟩]

theorem lawful_slots : Slot.Lawful slots {} where
  names := by decide
  blank := by simp [slots]
  get_set := by simp [slots]
  get_set_ne := by simp [slots]
  ext := by
    rintro ⟨_, _, _, _, _, _⟩ ⟨_, _, _, _, _, _⟩
    simp [slots]

/-- The snapshot that a draft becomes. -/
def ofDraft? (d : Draft) : Option Snapshot := do
  some ⟨← d.slide, ← d.minigame, ← d.buttons, ← d.inventory, ← d.flags, ← d.revision⟩

theorem fields_iff (ms : List (String × Tree)) (x : Snapshot) :
    (∃ d, (∀ s ∈ slots, field? s.name s.denote ms = some (s.get d)) ∧ ofDraft? d = some x) ↔
      ofMembers? ms = some x := by
  simp only [ofMembers?, ofDraft?, Option.bind_eq_bind, Option.bind_eq_some_iff,
    required?_eq_some_iff]
  constructor
  · rintro ⟨⟨_, _, _, _, _, _⟩, hfields, slide, rfl, minigame, rfl, buttons, rfl, inventory, rfl,
      flags, rfl, revision, rfl, hx⟩
    simp only [slots, List.forall_mem_cons] at hfields
    obtain ⟨hslide, hminigame, hbuttons, hinventory, hflags, hrevision, -⟩ := hfields
    exact ⟨slide, hslide, minigame, hminigame, buttons, hbuttons, inventory, hinventory, flags,
      hflags, revision, hrevision, hx⟩
  · rintro ⟨slide, hslide, minigame, hminigame, buttons, hbuttons, inventory, hinventory, flags,
      hflags, revision, hrevision, hx⟩
    refine ⟨⟨slide, minigame, buttons, inventory, flags, revision⟩, ?_, slide, rfl, minigame, rfl,
      buttons, rfl, inventory, rfl, flags, rfl, revision, rfl, hx⟩
    simp [slots, hslide, hminigame, hbuttons, hinventory, hflags, hrevision]

theorem reads_reader : Reads reader.read Tree.tokens ofTree? :=
  lawful_slots.reads_members fields_iff

theorem spells_toValue {x : Snapshot} (h : x.revision < UInt64.size) :
    x.toValue.Spells ofTree? x := by
  obtain ⟨slide, hslide, hs⟩ := Value.spells_string x.slide
  obtain ⟨minigame, hminigame, hm⟩ := Value.spells_bool x.minigame
  obtain ⟨buttons, hbuttons, hb⟩ :=
    Value.spells_list fun b (_ : b ∈ x.buttons) => ButtonView.spells_toValue b
  obtain ⟨inventory, hinventory, hi⟩ :=
    Value.spells_list fun y (_ : y ∈ x.inventory) => Value.spells_string y
  obtain ⟨flags, hflags, hf⟩ := KeyMap.spells_toValue Value.spells_bool x.flags
  obtain ⟨revision, hrevision, hr⟩ := Value.spells_nat h
  have hms : ofMembers? [("slide_id", slide), ("minigame", minigame), ("buttons", buttons),
      ("inventory", inventory), ("flags", flags), ("revision", revision)] = some x := by
    simp [ofMembers?, required?, field?, hs, hm, hb, hi, hf, hr]
  exact Value.spells_record (.cons ⟨rfl, hslide⟩ (.cons ⟨rfl, hminigame⟩ (.cons ⟨rfl, hbuttons⟩
    (.cons ⟨rfl, hinventory⟩ (.cons ⟨rfl, hflags⟩ (.cons ⟨rfl, hrevision⟩ .nil)))))) names hms

/-- A snapshot whose revision fits 64 bits is read from its own document. -/
theorem document_toValue {x : Snapshot} (h : x.revision < UInt64.size) :
    reader.document x.toValue.compact.toList = .ok x :=
  (spells_toValue h).document reads_reader

end Snapshot

end SlideGraph
