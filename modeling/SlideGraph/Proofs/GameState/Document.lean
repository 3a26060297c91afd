import SlideGraph.GameState.Document
import SlideGraph.Proofs.Collection.KeyMap
import SlideGraph.Proofs.Json.Printer

/-!
# Game states as documents

The document of a game state is read as the same state again: the items and the flags are written
in the order of their keys, and every string and truth value is read as what it was.
-/

namespace SlideGraph

open Json

/-! ### Sorted maps -/

/-- The map that an object is. The last value of a key counts. -/
def KeyMap.ofTree? {α : Type} (denote : Tree → Option α) (v : Tree) : Option (KeyMap α) :=
  (v.entries? denote).map KeyMap.ofList

theorem KeyMap.reads_reader {α : Type} {r : Reader α} {denote : Tree → Option α}
    (h : Reads r.read Tree.tokens denote) :
    Reads (KeyMap.reader r).read Tree.tokens (KeyMap.ofTree? denote) :=
  h.entries

theorem KeyMap.spells_toValue {α : Type} {f : α → Value} {denote : Tree → Option α}
    (h : ∀ a, (f a).Spells denote a) (m : KeyMap α) :
    (m.toValue f).Spells (KeyMap.ofTree? denote) m := by
  obtain ⟨t, ht, hes⟩ := Value.spells_entries fun e (_ : e ∈ m.entries) => h e.2
  exact ⟨t, ht, by rw [KeyMap.ofTree?, hes, Option.map_some, KeyMap.ofList_entries]⟩

/-! ### Game states -/

namespace GameState

/-- The names of the fields, in the order of an array. -/
def names : List String := ["inventory", "visibility"]

/-- The game state that the members of a record are. -/
def ofMembers? (ms : List (String × Tree)) : Option GameState := do
  let inventory ← field? "inventory" (Tree.list? Tree.string?) ms
  let flags ← field? "visibility" (KeyMap.ofTree? Tree.bool?) ms
  some ⟨.ofList (inventory.getD []), flags.getD .empty⟩

/-- The game state that a value is. -/
def ofTree? (v : Tree) : Option GameState := (v.members? names).bind ofMembers?

def slots : List (Slot Draft) := [
  ⟨"inventory", Draft.inventory, fun x d => { d with inventory := some x }, .list .string,
    Tree.list? Tree.string?, reads_string.list⟩,
  ⟨"visibility", Draft.flags, fun x d => { d with flags := some x }, KeyMap.reader .bool,
    KeyMap.ofTree? Tree.bool?, KeyMap.reads_reader reads_bool⟩]

theorem lawful_slots : Slot.Lawful slots {} where
  names := by decide
  blank := by simp [slots]
  get_set := by simp [slots]
  get_set_ne := by simp [slots]
  ext := by
    rintro ⟨_, _⟩ ⟨_, _⟩
    simp [slots]

/-- The game state that a draft becomes. -/
def ofDraft (d : Draft) : GameState := ⟨.ofList (d.inventory.getD []), d.flags.getD .empty⟩

theorem fields_iff (ms : List (String × Tree)) (state : GameState) :
    (∃ d, (∀ s ∈ slots, field? s.name s.denote ms = some (s.get d)) ∧
      some (ofDraft d) = some state) ↔ ofMembers? ms = some state := by
  simp only [ofMembers?, Option.bind_eq_bind, Option.bind_eq_some_iff]
  constructor
  · rintro ⟨⟨inventory, flags⟩, hfields, hs⟩
    exact ⟨inventory, hfields _ (.head _), flags, hfields _ (.tail _ (.head _)), hs⟩
  · rintro ⟨inventory, hinventory, flags, hflags, hs⟩
    refine ⟨⟨inventory, flags⟩, ?_, hs⟩
    simp [slots, hinventory, hflags]

theorem reads_reader : Reads reader.read Tree.tokens ofTree? :=
  lawful_slots.reads_members fields_iff

theorem spells_toValue (s : GameState) : s.toValue.Spells ofTree? s := by
  obtain ⟨inventory, hinventory, hitems⟩ :=
    Value.spells_list fun x (_ : x ∈ s.items) => Value.spells_string x
  obtain ⟨flags, hflags, hmap⟩ := KeyMap.spells_toValue Value.spells_bool s.flags
  have hms : ofMembers? [("inventory", inventory), ("visibility", flags)] = some s := by
    simp [ofMembers?, field?, hitems, hmap, items, KeySet.ofList_keys]
  exact Value.spells_record (.cons ⟨rfl, hinventory⟩ (.cons ⟨rfl, hflags⟩ .nil)) names hms

/-- A game state is read from its own document. -/
theorem document_toValue (s : GameState) :
    reader.document s.toValue.compact.toList = .ok s :=
  s.spells_toValue.document reads_reader

end GameState

end SlideGraph
