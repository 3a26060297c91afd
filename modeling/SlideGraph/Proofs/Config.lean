import SlideGraph.Config
import SlideGraph.Proofs.Json.Integer
import SlideGraph.Proofs.Json.Reader.Record

/-!
# Settings as documents

Settings are read from their own text as what they were, whatever the delay is. A setting that a
document leaves out has its default.
-/

namespace SlideGraph

open Json

theorem NestedSkip.ofName?_name (mode : NestedSkip) : ofName? mode.name = some mode := by
  cases mode <;> rfl

namespace Config

/-- The names of the fields, in the order of an array. -/
def names : List String := ["nested_skip", "pointer_move_delay_ms"]

/-- The number of milliseconds that a value is. -/
def milliseconds? (v : Tree) : Option UInt64 := (v.natural? UInt64.size).map UInt64.ofNat

/-- The settings that the members of a record are. -/
def ofMembers? (ms : List (String × Tree)) : Option Config := do
  let nestedSkip ← field? "nested_skip" (Tree.name? NestedSkip.ofName?) ms
  let pointerMoveDelay ← field? "pointer_move_delay_ms" milliseconds? ms
  some ⟨nestedSkip.getD .labelMatch, pointerMoveDelay.getD 100⟩

/-- The settings that a value is. -/
def ofTree? (v : Tree) : Option Config := (v.members? names).bind ofMembers?

def slots : List (Slot Draft) := [
  ⟨"nested_skip", Draft.nestedSkip, fun x d => { d with nestedSkip := some x },
    .name NestedSkip.ofName?, Tree.name? NestedSkip.ofName?, reads_name NestedSkip.ofName?⟩,
  ⟨"pointer_move_delay_ms", Draft.pointerMoveDelay,
    fun x d => { d with pointerMoveDelay := some x }, Reader.count.map UInt64.ofNat,
    milliseconds?, reads_count.map UInt64.ofNat⟩]

theorem lawful_slots : Slot.Lawful slots {} where
  names := by decide
  blank := by simp [slots]
  get_set := by simp [slots]
  get_set_ne := by simp [slots]
  ext := by
    rintro ⟨_, _⟩ ⟨_, _⟩
    simp [slots]

/-- The settings that a draft becomes. -/
def ofDraft (d : Draft) : Config := ⟨d.nestedSkip.getD .labelMatch, d.pointerMoveDelay.getD 100⟩

theorem fields_iff (ms : List (String × Tree)) (c : Config) :
    (∃ d, (∀ s ∈ slots, field? s.name s.denote ms = some (s.get d)) ∧
      some (ofDraft d) = some c) ↔ ofMembers? ms = some c := by
  simp only [ofMembers?, Option.bind_eq_bind, Option.bind_eq_some_iff]
  constructor
  · rintro ⟨⟨nestedSkip, pointerMoveDelay⟩, hfields, hc⟩
    exact ⟨nestedSkip, hfields _ (.head _), pointerMoveDelay, hfields _ (.tail _ (.head _)), hc⟩
  · rintro ⟨nestedSkip, hnested, pointerMoveDelay, hdelay, hc⟩
    refine ⟨⟨nestedSkip, pointerMoveDelay⟩, ?_, hc⟩
    simp [slots, hnested, hdelay]

theorem reads_reader : Reads reader.read Tree.tokens ofTree? :=
  lawful_slots.reads_members fields_iff

theorem spells_toValue (c : Config) : c.toValue.Spells ofTree? c := by
  obtain ⟨nestedSkip, hnested, hn⟩ := Value.Spells.name c.nestedSkip.ofName?_name
  obtain ⟨delay, hdelay, hd⟩ := Value.spells_nat c.pointerMoveDelay.toNat_lt
  have hms : ofMembers? [("nested_skip", nestedSkip), ("pointer_move_delay_ms", delay)] =
      some c := by
    simp [ofMembers?, milliseconds?, field?, hn, hd]
  exact Value.spells_record (.cons ⟨rfl, hnested⟩ (.cons ⟨rfl, hdelay⟩ .nil)) names hms

/-- Settings are read from their own document. -/
theorem ofText_toValue (c : Config) : ofText c.toValue.compact = .ok c :=
  c.spells_toValue.document reads_reader

end Config

end SlideGraph
