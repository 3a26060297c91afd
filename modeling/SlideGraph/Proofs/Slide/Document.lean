import SlideGraph.Proofs.Collection.OrderedMap
import SlideGraph.Proofs.Json.Printer
import SlideGraph.Proofs.Slide.Grammar

/-!
# Decks as documents

A deck is read from its own document as what it was. A field that has nothing in it is left out of
the document or written as an empty container, and either way it is read as nothing again. The
slides and the buttons are written in their order, in which they are put back.
-/

namespace SlideGraph

open Json

theorem OrderedMap.spells_toValue {α : Type} {f : α → Value} {denote : Tree → Option α}
    (h : ∀ a, (f a).Spells denote a) (m : OrderedMap α) :
    (m.toValue f).Spells (OrderedMap.ofTree? denote) m := by
  obtain ⟨t, ht, hes⟩ := Value.spells_entries fun e (_ : e ∈ m.entries) => h e.2
  exact ⟨t, ht, by rw [OrderedMap.ofTree?, hes, Option.map_some, OrderedMap.ofList_entries]⟩

theorem Action.spells_listToValue (as : List Action) :
    (Action.listToValue as).Spells Action.listOfTree? as := by
  refine Value.spells_list fun a _ => ?_
  obtain ⟨t, ht, htokens⟩ := Value.spells_list fun x (_ : x ∈ a.tokens) => Value.spells_string x
  exact ⟨t, ht, by simp only [htokens, Option.map_some]⟩

theorem Button.spells_toValue (b : Button) : b.toValue.Spells ofTree? b := by
  obtain ⟨visible, hvisible, hshown⟩ :=
    Value.exists_optional rfl fun x (_ : x ∈ b.visible) => Value.spells_bool x
  obtain ⟨actions, hactions, hlist⟩ := Action.spells_listToValue b.actions
  let ts := [("Visible", visible), ("Actions", some actions)]
  have hnames : (ts.map Prod.fst).Nodup := show names.Nodup by decide
  have hfirst : field? "Visible" (Tree.optional? Tree.bool?) (present ts) =
      some (b.visible.map some) :=
    (field?_present hnames (.head _) _).trans hshown
  have hsecond : field? "Actions" Action.listOfTree? (present ts) = some (some b.actions) :=
    (field?_present hnames (.tail _ (.head _)) _).trans (by simp [hlist])
  refine Value.spells_members (.cons ⟨rfl, hvisible⟩ (.cons ⟨rfl, .some hactions⟩ .nil)) names
    (show ofMembers? (present ts) = some b from ?_)
  simp only [ofMembers?, hfirst, hsecond, Option.bind_eq_bind, Option.bind_some, getD_map_some,
    Option.getD_some]

theorem SlideKind.ofName_name (k : SlideKind) : ofName k.name = k := by
  cases k <;> rfl

theorem Slide.spells_toValue (s : Slide) : s.toValue.Spells ofTree? s := by
  have hname (k : SlideKind) :
      (Value.string k.name).Spells (Tree.name? fun w => some (.ofName w)) k :=
    .name (congrArg some k.ofName_name)
  obtain ⟨tag, htag, hkind⟩ :=
    Value.exists_optional rfl fun k (_ : k ∈ s.tag) => hname k
  obtain ⟨buttons, hbuttons, hmap⟩ := OrderedMap.spells_toValue Button.spells_toValue s.buttons
  obtain ⟨fallback, hfallback, hslide⟩ :=
    Value.exists_optional rfl fun x (_ : x ∈ s.fallback) => Value.spells_string x
  let ts := [("Type", tag), ("Buttons", some buttons), ("FallbackSlide", fallback)]
  have hnames : (ts.map Prod.fst).Nodup := show names.Nodup by decide
  have hfirst : field? "Type" kindOfTree? (present ts) = some (s.tag.map some) :=
    (field?_present hnames (.head _) _).trans hkind
  have hsecond : field? "Buttons" (OrderedMap.ofTree? Button.ofTree?) (present ts) =
      some (some s.buttons) :=
    (field?_present hnames (.tail _ (.head _)) _).trans (by simp [hmap])
  have hthird : field? "FallbackSlide" (Tree.optional? Tree.string?) (present ts) =
      some (s.fallback.map some) :=
    (field?_present hnames (.tail _ (.tail _ (.head _))) _).trans hslide
  refine Value.spells_members (.cons ⟨rfl, htag⟩ (.cons ⟨rfl, .some hbuttons⟩
    (.cons ⟨rfl, hfallback⟩ .nil))) names (show ofMembers? (present ts) = some s from ?_)
  simp only [ofMembers?, hfirst, hsecond, hthird, Option.bind_eq_bind, Option.bind_some,
    getD_map_some, Option.getD_some]

namespace Deck

theorem ofText_toValue (d : Deck) : ofText d.toValue.compact = .ok d :=
  (OrderedMap.spells_toValue Slide.spells_toValue d).document reads_reader

/-- A deck is read from its own document as the same deck, with its slides and their buttons in
the same order. So reading, writing and reading again is the same as reading, for a text that is
refused too, and writing, reading and writing again is the same as writing. -/
theorem ofText_compact :
    (∀ d : Deck, ofText d.toValue.compact = .ok d) ∧
      (∀ s, (ofText s).bind (fun d : Deck => ofText d.toValue.compact) = ofText s) ∧
      ∀ d : Deck, (ofText d.toValue.compact).map (fun d' : Deck => d'.toValue.compact) =
        .ok d.toValue.compact := by
  refine ⟨ofText_toValue, ?_, ?_⟩
  · intro s
    cases ofText s with
    | error fault => rfl
    | ok d => exact ofText_toValue d
  · intro d
    rw [ofText_toValue, Except.map]

end Deck

end SlideGraph
