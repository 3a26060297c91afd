import Mathlib.Data.Option.Basic
import SlideGraph.Playthrough.Script
import SlideGraph.Proofs.Collection.KeyMap
import SlideGraph.Proofs.Json.Whole

/-!
# Scripts as documents

A script is taken from the value of its document as what it was, field by field, and so are scripts
in a list. A list of scripts is no script, and a script is no list, so whether a document holds one
script or several is seen from its shape.
-/

namespace SlideGraph

open Json

/-! ### Lists and maps -/

namespace Json.Value

theorem list?_array {α : Type} {f : Value → Option α} {g : α → Value}
    (h : ∀ a, f (g a) = some a) (as : List α) : (array (as.map g)).list? f = some as := by
  rw [list?]
  induction as with
  | nil => rfl
  | cons a as ih => simp [h a, ih]

theorem list?_strings (xs : List String) : (strings xs).list? string? = some xs :=
  list?_array (g := string) (fun _ => rfl) xs

end Json.Value

theorem Action.listOfValue?_listToValue (as : List Action) :
    listOfValue? (listToValue as) = some as := by
  apply Value.list?_array
  intro a
  rw [toValue, Value.list?_strings, Option.map_some]

namespace Playthrough

theorem flags?_toValue (m : KeyMap Bool) : flags? (m.toValue .bool) = some m := by
  have hmembers (es : List (String × Bool)) :
      (es.map fun e => (e.1, Value.bool e.2)).mapM flag? = some es := by
    induction es with
    | nil => rfl
    | cons e es ih => simp [flag?, Value.bool?, ih]
  rw [KeyMap.toValue, flags?, hmembers, Option.map_some, KeyMap.ofList_entries]

/-! ### Steps -/

namespace Step

theorem ofValue?_toValue (s : Step) : ofValue? s.toValue = some s := by
  cases s with
  | press button => rfl
  | actions list => exact congrArg (Option.map actions) (Action.listOfValue?_listToValue list)
  | finishMinigame success => rfl
  | route slide => rfl

theorem plain_toValue (depth : Nat) (s : Step) : s.toValue.plain (depth + 3) = true := by
  cases s <;> simp [toValue, Action.listToValue, Action.toValue, Value.strings]

end Step

/-! ### Expectations -/

namespace Expectations

theorem ofValue?_toValue (e : Expectations) : ofValue? e.toValue = some e := by
  have hslide : ((e.slide.map Value.string).getD .null).optional? Value.string? =
      some e.slide := by
    cases e.slide <;> rfl
  simp [ofValue?, toValue, Payload.ofValue?, Payload.fits, Payload.withDefault, Payload.field?,
    lookup_cons_ite, fields, hslide, strings?, Value.list?_strings, flags?_toValue]

theorem plain_toValue (depth : Nat) (e : Expectations) : e.toValue.plain (depth + 2) = true := by
  have hslide : ((e.slide.map Value.string).getD .null).plain (depth + 1) = true := by
    cases e.slide <;> simp
  simp [toValue, KeyMap.toValue, Value.strings, hslide]

end Expectations

/-! ### Scripts -/

namespace Script

theorem ofValue?_toValue (s : Script) : ofValue? s.toValue = some s := by
  have hsteps : (Value.array (s.steps.map Step.toValue)).list? Step.ofValue? = some s.steps :=
    Value.list?_array Step.ofValue?_toValue s.steps
  simp [ofValue?, toValue, Payload.ofValue?, Payload.fits, Payload.withDefault, Payload.required,
    Payload.field?, lookup_cons_ite, fields, Value.string?, hsteps, Expectations.ofValue?_toValue]

theorem plain_toValue (depth : Nat) (s : Script) : s.toValue.plain (depth + 5) = true := by
  simp [toValue, Step.plain_toValue, Expectations.plain_toValue]

theorem listOfValue?_array (scripts : List Script) :
    listOfValue? (.array (scripts.map toValue)) = some scripts := by
  rw [listOfValue?, Value.list?_array ofValue?_toValue]

theorem listOfValue?_toValue (s : Script) : listOfValue? s.toValue = some [s] := by
  have hlist : s.toValue.list? ofValue? = none := rfl
  rw [listOfValue?, hlist, ofValue?_toValue, Option.map_some]

theorem plain_array (depth : Nat) (scripts : List Script) :
    (Value.array (scripts.map toValue)).plain (depth + 6) = true := by
  simp [plain_toValue]

theorem listOfText_chars {layout : Layout} (hlayout : layout.Blank) {v : Value}
    (hv : v.plain Reader.maxDepth = true) {scripts : List Script}
    (h : listOfValue? v = some scripts) :
    listOfText (String.ofList (v.chars layout 0)) = .ok scripts := by
  rw [listOfText, String.toList_ofList]
  exact Value.document_chars hv h hlayout

/-- The document of a list of scripts, without blanks or with one item a line, is read as the same
list, also if it is empty or holds one script. The document of a script is read as that one script
alone. -/
theorem listOfText_toValue :
    (∀ scripts : List Script,
      listOfText (Value.array (scripts.map toValue)).compact = .ok scripts ∧
        listOfText (Value.array (scripts.map toValue)).indented = .ok scripts) ∧
    ∀ s : Script, listOfText s.toValue.compact = .ok [s] ∧
      listOfText s.toValue.indented = .ok [s] := by
  constructor
  · intro scripts
    have hplain : (Value.array (scripts.map toValue)).plain Reader.maxDepth = true :=
      plain_array 121 scripts
    have hvalue := listOfValue?_array scripts
    exact ⟨listOfText_chars Layout.blank_compact hplain hvalue,
      listOfText_chars Layout.blank_indented hplain hvalue⟩
  · intro s
    have hplain : s.toValue.plain Reader.maxDepth = true := plain_toValue 122 s
    have hvalue := listOfValue?_toValue s
    exact ⟨listOfText_chars Layout.blank_compact hplain hvalue,
      listOfText_chars Layout.blank_indented hplain hvalue⟩

end Script

end Playthrough

end SlideGraph
