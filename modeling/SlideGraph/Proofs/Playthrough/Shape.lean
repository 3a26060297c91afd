import SlideGraph.Proofs.Playthrough.Document

/-!
# The shapes of script documents

A document of scripts is taken for a list of scripts or for one script, and no document can be taken
for both. One script that is written as an array begins with its name, which is a string, and no
item of a list of scripts is a string; an empty list has no name. So it does not matter which shape
is tried first.
-/

namespace SlideGraph

open Json

namespace Json.Reader

variable {α β : Type}

/-- A document that is read and then checked is a document of something that passes the check. -/
theorem document_check_eq_ok_iff {r : Reader α} {f : α → Option β} {s : List Char} {b : β} :
    (r.check f).document s = .ok b ↔ ∃ a, r.document s = .ok a ∧ f a = some b := by
  simp only [document, check, andThen]
  cases r.read s with
  | error e => simp
  | ok p =>
    obtain ⟨a, t⟩ := p
    by_cases hblank : (dropBlanks t).isEmpty <;> cases hf : f a <;>
      simp [Tail.answer, Tail.fail, Tail.done, hf, hblank]

end Json.Reader

namespace Playthrough

/-- What a document of scripts can be taken for. -/
inductive Shape
  | many
  | one
deriving DecidableEq, Repr

namespace Shape

/-- The scripts that a value is if it is taken for a shape. -/
def scripts? : Shape → Value → Option (List Script)
  | many, v => v.list? Script.ofValue?
  | one, v => (Script.ofValue? v).map ([·])

/-- The scripts in a document that is taken for a shape. -/
def ofText (shape : Shape) (text : String) : Except Fault (List Script) :=
  ((Reader.value Reader.maxDepth).check shape.scripts?).document text.toList

/-- The scripts in a document that is taken for one shape after the other, until one fits. -/
def ofTextInTurn (shapes : List Shape) (text : String) : Except Fault (List Script) :=
  ((Reader.value Reader.maxDepth).check fun v =>
    shapes.findSome? fun shape => shape.scripts? v).document text.toList

/-- A document can be taken for a shape. -/
def Fits (shape : Shape) (text : String) : Prop := ∃ scripts, shape.ofText text = .ok scripts

end Shape

/-! ### Values -/

section

variable {v : Value}

/-- A script has its name in a member or in front. -/
theorem Script.shape_of_ofValue? {s : Script} (h : ofValue? v = some s) :
    (∃ ms, v = .object ms) ∨ ∃ name rest, v = .array (.string name :: rest) := by
  simp only [ofValue?, Option.bind_eq_bind, Option.bind_eq_some_iff] at h
  obtain ⟨p, hp, -, -, name, hname, -⟩ := h
  cases v with
  | object ms => exact .inl ⟨ms, rfl⟩
  | array vs =>
    cases hp
    obtain ⟨x, hx, hstring⟩ := Option.bind_eq_some_iff.1 hname
    obtain ⟨rest, rfl⟩ : ∃ rest, vs = x :: rest := by
      cases vs with
      | nil => cases hx
      | cons y rest =>
        cases hx
        exact ⟨rest, rfl⟩
    cases x with
    | string name => exact .inr ⟨name, rest, rfl⟩
    | null | bool b | number n | array vs | object ms => cases hstring
  | null | bool b | number n | string s => cases hp

/-- What is a script is no list of scripts. -/
theorem Script.list?_of_ofValue? {s : Script} (h : ofValue? v = some s) :
    v.list? ofValue? = none := by
  obtain ⟨ms, rfl⟩ | ⟨name, rest, rfl⟩ := shape_of_ofValue? h
  · rfl
  · have hname : ofValue? (.string name) = none := rfl
    simp [Value.list?, hname]

namespace Shape

theorem scripts?_unique {shape shape' : Shape} {scripts scripts' : List Script}
    (h : shape.scripts? v = some scripts) (h' : shape'.scripts? v = some scripts') :
    shape = shape' := by
  have apart {scripts scripts' : List Script} (hmany : many.scripts? v = some scripts)
      (hone : one.scripts? v = some scripts') : False := by
    obtain ⟨s, hs, -⟩ := Option.map_eq_some_iff.1 hone
    cases hmany.symm.trans (Script.list?_of_ofValue? hs)
  cases shape <;> cases shape'
  · rfl
  · exact (apart h h').elim
  · exact (apart h' h).elim
  · rfl

theorem listOfValue?_eq_some_iff {scripts : List Script} :
    Script.listOfValue? v = some scripts ↔ ∃ shape : Shape, shape.scripts? v = some scripts := by
  constructor
  · intro h
    rw [Script.listOfValue?] at h
    split at h
    · rename_i hmany
      exact ⟨many, hmany.trans h⟩
    · exact ⟨one, h⟩
  · rintro ⟨shape, h⟩
    cases shape with
    | many => simp only [Script.listOfValue?, show v.list? Script.ofValue? = some scripts from h]
    | one =>
      obtain ⟨s, hs, -⟩ := Option.map_eq_some_iff.1 h
      rw [Script.listOfValue?, Script.list?_of_ofValue? hs]
      exact h

/-- The shapes may be tried in any order, as both are tried. -/
theorem findSome?_scripts? {shapes : List Shape} (hall : ∀ shape, shape ∈ shapes) (v : Value) :
    (shapes.findSome? fun shape => shape.scripts? v) = Script.listOfValue? v := by
  cases h : shapes.findSome? fun shape => shape.scripts? v with
  | some scripts =>
    obtain ⟨shape, -, hshape⟩ := List.exists_of_findSome?_eq_some h
    exact (listOfValue?_eq_some_iff.2 ⟨shape, hshape⟩).symm
  | none =>
    rw [List.findSome?_eq_none_iff] at h
    symm
    rw [Option.eq_none_iff_forall_ne_some]
    intro scripts hscripts
    obtain ⟨shape, hshape⟩ := listOfValue?_eq_some_iff.1 hscripts
    cases hshape.symm.trans (h shape (hall shape))

end Shape

end

/-! ### Scripts that are written as arrays -/

namespace Script

/-- The fields of a script in their order. -/
def items (s : Script) : List Value :=
  [.string s.name, .string s.description, .array (s.steps.map Step.toValue), s.expect.toValue]

/-- A script of which only so many fields behind the name are kept. -/
def keep (fields : Nat) (s : Script) : Script where
  name := s.name
  description := if 1 ≤ fields then s.description else ""
  steps := if 2 ≤ fields then s.steps else []
  expect := if 3 ≤ fields then s.expect else {}

theorem ofValue?_items (s : Script) (fields : Nat) :
    ofValue? (.array (s.items.take (fields + 1))) = some (s.keep fields) := by
  have hsteps : (Value.array (s.steps.map Step.toValue)).list? Step.ofValue? = some s.steps :=
    Value.list?_array Step.ofValue?_toValue s.steps
  -- there are at most three fields behind the name, so more of them are all of them
  obtain rfl | rfl | rfl | ⟨more, rfl⟩ : fields = 0 ∨ fields = 1 ∨ fields = 2 ∨
      ∃ more, fields = more + 3 := by
    by_cases h : 3 ≤ fields
    · exact .inr (.inr (.inr ⟨fields - 3, by omega⟩))
    · omega
  all_goals
    simp [ofValue?, items, keep, Payload.ofValue?, Payload.fits, Payload.withDefault,
      Payload.required, Payload.field?, Script.fields, Value.string?, hsteps,
      Expectations.ofValue?_toValue]

theorem plain_items (depth : Nat) (s : Script) (fields : Nat) :
    (Value.array (s.items.take fields)).plain (depth + 5) = true := by
  rw [Value.plain_array, List.all_eq_true]
  intro v hv
  have hv := List.mem_of_mem_take hv
  simp only [items, List.mem_cons, List.not_mem_nil, or_false] at hv
  obtain rfl | rfl | rfl | rfl := hv
  · exact Value.plain_string _ _
  · exact Value.plain_string _ _
  · simp [Step.plain_toValue]
  · exact s.expect.plain_toValue (depth + 2)

theorem ofText_items (s : Script) (fields : Nat) :
    Shape.one.ofText (Value.array (s.items.take (fields + 1))).compact =
      .ok [s.keep fields] := by
  have hone : Shape.one.scripts? (.array (s.items.take (fields + 1))) = some [s.keep fields] := by
    rw [Shape.scripts?, ofValue?_items, Option.map_some]
  rw [Shape.ofText, Value.compact, String.toList_ofList]
  exact Value.document_chars (s.plain_items 122 (fields + 1)) hone Layout.blank_compact

end Script

/-! ### Documents -/

namespace Shape

theorem fits_unique {text : String} {shape shape' : Shape} (h : shape.Fits text)
    (h' : shape'.Fits text) : shape = shape' := by
  obtain ⟨scripts, hscripts⟩ := h
  obtain ⟨scripts', hscripts'⟩ := h'
  obtain ⟨v, hv, hshape⟩ := Reader.document_check_eq_ok_iff.1 hscripts
  obtain ⟨v', hv', hshape'⟩ := Reader.document_check_eq_ok_iff.1 hscripts'
  cases hv.symm.trans hv'
  exact scripts?_unique hshape hshape'

theorem listOfText_eq_ok_iff {text : String} {scripts : List Script} :
    Script.listOfText text = .ok scripts ↔ ∃ shape : Shape, shape.ofText text = .ok scripts := by
  simp only [Script.listOfText, Script.listReader, ofText, Reader.document_check_eq_ok_iff,
    listOfValue?_eq_some_iff]
  constructor
  · rintro ⟨v, hv, shape, hshape⟩
    exact ⟨shape, v, hv, hshape⟩
  · rintro ⟨shape, v, hv, hshape⟩
    exact ⟨v, hv, shape, hshape⟩

/-- No document fits both shapes. So they may be tried in any order, with the same scripts or the
same fault, and a document is read if and only if exactly one of them fits, as what it is in that
shape. Still one script can be written as an array of its fields, of which the last ones may be
left out. -/
theorem shape_rules :
    (∀ text, ¬ (many.Fits text ∧ one.Fits text) ∧
      (∀ shapes : List Shape, (∀ shape, shape ∈ shapes) →
        ofTextInTurn shapes text = Script.listOfText text) ∧
      ((∃ scripts, Script.listOfText text = .ok scripts) ↔ ∃! shape : Shape, shape.Fits text) ∧
      ∀ scripts, Script.listOfText text = .ok scripts ↔
        ∃ shape : Shape, shape.ofText text = .ok scripts) ∧
    ∀ (s : Script) (fields : Nat),
      one.ofText (Value.array (s.items.take (fields + 1))).compact = .ok [s.keep fields] := by
  refine ⟨fun text => ⟨?_, ?_, ?_, fun scripts => listOfText_eq_ok_iff⟩, Script.ofText_items⟩
  · rintro ⟨hmany, hone⟩
    cases fits_unique hmany hone
  · intro shapes hall
    rw [ofTextInTurn, funext (findSome?_scripts? hall)]
    rfl
  · constructor
    · rintro ⟨scripts, h⟩
      obtain ⟨shape, hshape⟩ := listOfText_eq_ok_iff.1 h
      exact ⟨shape, ⟨scripts, hshape⟩, fun other hother => fits_unique hother ⟨scripts, hshape⟩⟩
    · rintro ⟨shape, ⟨scripts, hshape⟩, -⟩
      exact ⟨scripts, listOfText_eq_ok_iff.2 ⟨shape, hshape⟩⟩

/-- An array of one string is the script of that name, also if one script is tried first. -/
theorem shape_rules_solo :
    Script.listOfText "[\"solo\"]" = .ok [{ name := "solo" }] ∧
      ofTextInTurn [.one, .many] "[\"solo\"]" = .ok [{ name := "solo" }] ∧
      ¬ many.Fits "[\"solo\"]" := by
  obtain ⟨hrules, hitems⟩ := shape_rules
  have hone : one.ofText "[\"solo\"]" = .ok [{ name := "solo" }] := hitems { name := "solo" } 0
  obtain ⟨hapart, hturn, -, hread⟩ := hrules "[\"solo\"]"
  have hlist := (hread _).2 ⟨one, hone⟩
  refine ⟨hlist, (hturn _ ?_).trans hlist, fun hmany => hapart ⟨hmany, _, hone⟩⟩
  intro shape
  cases shape <;> decide

end Shape

end Playthrough

end SlideGraph
