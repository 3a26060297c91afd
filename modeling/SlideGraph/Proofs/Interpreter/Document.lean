import SlideGraph.Interpreter.Document
import SlideGraph.Proofs.Json.Integer
import SlideGraph.Proofs.Json.Reader.Tagged

/-!
# Reports of runs as documents

A report is read from its own text as what it was, as long as its counts and the position where the
run ended fit 64 bits. No field of a report may be missing.
-/

namespace SlideGraph

open Json

/-! ### Ends -/

namespace Termination

/-- The position where a run ended early fits 64 bits. -/
def Fits : Termination → Prop
  | completed => True
  | exited index => index < UInt64.size
  | requirementFailed index => index < UInt64.size

/-- The end that a value is. -/
def ofTree? (v : Tree) : Option Termination :=
  (v.tagged? "kind" Kind.ofName? (Reader.maxDepth - 2)).bind fun (k, p) => ofPayload? k p

theorem reads_reader : Reads reader.read Tree.tokens ofTree? :=
  (reads_tagged "kind" Kind.ofName? (Reader.maxDepth - 2)).check _

/-- The position is taken from the one field besides the kind. -/
theorem index?_nat {index : Nat} (h : index < UInt64.size) :
    index? (.members [("at", .nat index)]) = some index := by
  simp [index?, Payload.fits, Payload.required, Payload.field?, Value.count?_nat h]

/-- A record of a kind with a position is written like the end of that kind. -/
theorem spells_index {name : String} {k : Kind} (hk : Kind.ofName? name = some k) {index : Nat}
    (h : index < UInt64.size) {t : Termination}
    (ht : ofPayload? k (.members [("at", .nat index)]) = some t) :
    (Value.object [("kind", .string name), ("at", .nat index)]).Spells ofTree? t := by
  have hposition : (Value.nat index).Spells (Tree.value? (Reader.maxDepth - 2)) (.nat index) :=
    Value.spells_number _ h
  exact Value.spells_tagged_bind hk (by simp) (by simpa using hposition) ht

theorem spells_toValue {t : Termination} (h : t.Fits) : t.toValue.Spells ofTree? t := by
  cases t with
  | completed =>
    have hkind : Kind.ofName? "completed" = some .completed := rfl
    exact Value.spells_tagged_bind hkind (by simp) (by simp) rfl
  | exited index => exact spells_index rfl h (by rw [ofPayload?, index?_nat h, Option.map_some])
  | requirementFailed index =>
    exact spells_index rfl h (by rw [ofPayload?, index?_nat h, Option.map_some])

end Termination

/-! ### Reports -/

namespace Report

/-- The numbers of a report fit 64 bits. -/
structure Fits (r : Report) : Prop where
  termination : r.termination.Fits
  dispatched : r.dispatched < UInt64.size
  skipped : r.skipped < UInt64.size
  ignored : r.ignored < UInt64.size

/-- The names of the fields, in the order of an array. -/
def names : List String := ["termination", "dispatched", "skipped", "ignored"]

/-- The report that the members of a record are. -/
def ofMembers? (ms : List (String × Tree)) : Option Report := do
  let termination ← required? "termination" Termination.ofTree? ms
  let dispatched ← required? "dispatched" (Tree.natural? UInt64.size) ms
  let skipped ← required? "skipped" (Tree.natural? UInt64.size) ms
  let ignored ← required? "ignored" (Tree.natural? UInt64.size) ms
  some ⟨termination, dispatched, skipped, ignored⟩

/-- The report that a value is. -/
def ofTree? (v : Tree) : Option Report := (v.members? names).bind ofMembers?

def slots : List (Slot Draft) := [
  ⟨"termination", Draft.termination, fun x d => { d with termination := some x },
    Termination.reader, Termination.ofTree?, Termination.reads_reader⟩,
  ⟨"dispatched", Draft.dispatched, fun x d => { d with dispatched := some x }, .count,
    Tree.natural? UInt64.size, reads_count⟩,
  ⟨"skipped", Draft.skipped, fun x d => { d with skipped := some x }, .count,
    Tree.natural? UInt64.size, reads_count⟩,
  ⟨"ignored", Draft.ignored, fun x d => { d with ignored := some x }, .count,
    Tree.natural? UInt64.size, reads_count⟩]

theorem lawful_slots : Slot.Lawful slots {} where
  names := by decide
  blank := by simp [slots]
  get_set := by simp [slots]
  get_set_ne := by simp [slots]
  ext := by
    rintro ⟨_, _, _, _⟩ ⟨_, _, _, _⟩
    simp [slots]

/-- The report that a draft becomes. -/
def ofDraft? (d : Draft) : Option Report := do
  some ⟨← d.termination, ← d.dispatched, ← d.skipped, ← d.ignored⟩

theorem fields_iff (ms : List (String × Tree)) (r : Report) :
    (∃ d, (∀ s ∈ slots, field? s.name s.denote ms = some (s.get d)) ∧ ofDraft? d = some r) ↔
      ofMembers? ms = some r := by
  simp only [ofMembers?, ofDraft?, Option.bind_eq_bind, Option.bind_eq_some_iff,
    required?_eq_some_iff]
  constructor
  · rintro ⟨⟨_, _, _, _⟩, hfields, termination, rfl, dispatched, rfl, skipped, rfl, ignored, rfl,
      hr⟩
    simp only [slots, List.forall_mem_cons] at hfields
    obtain ⟨htermination, hdispatched, hskipped, hignored, -⟩ := hfields
    exact ⟨termination, htermination, dispatched, hdispatched, skipped, hskipped, ignored, hignored,
      hr⟩
  · rintro ⟨termination, htermination, dispatched, hdispatched, skipped, hskipped, ignored,
      hignored, hr⟩
    refine ⟨⟨termination, dispatched, skipped, ignored⟩, ?_, termination, rfl, dispatched, rfl,
      skipped, rfl, ignored, rfl, hr⟩
    simp [slots, htermination, hdispatched, hskipped, hignored]

theorem reads_reader : Reads reader.read Tree.tokens ofTree? :=
  lawful_slots.reads_members fields_iff

theorem spells_toValue {r : Report} (h : r.Fits) : r.toValue.Spells ofTree? r := by
  obtain ⟨termination, htermination, ht⟩ := Termination.spells_toValue h.termination
  obtain ⟨dispatched, hdispatched, hd⟩ := Value.spells_nat h.dispatched
  obtain ⟨skipped, hskipped, hs⟩ := Value.spells_nat h.skipped
  obtain ⟨ignored, hignored, hi⟩ := Value.spells_nat h.ignored
  have hms : ofMembers? [("termination", termination), ("dispatched", dispatched),
      ("skipped", skipped), ("ignored", ignored)] = some r := by
    simp [ofMembers?, required?, field?, ht, hd, hs, hi]
  exact Value.spells_record (.cons ⟨rfl, htermination⟩ (.cons ⟨rfl, hdispatched⟩
    (.cons ⟨rfl, hskipped⟩ (.cons ⟨rfl, hignored⟩ .nil)))) names hms

/-- A report whose numbers fit 64 bits is read from its own document. -/
theorem document_toValue {r : Report} (h : r.Fits) :
    reader.document r.toValue.compact.toList = .ok r :=
  (spells_toValue h).document reads_reader

end Report

end SlideGraph
