import SlideGraph.Proofs.Config
import SlideGraph.Proofs.Interpreter.Document
import SlideGraph.Proofs.Pointer.Document
import SlideGraph.Proofs.Session.Snapshot

/-!
# Documents that are read back

The documents that the engine both writes and reads: states of the game, settings, reports of runs,
snapshots and pointer events. Each of them is read from its own text as what it was, so no two of
the same type have the same text.
-/

namespace SlideGraph

/-- Every state of the game, all settings, every report and every snapshot whose numbers fit
64 bits, and every pointer event is read from its own compact text as what it was, and none of them
shares its text with another of its type. -/
theorem document_compact :
    (∀ s : GameState, GameState.reader.document s.toValue.compact.toList = .ok s ∧
      ∀ s' : GameState, s.toValue.compact = s'.toValue.compact → s = s') ∧
    (∀ c : Config, Config.ofText c.toValue.compact = .ok c ∧
      ∀ c' : Config, c.toValue.compact = c'.toValue.compact → c = c') ∧
    (∀ r : Report, r.Fits → Report.reader.document r.toValue.compact.toList = .ok r ∧
      ∀ r' : Report, r'.Fits → r.toValue.compact = r'.toValue.compact → r = r') ∧
    (∀ x : Snapshot, x.revision < UInt64.size →
      Snapshot.reader.document x.toValue.compact.toList = .ok x ∧
      ∀ x' : Snapshot, x'.revision < UInt64.size → x.toValue.compact = x'.toValue.compact →
        x = x') ∧
    ∀ e : PointerEvent, PointerEvent.ofText e.toValue.compact = .ok e ∧
      ∀ e' : PointerEvent, e.toValue.compact = e'.toValue.compact → e = e' := by
  refine ⟨fun s => ⟨s.document_toValue, fun s' h => ?_⟩,
    fun c => ⟨c.ofText_toValue, fun c' h => ?_⟩,
    fun r hr => ⟨Report.document_toValue hr, fun r' hr' h => ?_⟩,
    fun x hx => ⟨Snapshot.document_toValue hx, fun x' hx' h => ?_⟩,
    fun e => ⟨e.ofText_toValue, fun e' h => ?_⟩⟩
  · exact s.spells_toValue.eq_of_compact s'.spells_toValue GameState.reads_reader h
  · exact c.spells_toValue.eq_of_compact c'.spells_toValue Config.reads_reader h
  · exact (Report.spells_toValue hr).eq_of_compact (Report.spells_toValue hr') Report.reads_reader h
  · exact (Snapshot.spells_toValue hx).eq_of_compact (Snapshot.spells_toValue hx')
      Snapshot.reads_reader h
  · exact e.spells_toValue.eq_of_compact e'.spells_toValue PointerEvent.reads_reader h

/-- The numbers of a report and of a snapshot may be as great as 64 bits allow. States into which
the same items came in another order have the same text. -/
theorem document_compact_greatest :
    let r : Report := ⟨.requirementFailed 18446744073709551615, 18446744073709551615, 0, 7⟩
    let x : Snapshot := ⟨"q\"\n", true, [⟨"", false⟩], ["b", "b"], .ofList [("é", true)],
      18446744073709551615⟩
    let s : GameState := ⟨.ofList ["lamp", "key"], .ofList [("b", true), ("a", false)]⟩
    let s' : GameState := ⟨.ofList ["key", "lamp"], .ofList [("a", false), ("b", true)]⟩
    (r.Fits ∧ Report.reader.document r.toValue.compact.toList = .ok r) ∧
      (x.revision < UInt64.size ∧ Snapshot.reader.document x.toValue.compact.toList = .ok x) ∧
      s.toValue.compact = s'.toValue.compact ∧ s = s' := by
  intro r x s s'
  have hx : x.revision < UInt64.size := by decide
  have hr : r.Fits := ⟨hx, by decide, by decide, by decide⟩
  have hs : s.toValue.compact = s'.toValue.compact := by decide +kernel
  obtain ⟨hstates, -, hreports, hsnapshots, -⟩ := document_compact
  exact ⟨⟨hr, (hreports r hr).1⟩, ⟨hx, (hsnapshots x hx).1⟩, hs, (hstates s).2 s' hs⟩

end SlideGraph
