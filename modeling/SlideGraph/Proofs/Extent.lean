import SlideGraph.Config
import SlideGraph.GameState.Document
import SlideGraph.Playthrough.Script
import SlideGraph.Proofs.Json.Reader.Extent
import SlideGraph.Proofs.Playthrough.Report

/-!
# The extents of documents

Decks, settings, game states, scripts and results are containers, whose text ends with a bracket. So
the end of such a document can be told, and a file that was cut off is never taken for a smaller
document.
-/

namespace SlideGraph

open Json

/-- Where a document is read that ends in no blank, any blanks may follow it and nothing else, and
no text that it begins with is read in its place. Such a text is not refused for what it says, and
if it is not cut off inside a number, it is refused only because it ends. -/
def ExactExtent {α : Type} (read : String → Except Fault α) : Prop :=
  ∀ d a, read d = .ok a → (∃ c ∈ d.toList.getLast?, isBlank c = false) →
    (∀ bs : String, Blanks bs.toList → read (d ++ bs) = .ok a) ∧
      (∀ t : String, ¬Blanks t.toList → read (d ++ t) = .error .malformed) ∧
      ∀ p u : String, p ++ u = d → u ≠ "" →
        (read p = .error .truncated ∨ read p = .error .malformed) ∧
          (¬InNumber p.toList u.toList → read p = .error .truncated)

theorem Json.SelfDelimiting.exactExtent {α : Type} {r : Reader α} (h : SelfDelimiting r.read) :
    ExactExtent fun s => r.document s.toList := by
  intro d a hd hend
  obtain ⟨hblanks, hother, hcut⟩ := h.document hd hend
  refine ⟨?_, ?_, ?_⟩
  · intro bs hbs
    simpa using hblanks bs.toList hbs
  · intro t ht
    simpa using hother t.toList ht
  · rintro p u rfl hu
    have hread := hcut p.toList u.toList String.toList_append.symm (by simpa using hu)
    rcases hread with htruncated | ⟨hin, hmalformed⟩
    · exact ⟨.inl htruncated, fun _ => htruncated⟩
    · exact ⟨.inr hmalformed, fun hnot => absurd hin hnot⟩

/-! ### Maps -/

theorem KeyMap.selfDelimiting_reader {α : Type} {r : Reader α} (h : Incremental r.read) :
    SelfDelimiting (KeyMap.reader r).read :=
  h.entries

theorem OrderedMap.selfDelimiting_reader {α : Type} {r : Reader α} (h : Incremental r.read) :
    SelfDelimiting (OrderedMap.reader r).read :=
  h.entries

/-! ### Decks -/

theorem Action.selfDelimiting_listReader : SelfDelimiting listReader.read :=
  (selfDelimiting_string.incremental.list.map Action.mk).incremental.list

theorem Button.selfDelimiting_reader : SelfDelimiting reader.read := by
  refine selfDelimiting_record ?_ _ _
  have hvisible := selfDelimiting_bool.incremental.optional (waits_head_andThen _)
  simp only [fields, List.forall_mem_cons]
  refine ⟨FieldReader.isIncremental_slot hvisible _ _ _,
    FieldReader.isIncremental_slot Action.selfDelimiting_listReader.incremental _ _ _, nofun⟩

theorem Slide.selfDelimiting_reader : SelfDelimiting reader.read := by
  refine selfDelimiting_record ?_ _ _
  have hkind := (selfDelimiting_name fun s => some (SlideKind.ofName s)).incremental.optional
    (waits_name _)
  have hbuttons := OrderedMap.selfDelimiting_reader Button.selfDelimiting_reader.incremental
  have hfallback := selfDelimiting_string.incremental.optional (waits_head_andThen _)
  simp only [fields, List.forall_mem_cons]
  exact ⟨FieldReader.isIncremental_slot hkind _ _ _,
    FieldReader.isIncremental_slot hbuttons.incremental _ _ _,
    FieldReader.isIncremental_slot hfallback _ _ _, nofun⟩

theorem Deck.selfDelimiting_reader : SelfDelimiting Deck.reader.read :=
  OrderedMap.selfDelimiting_reader Slide.selfDelimiting_reader.incremental

/-! ### Settings and game states -/

theorem Config.selfDelimiting_reader : SelfDelimiting reader.read := by
  refine selfDelimiting_record ?_ _ _
  have hskip := (selfDelimiting_name NestedSkip.ofName?).incremental
  have hdelay := (incremental_natural UInt64.size).map UInt64.ofNat
  simp only [fields, List.forall_mem_cons]
  exact ⟨FieldReader.isIncremental_slot hskip _ _ _,
    FieldReader.isIncremental_slot hdelay _ _ _, nofun⟩

theorem GameState.selfDelimiting_reader : SelfDelimiting reader.read := by
  refine selfDelimiting_record ?_ _ _
  have hinventory := selfDelimiting_string.incremental.list
  have hflags := KeyMap.selfDelimiting_reader selfDelimiting_bool.incremental
  simp only [fields, List.forall_mem_cons]
  exact ⟨FieldReader.isIncremental_slot hinventory.incremental _ _ _,
    FieldReader.isIncremental_slot hflags.incremental _ _ _, nofun⟩

/-! ### Scripts and results -/

theorem Playthrough.Script.selfDelimiting_listReader : SelfDelimiting listReader.read := by
  refine (incrementalUpTo_value Reader.maxDepth).check_none ?_ ?_
  · rintro v w t ⟨-, hw⟩
    obtain ⟨k, rfl⟩ := hw w t rfl
    rfl
  · rintro v y ⟨⟨k, rfl⟩, -⟩
    rfl

theorem ButtonView.selfDelimiting_reader : SelfDelimiting reader.read := by
  refine selfDelimiting_record ?_ _ _
  simp only [fields, List.forall_mem_cons]
  exact ⟨FieldReader.isIncremental_slot selfDelimiting_string.incremental _ _ _,
    FieldReader.isIncremental_slot selfDelimiting_bool.incremental _ _ _, nofun⟩

theorem Snapshot.selfDelimiting_reader : SelfDelimiting reader.read := by
  refine selfDelimiting_record ?_ _ _
  have hbuttons := ButtonView.selfDelimiting_reader.incremental.list
  have hinventory := selfDelimiting_string.incremental.list
  have hflags := KeyMap.selfDelimiting_reader selfDelimiting_bool.incremental
  simp only [fields, List.forall_mem_cons]
  exact ⟨FieldReader.isIncremental_slot selfDelimiting_string.incremental _ _ _,
    FieldReader.isIncremental_slot selfDelimiting_bool.incremental _ _ _,
    FieldReader.isIncremental_slot hbuttons.incremental _ _ _,
    FieldReader.isIncremental_slot hinventory.incremental _ _ _,
    FieldReader.isIncremental_slot hflags.incremental _ _ _,
    FieldReader.isIncremental_slot (incremental_natural _) _ _ _, nofun⟩

theorem Playthrough.Result.selfDelimiting_reader : SelfDelimiting reader.read := by
  refine selfDelimiting_record ?_ _ _
  have hcount := incremental_natural UInt64.size
  have hfailures := selfDelimiting_string.incremental.list
  have hsnapshot := Snapshot.selfDelimiting_reader.incremental.optional (waits_head_andThen _)
  simp only [fields, List.forall_mem_cons]
  exact ⟨FieldReader.isIncremental_slot selfDelimiting_string.incremental _ _ _,
    FieldReader.isIncremental_slot selfDelimiting_bool.incremental _ _ _,
    FieldReader.isIncremental_slot hcount _ _ _,
    FieldReader.isIncremental_slot hcount _ _ _,
    FieldReader.isIncremental_slot selfDelimiting_string.incremental _ _ _,
    FieldReader.isIncremental_slot hfailures.incremental _ _ _,
    FieldReader.isIncremental_slot (hcount.map _) _ _ _,
    FieldReader.isIncremental_slot hsnapshot _ _ _, nofun⟩

/-! ### All documents -/

/-- Decks, settings, game states, scripts and results end where their text does. -/
theorem exactExtent_documents :
    ExactExtent Deck.ofText ∧ ExactExtent Config.ofText ∧
      ExactExtent (fun s => GameState.reader.document s.toList) ∧
      ExactExtent Playthrough.Script.listOfText ∧ ExactExtent Playthrough.Result.listOfText :=
  ⟨Deck.selfDelimiting_reader.exactExtent, Config.selfDelimiting_reader.exactExtent,
    GameState.selfDelimiting_reader.exactExtent,
    Playthrough.Script.selfDelimiting_listReader.exactExtent,
    Playthrough.Result.selfDelimiting_reader.incremental.list.exactExtent⟩

open Playthrough in
/-- The results of a script that did not pass, without blanks. -/
def failedReport : String := (Result.listToValue [Result.failedResult]).compact

open Playthrough in
theorem exactExtent_failedReport :
    Result.listOfText failedReport = .ok [Result.failedResult] ∧
      Result.listOfText (failedReport ++ " \n") = .ok [Result.failedResult] ∧
      Result.listOfText (failedReport ++ " ,") = .error .malformed ∧
      Result.listOfText "[\x7b\"scenario_name\":\"go" = .error .truncated := by
  have hfits : ∀ r ∈ [Result.failedResult], r.Fits := by
    intro r hr
    rw [List.mem_singleton.1 hr]
    exact ⟨by decide, by decide, nofun⟩
  have hread : Result.listOfText failedReport = .ok [Result.failedResult] :=
    (Result.listOfText_written hfits).2
  obtain ⟨hblanks, hother, hcut⟩ :=
    exactExtent_documents.2.2.2.2 failedReport _ hread ⟨']', by decide +kernel, by decide⟩
  have happend : "[\x7b\"scenario_name\":\"go" ++ ("ne\",\"passed\":false,\"steps_run\":0," ++
      "\"steps_total\":1,\"final_slide\":\"\",\"failures\":[\"unknown slide\"],\"duration\":2\x7d]") =
      failedReport := by
    decide +kernel
  refine ⟨hread, hblanks " \n" (by decide), hother " ," (by decide), ?_⟩
  exact (hcut _ _ happend (by decide)).2 (by decide)

end SlideGraph
