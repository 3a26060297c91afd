import Mathlib.Order.Bounds.Defs
import SlideGraph.Playthrough.Summary
import SlideGraph.Proofs.Session.Snapshot

/-!
# Results as documents

The results of playthroughs are read from their own report, and from its text without blanks, as
they were, except for the time: of that only the whole microseconds are written. What is read once
stays the same from then on.
-/

namespace SlideGraph.Playthrough

open Json

namespace Result

/-! ### What is read -/

/-- The names of the fields, in the order of an array. -/
def names : List String :=
  ["scenario_name", "passed", "steps_run", "steps_total", "final_slide", "failures", "duration",
    "snapshot"]

/-- The span of so many microseconds as a value is. -/
def durationOfTree? (v : Tree) : Option Duration :=
  (v.natural? UInt64.size).map fun n => .ofMicroseconds (.ofNat n)

/-- The result that the members of a record are. -/
def ofMembers? (ms : List (String × Tree)) : Option Result := do
  let script ← required? "scenario_name" Tree.string? ms
  let passed ← required? "passed" Tree.bool? ms
  let stepsRun ← required? "steps_run" (Tree.natural? UInt64.size) ms
  let stepsTotal ← required? "steps_total" (Tree.natural? UInt64.size) ms
  let finalSlide ← required? "final_slide" Tree.string? ms
  let failures ← required? "failures" (Tree.list? Tree.string?) ms
  let duration ← required? "duration" durationOfTree? ms
  let snapshot ← field? "snapshot" (Tree.optional? Snapshot.ofTree?) ms
  some ⟨script, passed, stepsRun, stepsTotal, finalSlide, failures, duration, snapshot.getD none⟩

/-- The result that a value is. -/
def ofTree? (v : Tree) : Option Result := (v.members? names).bind ofMembers?

def slots : List (Slot Draft) := [
  ⟨"scenario_name", Draft.script, fun x d => { d with script := some x }, .string, Tree.string?,
    reads_string⟩,
  ⟨"passed", Draft.passed, fun x d => { d with passed := some x }, .bool, Tree.bool?, reads_bool⟩,
  ⟨"steps_run", Draft.stepsRun, fun x d => { d with stepsRun := some x }, .count,
    Tree.natural? UInt64.size, reads_count⟩,
  ⟨"steps_total", Draft.stepsTotal, fun x d => { d with stepsTotal := some x }, .count,
    Tree.natural? UInt64.size, reads_count⟩,
  ⟨"final_slide", Draft.finalSlide, fun x d => { d with finalSlide := some x }, .string,
    Tree.string?, reads_string⟩,
  ⟨"failures", Draft.failures, fun x d => { d with failures := some x }, .list .string,
    Tree.list? Tree.string?, reads_string.list⟩,
  ⟨"duration", Draft.duration, fun x d => { d with duration := some x },
    Reader.count.map fun n => .ofMicroseconds (.ofNat n), durationOfTree?, reads_count.map _⟩,
  ⟨"snapshot", Draft.snapshot, fun x d => { d with snapshot := some x },
    .optional Snapshot.reader, Tree.optional? Snapshot.ofTree?, Snapshot.reads_reader.optional⟩]

theorem lawful_slots : Slot.Lawful slots {} where
  names := by decide
  blank := by simp [slots]
  get_set := by simp [slots]
  get_set_ne := by simp [slots]
  ext := by
    rintro ⟨_, _, _, _, _, _, _, _⟩ ⟨_, _, _, _, _, _, _, _⟩
    simp [slots]

/-- The result that a draft becomes. -/
def ofDraft? (d : Draft) : Option Result := do
  some ⟨← d.script, ← d.passed, ← d.stepsRun, ← d.stepsTotal, ← d.finalSlide, ← d.failures,
    ← d.duration, d.snapshot.getD none⟩

theorem fields_iff (ms : List (String × Tree)) (r : Result) :
    (∃ d, (∀ s ∈ slots, field? s.name s.denote ms = some (s.get d)) ∧ ofDraft? d = some r) ↔
      ofMembers? ms = some r := by
  simp only [ofMembers?, ofDraft?, Option.bind_eq_bind, Option.bind_eq_some_iff,
    required?_eq_some_iff]
  constructor
  · rintro ⟨⟨_, _, _, _, _, _, _, snapshot⟩, hfields, script, rfl, passed, rfl, stepsRun, rfl,
      stepsTotal, rfl, finalSlide, rfl, failures, rfl, duration, rfl, hr⟩
    simp only [slots, List.forall_mem_cons] at hfields
    obtain ⟨hscript, hpassed, hrun, htotal, hslide, hfailures, hduration, hsnapshot, -⟩ := hfields
    exact ⟨script, hscript, passed, hpassed, stepsRun, hrun, stepsTotal, htotal, finalSlide, hslide,
      failures, hfailures, duration, hduration, snapshot, hsnapshot, hr⟩
  · rintro ⟨script, hscript, passed, hpassed, stepsRun, hrun, stepsTotal, htotal, finalSlide,
      hslide, failures, hfailures, duration, hduration, snapshot, hsnapshot, hr⟩
    refine ⟨⟨script, passed, stepsRun, stepsTotal, finalSlide, failures, duration, snapshot⟩, ?_,
      script, rfl, passed, rfl, stepsRun, rfl, stepsTotal, rfl, finalSlide, rfl, failures, rfl,
      duration, rfl, hr⟩
    simp [slots, hscript, hpassed, hrun, htotal, hslide, hfailures, hduration, hsnapshot]

theorem reads_reader : Reads reader.read Tree.tokens ofTree? :=
  lawful_slots.reads_members fields_iff

/-! ### The time of a result -/

/-- The result with the time that is written of it. -/
def rounded (r : Result) : Result :=
  { r with duration := .ofMicroseconds (writtenMicroseconds r.duration) }

theorem toNat_writtenMicroseconds (d : Duration) :
    (writtenMicroseconds d).toNat = min d.microseconds (UInt64.size - 1) := by
  have hsize : 0 < UInt64.size := by decide
  apply UInt64.toNat_ofNat_of_lt'
  omega

/-- What is written of a span is the greatest number of microseconds of 64 bits that the span
holds. -/
theorem isGreatest_writtenMicroseconds (d : Duration) :
    IsGreatest {n | (Duration.ofMicroseconds n).nanoseconds ≤ d.nanoseconds}
      (writtenMicroseconds d) := by
  constructor
  · show (Duration.ofMicroseconds _).nanoseconds ≤ d.nanoseconds
    rw [Duration.nanoseconds_ofMicroseconds, toNat_writtenMicroseconds, Duration.microseconds]
    omega
  · intro n (hn : (Duration.ofMicroseconds n).nanoseconds ≤ d.nanoseconds)
    have hlt : n.toNat < UInt64.size := n.toNat_lt
    rw [Duration.nanoseconds_ofMicroseconds] at hn
    rw [UInt64.le_iff_toNat_le, toNat_writtenMicroseconds, Duration.microseconds]
    omega

/-- Whole microseconds of 64 bits are written as they are. -/
theorem writtenMicroseconds_ofMicroseconds (n : UInt64) :
    writtenMicroseconds (.ofMicroseconds n) = n := by
  have hlt : n.toNat < UInt64.size := n.toNat_lt
  apply UInt64.toNat_inj.1
  rw [toNat_writtenMicroseconds, Duration.microseconds, Duration.nanoseconds_ofMicroseconds]
  omega

theorem rounded_rounded (r : Result) : r.rounded.rounded = r.rounded := by
  simp only [rounded, writtenMicroseconds_ofMicroseconds]

/-! ### Reading what was written -/

/-- The numbers of a result fit 64 bits. -/
structure Fits (r : Result) : Prop where
  stepsRun : r.stepsRun < UInt64.size
  stepsTotal : r.stepsTotal < UInt64.size
  revision : ∀ x ∈ r.snapshot, x.revision < UInt64.size

theorem Fits.rounded {r : Result} (h : r.Fits) : r.rounded.Fits :=
  ⟨h.stepsRun, h.stepsTotal, h.revision⟩

theorem spells_toValue {r : Result} (h : r.Fits) : r.toValue.Spells ofTree? r.rounded := by
  obtain ⟨script, hscript, hs⟩ := Value.spells_string r.script
  obtain ⟨passed, hpassed, hp⟩ := Value.spells_bool r.passed
  obtain ⟨stepsRun, hrun, hr⟩ := Value.spells_nat h.stepsRun
  obtain ⟨stepsTotal, htotal, ht⟩ := Value.spells_nat h.stepsTotal
  obtain ⟨finalSlide, hslide, hf⟩ := Value.spells_string r.finalSlide
  obtain ⟨failures, hfailures, hl⟩ :=
    Value.spells_list fun x (_ : x ∈ r.failures) => Value.spells_string x
  obtain ⟨duration, hduration, hd⟩ :=
    Value.spells_nat (writtenMicroseconds r.duration).toNat_lt
  have hduration? : durationOfTree? duration = some r.rounded.duration := by
    rw [durationOfTree?, hd, Option.map_some, UInt64.ofNat_toNat]
    rfl
  obtain ⟨snapshot, hsnapshot, hshown⟩ :=
    Value.exists_optional rfl fun x hx => Snapshot.spells_toValue (h.revision x hx)
  let ts := [("scenario_name", some script), ("passed", some passed), ("steps_run", some stepsRun),
    ("steps_total", some stepsTotal), ("final_slide", some finalSlide),
    ("failures", some failures), ("duration", some duration), ("snapshot", snapshot)]
  have hnames : (ts.map Prod.fst).Nodup := show names.Nodup by decide
  have hscript? : required? "scenario_name" Tree.string? (present ts) = some r.script :=
    required?_present hnames (by simp [ts]) hs
  have hpassed? : required? "passed" Tree.bool? (present ts) = some r.passed :=
    required?_present hnames (by simp [ts]) hp
  have hrun? : required? "steps_run" (Tree.natural? UInt64.size) (present ts) =
      some r.stepsRun :=
    required?_present hnames (by simp [ts]) hr
  have htotal? : required? "steps_total" (Tree.natural? UInt64.size) (present ts) =
      some r.stepsTotal :=
    required?_present hnames (by simp [ts]) ht
  have hslide? : required? "final_slide" Tree.string? (present ts) = some r.finalSlide :=
    required?_present hnames (by simp [ts]) hf
  have hfailures? : required? "failures" (Tree.list? Tree.string?) (present ts) =
      some r.failures :=
    required?_present hnames (by simp [ts]) hl
  have htime? : required? "duration" durationOfTree? (present ts) = some r.rounded.duration :=
    required?_present hnames (by simp [ts]) hduration?
  have hsnapshot? : field? "snapshot" (Tree.optional? Snapshot.ofTree?) (present ts) =
      some (r.snapshot.map some) :=
    (field?_present hnames (by simp [ts]) _).trans hshown
  refine Value.spells_members (.cons ⟨rfl, .some hscript⟩ (.cons ⟨rfl, .some hpassed⟩
    (.cons ⟨rfl, .some hrun⟩ (.cons ⟨rfl, .some htotal⟩ (.cons ⟨rfl, .some hslide⟩
    (.cons ⟨rfl, .some hfailures⟩ (.cons ⟨rfl, .some hduration⟩
    (.cons ⟨rfl, hsnapshot⟩ .nil)))))))) names
    (show ofMembers? (present ts) = some r.rounded from ?_)
  simp only [ofMembers?, hscript?, hpassed?, hrun?, htotal?, hslide?, hfailures?, htime?,
    hsnapshot?, Option.bind_eq_bind, Option.bind_some, getD_map_some]
  rfl

theorem spells_listToValue {rs : List Result} (h : ∀ r ∈ rs, r.Fits) :
    (listToValue rs).Spells (Tree.list? ofTree?) (rs.map rounded) :=
  Value.spells_list_map fun r hr => spells_toValue (h r hr)

theorem listOfText_written {rs : List Result} (h : ∀ r ∈ rs, r.Fits) :
    listOfText (Summary.json rs) = .ok (rs.map rounded) ∧
      listOfText (listToValue rs).compact = .ok (rs.map rounded) := by
  have hspells := spells_listToValue h
  refine ⟨?_, hspells.document reads_reader.list⟩
  rw [listOfText, Summary.json, String.toList_append, Value.indented, String.toList_ofList]
  exact hspells.document_append reads_reader.list Layout.blank_indented (by simp [Blanks, isBlank])

/-- Results whose numbers fit 64 bits are read from their report, and from its text without blanks,
with the greatest whole number of microseconds of 64 bits that the time of each holds. Everything
else of a result is as it was, and so is a time that is such a number already. What has been read is
written and read once more without a change. -/
theorem listOfText_report {rs : List Result} (h : ∀ r ∈ rs, r.Fits) :
    (listOfText (Summary.json rs) = .ok (rs.map rounded) ∧
        listOfText (listToValue rs).compact = .ok (rs.map rounded)) ∧
      (listOfText (Summary.json (rs.map rounded)) = .ok (rs.map rounded) ∧
        listOfText (listToValue (rs.map rounded)).compact = .ok (rs.map rounded)) ∧
      ∀ r ∈ rs, (∃ n, r.rounded = { r with duration := .ofMicroseconds n } ∧
          IsGreatest {m | (Duration.ofMicroseconds m).nanoseconds ≤ r.duration.nanoseconds} n) ∧
        ∀ m, r.duration = .ofMicroseconds m → r.rounded = r := by
  refine ⟨listOfText_written h, ?_, ?_⟩
  · have hfits : ∀ r ∈ rs.map rounded, r.Fits := by
      intro r hr
      obtain ⟨r', hr', rfl⟩ := List.mem_map.1 hr
      exact (h r' hr').rounded
    have hagain := listOfText_written hfits
    rwa [List.map_map, show rounded ∘ rounded = rounded from funext rounded_rounded] at hagain
  · intro r _
    refine ⟨⟨_, rfl, isGreatest_writtenMicroseconds r.duration⟩, ?_⟩
    intro m hduration
    rw [rounded, hduration, writtenMicroseconds_ofMicroseconds, ← hduration]

/-- A result that passed, with what was shown at the end. -/
def passedResult : Result where
  script := "tour"
  passed := true
  stepsRun := 2
  stepsTotal := 2
  finalSlide := "hall"
  failures := []
  duration := .ofNanoseconds 1999
  snapshot := some ⟨"hall", false, [⟨"door", true⟩], ["key"], .empty, 3⟩

/-- A result that did not pass, of a script that no session was opened for. -/
def failedResult : Result where
  script := "gone"
  passed := false
  stepsRun := 0
  stepsTotal := 1
  finalSlide := ""
  failures := ["unknown slide"]
  duration := .ofNanoseconds 2000
  snapshot := none

theorem listOfText_report_two :
    listOfText (Summary.json [passedResult, failedResult]) =
      .ok [{ passedResult with duration := .ofMicroseconds 1 }, failedResult] := by
  have hfits : ∀ r ∈ [passedResult, failedResult], r.Fits := by
    intro r hr
    simp only [List.mem_cons, List.not_mem_nil, or_false] at hr
    rcases hr with rfl | rfl
    · exact ⟨by decide, by decide, by decide⟩
    · exact ⟨by decide, by decide, by decide⟩
  exact (listOfText_report hfits).1.1

end Result

end SlideGraph.Playthrough
