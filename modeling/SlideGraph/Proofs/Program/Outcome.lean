import Mathlib
import SlideGraph.Proofs.Disk
import SlideGraph.Proofs.Playthrough.Document
import SlideGraph.Proofs.Playthrough.Replay
import SlideGraph.Proofs.Playthrough.Written
import SlideGraph.Proofs.Program.Needs
import SlideGraph.Proofs.Program.Output
import SlideGraph.Proofs.Slide.Document

/-!
# How a run of the program ends

A run needs its settings, its slides and, unless it only lists the slides, scripts, and it puts its
text where it is told to. It fails where it does not get what it needs, with the disk as it was. If
it gets all, it writes its text to one file or prints it, and then the code tells whether all
scripts passed.
-/

namespace SlideGraph

open Playthrough (Script Result Replay scriptFiles)
open Playthrough.Summary (Reported written)
open Text (lines)

namespace Program

/-! ### Where a text goes -/

/-- A text is put where it is wanted. At the end `shown` has been printed, and the disk is `d'`. -/
inductive Delivered (output : Option String) (printed text : String) (d : Disk) :
    String → Disk → Prop
  | printed (h : output = none) : Delivered output printed text d (printed ++ text) d
  | written {path : String} {place : Place} (h : output = some path)
      (htarget : d.target path = .ok place) :
      Delivered output printed text d printed (d.write place text.toUTF8)

section

variable {output : Option String} {printed text shown : String} {d d' : Disk}

/-- A text is put where it is wanted, or else no file can be written there. -/
theorem deliver_cases (output : Option String) (printed text : String) (d : Disk) :
    (∃ shown d', deliver output printed text d = .ok (shown, d') ∧
      Delivered output printed text d shown d') ∨
    ∃ f, deliver output printed text d = .error f ∧ ¬ OutputOpens d output := by
  cases output with
  | none => exact .inl ⟨_, _, rfl, .printed rfl⟩
  | some path =>
    simp only [deliver, Disk.writeText]
    cases htarget : d.target path with
    | ok place => exact .inl ⟨_, _, rfl, .written rfl htarget⟩
    | error fault =>
      refine .inr ⟨_, rfl, fun hopens => ?_⟩
      obtain ⟨place, hplace⟩ := hopens path rfl
      rw [htarget] at hplace
      cases hplace

theorem Delivered.opens (h : Delivered output printed text d shown d') : OutputOpens d output := by
  cases h with
  | printed h =>
    intro path hpath
    cases h.symm.trans hpath
  | written h htarget =>
    intro path hpath
    cases h.symm.trans hpath
    exact ⟨_, htarget⟩

/-- What is not written over is as it was. -/
theorem Delivered.kept (h : Delivered output printed text d shown d') :
    d'.here = d.here ∧ ∀ place, (∀ path, output = some path → d.target path ≠ .ok place) →
      d'.item? place = d.item? place := by
  cases h with
  | printed h => exact ⟨rfl, fun _ _ => rfl⟩
  | written h htarget =>
    refine ⟨rfl, fun place hplace => ?_⟩
    rw [Disk.item?_write d _ (Disk.target_ne_nil htarget), if_neg]
    rintro rfl
    exact hplace _ h htarget

/-- The text is where it is wanted. -/
theorem Delivered.found (h : Delivered output printed text d shown d') :
    (output = none → shown = printed ++ text ∧ d' = d) ∧
      ∀ path, output = some path → shown = printed ∧ d'.readText path = .ok text := by
  cases h with
  | printed h => exact ⟨fun _ => ⟨rfl, rfl⟩, fun path hpath => nomatch h.symm.trans hpath⟩
  | written h htarget =>
    refine ⟨fun hnone => (nomatch h.symm.trans hnone), fun path hpath => ⟨rfl, ?_⟩⟩
    cases h.symm.trans hpath
    apply Disk.readText_writeText
    rw [Disk.writeText, htarget]

end

/-! ### Endings -/

/-- Something is missing before the run can put out anything. -/
def Stuck (o : Options) (d : Disk) : Prop :=
  ∀ config c, ConfigLoads d o.config config → SlidesLoad d o.slides c → o.listSlides = false ∧
    (¬ Accepts o.validate c ∨ ∀ scripts, ¬ ScriptsLoad d o.scripts scripts)

/-- Nothing is missing to replay scripts. -/
structure Prepared (o : Options) (d : Disk) (config : Config) (c : Catalog)
    (scripts : List Script) : Prop where
  config : ConfigLoads d o.config config
  slides : SlidesLoad d o.slides c
  replays : o.listSlides = false
  accepts : Accepts o.validate c
  scripts : ScriptsLoad d o.scripts scripts

/-- The warnings of the issues of a catalog. -/
def warned (host : Host) (c : Catalog) : String :=
  lines (c.issues.map fun i => "⚠️  " ++ warning.paint host.colored i.message)

/-- What stands above a report, which tells how each script went only if that is asked for. -/
def preface (host : Host) (o : Options) (replays : List Replay) : String :=
  banner host.colored ++
    if o.verbose then lines (replays.flatMap (replayLines host.colored)) else ""

/-- How far a run with options can be when no script has been replayed yet. -/
inductive Started (host : Host) (o : Options) (d : Disk) : Stage → Prop
  | failed {f : Failure} (h : Stuck o d ∨ ¬ OutputOpens d o.output) (hfounded : Founded o d f)
      (printed errors : String) : Started host o d (.ended (failed host d printed errors f))
  | listed {config : Config} {c : Catalog} {shown : String} {d' : Disk}
      (hconfig : ConfigLoads d o.config config) (hslides : SlidesLoad d o.slides c)
      (hlist : o.listSlides = true) (h : Delivered o.output "" (slideList c) d shown d') :
      Started host o d (.ended ⟨0, shown, "", d'⟩)
  | ready {config : Config} {c : Catalog} {scripts : List Script}
      (h : Prepared o d config c scripts) :
      Started host o d
        (.ready ⟨o, host, c, config, scripts, banner host.colored, warned host c, d⟩)

/-- The results of scripts that have been replayed in order, with the times that they took. -/
def results (c : Catalog) (config : Config) (took : Nat → Duration) (scripts : List Script) :
    List Result :=
  scripts.mapIdx fun i s => { (s.replay c config).result with duration := took i }

/-- How a run with options can end. -/
inductive Ending (host : Host) (o : Options) (clock : Clock) (d : Disk) : Outcome → Prop
  | failed {f : Failure} (h : Stuck o d ∨ ¬ OutputOpens d o.output) (hfounded : Founded o d f)
      (printed errors : String) : Ending host o clock d (failed host d printed errors f)
  | listed {config : Config} {c : Catalog} {shown : String} {d' : Disk}
      (hconfig : ConfigLoads d o.config config) (hslides : SlidesLoad d o.slides c)
      (hlist : o.listSlides = true) (h : Delivered o.output "" (slideList c) d shown d') :
      Ending host o clock d ⟨0, shown, "", d'⟩
  | reported {config : Config} {c : Catalog} {scripts : List Script} {shown : String} {d' : Disk}
      (h : Prepared o d config c scripts)
      (hreport : Delivered o.output (preface host o (replayAll c config clock.script 0 scripts))
        (written o.format host.colored (results c config clock.script scripts) clock.summed
          clock.total clock.stamp) d shown d') :
      Ending host o clock d
        ⟨if scripts.all fun s => (s.replay c config).result.passed then 0 else 1, shown,
          warned host c, d'⟩

section

variable {o : Options} {d : Disk} {config config' : Config} {c c' : Catalog}
  {scripts scripts' : List Script}

theorem ConfigLoads.eq {path : Option String} (h : ConfigLoads d path config)
    (h' : ConfigLoads d path config') : config = config' :=
  Except.ok.inj ((loadConfig_eq_ok_iff.2 h).symm.trans (loadConfig_eq_ok_iff.2 h'))

theorem SlidesLoad.eq {path : String} (h : SlidesLoad d path c) (h' : SlidesLoad d path c') :
    c = c' := by
  obtain ⟨records, hload⟩ := loadCatalog_eq_ok_iff.2 h
  obtain ⟨records', hload'⟩ := loadCatalog_eq_ok_iff.2 h'
  cases hload.symm.trans hload'
  rfl

theorem ScriptsLoad.eq {paths : String} (h : ScriptsLoad d paths scripts)
    (h' : ScriptsLoad d paths scripts') : scripts = scripts' :=
  Except.ok.inj ((loadScripts_eq_ok_iff.2 h).symm.trans (loadScripts_eq_ok_iff.2 h'))

theorem Stuck.replays (h : Stuck o d) (hconfig : ConfigLoads d o.config config)
    (hslides : SlidesLoad d o.slides c) : o.listSlides = false :=
  (h config c hconfig hslides).1

theorem Stuck.not_scriptsLoad (h : Stuck o d) (hconfig : ConfigLoads d o.config config)
    (hslides : SlidesLoad d o.slides c) (haccepts : Accepts o.validate c) :
    ¬ ScriptsLoad d o.scripts scripts :=
  (h config c hconfig hslides).2.resolve_left (not_not_intro haccepts) scripts

theorem Prepared.not_stuck (h : Prepared o d config c scripts) : ¬ Stuck o d :=
  fun hstuck => hstuck.not_scriptsLoad h.config h.slides h.accepts h.scripts

theorem Prepared.eq (h : Prepared o d config c scripts) (h' : Prepared o d config' c' scripts') :
    config = config' ∧ c = c' ∧ scripts = scripts' :=
  ⟨h.config.eq h'.config, h.slides.eq h'.slides, h.scripts.eq h'.scripts⟩

theorem results_cons (c : Catalog) (config : Config) (took : Nat → Duration) (s : Script)
    (scripts : List Script) :
    results c config took (s :: scripts) =
      { (s.replay c config).result with duration := took 0 } ::
        results c config (fun i => took (i + 1)) scripts :=
  List.mapIdx_cons

theorem map_result_replayAll (c : Catalog) (config : Config) (took : Nat → Duration) (first : Nat)
    (scripts : List Script) :
    (replayAll c config took first scripts).map Replay.result =
      results c config (fun i => took (first + i)) scripts := by
  induction scripts generalizing first with
  | nil => rfl
  | cons s scripts ih =>
    rw [replayAll, List.map_cons, ih, results_cons]
    simp only [Nat.add_zero, Nat.add_assoc, Nat.add_comm 1]

theorem all_passed_results (c : Catalog) (config : Config) (took : Nat → Duration)
    (scripts : List Script) :
    (results c config took scripts).all Result.passed =
      scripts.all fun s => (s.replay c config).result.passed := by
  induction scripts generalizing took with
  | nil => rfl
  | cons s scripts ih => rw [results_cons, List.all_cons, ih, List.all_cons]

theorem started_start (host : Host) (o : Options) (d : Disk) :
    Started host o d (start host o d) := by
  rw [start]
  cases hconfig : loadConfig d o.config with
  | error f =>
    refine .failed (.inl fun config c h _ => ?_) (founded_of_loadConfig hconfig) "" ""
    rw [← loadConfig_eq_ok_iff, hconfig] at h
    cases h
  | ok config =>
  have hloads : ConfigLoads d o.config config := loadConfig_eq_ok_iff.1 hconfig
  cases hcatalog : loadCatalog d o.slides with
  | error f =>
    refine .failed (.inl fun config c _ h => ?_) (founded_of_loadCatalog hcatalog) "" ""
    obtain ⟨records, h⟩ := loadCatalog_eq_ok_iff.2 h
    rw [hcatalog] at h
    cases h
  | ok loaded =>
  obtain ⟨c, records⟩ := loaded
  have hslides : SlidesLoad d o.slides c := loadCatalog_eq_ok_iff.1 ⟨records, hcatalog⟩
  cases hlist : o.listSlides with
  | true =>
    simp only [if_true]
    rcases deliver_cases o.output "" (slideList c) d with
      ⟨shown, d', hdeliver, h⟩ | ⟨f, hdeliver, hclosed⟩
    · rw [hdeliver]
      exact .listed hloads hslides hlist h
    · rw [hdeliver]
      exact .failed (.inr hclosed) (founded_of_deliver hdeliver) "" ""
  | false =>
  simp only [Bool.false_eq_true, if_false]
  have hcheck : (checkCatalog host.colored o.slides o.validate c).failure = none ↔
      Accepts o.validate c := failure_eq_none_iff host.colored o.slides
  cases hfailure : (checkCatalog host.colored o.slides o.validate c).failure with
  | some f =>
    refine .failed (.inl fun config' c' _ h => ⟨hlist, .inl ?_⟩)
      (founded_of_failure hslides hfailure) _ _
    rw [h.eq hslides, ← hcheck, hfailure]
    exact Option.some_ne_none f
  | none =>
  cases hscripts : loadScripts d o.scripts with
  | error f =>
    refine .failed (.inl fun config' c' _ _ => ⟨hlist, .inr fun scripts h => ?_⟩)
      (founded_of_loadScripts hscripts) _ _
    rw [← loadScripts_eq_ok_iff, hscripts] at h
    cases h
  | ok scripts =>
    exact .ready ⟨hloads, hslides, hlist, hcheck.1 hfailure, loadScripts_eq_ok_iff.1 hscripts⟩

/-- Every run with options ends in one of the ways. -/
theorem ending_execute (host : Host) (o : Options) (clock : Clock) (d : Disk) :
    Ending host o clock d (execute host o clock d) := by
  rw [execute]
  have hstarted := started_start host o d
  generalize start host o d = stage at hstarted
  cases hstarted with
  | failed h hfounded printed errors => exact .failed h hfounded printed errors
  | listed hconfig hslides hlist h => exact .listed hconfig hslides hlist h
  | ready h =>
    simp only [finish, map_result_replayAll, all_passed_results, Nat.zero_add]
    rcases deliver_cases o.output _ _ d with
      ⟨shown, d', hdeliver, hreport⟩ | ⟨f, hdeliver, hclosed⟩
    · rw [hdeliver]
      exact .reported h hreport
    · rw [hdeliver]
      exact .failed (.inr hclosed) (founded_of_deliver hdeliver) _ _

end

/-! ### What the endings have in common -/

section

variable {host : Host} {o : Options} {clock : Clock} {d : Disk} {outcome : Outcome}

theorem Ending.code (h : Ending host o clock d outcome) :
    outcome.code = 0 ∨ outcome.code = 1 := by
  cases h with
  | failed h hfounded printed errors => exact .inr rfl
  | listed hconfig hslides hlist h => exact .inl rfl
  | reported hprepared hreport =>
    dsimp only
    split
    · exact .inl rfl
    · exact .inr rfl

/-- A run succeeds if it has what it needs and either lists the slides or replays scripts that all
pass. -/
theorem Ending.code_eq_zero_iff (h : Ending host o clock d outcome) :
    outcome.code = 0 ↔ ∃ config c, ConfigLoads d o.config config ∧ SlidesLoad d o.slides c ∧
      OutputOpens d o.output ∧ (o.listSlides = true ∨
        (Accepts o.validate c ∧ ∃ scripts, ScriptsLoad d o.scripts scripts ∧
          ∀ s ∈ scripts, (s.replay c config).result.passed = true)) := by
  cases h with
  | failed hfailed hfounded printed errors =>
    refine ⟨fun hcode => (nomatch hcode), ?_⟩
    rintro ⟨config, c, hconfig, hslides, hopens, hready⟩
    have hstuck := hfailed.resolve_right (not_not_intro hopens)
    rcases hready with hlist | ⟨haccepts, scripts, hscripts, -⟩
    · exact absurd (hstuck.replays hconfig hslides) (by simp [hlist])
    · exact absurd hscripts (hstuck.not_scriptsLoad hconfig hslides haccepts)
  | listed hconfig hslides hlist h =>
    exact ⟨fun _ => ⟨_, _, hconfig, hslides, h.opens, .inl hlist⟩, fun _ => rfl⟩
  | @reported config c scripts _ _ hprepared hreport =>
    constructor
    · intro hcode
      have hall : (scripts.all fun s => (s.replay c config).result.passed) = true := by
        by_contra hfails
        rw [if_neg hfails] at hcode
        cases hcode
      exact ⟨config, c, hprepared.config, hprepared.slides, hreport.opens,
        .inr ⟨hprepared.accepts, scripts, hprepared.scripts, List.all_eq_true.1 hall⟩⟩
    · rintro ⟨config', c', hconfig, hslides, -, hlist | ⟨haccepts, scripts', hscripts, hall⟩⟩
      · exact absurd hprepared.replays (by simp [hlist])
      · -- What loads is what the run has loaded.
        obtain ⟨rfl, rfl, rfl⟩ :=
          hprepared.eq ⟨hconfig, hslides, hprepared.replays, haccepts, hscripts⟩
        exact if_pos (List.all_eq_true.2 hall)

/-- Only the file of the output may have changed. -/
theorem Ending.kept (h : Ending host o clock d outcome) :
    outcome.disk.here = d.here ∧
      ∀ place, (∀ path, o.output = some path → d.target path ≠ .ok place) →
        outcome.disk.item? place = d.item? place := by
  cases h with
  | failed h hfounded printed errors => exact ⟨rfl, fun _ _ => rfl⟩
  | listed hconfig hslides hlist h => exact h.kept
  | reported hprepared hreport => exact hreport.kept

theorem Ending.disk_of_stuck (h : Ending host o clock d outcome) (hstuck : Stuck o d) :
    outcome.disk = d := by
  cases h with
  | failed h hfounded printed errors => rfl
  | listed hconfig hslides hlist h =>
    exact absurd (hstuck.replays hconfig hslides) (by simp [hlist])
  | reported hprepared hreport => exact absurd hstuck hprepared.not_stuck

/-- A run that fails tells of a failure that is so. -/
theorem Ending.told (h : Ending host o clock d outcome)
    (hfails : Stuck o d ∨ ¬ OutputOpens d o.output) :
    ∃ f before ls, Founded o d f ∧ f.Told host.words ls ∧ outcome.errors = before ++ lines ls := by
  cases h with
  | @failed f h hfounded printed errors =>
    obtain ⟨ls, htold, hreport⟩ := f.told_report host.words
    exact ⟨f, errors, ls, hfounded, htold, congrArg (errors ++ ·) hreport⟩
  | listed hconfig hslides hlist h =>
    refine absurd (hfails.resolve_right (not_not_intro h.opens)) fun hstuck => ?_
    exact absurd (hstuck.replays hconfig hslides) (by simp [hlist])
  | reported hprepared hreport =>
    exact absurd (hfails.resolve_right (not_not_intro hreport.opens)) hprepared.not_stuck

/-- The list of the slides is where it is wanted. -/
theorem Ending.listing {config : Config} {c : Catalog} (h : Ending host o clock d outcome)
    (hconfig : ConfigLoads d o.config config) (hslides : SlidesLoad d o.slides c)
    (hlist : o.listSlides = true) (hopens : OutputOpens d o.output) :
    (o.output = none → outcome.output = slideList c ∧ outcome.disk = d) ∧
      ∀ path, o.output = some path → outcome.output = "" ∧
        outcome.disk.readText path = .ok (slideList c) := by
  cases h with
  | failed hfailed hfounded printed errors =>
    refine absurd (hfailed.resolve_right (not_not_intro hopens)) fun hstuck => ?_
    exact absurd (hstuck.replays hconfig hslides) (by simp [hlist])
  | listed hconfig' hslides' hlist' h =>
    rw [hslides.eq hslides']
    simpa using h.found
  | reported hprepared hreport => exact absurd hprepared.replays (by simp [hlist])

/-- If nothing is missing, the report is where it is wanted. -/
theorem Ending.found {config : Config} {c : Catalog} {scripts : List Script}
    (h : Ending host o clock d outcome) (hprepared : Prepared o d config c scripts)
    (hopens : OutputOpens d o.output) :
    let rs := results c config clock.script scripts
    let report := written o.format host.colored rs clock.summed clock.total clock.stamp
    let printed := preface host o (replayAll c config clock.script 0 scripts)
    Reported host.colored rs clock.summed clock.total clock.stamp o.format report ∧
      outcome.errors = warned host c ∧
      (o.output = none → outcome.output = printed ++ report ∧ outcome.disk = d) ∧
      ∀ path, o.output = some path → outcome.output = printed ∧
        outcome.disk.readText path = .ok report := by
  intro rs report printed
  have hne : rs ≠ [] := by
    simpa [rs, results, List.mapIdx_eq_nil_iff] using hprepared.scripts.1
  refine ⟨Playthrough.Summary.reported_written hne o.format, ?_⟩
  cases h with
  | failed hfailed hfounded printed errors =>
    exact absurd (hfailed.resolve_right (not_not_intro hopens)) hprepared.not_stuck
  | listed hconfig hslides hlist h => exact absurd hprepared.replays (by simp [hlist])
  | reported hprepared' hreport =>
    obtain ⟨rfl, rfl, rfl⟩ := hprepared.eq hprepared'
    exact ⟨rfl, hreport.found⟩

end

/-! ### The rules -/

/-- Whenever arguments are options, the code is zero or one. It is zero if and only if the settings
and the slides load, the output can be opened, and either the slides are listed or there are no
issues where they matter and scripts load that all pass. What is not the file of the output is as it
was, and so is all of the disk if anything is missing before the run puts out something. The run
then tells of a failure for which there is a reason. When the slides are listed and the output can
be opened, the list is there. When scripts have been replayed and the output can be opened, the
report of all of them is there in the form that is asked for, whether they passed or not, and every
issue of the slides has been warned of. -/
theorem run_rules {arguments : List String} {o : Options}
    (h : CommandLine.parse arguments = .ok (.run o)) (host : Host) (clock : Clock) (d : Disk) :
    let outcome := run host arguments clock d
    (outcome.code = 0 ∨ outcome.code = 1) ∧
    (outcome.code = 0 ↔ ∃ config c, ConfigLoads d o.config config ∧ SlidesLoad d o.slides c ∧
      OutputOpens d o.output ∧ (o.listSlides = true ∨
        (Accepts o.validate c ∧ ∃ scripts, ScriptsLoad d o.scripts scripts ∧
          ∀ s ∈ scripts, (s.replay c config).result.passed = true))) ∧
    (outcome.disk.here = d.here ∧
      ∀ place, (∀ path, o.output = some path → d.target path ≠ .ok place) →
        outcome.disk.item? place = d.item? place) ∧
    (Stuck o d → outcome.disk = d) ∧
    (Stuck o d ∨ ¬ OutputOpens d o.output → ∃ f before ls, Founded o d f ∧
      f.Told host.words ls ∧ outcome.errors = before ++ lines ls) ∧
    (∀ config c, ConfigLoads d o.config config → SlidesLoad d o.slides c → o.listSlides = true →
      OutputOpens d o.output →
        (o.output = none → outcome.output = slideList c ∧ outcome.disk = d) ∧
        ∀ path, o.output = some path → outcome.output = "" ∧
          outcome.disk.readText path = .ok (slideList c)) ∧
    ∀ config c scripts, Prepared o d config c scripts → OutputOpens d o.output →
      let rs := results c config clock.script scripts
      let report := written o.format host.colored rs clock.summed clock.total clock.stamp
      let printed := preface host o (replayAll c config clock.script 0 scripts)
      Reported host.colored rs clock.summed clock.total clock.stamp o.format report ∧
        outcome.errors = warned host c ∧
        (o.output = none → outcome.output = printed ++ report ∧ outcome.disk = d) ∧
        ∀ path, o.output = some path → outcome.output = printed ∧
          outcome.disk.readText path = .ok report := by
  intro outcome
  have hrun : outcome = execute host o clock d := by simp only [outcome, run, h]
  have hending : Ending host o clock d outcome := hrun ▸ ending_execute host o clock d
  exact ⟨hending.code, hending.code_eq_zero_iff, hending.kept, hending.disk_of_stuck,
    hending.told, fun config c => hending.listing, fun config c scripts => hending.found⟩

/-- A disk with slides, scripts and the report of an earlier run. -/
def desk (slides scripts report : String) : Disk where
  items := [(["slides.json"], .file slides.toUTF8), (["scripts.json"], .file scripts.toUTF8),
    (["report.md"], .file report.toUTF8)]
  here := []

section

variable (slides scripts report : String)

theorem readText_slides_desk :
    (desk slides scripts report).readText "slides.json" = .ok slides := by
  have hfind : (desk slides scripts report).find "slides.json" =
      .ok (["slides.json"], .file slides.toUTF8) := by cbv
  exact Disk.readText_of_find hfind

theorem readText_scripts_desk :
    (desk slides scripts report).readText "scripts.json" = .ok scripts := by
  have hfind : (desk slides scripts report).find "scripts.json" =
      .ok (["scripts.json"], .file scripts.toUTF8) := by cbv
  exact Disk.readText_of_find hfind

theorem target_desk :
    (desk slides scripts report).target "report.md" = .ok ["report.md"] := by cbv

theorem scriptFiles_desk : (Text.splitCommas "scripts.json").flatMap
    (scriptFiles (desk slides scripts report)) = ["scripts.json"] := by cbv

end

/-- There is no bell, so one of the scripts does not pass, and the report says how both went. If
the slides cannot be read, the report of the earlier run stays. -/
theorem run_rules_desk :
    let arguments := ["--slides", "slides.json", "--scripts=scripts.json", "--report=markdown",
      "--output", "report.md"]
    let deck : Deck := .ofList [("gate", {})]
    let scripts : List Script := [{ name := "idle" }, { name := "rung", steps := [.press "bell"] }]
    let d := desk deck.toValue.compact (Json.Value.array (scripts.map Script.toValue)).compact
      "# Yesterday"
    let host : Host := ⟨false, fun _ => "expected value at line 1 column 1"⟩
    let clock : Clock := ⟨fun i => .ofNanoseconds (.ofNat (i + 5)), .ofNanoseconds 12,
      .ofNanoseconds 13, "noon"⟩
    let outcome := run host arguments clock d
    let early := run host arguments clock (desk "" "" "# Yesterday")
    outcome.code = 1 ∧ outcome.errors = "" ∧
    outcome.output = "🎞️ Slideweave Playthrough Tester\n" ++ "================================\n" ∧
    outcome.disk.readText "report.md" = .ok ("# Slideweave Playthrough Results\n\n" ++
      "_Generated noon_\n\n" ++ "## Summary\n\n" ++ "- **Total scripts**: 2\n" ++
      "- **Passed**: 1\n" ++ "- **Failed**: 1\n" ++ "- **Success rate**: 50.0%\n\n" ++
      "## Detailed Results\n\n" ++ "### ✅ idle\n\n" ++ "- **Steps**: 0/0 replayed\n" ++
      "- **Final slide**: `gate`\n" ++ "- **Time**: 5ns\n\n" ++ "### ❌ rung\n\n" ++
      "- **Steps**: 1/1 replayed\n" ++ "- **Final slide**: `gate`\n" ++ "- **Time**: 6ns\n" ++
      "- **Failures**:\n" ++
      "  - step 1 (press `bell`) on `gate`: slide `gate` has no button `bell`\n\n") ∧
    outcome.disk.item? ["slides.json"] = d.item? ["slides.json"] ∧
    early.disk = desk "" "" "# Yesterday" ∧
    ∃ (f : Failure) (before : String) (ls : List String), f.Told host.words ls ∧
      early.errors = before ++ lines ls := by
  intro arguments deck scripts d host clock outcome early
  let c := Catalog.ofDeck 0 deck
  have harguments : CommandLine.parse arguments = .ok (.run
      { slides := "slides.json", scripts := "scripts.json", format := .markdown,
        output := some "report.md" }) := by
    cbv
  have hslides : SlidesLoad d "slides.json" c :=
    ⟨_, deck, readText_slides_desk _ _ _, Deck.ofText_toValue deck, rfl⟩
  have hfile : FileLoads d "scripts.json" scripts :=
    ⟨_, readText_scripts_desk _ _ _, Script.listOfText_chars Json.Layout.blank_compact
      (Script.plain_array 121 scripts) (Script.listOfValue?_array scripts)⟩
  have hscripts : ScriptsLoad d "scripts.json" scripts := by
    refine ⟨List.cons_ne_nil _ _, [scripts], ?_, List.flatten_singleton.symm⟩
    rw [scriptFiles_desk]
    exact .cons hfile .nil
  have hopens : OutputOpens d (some "report.md") := by
    rintro path ⟨⟩
    exact ⟨_, target_desk _ _ _⟩
  obtain ⟨hcode, hpassed, ⟨-, hkept⟩, -, -, -, hreport⟩ := run_rules harguments host clock d
  obtain ⟨-, hwarned, -, hfound⟩ :=
    hreport {} c scripts ⟨rfl, hslides, rfl, nofun, hscripts⟩ hopens
  obtain ⟨-, -, -, hstays, htold, -⟩ :=
    run_rules harguments host clock (desk "" "" "# Yesterday")
  have hstuck : Stuck
      { slides := "slides.json", scripts := "scripts.json", format := .markdown,
        output := some "report.md" } (desk "" "" "# Yesterday") := by
    intro config c' _ hnone
    obtain ⟨text, deck', htext, hdeck, -⟩ := hnone
    cases (readText_slides_desk _ _ _).symm.trans htext
    cases hdeck
  obtain ⟨f, before, ls, -, hlines, herrors⟩ := htold (.inl hstuck)
  refine ⟨hcode.resolve_left fun h => ?_, hwarned.trans ?_, (hfound _ rfl).1.trans ?_,
    (hfound _ rfl).2.trans (congrArg _ ?_), hkept _ ?_, hstays hstuck, f, before, ls, hlines,
    herrors⟩
  · obtain ⟨config, c', rfl, hslides', -, hlist | ⟨-, scripts', hscripts', hall⟩⟩ := hpassed.1 h
    · cases hlist
    · rw [hscripts'.eq hscripts, hslides'.eq hslides] at hall
      have hrung := hall _ (List.mem_cons_of_mem _ List.mem_cons_self)
      cases hrung
  · rfl
  · rfl
  · dsimp only [host, clock, scripts, c, deck]
    decide +kernel
  · rintro path ⟨⟩ htarget
    have hplace := Except.ok.inj ((target_desk _ _ _).symm.trans htarget)
    revert hplace
    decide

end Program

end SlideGraph
