import Mathlib.Data.List.Forall2
import Mathlib.Tactic.Common
import SlideGraph.Program

/-!
# What a run of the program needs

A run needs its settings, its slides, scripts and a place for its output. Where it does not get one
of them, there is a reason on the disk, and the failure that it tells of is founded on it.
-/

namespace SlideGraph

open Playthrough (Script ScriptError scriptFiles)

namespace Program

/-! ### What a run needs -/

/-- The settings of a run: those in a file, or the defaults where no file is given. -/
def ConfigLoads (d : Disk) (path : Option String) (config : Config) : Prop :=
  match path with
  | none => config = {}
  | some path => ∃ text, d.readText path = .ok text ∧ Config.ofText text = .ok config

/-- The catalog of the slides in a file. -/
def SlidesLoad (d : Disk) (path : String) (c : Catalog) : Prop :=
  ∃ text deck, d.readText path = .ok text ∧ Deck.ofText text = .ok deck ∧ c = .ofDeck 0 deck

/-- The scripts in a file. -/
def FileLoads (d : Disk) (path : String) (scripts : List Script) : Prop :=
  ∃ text, d.readText path = .ok text ∧ Script.listOfText text = .ok scripts

/-- The scripts in all the files for which a list of paths stands, of which there is one at
least. -/
def ScriptsLoad (d : Disk) (paths : String) (scripts : List Script) : Prop :=
  scripts ≠ [] ∧ ∃ parts, List.Forall₂ (FileLoads d)
    ((Text.splitCommas paths).flatMap (scriptFiles d)) parts ∧ scripts = parts.flatten

/-- There are no issues where they matter. -/
def Accepts (validate : Bool) (c : Catalog) : Prop := validate = true → c.issues = []

/-- A file can be written under the path that is given, if one is given. -/
def OutputOpens (d : Disk) (output : Option String) : Prop :=
  ∀ path, output = some path → ∃ place, d.target path = .ok place

section

variable {d : Disk}

theorem loadConfig_eq_ok_iff {path : Option String} {config : Config} :
    loadConfig d path = .ok config ↔ ConfigLoads d path config := by
  cases path with
  | none => simp [loadConfig, ConfigLoads, eq_comm]
  | some path =>
    rw [loadConfig, ConfigLoads]
    cases d.readText path with
    | error fault => simp
    | ok text => cases h : Config.ofText text <;> simp [h]

theorem loadCatalog_eq_ok_iff {path : String} {c : Catalog} :
    (∃ records, loadCatalog d path = .ok (c, records)) ↔ SlidesLoad d path c := by
  rw [SlidesLoad]
  simp only [loadCatalog, Source.catalog, Source.deck, Source.parse]
  cases d.readText path with
  | error fault => simp
  | ok text => cases h : Deck.ofText text <;> simp [h, eq_comm]

theorem loadFile_eq_ok_iff {path : String} {scripts : List Script} :
    Script.loadFile d path = .ok scripts ↔ FileLoads d path scripts := by
  rw [Script.loadFile, FileLoads]
  cases d.readText path with
  | error fault => simp
  | ok text => cases h : Script.listOfText text <;> simp [h]

theorem loadFiles_eq_ok_iff {paths : List String} {scripts : List Script} :
    Script.loadFiles d paths = .ok scripts ↔
      ∃ parts, List.Forall₂ (FileLoads d) paths parts ∧ scripts = parts.flatten := by
  constructor
  · intro h
    induction paths generalizing scripts with
    | nil =>
      cases h
      exact ⟨[], .nil, rfl⟩
    | cons path paths ih =>
      rw [Script.loadFiles] at h
      split at h
      · cases h
      · rename_i part hpart
        split at h
        · cases h
        · rename_i rest hrest
          cases h
          obtain ⟨parts, hparts, rfl⟩ := ih hrest
          exact ⟨part :: parts, .cons (loadFile_eq_ok_iff.1 hpart) hparts, rfl⟩
  · rintro ⟨parts, hparts, rfl⟩
    induction hparts with
    | nil => rfl
    | cons hpart _ ih => rw [Script.loadFiles, loadFile_eq_ok_iff.2 hpart, ih, List.flatten_cons]

theorem loadScripts_eq_ok_iff {paths : String} {scripts : List Script} :
    loadScripts d paths = .ok scripts ↔ ScriptsLoad d paths scripts := by
  rw [ScriptsLoad, ← loadFiles_eq_ok_iff, loadScripts, Script.load]
  cases Script.loadFiles d ((Text.splitCommas paths).flatMap (scriptFiles d)) with
  | error e => simp
  | ok loaded =>
    cases loaded with
    | nil => simp [eq_comm]
    | cons s rest =>
      simp only [Except.ok.injEq]
      constructor
      · rintro rfl
        exact ⟨List.cons_ne_nil s rest, rfl⟩
      · rintro ⟨-, h⟩
        exact h

theorem failure_eq_none_iff (colored : Bool) (path : String) {validate : Bool} {c : Catalog} :
    (checkCatalog colored path validate c).failure = none ↔ Accepts validate c := by
  cases validate <;> simp [checkCatalog, Accepts]

/-! ### Why a run fails -/

/-- What is wrong with a script file. -/
inductive FileFails (d : Disk) (path : String) : ScriptError → Prop
  | unreadable {fault : FileFault} (h : d.readText path = .error fault) :
      FileFails d path (.unreadable path fault)
  | malformed {text : String} {fault : Json.Fault} (h : d.readText path = .ok text)
      (hparse : Script.listOfText text = .error fault) : FileFails d path (.malformed path fault)

theorem loadFile_eq_error_iff {path : String} {e : ScriptError} :
    Script.loadFile d path = .error e ↔ FileFails d path e := by
  constructor
  · intro h
    rw [Script.loadFile] at h
    split at h
    · rename_i fault hfault
      cases h
      exact .unreadable hfault
    · rename_i text htext
      split at h
      · rename_i fault hfault
        cases h
        exact .malformed htext hfault
      · cases h
  · intro h
    cases h with
    | unreadable h => rw [Script.loadFile, h]
    | malformed h hparse => simp only [Script.loadFile, h, hparse]

/-- Loading fails at the first file that fails. -/
theorem loadFiles_eq_error_iff {files : List String} {e : ScriptError} :
    Script.loadFiles d files = .error e ↔ ∃ before path after parts,
      files = before ++ path :: after ∧ List.Forall₂ (FileLoads d) before parts ∧
        FileFails d path e := by
  constructor
  · intro h
    induction files with
    | nil => cases h
    | cons file files ih =>
      rw [Script.loadFiles] at h
      split at h
      · rename_i e' hfile
        cases h
        exact ⟨[], file, files, [], rfl, .nil, loadFile_eq_error_iff.1 hfile⟩
      · rename_i part hpart
        split at h
        · rename_i e' hrest
          cases h
          obtain ⟨before, path, after, parts, rfl, hbefore, hfails⟩ := ih hrest
          exact ⟨file :: before, path, after, part :: parts, rfl,
            .cons (loadFile_eq_ok_iff.1 hpart) hbefore, hfails⟩
        · cases h
  · rintro ⟨before, path, after, parts, rfl, hbefore, hfails⟩
    induction hbefore with
    | nil =>
      rw [List.nil_append, Script.loadFiles, loadFile_eq_error_iff.2 hfails]
    | cons hpart _ ih =>
      rw [List.cons_append, Script.loadFiles, loadFile_eq_ok_iff.2 hpart, ih]

/-- What a failure tells of is so: there is a reason for it in the options and on the disk. -/
inductive Founded (o : Options) (d : Disk) : Failure → Prop
  | configUnreadable {path : String} {fault : FileFault} (h : o.config = some path)
      (hread : d.readText path = .error fault) : Founded o d (.configUnreadable path fault)
  | configMalformed {path text : String} {fault : Json.Fault} (h : o.config = some path)
      (hread : d.readText path = .ok text) (hparse : Config.ofText text = .error fault) :
      Founded o d (.configMalformed path fault)
  | slidesUnreachable {fault : FileFault} (hread : d.readText o.slides = .error fault) :
      Founded o d (.slides (.unreachable o.slides fault))
  | slidesMalformed {text : String} {fault : Json.Fault} (hread : d.readText o.slides = .ok text)
      (hparse : Deck.ofText text = .error fault) : Founded o d (.slides (.malformed o.slides fault))
  | graphIssues {c : Catalog} (hslides : SlidesLoad d o.slides c) (hvalidate : o.validate = true)
      (hissues : c.issues ≠ []) : Founded o d (.graphIssues o.slides c.issues.length)
  | script {before after : List String} {path : String} {parts : List (List Script)}
      {e : ScriptError}
      (hfiles : (Text.splitCommas o.scripts).flatMap (scriptFiles d) = before ++ path :: after)
      (hbefore : List.Forall₂ (FileLoads d) before parts) (h : FileFails d path e) :
      Founded o d (.script e)
  | noScripts {parts : List (List Script)}
      (hparts : List.Forall₂ (FileLoads d)
        ((Text.splitCommas o.scripts).flatMap (scriptFiles d)) parts)
      (hnone : parts.flatten = []) : Founded o d (.noScripts o.scripts)
  | outputUnavailable {path : String} {fault : FileFault} (h : o.output = some path)
      (htarget : d.target path = .error fault) : Founded o d (.outputUnavailable path fault)

variable {o : Options} {f : Failure}

theorem founded_of_loadConfig (h : loadConfig d o.config = .error f) : Founded o d f := by
  cases hpath : o.config with
  | none =>
    rw [hpath] at h
    cases h
  | some path =>
    rw [hpath, loadConfig] at h
    split at h
    · rename_i fault hread
      cases h
      exact .configUnreadable hpath hread
    · rename_i text hread
      split at h
      · rename_i fault hparse
        cases h
        exact .configMalformed hpath hread hparse
      · cases h

theorem founded_of_loadCatalog (h : loadCatalog d o.slides = .error f) : Founded o d f := by
  simp only [loadCatalog, Source.catalog, Source.deck, Source.parse] at h
  cases hread : d.readText o.slides with
  | error fault =>
    rw [hread] at h
    cases h
    exact .slidesUnreachable hread
  | ok text =>
    simp only [hread] at h
    cases hparse : Deck.ofText text with
    | error fault =>
      rw [hparse] at h
      cases h
      exact .slidesMalformed hread hparse
    | ok deck =>
      rw [hparse] at h
      cases h

theorem founded_of_failure {colored : Bool} {c : Catalog} (hslides : SlidesLoad d o.slides c)
    (h : (checkCatalog colored o.slides o.validate c).failure = some f) : Founded o d f := by
  simp only [checkCatalog] at h
  split at h
  · rename_i hissues
    rw [Bool.and_eq_true] at hissues
    cases h
    exact .graphIssues hslides hissues.1 (by simpa using hissues.2)
  · cases h

theorem founded_of_loadScripts (h : loadScripts d o.scripts = .error f) : Founded o d f := by
  rw [loadScripts] at h
  split at h
  · rename_i e hload
    obtain ⟨before, path, after, parts, hfiles, hbefore, hfails⟩ := loadFiles_eq_error_iff.1 hload
    cases h
    exact .script hfiles hbefore hfails
  · rename_i hload
    obtain ⟨parts, hparts, hnone⟩ := loadFiles_eq_ok_iff.1 hload
    cases h
    exact .noScripts hparts hnone.symm
  · cases h

theorem founded_of_deliver {printed text : String}
    (h : deliver o.output printed text d = .error f) : Founded o d f := by
  cases hpath : o.output with
  | none =>
    rw [hpath] at h
    cases h
  | some path =>
    simp only [hpath, deliver, Disk.writeText] at h
    cases htarget : d.target path with
    | ok place =>
      rw [htarget] at h
      cases h
    | error fault =>
      rw [htarget] at h
      cases h
      exact .outputUnavailable hpath htarget

end

end Program

end SlideGraph
