import Mathlib
import SlideGraph.Proofs.Playthrough.Document
import SlideGraph.Proofs.Playthrough.Loading
import SlideGraph.Proofs.Program.Needs

/-!
# In which order scripts are loaded

Scripts are loaded piece by piece of the list of paths, and in a directory file by file in the order
of the names. The first file that cannot be used ends it. So what is loaded depends on what is on
the disk, but not on the order in which the disk lists it.
-/

namespace SlideGraph

open Playthrough (Script ScriptError StandsFor scriptFiles scriptNames join)

namespace Program

variable {d d' : Disk} {path paths : String}

/-! ### Files -/

theorem loadFiles_append (files files' : List String) :
    Script.loadFiles d (files ++ files') =
      match Script.loadFiles d files with
      | .error e => .error e
      | .ok scripts => (Script.loadFiles d files').map (scripts ++ ·) := by
  induction files with
  | nil => cases h : Script.loadFiles d files' <;> simp [Script.loadFiles, h, Except.map]
  | cons file files ih =>
    rw [List.cons_append, Script.loadFiles, Script.loadFiles, ih]
    cases Script.loadFile d file with
    | error e => rfl
    | ok part =>
      cases Script.loadFiles d files with
      | error e => rfl
      | ok scripts =>
        cases Script.loadFiles d files' with
        | error e => rfl
        | ok more => simp [Except.map]

/-! ### One piece after another -/

/-- The script files for which a path stands when its directory is listed in some order. -/
inductive Listed (d : Disk) (path : String) : List String → Prop
  | file {fault : FileFault} (h : d.list path = .error fault) : Listed d path [path]
  | directory {names listing : List String} (h : d.list path = .ok names)
      (hlisting : listing.Perm names) : Listed d path ((scriptNames listing).map (join path))

theorem listed_iff {files : List String} : Listed d path files ↔ files = scriptFiles d path := by
  constructor
  · intro h
    cases h with
    | file h => rw [scriptFiles, h]
    | directory h hlisting =>
      rw [Playthrough.scriptNames_congr hlisting, scriptFiles, h]
      rfl
  · rintro rfl
    rw [scriptFiles]
    split
    · rename_i names h
      exact .directory h (.refl names)
    · rename_i fault h
      exact .file h

/-- The pieces are turned into files and loaded one after another. At every turn a directory is
listed in some order, the same directory not always in the same. -/
inductive LoadsInTurn (d : Disk) : List String → Except ScriptError (List Script) → Prop
  | done : LoadsInTurn d [] (.ok [])
  | failed {path : String} {pieces files : List String} {e : ScriptError}
      (hfiles : Listed d path files) (h : Script.loadFiles d files = .error e) :
      LoadsInTurn d (path :: pieces) (.error e)
  | loaded {path : String} {pieces files : List String} {scripts : List Script}
      {r : Except ScriptError (List Script)} (hfiles : Listed d path files)
      (h : Script.loadFiles d files = .ok scripts) (hrest : LoadsInTurn d pieces r) :
      LoadsInTurn d (path :: pieces) (r.map (scripts ++ ·))

/-- No listing changes what is loaded. -/
theorem loadsInTurn_iff {pieces : List String} {r : Except ScriptError (List Script)} :
    LoadsInTurn d pieces r ↔ r = Script.loadFiles d (pieces.flatMap (scriptFiles d)) := by
  constructor
  · intro h
    induction h with
    | done => rfl
    | failed hfiles h =>
      rw [List.flatMap_cons, loadFiles_append, ← listed_iff.1 hfiles, h]
    | loaded hfiles h _ ih =>
      rw [List.flatMap_cons, loadFiles_append, ← listed_iff.1 hfiles, h, ih]
  · rintro rfl
    induction pieces with
    | nil => exact .done
    | cons path pieces ih =>
      rw [List.flatMap_cons, loadFiles_append]
      cases h : Script.loadFiles d (scriptFiles d path) with
      | error e => exact .failed (listed_iff.2 rfl) h
      | ok scripts => exact .loaded (listed_iff.2 rfl) h ih

/-! ### All files -/

/-- The script files for which a comma-separated list of paths stands. -/
def FilesOf (d : Disk) (paths : String) (files : List String) : Prop :=
  ∃ pieces parts, Text.Pieces (paths.toList.splitOn ',') pieces ∧
    List.Forall₂ (StandsFor d) pieces parts ∧ files = parts.flatten

theorem forall₂_standsFor_iff (h : d.IsTree) {pieces : List String} {parts : List (List String)} :
    List.Forall₂ (StandsFor d) pieces parts ↔ parts = pieces.map (scriptFiles d) := by
  induction pieces generalizing parts with
  | nil => simp
  | cons path pieces ih =>
    simp only [List.forall₂_cons_left_iff, Playthrough.standsFor_iff h, ih, List.map_cons]
    constructor
    · rintro ⟨files, rest, rfl, rfl, rfl⟩
      rfl
    · rintro rfl
      exact ⟨_, _, rfl, rfl, rfl⟩

theorem filesOf_iff (h : d.IsTree) {files : List String} :
    FilesOf d paths files ↔ files = (Text.splitCommas paths).flatMap (scriptFiles d) := by
  rw [FilesOf, List.flatMap_def]
  simp only [Text.splitCommas_iff, forall₂_standsFor_iff h]
  constructor
  · rintro ⟨pieces, parts, rfl, rfl, rfl⟩
    rfl
  · rintro rfl
    exact ⟨_, _, rfl, rfl, rfl⟩

theorem FilesOf.congr (hsame : d.Same d') {files : List String} (h : FilesOf d paths files) :
    FilesOf d' paths files := by
  obtain ⟨pieces, parts, hpieces, hparts, rfl⟩ := h
  exact ⟨pieces, parts, hpieces, hparts.imp fun _ _ => StandsFor.congr hsame, rfl⟩

/-- How loading the scripts of a list of paths ends. -/
inductive Loading (d : Disk) (paths : String) : Except Failure (List Script) → Prop
  | loaded {files : List String} {parts : List (List Script)} (hfiles : FilesOf d paths files)
      (hparts : List.Forall₂ (FileLoads d) files parts) (h : parts.flatten ≠ []) :
      Loading d paths (.ok parts.flatten)
  | none {files : List String} {parts : List (List Script)} (hfiles : FilesOf d paths files)
      (hparts : List.Forall₂ (FileLoads d) files parts) (h : parts.flatten = []) :
      Loading d paths (.error (.noScripts paths))
  | failed {before after : List String} {path : String} {parts : List (List Script)}
      {e : ScriptError} (hfiles : FilesOf d paths (before ++ path :: after))
      (hbefore : List.Forall₂ (FileLoads d) before parts) (h : FileFails d path e) :
      Loading d paths (.error (.script e))

theorem FileLoads.congr (hsame : d.Same d') {scripts : List Script}
    (h : FileLoads d path scripts) : FileLoads d' path scripts := by
  obtain ⟨text, htext, hscripts⟩ := h
  exact ⟨text, by rw [← hsame.readText, htext], hscripts⟩

theorem FileFails.congr (hsame : d.Same d') {e : ScriptError} (h : FileFails d path e) :
    FileFails d' path e := by
  cases h with
  | unreadable h => exact .unreadable (by rw [← hsame.readText, h])
  | malformed h hparse => exact .malformed (by rw [← hsame.readText, h]) hparse

theorem Loading.congr (hsame : d.Same d') {r : Except Failure (List Script)}
    (h : Loading d paths r) : Loading d' paths r := by
  have hloads {files : List String} {parts : List (List Script)}
      (hparts : List.Forall₂ (FileLoads d) files parts) :
      List.Forall₂ (FileLoads d') files parts := hparts.imp fun _ _ => FileLoads.congr hsame
  cases h with
  | loaded hfiles hparts h => exact .loaded (hfiles.congr hsame) (hloads hparts) h
  | none hfiles hparts h => exact .none (hfiles.congr hsame) (hloads hparts) h
  | failed hfiles hbefore h => exact .failed (hfiles.congr hsame) (hloads hbefore) (h.congr hsame)

theorem loadScripts_of_ok {scripts : List Script} (h : Script.load d paths = .ok scripts) :
    loadScripts d paths = if scripts = [] then .error (.noScripts paths) else .ok scripts := by
  rw [loadScripts, h]
  cases scripts <;> rfl

theorem loading_iff (h : d.IsTree) {r : Except Failure (List Script)} :
    Loading d paths r ↔ r = loadScripts d paths := by
  constructor
  · intro hr
    cases hr with
    | loaded hfiles hparts hne =>
      have hload := loadFiles_eq_ok_iff.2 ⟨_, hparts, rfl⟩
      rw [(filesOf_iff h).1 hfiles, ← Script.load] at hload
      rw [loadScripts_of_ok hload, if_neg hne]
    | none hfiles hparts hnone =>
      have hload := loadFiles_eq_ok_iff.2 ⟨_, hparts, rfl⟩
      rw [(filesOf_iff h).1 hfiles, ← Script.load] at hload
      rw [loadScripts_of_ok hload, if_pos hnone]
    | failed hfiles hbefore hfails =>
      rw [loadScripts, Script.load, ← (filesOf_iff h).1 hfiles,
        loadFiles_eq_error_iff.2 ⟨_, _, _, _, rfl, hbefore, hfails⟩]
  · rintro rfl
    cases hload : Script.load d paths with
    | error e =>
      obtain ⟨before, path, after, parts, hfiles, hbefore, hfails⟩ :=
        loadFiles_eq_error_iff.1 hload
      rw [loadScripts, hload]
      exact .failed ((filesOf_iff h).2 hfiles.symm) hbefore hfails
    | ok scripts =>
      obtain ⟨parts, hparts, rfl⟩ := loadFiles_eq_ok_iff.1 hload
      rw [loadScripts_of_ok hload]
      split_ifs with hnone
      · exact .none ((filesOf_iff h).2 rfl) hparts hnone
      · exact .loaded ((filesOf_iff h).2 rfl) hparts hnone

/-- On a tree the scripts of a list of paths are those of its pieces in order, where a directory
stands for the script files directly in it in ascending order of their names. The first file that
cannot be used is the failure, and so is the lack of any script. In whatever order directories are
listed while the program runs, and in whatever order the disk lists its items, the scripts are the
same in the same order, or the failure is the same. What is loaded under the name of a thing in a
directory is that thing. -/
theorem loadScripts_in_order (h : d.IsTree) (paths : String) :
    (∀ r, Loading d paths r ↔ r = loadScripts d paths) ∧
      (∀ r, LoadsInTurn d (Text.splitCommas paths) r ↔ r = Script.load d paths) ∧
      (∀ d', d'.IsTree → d.Same d' → loadScripts d' paths = loadScripts d paths) ∧
      ∀ path place name item, d.find path = .ok (place, .directory) →
        d.item? (place ++ [name]) = some item → (join path name).utf8ByteSize < 4096 →
          d.find (join path name) = .ok (place ++ [name], item) := by
  refine ⟨fun r => loading_iff h, fun r => loadsInTurn_iff, fun d' h' hsame => ?_, ?_⟩
  · have hloading : Loading d paths (loadScripts d paths) := (loading_iff h).2 rfl
    exact ((loading_iff h').1 (hloading.congr hsame)).symm
  · intro path place name item hfind hitem hlength
    exact Playthrough.find_join h hfind hitem hlength

/-- A disk with two scripts in a directory, and a file that is cut off. -/
def shelf (a b : String) : Disk where
  items := [(["maps", "b.json"], .file b.toUTF8), (["torn.json"], .file "[".toUTF8),
    (["maps"], .directory), (["maps", "a.json"], .file a.toUTF8)]
  here := []

section

variable (a b : String)

theorem isTree_shelf : (shelf a b).IsTree where
  nodup := by simp [shelf]
  names := by
    have hname : Disk.IsName "maps" ∧ Disk.IsName "torn.json" ∧ Disk.IsName "a.json" ∧
        Disk.IsName "b.json" := by
      refine ⟨?_, ?_, ?_, ?_⟩ <;> exact ⟨by decide, by decide, by decide, by decide⟩
    simp [shelf, hname]

theorem scriptFiles_shelf : scriptFiles (shelf a b) "maps/" = ["maps/a.json", "maps/b.json"] := by
  have hfind : (shelf a b).find "maps/" = .ok (["maps"], .directory) := by cbv
  have hlisting : (shelf a b).names ["maps"] = ["b.json", "a.json"] := by cbv
  have hnames : scriptNames ["b.json", "a.json"] = ["a.json", "b.json"] :=
    Playthrough.scriptNames_eq (by decide) (by decide +kernel)
  rw [Playthrough.scriptFiles_of_directory hfind, hlisting, hnames]
  decide +kernel

theorem readText_shelf : (shelf a b).readText "maps/a.json" = .ok a ∧
    (shelf a b).readText "maps/b.json" = .ok b ∧ (shelf a b).readText "torn.json" = .ok "[" := by
  have ha : (shelf a b).find "maps/a.json" = .ok (["maps", "a.json"], .file a.toUTF8) := by cbv
  have hb : (shelf a b).find "maps/b.json" = .ok (["maps", "b.json"], .file b.toUTF8) := by cbv
  have htorn : (shelf a b).find "torn.json" = .ok (["torn.json"], .file "[".toUTF8) := by cbv
  exact ⟨Disk.readText_of_find ha, Disk.readText_of_find hb, Disk.readText_of_find htorn⟩

end

/-- The scripts come in the order of their names, also if the disk is listed from behind. The file
that is cut off is the failure, and not the one behind it that is missing. -/
theorem loadScripts_in_order_shelf :
    let a : Script := { name := "a" }
    let b : Script := { name := "b" }
    let d := shelf a.toValue.compact b.toValue.compact
    let d' : Disk := { d with items := d.items.reverse }
    d.IsTree ∧ loadScripts d "maps/, ," = .ok [a, b] ∧ loadScripts d' "maps/, ," = .ok [a, b] ∧
      loadScripts d "maps/,torn.json,none" =
        .error (.script (.malformed "torn.json" .truncated)) := by
  intro a b d d'
  have htree : d.IsTree := isTree_shelf _ _
  have hperm : d.items.Perm d.items.reverse := (List.reverse_perm _).symm
  have hmaps : scriptFiles d "maps/" = ["maps/a.json", "maps/b.json"] := scriptFiles_shelf _ _
  obtain ⟨hreada, hreadb, hreadtorn⟩ := readText_shelf a.toValue.compact b.toValue.compact
  have hloads (s : Script) : Script.listOfText s.toValue.compact = .ok [s] :=
    Script.listOfText_chars Json.Layout.blank_compact (Script.plain_toValue 122 s)
      (Script.listOfValue?_toValue s)
  have hparts : List.Forall₂ (FileLoads d) ["maps/a.json", "maps/b.json"] [[a], [b]] :=
    .cons ⟨_, hreada, hloads a⟩ (.cons ⟨_, hreadb, hloads b⟩ .nil)
  have hfiles : FilesOf d "maps/, ," ["maps/a.json", "maps/b.json"] := by
    have hpieces : Text.splitCommas "maps/, ," = ["maps/"] := by cbv
    rw [filesOf_iff htree, hpieces, List.flatMap_singleton, hmaps]
  have hfiles' : FilesOf d "maps/,torn.json,none"
      (["maps/a.json", "maps/b.json"] ++ "torn.json" :: ["none"]) := by
    have hpieces : Text.splitCommas "maps/,torn.json,none" = ["maps/", "torn.json", "none"] := by
      cbv
    have htorn : scriptFiles d "torn.json" = ["torn.json"] := by cbv
    have hnone : scriptFiles d "none" = ["none"] := by cbv
    simp [filesOf_iff htree, hpieces, hmaps, htorn, hnone]
  obtain ⟨hloading, -, hsame, -⟩ := loadScripts_in_order htree "maps/, ,"
  have hloaded := (hloading _).1 (.loaded hfiles hparts (by simp))
  refine ⟨htree, hloaded.symm, ?_, ?_⟩
  · rw [hsame d' (htree.perm hperm) (htree.same hperm)]
    exact hloaded.symm
  · have hfails : FileFails d "torn.json" (.malformed "torn.json" .truncated) :=
      .malformed hreadtorn (by cbv)
    exact (((loadScripts_in_order htree _).1 _).1 (.failed hfiles' hparts hfails)).symm

end Program

end SlideGraph
