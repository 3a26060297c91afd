import SlideGraph.Playthrough.Loading
import SlideGraph.Proofs.Disk.Listing
import SlideGraph.Proofs.Text.Bytes

/-!
# The script files for which a path stands

A directory stands for the script files directly in it in ascending order of the bytes of their
names, in whatever order the disk lists them, and each of them is found under its own path.
-/

namespace SlideGraph.Playthrough

variable {d : Disk} {path name : String} {place : Place}

/-! ### Names of script files -/

theorem endsWith_iff {s suffix : String} :
    s.endsWith suffix = true ↔ ∃ stem, s = stem ++ suffix := by
  rw [String.endsWith_eq_endsWith_toSlice, String.Slice.endsWith_string_iff, String.copy_toSlice]
  constructor
  · rintro ⟨cs, hcs⟩
    exact ⟨String.ofList cs, String.toList_inj.1 (by simp [hcs])⟩
  · rintro ⟨stem, rfl⟩
    exact ⟨stem.toList, (String.toList_append).symm⟩

/-- A script file has something in front of the extension. -/
theorem isScriptName_iff :
    isScriptName name = true ↔ ∃ stem, stem ≠ "" ∧ name = stem ++ ".json" := by
  rw [isScriptName, Bool.and_eq_true, endsWith_iff, decide_eq_true_iff, extension]
  constructor
  · rintro ⟨⟨stem, rfl⟩, hne⟩
    refine ⟨stem, ?_, rfl⟩
    rintro rfl
    exact hne rfl
  · rintro ⟨stem, hne, rfl⟩
    refine ⟨⟨stem, rfl⟩, fun h => hne ?_⟩
    simpa using h

/-- The names of script files among names, in ascending order. -/
def scriptNames (names : List String) : List String :=
  (names.filter isScriptName).mergeSort fun a b => decide (a ≤ b)

theorem pairwise_scriptNames (names : List String) : (scriptNames names).Pairwise (· ≤ ·) := by
  have htrans (a b c : String) (hab : decide (a ≤ b) = true) (hbc : decide (b ≤ c) = true) :
      decide (a ≤ c) = true := by
    rw [decide_eq_true_iff] at hab hbc ⊢
    exact hab.trans hbc
  have htotal (a b : String) : (decide (a ≤ b) || decide (b ≤ a)) = true := by
    simpa using le_total a b
  have hsorted := List.pairwise_mergeSort htrans htotal (names.filter isScriptName)
  rw [scriptNames]
  simpa only [decide_eq_true_iff] using hsorted

theorem scriptNames_perm (names : List String) :
    (scriptNames names).Perm (names.filter isScriptName) :=
  List.mergeSort_perm _ _

/-- The names are told by their order and by which they are. -/
theorem scriptNames_eq {listing names : List String} (hascending : names.Pairwise (· ≤ ·))
    (hperm : names.Perm (listing.filter isScriptName)) : scriptNames listing = names :=
  ((scriptNames_perm listing).trans hperm.symm).eq_of_pairwise (fun _ _ _ _ => le_antisymm)
    (pairwise_scriptNames listing) hascending

/-- The order of the listing does not matter. -/
theorem scriptNames_congr {listing names : List String} (h : listing.Perm names) :
    scriptNames listing = scriptNames names :=
  scriptNames_eq (pairwise_scriptNames names) ((scriptNames_perm names).trans (h.symm.filter _))

/-! ### Directories -/

/-- The bytes of the names ascend from each name to the next. -/
def Ascending (names : List String) : Prop := names.Pairwise fun a b => Text.bytes a < Text.bytes b

/-- Names in ascending order are told by which they are. -/
theorem Ascending.eq {names names' : List String} (h : Ascending names) (h' : Ascending names')
    (hmem : ∀ name, name ∈ names ↔ name ∈ names') : names = names' := by
  have hlt {l : List String} (hl : Ascending l) : l.Pairwise (· < ·) := hl.imp Text.bytes_lt_iff.1
  have hperm : names.Perm names' :=
    (List.perm_ext_iff_of_nodup ((hlt h).imp ne_of_lt) ((hlt h').imp ne_of_lt)).2 hmem
  exact hperm.eq_of_pairwise (fun a b _ _ hab hba => (lt_asymm hab hba).elim) (hlt h) (hlt h')

/-- The script files for which a path stands: those directly in it if it leads to a directory, in
ascending order of the bytes of their names, or else itself. -/
inductive StandsFor (d : Disk) (path : String) : List String → Prop
  | file (h : ∀ place, d.find path ≠ .ok (place, .directory)) : StandsFor d path [path]
  | directory {place : Place} {names : List String} (h : d.find path = .ok (place, .directory))
      (hascending : Ascending names)
      (hnames : ∀ name, name ∈ names ↔ (∃ item, d.item? (place ++ [name]) = some item) ∧
        ∃ stem, stem ≠ "" ∧ name = stem ++ ".json") :
      StandsFor d path (names.map (join path))

theorem scriptFiles_of_directory (h : d.find path = .ok (place, .directory)) :
    scriptFiles d path = (scriptNames (d.names place)).map (join path) := by
  have hlist : d.list path = .ok (d.names place) := by rw [Disk.list, h]
  rw [scriptFiles, hlist]
  rfl

theorem scriptFiles_of_file (h : ∀ place, d.find path ≠ .ok (place, .directory)) :
    scriptFiles d path = [path] := by
  have hlist : ∃ fault, d.list path = .error fault := by
    rw [Disk.list]
    split
    · exact ⟨_, rfl⟩
    · exact ⟨_, rfl⟩
    · exact absurd ‹_› (h _)
  obtain ⟨fault, hfault⟩ := hlist
  rw [scriptFiles, hfault]

theorem mem_scriptNames_iff : name ∈ scriptNames (d.names place) ↔
    (∃ item, d.item? (place ++ [name]) = some item) ∧
      ∃ stem, stem ≠ "" ∧ name = stem ++ ".json" := by
  rw [(scriptNames_perm _).mem_iff, List.mem_filter, Disk.mem_names_iff, isScriptName_iff]

/-- On a tree no name is there twice, so the names ascend at every step. -/
theorem ascending_scriptNames (h : d.IsTree) (place : Place) :
    Ascending (scriptNames (d.names place)) := by
  have hnodup : (scriptNames (d.names place)).Nodup :=
    (scriptNames_perm _).nodup_iff.2 ((h.nodup_names place).filter _)
  refine (pairwise_scriptNames _).imp₂ ?_ hnodup
  intro a b hle hne
  exact Text.bytes_lt_iff.2 (lt_of_le_of_ne hle hne)

theorem standsFor_iff (h : d.IsTree) {files : List String} :
    StandsFor d path files ↔ files = scriptFiles d path := by
  constructor
  · intro hfiles
    cases hfiles with
    | file hfile => exact (scriptFiles_of_file hfile).symm
    | directory hfind hascending hnames =>
      rw [scriptFiles_of_directory hfind]
      congr 1
      apply hascending.eq (ascending_scriptNames h _)
      intro name
      rw [hnames, mem_scriptNames_iff]
  · rintro rfl
    by_cases hdirectory : ∃ place, d.find path = .ok (place, .directory)
    · obtain ⟨place, hfind⟩ := hdirectory
      rw [scriptFiles_of_directory hfind]
      exact .directory hfind (ascending_scriptNames h place) fun name => mem_scriptNames_iff
    · have hfile : ∀ place, d.find path ≠ .ok (place, .directory) := fun place hfind =>
        hdirectory ⟨place, hfind⟩
      rw [scriptFiles_of_file hfile]
      exact .file hfile

/-- What a path stands for does not depend on the order in which the disk lists its items. -/
theorem StandsFor.congr {d' : Disk} (hsame : d.Same d') {files : List String}
    (h : StandsFor d path files) : StandsFor d' path files := by
  cases h with
  | file hfile => exact .file fun place => by rw [← hsame.find]; exact hfile place
  | directory hfind hascending hnames =>
    refine .directory (by rw [← hsame.find, hfind]) hascending fun name => ?_
    rw [hnames, hsame.item?]

/-! ### Paths of script files -/

theorem namesOf_join (path : String) (hname : Disk.IsName name) : ∃ above,
    Disk.namesOf (join path name) = above ++ [name] ∧
      (Disk.namesOf path = above ∨ Disk.namesOf path = above ++ [""]) := by
  have hlast := Disk.namesOf_of_not_mem hname.slash
  rw [join]
  split_ifs with hslash
  · obtain ⟨stem, rfl⟩ := endsWith_iff.1 hslash
    have hstem := Disk.namesOf_append_slash stem ""
    rw [String.append_empty] at hstem
    exact ⟨Disk.namesOf stem, by rw [Disk.namesOf_append_slash, hlast], .inr hstem⟩
  · exact ⟨Disk.namesOf path, by rw [Disk.namesOf_append_slash, hlast], .inl rfl⟩

theorem pathFault?_join (hpath : Disk.pathFault? path = none) (hname : Disk.IsName name)
    (hlength : (join path name).utf8ByteSize < 4096) :
    Disk.pathFault? (join path name) = none := by
  rw [Disk.pathFault?_eq_none_iff] at hpath ⊢
  obtain ⟨hnul, hne, -⟩ := hpath
  refine ⟨?_, ?_, hlength⟩
  · rw [join]
    split_ifs <;> simp [hnul, hname.nul]
  · rw [join]
    split_ifs <;> simp [hne]

theorem origin_join (hpath : Disk.pathFault? path = none) :
    d.origin (join path name) = d.origin path := by
  have hne := (Disk.pathFault?_eq_none_iff.1 hpath).2.1
  have hstart (rest : String) : (path ++ rest).startsWith "/" = path.startsWith "/" := by
    rw [Bool.eq_iff_iff, String.startsWith_string_iff, String.startsWith_string_iff,
      String.toList_append]
    obtain ⟨c, cs, hcs⟩ := List.exists_cons_of_ne_nil (mt String.toList_eq_nil_iff.1 hne)
    rw [hcs]
    simp [List.cons_prefix_cons]
  have hjoin : (join path name).startsWith "/" = path.startsWith "/" := by
    rw [join]
    split_ifs
    · exact hstart name
    · rw [String.append_assoc]
      exact hstart _
  rw [Disk.origin, Disk.origin, hjoin]

/-- A thing in a directory is found under its name joined to the path of the directory, unless that
makes the path too long. -/
theorem find_join (h : d.IsTree) (hfind : d.find path = .ok (place, .directory)) {item : Item}
    (hitem : d.item? (place ++ [name]) = some item)
    (hlength : (join path name).utf8ByteSize < 4096) :
    d.find (join path name) = .ok (place ++ [name], item) := by
  obtain ⟨hpath, hwalk, hplace⟩ := Disk.find_eq_ok_iff.1 hfind
  have hname := h.isName hitem
  obtain ⟨above, hnames, hpathNames⟩ := namesOf_join path hname
  have habove : d.walk (d.origin path) above = .ok place := by
    rcases hpathNames with hpathNames | hpathNames
    · rw [← hpathNames, hwalk]
    · rw [hpathNames] at hwalk
      obtain ⟨between, hbefore, hafter⟩ := Disk.walk_append_eq_ok_iff.1 hwalk
      obtain ⟨-, next, hnext, hlast⟩ := Disk.walk_cons_eq_ok_iff.1 hafter
      cases d.enters_empty_iff.1 hnext
      cases hlast
      exact hbefore
  refine Disk.find_eq_ok_iff.2 ⟨pathFault?_join hpath hname hlength, ?_, hitem⟩
  rw [origin_join hpath, hnames]
  exact Disk.walk_append habove (Disk.walk_child hplace hname hitem)

end SlideGraph.Playthrough
