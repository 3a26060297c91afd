import Mathlib.Tactic.Common
import SlideGraph.Collection.Lookup
import SlideGraph.Disk

/-!
# Writing to a disk

Writing a file changes what is at one place and nothing else. The place is in a directory, and the
walk to it leads through directories alone, so the path of a file that has been written leads to the
file, and the text that was written is read there.
-/

namespace SlideGraph

namespace Disk

variable {d : Disk} {place : Place} {path : String}

/-! ### Places -/

theorem item?_write (d : Disk) (content : ByteArray) (h : place ≠ []) (p : Place) :
    (d.write place content).item? p = if p = place then some (.file content) else d.item? p := by
  have hfilter : (d.items.filter fun e => decide (e.1 ≠ place)) =
      d.items.filter (·.1 != place) := by
    congr 1
    funext e
    by_cases he : e.1 = place <;> simp [he]
  simp only [item?, write, hfilter, lookup_cons_ite, lookup_filter_ne]
  by_cases hp : p = place
  · simp [hp, h]
  · simp [hp]

/-! ### Walks -/

/-- From a directory at a place a name leads on to another place. -/
inductive Enters (d : Disk) (place : Place) : String → Place → Prop
  | stay {name : String} (h : name = "" ∨ name = ".") : Enters d place name place
  | leave : Enters d place ".." place.dropLast
  | enter {name : String} {item : Item} (h : ¬ (name = "" ∨ name = "." ∨ name = ".."))
      (hlength : name.utf8ByteSize ≤ 255) (hitem : d.item? (place ++ [name]) = some item) :
      Enters d place name (place ++ [name])

theorem walk_cons_eq_ok_iff {start above : Place} {name : String} {names : List String} :
    d.walk start (name :: names) = .ok above ↔ d.item? start = some .directory ∧
      ∃ next, d.Enters start name next ∧ d.walk next names = .ok above := by
  constructor
  · intro h
    rw [walk] at h
    split at h
    · cases h
    · cases h
    · rename_i hstart
      refine ⟨hstart, ?_⟩
      split_ifs at h with hstay hleave hlength
      · exact ⟨start, .stay hstay, h⟩
      · subst hleave
        exact ⟨start.dropLast, .leave, h⟩
      · split at h
        · cases h
        · rename_i item hitem
          exact ⟨start ++ [name], .enter (by tauto) (Nat.not_lt.1 hlength) hitem, h⟩
  · rintro ⟨hstart, next, hnext, h⟩
    rw [walk, hstart]
    cases hnext with
    | stay hstay => simp [hstay, h]
    | leave => simp [h]
    | enter hname hlength hitem =>
      rw [not_or, not_or] at hname
      simp [hname.1, hname.2.1, hname.2.2, Nat.not_lt.2 hlength, hitem, h]

theorem walk_append {start between above : Place} {before after : List String}
    (hbefore : d.walk start before = .ok between) (hafter : d.walk between after = .ok above) :
    d.walk start (before ++ after) = .ok above := by
  induction before generalizing start with
  | nil =>
    cases hbefore
    exact hafter
  | cons name before ih =>
    obtain ⟨hstart, next, hnext, hrest⟩ := walk_cons_eq_ok_iff.1 hbefore
    exact walk_cons_eq_ok_iff.2 ⟨hstart, next, hnext, ih hrest⟩

/-- The walk may stop on the way. -/
theorem walk_append_eq_ok_iff {start above : Place} {before after : List String} :
    d.walk start (before ++ after) = .ok above ↔
      ∃ between, d.walk start before = .ok between ∧ d.walk between after = .ok above := by
  constructor
  · intro h
    induction before generalizing start with
    | nil => exact ⟨start, rfl, h⟩
    | cons name before ih =>
      obtain ⟨hstart, next, hnext, hrest⟩ := walk_cons_eq_ok_iff.1 h
      obtain ⟨between, hbefore, hafter⟩ := ih hrest
      exact ⟨between, walk_cons_eq_ok_iff.2 ⟨hstart, next, hnext, hbefore⟩, hafter⟩
  · rintro ⟨between, hbefore, hafter⟩
    exact walk_append hbefore hafter

/-- A walk to a directory does not lead through a file. -/
theorem walk_write (content : ByteArray) (hroot : place ≠ [])
    (hplace : d.item? place ≠ some .directory) {start above : Place} {names : List String}
    (h : d.walk start names = .ok above) :
    (d.write place content).walk start names = .ok above := by
  have hsame {p : Place} (hp : d.item? p = some .directory) :
      (d.write place content).item? p = some .directory := by
    rw [item?_write d content hroot, if_neg, hp]
    rintro rfl
    exact hplace hp
  induction names generalizing start with
  | nil => exact h
  | cons name names ih =>
    obtain ⟨hstart, next, hnext, hrest⟩ := walk_cons_eq_ok_iff.1 h
    refine walk_cons_eq_ok_iff.2 ⟨hsame hstart, next, ?_, ih hrest⟩
    cases hnext with
    | stay hstay => exact .stay hstay
    | leave => exact .leave
    | enter hname hlength hitem =>
      obtain ⟨item', hitem'⟩ : ∃ item', (d.write place content).item? (start ++ [name]) =
          some item' := by
        rw [item?_write d content hroot]
        split
        · exact ⟨_, rfl⟩
        · exact ⟨_, hitem⟩
      exact .enter hname hlength hitem'

theorem find_eq_ok_iff {item : Item} : d.find path = .ok (place, item) ↔ pathFault? path = none ∧
    d.walk (d.origin path) (namesOf path) = .ok place ∧ d.item? place = some item := by
  constructor
  · intro h
    rw [find] at h
    split at h
    · cases h
    · rename_i hfault
      split at h
      · cases h
      · rename_i place' hwalk
        split at h
        · cases h
        · rename_i item' hitem
          cases h
          exact ⟨hfault, hwalk, hitem⟩
  · rintro ⟨hfault, hwalk, hitem⟩
    rw [find, hfault]
    simp only [hwalk, hitem]

/-! ### Files -/

theorem any_isDirectory_iff {item : Option Item} :
    item.any Item.isDirectory = true ↔ item = some .directory := by
  cases item with
  | none => simp
  | some item => cases item <;> simp [Item.isDirectory]

theorem target_eq_ok_iff : d.target path = .ok place ↔ pathFault? path = none ∧
    ∃ above name, d.walk (d.origin path) (namesOf path).dropLast = .ok above ∧
      d.item? above = some .directory ∧ (namesOf path).getLast? = some name ∧
      ¬ (name = "" ∨ name = "." ∨ name = "..") ∧ name.utf8ByteSize ≤ 255 ∧
      d.item? (above ++ [name]) ≠ some .directory ∧ place = above ++ [name] := by
  constructor
  · intro h
    rw [target] at h
    split at h
    · cases h
    · rename_i hfault
      split at h
      · cases h
      · rename_i above hwalk
        split at h
        · rename_i name habove hlast
          split_ifs at h with hname hlength hplace
          cases h
          exact ⟨hfault, above, name, hwalk, habove, hlast, hname, Nat.not_lt.1 hlength,
            mt any_isDirectory_iff.2 hplace, rfl⟩
        · cases h
        · cases h
  · rintro ⟨hfault, above, name, hwalk, habove, hlast, hname, hlength, hplace, rfl⟩
    rw [target, hfault]
    simp only [hwalk, habove, hlast]
    rw [if_neg hname, if_neg (Nat.not_lt.2 hlength), if_neg (mt any_isDirectory_iff.1 hplace)]

theorem target_ne_nil (h : d.target path = .ok place) : place ≠ [] := by
  obtain ⟨-, above, name, -, -, -, -, -, -, rfl⟩ := target_eq_ok_iff.1 h
  exact List.append_ne_nil_of_right_ne_nil above (List.cons_ne_nil name [])

/-- The path of a file leads to the file when that has been written. -/
theorem find_write (content : ByteArray) (h : d.target path = .ok place) :
    (d.write place content).find path = .ok (place, .file content) := by
  have hroot := target_ne_nil h
  obtain ⟨hfault, above, name, hwalk, habove, hlast, hname, hlength, hplace, rfl⟩ :=
    target_eq_ok_iff.1 h
  have hitem : (d.write (above ++ [name]) content).item? (above ++ [name]) =
      some (.file content) := by
    rw [item?_write d content hroot, if_pos rfl]
  have habove' : (d.write (above ++ [name]) content).item? above = some .directory := by
    rw [item?_write d content hroot, if_neg, habove]
    intro heq
    exact hplace (heq ▸ habove)
  have hleaf : (d.write (above ++ [name]) content).walk above [name] = .ok (above ++ [name]) :=
    walk_cons_eq_ok_iff.2 ⟨habove', _, .enter hname hlength hitem, rfl⟩
  have hnames : (namesOf path).dropLast ++ [name] = namesOf path := by
    obtain ⟨names, hpath⟩ := List.getLast?_eq_some_iff.1 hlast
    rw [hpath, List.dropLast_concat]
  have hpath := walk_append (walk_write content hroot hplace hwalk) hleaf
  rw [hnames] at hpath
  exact find_eq_ok_iff.2 ⟨hfault, hpath, hitem⟩

theorem fromUTF8?_eq_some_iff {content : ByteArray} {text : String} :
    String.fromUTF8? content = some text ↔ text.toUTF8 = content := by
  rw [String.fromUTF8?]
  split
  · constructor
    · rintro ⟨⟩
      rfl
    · rintro rfl
      rfl
  · rename_i hinvalid
    refine iff_of_false (by simp) ?_
    rintro rfl
    exact hinvalid text.isValidUTF8

theorem readText_of_find {text : String} (h : d.find path = .ok (place, .file text.toUTF8)) :
    d.readText path = .ok text := by
  rw [readText, h]
  simp only [fromUTF8?_eq_some_iff.2 rfl]

/-- A text is read where it has been written. -/
theorem readText_writeText {d' : Disk} {text : String} (h : d.writeText path text = .ok d') :
    d'.readText path = .ok text := by
  rw [writeText] at h
  cases htarget : d.target path with
  | error fault => simp [htarget] at h
  | ok place =>
    rw [htarget] at h
    cases h
    exact readText_of_find (find_write text.toUTF8 htarget)

end Disk

end SlideGraph
