import Mathlib.Data.List.Nodup
import SlideGraph.Proofs.Collection.OrderedMap
import SlideGraph.Proofs.Disk
import SlideGraph.Proofs.Text.Pieces

/-!
# Directories and what stands in them

On a disk that is a tree there is one thing at a place, and it has a proper name in its directory.
What a path leads to does not depend on the order in which the disk lists its items.
-/

namespace SlideGraph

namespace Disk

variable {d d' : Disk} {place : Place} {path name : String}

/-! ### Trees -/

/-- A thing in a directory can have the name. -/
structure IsName (name : String) : Prop where
  ne_special : ¬ (name = "" ∨ name = "." ∨ name = "..")
  slash : '/' ∉ name.toList
  nul : '\x00' ∉ name.toList
  size : name.utf8ByteSize ≤ 255

/-- There is one thing at a place, and it has a name in its directory. -/
structure IsTree (d : Disk) : Prop where
  nodup : (d.items.map Prod.fst).Nodup
  names : ∀ e ∈ d.items, ∀ name, e.1.getLast? = some name → IsName name

/-- The same things are at the same places, in whatever order they are listed. -/
structure Same (d d' : Disk) : Prop where
  here : d.here = d'.here
  item? : ∀ place, d.item? place = d'.item? place

theorem mem_names_iff : name ∈ d.names place ↔ ∃ item, d.item? (place ++ [name]) = some item := by
  have hplace (p : Place) :
      (if p.dropLast = place then p.getLast? else none) = some name ↔ p = place ++ [name] := by
    constructor
    · intro h
      split_ifs at h with hp
      rw [← hp, List.dropLast_append_getLast? name h]
    · rintro rfl
      simp
  rw [names, List.mem_filterMap, ← Option.isSome_iff_exists, item?, if_neg (by simp),
    List.lookup_isSome_iff]
  constructor
  · rintro ⟨e, he, hname⟩
    exact ⟨e, he, by simp [(hplace e.1).1 hname]⟩
  · rintro ⟨e, he, hname⟩
    exact ⟨e, he, (hplace e.1).2 (beq_iff_eq.1 hname).symm⟩

theorem IsTree.nodup_names (h : d.IsTree) (place : Place) : (d.names place).Nodup := by
  have hnames : d.names place = (d.items.map Prod.fst).filterMap fun p =>
      if p.dropLast = place then p.getLast? else none := by
    rw [Disk.names, List.filterMap_map]
    rfl
  rw [hnames]
  refine h.nodup.filterMap ?_
  intro p q name hp hq
  simp only [Option.mem_def, Option.ite_none_right_eq_some] at hp hq
  rw [← List.dropLast_append_getLast? name hp.2, ← List.dropLast_append_getLast? name hq.2, hp.1,
    hq.1]

theorem IsTree.isName (h : d.IsTree) {item : Item} (hitem : d.item? (place ++ [name]) = some item) :
    IsName name := by
  have hlookup : d.items.lookup (place ++ [name]) = some item := by simpa [item?] using hitem
  exact h.names _ ((mem_iff_lookup h.nodup).2 hlookup) name List.getLast?_concat

/-! ### Listing in another order -/

theorem IsTree.perm (h : d.IsTree) {items : List (Place × Item)} (hperm : d.items.Perm items) :
    IsTree { d with items } where
  nodup := (hperm.map Prod.fst).nodup_iff.1 h.nodup
  names e he := h.names e (hperm.mem_iff.2 he)

/-- A tree is the same whatever the order of its items. -/
theorem IsTree.same (h : d.IsTree) {items : List (Place × Item)} (hperm : d.items.Perm items) :
    d.Same { d with items } where
  here := rfl
  item? place := by
    have hlookup : d.items.lookup place = items.lookup place := by
      ext item
      rw [← mem_iff_lookup h.nodup, ← mem_iff_lookup (h.perm hperm).nodup, hperm.mem_iff]
    rw [Disk.item?, Disk.item?, hlookup]

theorem Same.walk (h : d.Same d') (names : List String) (start : Place) :
    d.walk start names = d'.walk start names := by
  induction names generalizing start with
  | nil => rfl
  | cons name names ih => simp only [Disk.walk, h.item?, ih]

theorem Same.find (h : d.Same d') (path : String) : d.find path = d'.find path := by
  simp only [Disk.find, origin, h.here, h.walk, h.item?]

theorem Same.readText (h : d.Same d') (path : String) : d.readText path = d'.readText path := by
  rw [Disk.readText, h.find, Disk.readText]

/-! ### Paths into a directory -/

theorem namesOf_append_slash (path rest : String) :
    namesOf (path ++ "/" ++ rest) = namesOf path ++ namesOf rest := by
  simp [namesOf, Text.between_eq_splitOn, List.splitOn_append_cons_self]

theorem namesOf_of_not_mem (h : '/' ∉ name.toList) : namesOf name = [name] := by
  simp [namesOf, Text.between_eq_splitOn, List.splitOn_eq_singleton h]

theorem pathFault?_eq_none_iff :
    pathFault? path = none ↔ '\x00' ∉ path.toList ∧ path ≠ "" ∧ path.utf8ByteSize < 4096 := by
  simp only [pathFault?, String.contains_char_eq, decide_eq_true_iff]
  split_ifs with hnul hne hlength
  · simp [hnul]
  · simp [hne]
  · simp [hlength]
  · simp [hnul, hne, Nat.not_le.1 hlength]

theorem enters_empty_iff (d : Disk) {place next : Place} :
    d.Enters place "" next ↔ next = place := by
  constructor
  · intro h
    generalize hname : "" = name at h
    cases h with
    | stay => rfl
    | leave => exact absurd hname (by decide)
    | enter hspecial => exact absurd (.inl hname.symm) hspecial
  · rintro rfl
    exact .stay (.inl rfl)

/-- From a directory the walk goes on to what stands in it under a name. -/
theorem walk_child (hplace : d.item? place = some .directory) (hname : IsName name) {item : Item}
    (hitem : d.item? (place ++ [name]) = some item) :
    d.walk place [name] = .ok (place ++ [name]) :=
  walk_cons_eq_ok_iff.2 ⟨hplace, _, .enter hname.ne_special hname.size hitem, rfl⟩

end Disk

end SlideGraph
