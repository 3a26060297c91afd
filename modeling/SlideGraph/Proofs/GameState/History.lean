import Mathlib.Data.Set.Card
import SlideGraph.Proofs.GameState.Change
import SlideGraph.Proofs.Text.Bytes

/-!
# What is left of a history

After changes in any order an item is held if it was added at last, and a flag is what it was set to
at last, turned round by each toggle since. What no change has touched is as it was. So the order of
two changes matters only where they touch the same part of the state.
-/

namespace SlideGraph

/-- A map has as many entries as there are keys in it. -/
theorem KeyMap.size_eq_ncard {α : Type} (m : KeyMap α) : m.size = {k | m.get? k ≠ none}.ncard := by
  have hset : {k | m.get? k ≠ none} = (m.keys.toFinset : Set String) := by
    ext k
    rw [List.coe_toFinset, Set.mem_ofPred_eq, Set.mem_ofPred_eq, mem_keys_iff,
      Option.ne_none_iff_exists']
  rw [hset, Set.ncard_coe_finset, List.toFinset_card_of_nodup (nodup_keys m), keys,
    List.length_map, size]

namespace GameState

variable {s t : GameState} {cs : List Change} {item key : String}

/-! ### Parts that are left alone -/

theorem hasItem_apply_of_ne {c : Change} (h : c.part ≠ .item item) (s : GameState) :
    (s.apply c).hasItem item = s.hasItem item := by
  rw [hasItem_apply]
  cases c <;> grind [Change.part]

theorem flag?_apply_of_ne {c : Change} (h : c.part ≠ .flag key) (s : GameState) :
    (s.apply c).flag? key = s.flag? key := by
  rw [flag?_apply]
  cases c <;> grind [Change.part]

theorem hasItem_applyAll_of_untouched (h : ∀ c ∈ cs, c.part ≠ .item item) (s : GameState) :
    (s.applyAll cs).hasItem item = s.hasItem item := by
  induction cs generalizing s with
  | nil => rfl
  | cons c cs ih =>
    have hrest := ih (fun d hd => h d (List.mem_cons_of_mem c hd)) (s.apply c)
    exact hrest.trans (hasItem_apply_of_ne (h c List.mem_cons_self) s)

theorem flag?_applyAll_of_untouched (h : ∀ c ∈ cs, c.part ≠ .flag key) (s : GameState) :
    (s.applyAll cs).flag? key = s.flag? key := by
  induction cs generalizing s with
  | nil => rfl
  | cons c cs ih =>
    have hrest := ih (fun d hd => h d (List.mem_cons_of_mem c hd)) (s.apply c)
    exact hrest.trans (flag?_apply_of_ne (h c List.mem_cons_self) s)

/-! ### The last change of a part -/

theorem applyAll_split (s : GameState) (before : List Change) (c : Change) (after : List Change) :
    s.applyAll (before ++ c :: after) = ((s.applyAll before).apply c).applyAll after := by
  rw [applyAll_append]
  rfl

/-- An item is held if it was added at last, or if it was held at first and nothing was done with
it. -/
theorem hasItem_applyAll_iff (s : GameState) (cs : List Change) (item : String) :
    (s.applyAll cs).hasItem item = true ↔
      (∃ before after, cs = before ++ .addItem item :: after ∧ ∀ c ∈ after, c.part ≠ .item item) ∨
        ((∀ c ∈ cs, c.part ≠ .item item) ∧ s.hasItem item = true) := by
  have hlast (before after : List Change) (c : Change) (hafter : ∀ d ∈ after, d.part ≠ .item item) :
      (s.applyAll (before ++ c :: after)).hasItem item =
        ((s.applyAll before).apply c).hasItem item := by
    rw [applyAll_split, hasItem_applyAll_of_untouched hafter]
  constructor
  · intro h
    by_cases htouch : ∃ c ∈ cs, c.part = .item item
    · obtain ⟨before, c, after, rfl, hc, hafter⟩ := exists_last htouch
      rw [hlast before after c hafter, hasItem_apply] at h
      left
      cases c with
      | addItem added =>
        cases hc
        exact ⟨before, after, rfl, hafter⟩
      | removeItem removed =>
        cases hc
        simp at h
      | setFlag => cases hc
      | toggleFlag => cases hc
    · push Not at htouch
      rw [hasItem_applyAll_of_untouched htouch] at h
      exact .inr ⟨htouch, h⟩
  · rintro (⟨before, after, rfl, hafter⟩ | ⟨huntouched, h⟩)
    · rw [hlast before after _ hafter, hasItem_apply]
      simp
    · rwa [hasItem_applyAll_of_untouched huntouched]

/-! ### Toggles -/

/-- A flag that is not set anew is turned round by each toggle. -/
theorem flag_applyAll_of_toggles (h : ∀ value, .setFlag key value ∉ cs) (s : GameState) :
    (s.applyAll cs).flag key = not^[cs.count (.toggleFlag key)] (s.flag key) := by
  induction cs generalizing s with
  | nil => rfl
  | cons c cs ih =>
    have hrest := ih (fun value hc => h value (List.mem_cons_of_mem c hc)) (s.apply c)
    rw [show s.applyAll (c :: cs) = (s.apply c).applyAll cs from rfl, hrest, flag_apply,
      List.count_cons]
    cases c with
    | addItem => simp
    | removeItem => simp
    | setFlag set value =>
      have hne : key ≠ set := by
        rintro rfl
        exact h value List.mem_cons_self
      simp [hne]
    | toggleFlag toggled =>
      by_cases hk : key = toggled
      · subst hk
        simp [Function.iterate_succ_apply]
      · have hk' : toggled ≠ key := fun h => hk h.symm
        simp [hk, hk']

theorem isSome_flag?_apply (s : GameState) (c : Change) (key : String) :
    ((s.apply c).flag? key).isSome = (decide (c.part = .flag key) || (s.flag? key).isSome) := by
  rw [flag?_apply]
  cases c <;> grind [Change.part]

/-- A flag that has been written is there. -/
theorem flag?_applyAll_of_touched (h : ∃ c ∈ cs, c.part = .flag key) (s : GameState) :
    (s.applyAll cs).flag? key = some ((s.applyAll cs).flag key) := by
  have hsome : ((s.applyAll cs).flag? key).isSome = true := by
    obtain ⟨before, c, after, rfl, hc, hafter⟩ := exists_last h
    rw [applyAll_split, flag?_applyAll_of_untouched hafter, isSome_flag?_apply, hc]
    simp
  obtain ⟨value, hvalue⟩ := Option.isSome_iff_exists.1 hsome
  rw [flag, hvalue, Option.getD_some]

theorem flag?_applyAll_of_set {before after : List Change} (value : Bool)
    (h : ∀ other, .setFlag key other ∉ after) (s : GameState) :
    (s.applyAll (before ++ .setFlag key value :: after)).flag? key =
      some (not^[after.count (.toggleFlag key)] value) := by
  have hset : ∃ c ∈ before ++ .setFlag key value :: after, c.part = .flag key :=
    ⟨.setFlag key value, by simp, rfl⟩
  rw [flag?_applyAll_of_touched hset, applyAll_split, flag_applyAll_of_toggles h, flag_apply]
  simp

/-! ### What a state lists -/

/-- What a state holds is listed without repetition, in ascending order of the bytes of the names,
and it is counted. -/
structure Listed (s : GameState) : Prop where
  mem_items : ∀ item, item ∈ s.items ↔ s.hasItem item = true
  mem_flags : ∀ key value, (key, value) ∈ s.flags.entries ↔ s.flag? key = some value
  items_ascending : s.items.Pairwise fun a b => Text.bytes a < Text.bytes b
  flags_ascending : s.flags.entries.Pairwise fun a b => Text.bytes a.1 < Text.bytes b.1
  items_count : s.inventory.size = {item | s.hasItem item = true}.ncard
  flags_count : s.flags.size = {key | s.flag? key ≠ none}.ncard

theorem listed (s : GameState) : s.Listed where
  mem_items item := KeyMap.mem_keys_iff.trans Option.isSome_iff_exists.symm
  mem_flags key value := KeyMap.mem_entries_iff
  items_ascending := List.pairwise_map.2 (s.inventory.ascending.imp Text.bytes_lt_iff.2)
  flags_ascending := s.flags.ascending.imp Text.bytes_lt_iff.2
  items_count := by
    rw [KeyMap.size_eq_ncard]
    congr 1
    ext item
    rw [Set.mem_ofPred_eq, Set.mem_ofPred_eq, hasItem, KeyMap.contains, Option.isSome_iff_ne_none]
  flags_count := KeyMap.size_eq_ncard s.flags

/-! ### Changes in another order -/

theorem hasItem_apply_congr {c : Change} (h : s.hasItem item = t.hasItem item) :
    (s.apply c).hasItem item = (t.apply c).hasItem item := by
  rw [hasItem_apply, hasItem_apply]
  cases c <;> simp [h]

theorem flag?_apply_congr {c : Change} (h : s.flag? key = t.flag? key) :
    (s.apply c).flag? key = (t.apply c).flag? key := by
  rw [flag?_apply, flag?_apply]
  cases c with
  | toggleFlag toggled =>
    by_cases hk : key = toggled
    · subst hk
      simp [flag, h]
    · simp [hk, h]
  | _ => simp [h]

/-- Only the changes of an item have a say in whether it is held. -/
theorem hasItem_applyAll_filter (h : s.hasItem item = t.hasItem item) (cs : List Change) :
    (s.applyAll (cs.filter (·.part = .item item))).hasItem item = (t.applyAll cs).hasItem item := by
  induction cs generalizing s t with
  | nil => exact h
  | cons c cs ih =>
    by_cases hc : c.part = .item item
    · rw [List.filter_cons_of_pos (by simpa using hc)]
      exact ih (hasItem_apply_congr h)
    · rw [List.filter_cons_of_neg (by simpa using hc)]
      exact ih (h.trans (hasItem_apply_of_ne hc t).symm)

theorem flag?_applyAll_filter (h : s.flag? key = t.flag? key) (cs : List Change) :
    (s.applyAll (cs.filter (·.part = .flag key))).flag? key = (t.applyAll cs).flag? key := by
  induction cs generalizing s t with
  | nil => exact h
  | cons c cs ih =>
    by_cases hc : c.part = .flag key
    · rw [List.filter_cons_of_pos (by simpa using hc)]
      exact ih (flag?_apply_congr h)
    · rw [List.filter_cons_of_neg (by simpa using hc)]
      exact ih (h.trans (flag?_apply_of_ne hc t).symm)

/-- Changes come to the same in any order in which those of each part follow each other as they
did. -/
theorem applyAll_congr {ds : List Change}
    (h : ∀ p : Part, cs.filter (·.part = p) = ds.filter (·.part = p)) (s : GameState) :
    s.applyAll cs = s.applyAll ds := by
  apply ext_lookups
  · intro item
    rw [← hasItem_applyAll_filter rfl cs, h, hasItem_applyAll_filter rfl]
  · intro key
    rw [← flag?_applyAll_filter rfl cs, h, flag?_applyAll_filter rfl]

/-- What any changes make of any state. An item is held if it was added at last, or was held and
nothing was done with it. A flag that was not written is as it was; one that was set is as it was
set at last, and one that was only toggled starts from what it was read as, and each toggle since
then has turned it round. What there is then is listed in order and counted. Changes of different
parts may change places, one by one or all of them. -/
theorem history_rules (s : GameState) (cs : List Change) :
    (∀ item, (s.applyAll cs).hasItem item = true ↔
      (∃ before after, cs = before ++ .addItem item :: after ∧ ∀ c ∈ after, c.part ≠ .item item) ∨
        ((∀ c ∈ cs, c.part ≠ .item item) ∧ s.hasItem item = true)) ∧
    (∀ key, (∀ c ∈ cs, c.part ≠ .flag key) → (s.applyAll cs).flag? key = s.flag? key) ∧
    (∀ key before value after, cs = before ++ .setFlag key value :: after →
      (∀ other, .setFlag key other ∉ after) →
        (s.applyAll cs).flag? key = some (not^[after.count (.toggleFlag key)] value)) ∧
    (∀ key, (∀ value, .setFlag key value ∉ cs) → .toggleFlag key ∈ cs →
      (s.applyAll cs).flag? key = some (not^[cs.count (.toggleFlag key)] (s.flag key))) ∧
    (s.applyAll cs).Listed ∧
    (∀ before c d after, cs = before ++ c :: d :: after → c.part ≠ d.part →
      s.applyAll (before ++ d :: c :: after) = s.applyAll cs) ∧
    (∀ ds : List Change, (∀ p : Part, cs.filter (·.part = p) = ds.filter (·.part = p)) →
      s.applyAll cs = s.applyAll ds) := by
  refine ⟨hasItem_applyAll_iff s cs, fun key h => flag?_applyAll_of_untouched h s, ?_, ?_,
    listed _, ?_, fun ds h => applyAll_congr h s⟩
  · rintro key before value after rfl h
    exact flag?_applyAll_of_set value h s
  · intro key h htoggle
    rw [flag?_applyAll_of_touched ⟨_, htoggle, rfl⟩, flag_applyAll_of_toggles h]
  · rintro before c d after rfl hne
    rw [applyAll_split, applyAll_split]
    exact congrArg (applyAll · after) (apply_comm hne (s.applyAll before)).symm

/-- The rope is taken and dropped, and the lamp is toggled before and after it is set. The door and
the hatch are toggled from what they are read as, true where it is set and false where it is missing.
All that is done with items might as well be done first. -/
theorem history_rules_attic :
    let s : GameState := ⟨.ofList ["map", "rope"], .ofList [("door", true), ("shutter", false)]⟩
    let cs : List Change := [.addItem "rope", .toggleFlag "lamp", .toggleFlag "door",
      .setFlag "lamp" true, .toggleFlag "hatch", .removeItem "rope", .addItem "𐀀",
      .toggleFlag "lamp", .addItem "Ａ"]
    let ds : List Change := [.addItem "rope", .removeItem "rope", .addItem "𐀀", .addItem "Ａ",
      .toggleFlag "lamp", .toggleFlag "door", .setFlag "lamp" true, .toggleFlag "hatch",
      .toggleFlag "lamp"]
    ((∀ c ∈ cs, c.part ≠ .item "map") ∧ (s.applyAll cs).hasItem "map" = true) ∧
      ((∀ c ∈ cs.drop 7, c.part ≠ .item "𐀀") ∧ (s.applyAll cs).hasItem "𐀀" = true) ∧
      (s.applyAll cs).hasItem "rope" = false ∧ (s.applyAll cs).items = ["map", "Ａ", "𐀀"] ∧
      ((∀ c ∈ cs, c.part ≠ .flag "shutter") ∧ (s.applyAll cs).flag? "shutter" = some false) ∧
      ((∀ other, .setFlag "lamp" other ∉ cs.drop 4) ∧
        (s.applyAll cs).flag? "lamp" = some false) ∧
      ((∀ value, .setFlag "door" value ∉ cs) ∧ (s.applyAll cs).flag? "door" = some false) ∧
      ((∀ value, .setFlag "hatch" value ∉ cs) ∧ (s.applyAll cs).flag? "hatch" = some true) ∧
      (∀ p : Part, cs.filter (·.part = p) = ds.filter (·.part = p)) ∧
      s.applyAll cs = s.applyAll ds := by
  intro s cs ds
  obtain ⟨hitems, hother, hset, htoggled, -, -, horder⟩ := history_rules s cs
  have hmap : ∀ c ∈ cs, c.part ≠ .item "map" := by decide
  have hsign : ∀ c ∈ cs.drop 7, c.part ≠ .item "𐀀" := by decide
  have hshutter : ∀ c ∈ cs, c.part ≠ .flag "shutter" := by decide
  have hlamp : ∀ other, .setFlag "lamp" other ∉ cs.drop 4 := by decide
  have hdoor : ∀ value, .setFlag "door" value ∉ cs := by decide
  have hhatch : ∀ value, .setFlag "hatch" value ∉ cs := by decide
  have hparts : ∀ p : Part, cs.filter (·.part = p) = ds.filter (·.part = p) := by
    intro p
    cases p <;> simp [cs, ds, Change.part, List.filter_cons]
  refine ⟨⟨hmap, (hitems "map").2 (.inr ⟨hmap, by decide⟩)⟩,
    ⟨hsign, (hitems "𐀀").2 (.inl ⟨cs.take 6, cs.drop 7, rfl, hsign⟩)⟩, by decide, by decide,
    ⟨hshutter, (hother "shutter" hshutter).trans (by decide)⟩,
    ⟨hlamp, (hset "lamp" (cs.take 3) true (cs.drop 4) rfl hlamp).trans (by decide)⟩,
    ⟨hdoor, (htoggled "door" hdoor (by decide)).trans (by decide)⟩,
    ⟨hhatch, (htoggled "hatch" hhatch (by decide)).trans (by decide)⟩,
    hparts, horder ds hparts⟩

end GameState

end SlideGraph
