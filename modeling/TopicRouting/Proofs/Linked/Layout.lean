import TopicRouting.Linked.Directory
import TopicRouting.Proofs.Linked.Climbing
import TopicRouting.Proofs.Table.Capacity

set_option autoImplicit false

namespace TopicRouting

variable {V : Type}

abbrev Layout (V : Type) := List (Option (Plant V))

namespace Layout

def plants (layout : Layout V) : List (Plant V) := layout.filterMap id

def grove : Layout V → Grove V
  | [] => .nil
  | held :: layout => (Plant.remains held).append (grove layout)

def entries (slot : Nat) : Layout V → List (String × Nat)
  | [] => []
  | none :: layout => entries (slot + 1) layout
  | some plant :: layout => (plant.segment.text, slot) :: entries (slot + 1) layout

theorem grove_heads (layout : Layout V) :
    (grove layout).heads = (layout.map (Option.map Plant.id)).filterMap id := by
  induction layout with
  | nil => rfl
  | cons held layout ih =>
      cases held with
      | none => simpa [grove, Plant.remains, Grove.append] using ih
      | some plant => simpa [grove, Plant.remains, Plant.grove, Grove.append, Grove.heads] using ih

theorem grove_forest (layout : Layout V) :
    (grove layout).forest = ((layout.map (Option.map Plant.tree)).filterMap id).foldr
      (fun tree rest => .node tree.segment tree.target tree.children rest) .nil := by
  induction layout with
  | nil => rfl
  | cons held layout ih =>
      cases held with
      | none => simpa [grove, Plant.remains, Grove.append] using ih
      | some plant =>
          simpa [grove, Plant.remains, Plant.grove, Grove.append, Grove.forest, Plant.tree] using ih

theorem entries_length (layout : Layout V) (slot : Nat) :
    (entries slot layout).length = (plants layout).length := by
  induction layout generalizing slot with
  | nil => rfl
  | cons held layout ih => cases held <;> simp_all [entries, plants]

theorem entries_texts (layout : Layout V) (slot : Nat) :
    (entries slot layout).map Prod.fst = (plants layout).map fun plant => plant.segment.text := by
  induction layout generalizing slot with
  | nil => rfl
  | cons held layout ih => cases held <;> simp_all [entries, plants]

theorem entries_iff (layout : Layout V) (first slot : Nat) (text : String) :
    (text, slot) ∈ entries first layout ↔
      first ≤ slot ∧ ∃ plant, layout[slot - first]? = some (some plant) ∧
        plant.segment.text = text := by
  induction layout generalizing first with
  | nil => simp [entries]
  | cons held layout ih =>
      by_cases here : slot = first
      · subst here
        have beyond : ¬ slot + 1 ≤ slot := Nat.not_succ_le_self slot
        cases held <;> simp [entries, ih, beyond, eq_comm]
      · by_cases later : first < slot
        · obtain ⟨more, rfl⟩ : ∃ more, slot = first + 1 + more := ⟨slot - first - 1, by omega⟩
          have next : first + 1 + more - first = more + 1 := by omega
          have shifted : first + 1 + more - (first + 1) = more := by omega
          have apart : first + 1 + more ≠ first := by omega
          have within : first ≤ first + 1 + more := by omega
          cases held <;> simp [entries, ih, next, shifted, apart, within]
        · have before : ¬ first ≤ slot ∧ ¬ first + 1 ≤ slot := by omega
          cases held <;> simp [entries, ih, before, here]

theorem grove_set_holds (layout : Layout V) (slot : Nat) (bound : slot < layout.length)
    (left : Option (Plant V)) (arena : Arena V) :
    arena.Holds none (grove (layout.set slot left)) ↔
      arena.Holds none (Plant.remains left) ∧ arena.Holds none (grove (layout.set slot none)) := by
  induction layout generalizing slot with
  | nil => exact absurd bound (Nat.not_lt_zero slot)
  | cons held layout ih =>
      cases slot with
      | zero => simp [grove, Arena.holds_append, Plant.remains, Arena.Holds]
      | succ slot =>
          simp only [List.set_cons_succ, grove, Arena.holds_append, ih slot (Nat.lt_of_succ_lt_succ bound)]
          exact and_left_comm

theorem grove_set_places (layout : Layout V) (slot : Nat) (bound : slot < layout.length)
    (left : Option (Plant V)) :
    (grove (layout.set slot left)).places.Perm
      ((Plant.remains left).places ++ (grove (layout.set slot none)).places) := by
  induction layout generalizing slot with
  | nil => exact absurd bound (Nat.not_lt_zero slot)
  | cons held layout ih =>
      cases slot with
      | zero => simp [grove, Grove.append_places, Plant.remains, Grove.places]
      | succ slot =>
          have later := ih slot (Nat.lt_of_succ_lt_succ bound)
          simp only [List.set_cons_succ, grove, Grove.append_places]
          grind

theorem grove_set_ids (layout : Layout V) (slot : Nat) (bound : slot < layout.length)
    (left : Option (Plant V)) :
    (grove (layout.set slot left)).ids.Perm
      ((Plant.remains left).ids ++ (grove (layout.set slot none)).ids) := by
  simpa [Grove.places_ids] using (grove_set_places layout slot bound left).map Prod.snd

theorem stocked_set (layout : Layout V) (slot : Nat) (bound : slot < layout.length)
    (left : Option (Plant V)) (arena : Arena V) :
    arena.Stocked (grove (layout.set slot left)) ↔
      arena.Stocked ((Plant.remains left).append (grove (layout.set slot none))) := by
  have same := grove_set_ids layout slot bound left
  rw [← Grove.append_ids] at same
  have holds := grove_set_holds layout slot bound left arena
  rw [← Arena.holds_append] at holds
  exact ⟨fun stocked => ⟨holds.mp stocked.holds, Arena.tallies_permute _ _ _ stocked.tallies same⟩,
    fun stocked => ⟨holds.mpr stocked.holds, Arena.tallies_permute _ _ _ stocked.tallies same.symm⟩⟩

theorem plants_member (layout : Layout V) (plant : Plant V) :
    plant ∈ plants layout ↔ ∃ slot : Nat, layout[slot]? = some (some plant) := by
  rw [← List.mem_iff_getElem?, plants, List.mem_filterMap]
  simp

theorem entries_keep (layout : Layout V) (first slot : Nat) (old new : Plant V)
    (held : layout[slot]? = some (some old)) (same : new.segment = old.segment) :
    entries first (layout.set slot (some new)) = entries first layout := by
  induction layout generalizing first slot with
  | nil => cases held
  | cons here layout ih =>
      cases slot with
      | zero =>
          cases held
          simp [entries, same]
      | succ slot => cases here <;> simp [entries, ih _ _ held]

theorem entries_fill (layout : Layout V) (first slot : Nat) (new : Plant V)
    (vacant : layout[slot]? = some none) :
    (entries first (layout.set slot (some new))).Perm
      ((new.segment.text, first + slot) :: entries first layout) := by
  induction layout generalizing first slot with
  | nil => cases vacant
  | cons here layout ih =>
      cases slot with
      | zero =>
          cases vacant
          exact .refl _
      | succ slot =>
          have later := ih (first + 1) slot vacant
          rw [Nat.add_right_comm] at later
          cases here with
          | none => exact later
          | some plant => exact (later.cons _).trans (.swap ..)

theorem entries_clear (layout : Layout V) (first slot : Nat) (old : Plant V)
    (held : layout[slot]? = some (some old))
    (distinct : ((plants layout).map fun plant => plant.segment.text).Nodup) :
    entries first (layout.set slot none) =
      (entries first layout).filter fun entry => entry.1 ≠ old.segment.text := by
  rw [← entries_texts layout first] at distinct
  induction layout generalizing first slot with
  | nil => cases held
  | cons here layout ih =>
      cases slot with
      | zero =>
          cases held
          have apart := (List.nodup_cons.mp distinct).1
          symm
          simp only [entries, List.set_cons_zero]
          rw [List.filter_cons_of_neg (by simp), List.filter_eq_self]
          intro entry member
          have different : entry.1 ≠ old.segment.text :=
            fun same => apart (List.mem_map.mpr ⟨entry, member, same⟩)
          simp [different]
      | succ slot =>
          cases here with
          | none => exact ih (first + 1) slot held distinct
          | some plant =>
              have parts := List.nodup_cons.mp distinct
              have member : (old.segment.text, first + 1 + slot) ∈ entries (first + 1) layout := by
                rw [entries_iff]
                exact ⟨Nat.le_add_right .., old, by simpa using held, rfl⟩
              have different : plant.segment.text ≠ old.segment.text :=
                fun same => parts.1 (List.mem_map.mpr ⟨_, member, same.symm⟩)
              simp [entries, different, ih (first + 1) slot held parts.2]

end Layout

namespace Directory

open Layout

structure Indexes (directory : Directory) (layout : Layout V) : Prop where
  slots : directory.slots = layout.map (Option.map Plant.id)
  index : directory.index.Perm (entries 0 layout)
  distinct : ((plants layout).map fun plant => plant.segment.text).Nodup

section

variable (directory : Directory) (layout : Layout V) (indexes : directory.Indexes layout)
include indexes

theorem indexes_ids : directory.ids = (grove layout).heads := by
  rw [ids, indexes.slots, grove_heads]

theorem indexes_count : directory.count = (plants layout).length := by
  rw [count, indexes.index.length_eq, entries_length]

theorem indexes_capacity : directory.capacity = layout.length := by
  rw [capacity, indexes.slots, List.length_map]

theorem indexes_keys : (directory.index.map Prod.fst).Nodup := by
  rw [(indexes.index.map Prod.fst).nodup_iff, entries_texts]
  exact indexes.distinct

theorem indexes_slot (text : String) (slot : Nat) :
    directory.slot? text = some slot ↔
      ∃ plant, layout[slot]? = some (some plant) ∧ plant.segment.text = text := by
  have member : (text, slot) ∈ directory.index ↔
      ∃ plant, layout[slot]? = some (some plant) ∧ plant.segment.text = text := by
    rw [indexes.index.mem_iff, entries_iff]
    simp
  rw [← member, slot?, List.lookup_eq_some_iff]
  constructor
  · rintro ⟨front, back, whole, _⟩
    simp [whole]
  · intro listed
    obtain ⟨front, back, whole⟩ := List.append_of_mem listed
    refine ⟨front, back, whole, ?_⟩
    intro entry earlier
    have keys := indexes_keys directory layout indexes
    rw [whole, List.map_append] at keys
    have apart := (List.nodup_append.mp keys).2.2 entry.1 (List.mem_map_of_mem earlier) text (by simp)
    simpa using Ne.symm apart

theorem indexes_lists (slot : Nat) (plant : Plant V) (held : layout[slot]? = some (some plant)) :
    directory.Lists plant.segment slot plant.id := by
  refine ⟨(indexes_slot directory layout indexes _ _).mpr ⟨plant, held, rfl⟩, ?_⟩
  simp [indexes.slots, held]

theorem indexes_keep (slot : Nat) (old new : Plant V) (held : layout[slot]? = some (some old))
    (segment : new.segment = old.segment) (id : new.id = old.id) :
    directory.Indexes (layout.set slot (some new)) := by
  have same := entries_keep layout 0 slot old new held segment
  refine ⟨?_, same ▸ indexes.index, ?_⟩
  · have mapped : (layout.map (Option.map Plant.id))[slot]? = some (some old.id) := by simp [held]
    obtain ⟨bound, isHeld⟩ := List.getElem?_eq_some_iff.mp mapped
    rw [indexes.slots, List.map_set, Option.map_some, id, ← isHeld, List.set_getElem_self]
  · rw [← entries_texts _ 0, same, entries_texts]
    exact indexes.distinct

theorem indexes_drop (slot : Nat) (plant : Plant V) (held : layout[slot]? = some (some plant)) :
    (directory.drop plant.segment.text slot).Indexes (layout.set slot none) := by
  have cleared := entries_clear layout 0 slot plant held indexes.distinct
  refine ⟨?_, ?_, ?_⟩
  · simp [drop, indexes.slots, List.map_set]
  · rw [cleared]
    exact indexes.index.filter _
  · rw [← entries_texts _ 0, cleared]
    refine List.Sublist.nodup (List.filter_sublist.map Prod.fst) ?_
    rw [entries_texts]
    exact indexes.distinct

theorem indexes_put (slot : Nat) (plant : Plant V) (vacant : layout[slot]? = some none)
    (fresh : ∀ other ∈ plants layout, other.segment.text ≠ plant.segment.text) :
    (directory.put plant.segment.text slot plant.id).Indexes (layout.set slot (some plant)) := by
  have filled := entries_fill layout 0 slot plant vacant
  rw [Nat.zero_add] at filled
  have kept : (directory.index.filter fun entry => entry.1 ≠ plant.segment.text) =
      directory.index := by
    rw [List.filter_eq_self]
    intro entry member
    have text : entry.1 ∈ (entries 0 layout).map Prod.fst :=
      List.mem_map.mpr ⟨entry, indexes.index.mem_iff.mp member, rfl⟩
    rw [entries_texts] at text
    obtain ⟨other, listed, same⟩ := List.mem_map.mp text
    simpa [← same] using fresh other listed
  refine ⟨?_, ?_, ?_⟩
  · simp [put, indexes.slots, List.map_set]
  · rw [put, kept]
    exact (indexes.index.cons _).trans filled.symm
  · rw [← entries_texts _ 0, (filled.map Prod.fst).nodup_iff, List.map_cons, List.nodup_cons,
      entries_texts]
    refine ⟨?_, indexes.distinct⟩
    intro member
    obtain ⟨other, listed, same⟩ := List.mem_map.mp member
    exact fresh other listed same

theorem indexes_map (f : Plant V → Plant V) (id : ∀ plant, (f plant).id = plant.id)
    (segment : ∀ plant, (f plant).segment = plant.segment) :
    directory.Indexes (layout.map (Option.map f)) := by
  have texts : (plants (layout.map (Option.map f))).map (fun plant => plant.segment.text) =
      (plants layout).map fun plant => plant.segment.text := by
    rw [plants, plants, List.filterMap_map, List.map_filterMap, List.map_filterMap]
    congr 1
    funext held
    cases held <;> simp [segment]
  have same : ∀ slot, entries slot (layout.map (Option.map f)) = entries slot layout := by
    clear indexes texts
    induction layout with
    | nil => exact fun _ => rfl
    | cons held layout ih => cases held <;> simp [entries, segment, ih]
  refine ⟨?_, same 0 ▸ indexes.index, texts ▸ indexes.distinct⟩
  rw [indexes.slots, List.map_map]
  congr 1
  funext held
  cases held <;> simp [id]

end

end Directory

end TopicRouting
