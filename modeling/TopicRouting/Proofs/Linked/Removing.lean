import TopicRouting.Proofs.Forest.Size
import TopicRouting.Proofs.Linked.Collecting
import TopicRouting.Proofs.Linked.Places
import TopicRouting.Proofs.Linked.Settling

set_option autoImplicit false

namespace TopicRouting

open Layout

variable {V : Type}

-- A layout after something was taken out. No node has moved, and no root to another slot.
structure Layout.Shrinks (new old : Layout V) : Prop where
  places : (grove new).places ⊆ (grove old).places
  fewer : (grove new).ids.length < (grove old).ids.length
  slots : new.length = old.length
  roots : ∀ (slot : Nat) (plant : Plant V), new[slot]? = some (some plant) →
    ∃ held, old[slot]? = some (some held) ∧ held.id = plant.id

theorem Layout.set_shrinks (layout : Layout V) (slot : Nat) (plant : Plant V)
    (held : layout[slot]? = some (some plant)) (left : Option (Plant V))
    (within : (Plant.remains left).places ⊆ plant.grove.places)
    (smaller : (Plant.remains left).ids.length < plant.grove.ids.length)
    (root : ∀ remains, left = some remains → remains.id = plant.id) :
    Shrinks (layout.set slot left) layout := by
  obtain ⟨bound, isHeld⟩ := List.getElem?_eq_some_iff.mp held
  have roots : ∀ (other : Nat) (remains : Plant V),
      (layout.set slot left)[other]? = some (some remains) →
      ∃ old, layout[other]? = some (some old) ∧ old.id = remains.id := by
    intro other remains isLeft
    by_cases same : slot = other
    · subst same
      rw [List.getElem?_set_self bound, Option.some.injEq] at isLeft
      exact ⟨plant, held, (root remains isLeft).symm⟩
    · rw [List.getElem?_set_ne same] at isLeft
      exact ⟨remains, isLeft, rfl⟩
  refine ⟨set_places layout slot plant held left within, ?_, List.length_set, roots⟩
  have before := (grove_set_ids layout slot bound (some plant)).length_eq
  have after := (grove_set_ids layout slot bound left).length_eq
  rw [← isHeld, List.set_getElem_self, isHeld] at before
  rw [List.length_append] at before after
  have whole : (Plant.remains (some plant)).ids.length = plant.grove.ids.length := rfl
  omega

theorem remains_length (left : Option (Plant V)) (forest : Forest V)
    (tree : left.map Plant.tree = forest.firstTree?) :
    (Plant.remains left).ids.length ≤ forest.size := by
  cases left with
  | none => exact Nat.zero_le _
  | some plant =>
      rw [Plant.remains, Grove.ids_length, Plant.grove_forest]
      exact Forest.first_tree_size forest plant.tree tree.symm

namespace LinkedTable

section

variable (linked : LinkedTable V) (table : Table V) (layout : Layout V)
  (mirrors : linked.Mirrors table layout)
include mirrors

theorem mirrored_node (slot : Nat) (spine : Spine V) (below : Grove V)
    (held : layout[slot]? = some (some (spine.fill below))) (apart : spine.Apart) :
    table.forest.node? spine.path = some ⟨spine.target, below.forest⟩ := by
  have same := held_node _ _ layout mirrors slot _ held spine.later
  rwa [Spine.fill_segment, ← Spine.path, spine.fill_node apart below] at same

theorem detach_refines (slot : Nat) (spine : Spine V) (below : Grove V)
    (held : layout[slot]? = some (some (spine.fill below))) (apart : spine.Apart) :
    ∃ (next : LinkedTable V) (left : Layout V),
      Linked.Ends (Linked.removeSubtree spine.last) linked (.ok (table.detach spine.path).result)
        next (table.detach spine.path).events ∧
      next.Mirrors (table.detach spine.path).state left ∧ Shrinks left layout := by
  have focused := represents_focused _ _ layout mirrors slot spine below held
  have lists := represents_lists _ _ layout mirrors slot spine below held
  have node := mirrored_node linked table layout mirrors slot spine below held apart
  have root := held_root _ _ layout mirrors slot _ held
  rw [Spine.fill_segment] at root
  have eqv : linked.eqv = table.eqv := mirrors.eqv
  obtain ⟨left, arena, leaves, ends⟩ :=
    Linked.remove_subtree_refines linked spine below _ apart focused slot lists
  rw [eqv] at leaves ends
  have detached := table.detach_root spine.first spine.later _ node _ root left leaves.tree
  have same := Table.detach_root { table with cache := table.cache.invalidate } spine.first
    spine.later _ node _ root left leaves.tree
  have sound := Table.detach_sound _ spine.path mirrors.sound
  have fits := Table.detach_fits _ spine.path mirrors.fits
  rw [Spine.path, same] at sound fits
  rw [Spine.path, detached]
  have placed : ∀ remains, left = some remains →
      remains.id = (spine.fill below).id ∧ remains.segment = (spine.fill below).segment := by
    rintro remains rfl
    exact leaves_root _ _ _ _ _ leaves
  refine ⟨_, layout.set slot left, ends, ?_, ?_⟩
  · rw [← spine.fill_segment below] at sound fits ⊢
    exact settle_mirrors linked table layout mirrors slot _ held left arena placed leaves.stocked _
      rfl sound fits
  · refine set_shrinks layout slot _ held left leaves.places ?_ fun remains isLeft =>
      (placed remains isLeft).1
    have smaller := Forest.detach_size table.eqv (spine.fill below).tree.toForest spine.first
      spine.later _ (spine.fill_node apart below)
    have rest := remains_length left _ leaves.tree
    rw [Grove.ids_length (spine.fill below).grove, Plant.grove_forest]
    omega

end

theorem detach_stale (table : Table V) (path : Path) (here : Node V)
    (found : table.forest.node? path = some here) :
    (table.detach path).state.cache.stale = true := by
  cases path with
  | nil => cases found
  | cons segment rest => simp [Table.detach, found, QuickCache.invalidate]

section

variable (linked : LinkedTable V) (table : Table V) (layout : Layout V)
  (represents : linked.Represents table layout)
include represents

theorem remove_route_cases (key : String) :
    (∃ error, table.removeRoute key = ⟨.error error, table, []⟩ ∧
      Linked.Ends (Linked.removeRoute key) linked (.error error) linked []) ∨
    (table.removeRoute key).result = .ok () ∧
      ∃ (next : LinkedTable V) (left : Layout V),
        Linked.Ends (Linked.removeRoute key) linked (.ok ()) next (table.removeRoute key).events ∧
        next.Represents (table.removeRoute key).state left ∧ Shrinks left layout := by
  rcases key_kind_cases linked table layout represents key with
    ⟨fault, invalid, refused⟩ | ⟨kind, accepted, valid, reads⟩
  · exact Or.inl ⟨_, by simp [Table.removeRoute, Table.keyPath, invalid],
      Linked.ends_refused _ refused⟩
  rcases find_exact_refines linked table layout represents key kind valid with
    ⟨missing, finds⟩ | ⟨slot, spine, below, locates, finds⟩
  · refine Or.inl ⟨.notFound key, ?_, ?_⟩
    · simp [Table.removeRoute, Table.keyPath, accepted, Table.isRegistered, missing]
    · exact Linked.ends_read reads (Linked.ends_read finds (Linked.ends_refuse linked _))
  have node := located_node linked table layout represents _ slot spine below locates
  have last := Arena.around_last linked.arena spine _ locates.reaches.around
  cases routed : spine.target.isRoute with
  | false =>
      refine Or.inl ⟨.notFound key, ?_, ?_⟩
      · simp [Table.removeRoute, Table.keyPath, accepted, Table.isRegistered, node, routed]
      · refine Linked.ends_read reads (Linked.ends_read finds ?_)
        refine Linked.ends_read (Linked.reads_cell linked _ _ last) ?_
        simp only [Cell.ofNode, routed]
        exact Linked.ends_refuse linked _
  | true =>
      have mirrors := represents_mirrors linked table layout represents
      obtain ⟨next, left, ends, mirrored, shrinks⟩ :=
        detach_refines linked table layout mirrors slot spine below locates.held locates.reaches.apart
      rw [locates.path] at ends mirrored
      have stale := detach_stale table _ _ node
      have removed : table.removeRoute key =
          ⟨.ok (), (table.detach (kind.path key)).state,
            (table.detach (kind.path key)).events
              ++ [Journal.routeRemoved key (table.detach (kind.path key)).result]⟩ := by
        simp [Table.removeRoute, Table.keyPath, accepted, Table.isRegistered, node, routed]
      rw [removed]
      refine Or.inr ⟨rfl, _, left, ?_, mirrors_stale next _ left mirrored stale, shrinks⟩
      refine Linked.ends_read reads (Linked.ends_read finds ?_)
      refine Linked.ends_read (Linked.reads_cell linked _ _ last) ?_
      simp only [Cell.ofNode, routed, if_true]
      refine Linked.ends_bind ends ?_
      exact Linked.ends_then (Linked.ends_change next _) (Linked.ends_report _ _)

end

end LinkedTable

end TopicRouting
