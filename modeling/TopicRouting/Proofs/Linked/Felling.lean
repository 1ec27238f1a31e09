import TopicRouting.Proofs.Linked.Climbing

set_option autoImplicit false

namespace TopicRouting

variable {V : Type}

namespace Grove

def backwards : Grove V → List NodeId
  | .nil => []
  | .node id _ _ children siblings => siblings.backwards ++ id :: children.backwards

theorem backwards_perm (grove : Grove V) : grove.backwards.Perm grove.ids := by
  induction grove with
  | nil => exact .refl _
  | node id segment target children siblings below beside =>
      refine List.perm_middle.trans (.cons id ?_)
      exact (beside.append below).trans List.perm_append_comm

end Grove

namespace Arena

def routesIn (arena : Arena V) (ids : List NodeId) : Nat :=
  ids.countP fun id => (arena.cell? id).any fun here => here.routed

theorem routes_in_congr (arena other : Arena V) (ids : List NodeId)
    (same : ∀ id ∈ ids, other.cell? id = arena.cell? id) :
    other.routesIn ids = arena.routesIn ids := by
  apply List.countP_congr
  intro id member
  rw [same id member]

theorem routes_in_grove (arena : Arena V) (parent : Option NodeId) (grove : Grove V)
    (holds : arena.Holds parent grove) : arena.routesIn grove.ids = grove.forest.routeCount := by
  induction grove generalizing parent with
  | nil => rfl
  | node id segment target children siblings below beside =>
      obtain ⟨here, lower, later⟩ := holds
      have children := below _ lower
      have siblings := beside _ later
      simp only [routesIn] at children siblings ⊢
      simp only [Grove.ids, Grove.forest, Forest.routeCount, List.countP_cons, List.countP_append,
        children, siblings, here, Option.any_some, Cell.ofNode]
      omega

end Arena

namespace Linked

theorem collects_subtree (table : LinkedTable V) (parent : Option NodeId) (grove : Grove V)
    (holds : table.arena.Holds parent grove) (stack order : List NodeId) :
    Proceeds (collectSubtree (grove.heads.reverse ++ stack) order) table
      (collectSubtree stack (order ++ grove.backwards)) table [] := by
  induction grove generalizing parent stack order with
  | nil =>
      rw [Grove.backwards, List.append_nil]
      exact proceeds_refl
  | node id segment target children siblings below beside =>
      obtain ⟨here, lower, later⟩ := holds
      rw [Grove.heads, List.reverse_cons, List.append_assoc, List.singleton_append]
      -- The last child is on top of the stack, so the later siblings come first.
      refine proceeds_silent (beside parent later (id :: stack) order) ?_
      rw [collect_subtree_eq]
      refine proceeds_silent (proceeds_read (reads_cell table id _ here)) ?_
      have collected := below _ lower stack (order ++ siblings.backwards ++ [id])
      simpa [Grove.backwards, Cell.ofNode] using collected

theorem reads_collect_subtree (table : LinkedTable V) (parent : Option NodeId) (id : NodeId)
    (segment : Segment) (target : Target V) (children : Grove V)
    (here : table.arena.cell? id = some (.ofNode segment target parent children.heads))
    (lower : table.arena.Holds (some id) children) :
    Reads (collectSubtree [id] []) table (id :: children.backwards) := by
  have whole : table.arena.Holds parent (.node id segment target children .nil) :=
    ⟨here, lower, trivial⟩
  have collected := collects_subtree table parent _ whole [] []
  refine proceeds_reads _ collected ?_
  rw [collect_subtree_eq]
  exact reads_pure table _

theorem releases_all (table : LinkedTable V) (doomed ids : List NodeId)
    (tallies : table.arena.Tallies (doomed ++ ids)) (routes : Nat) :
    Ends (releaseAll doomed routes) table (.ok (routes + table.arena.routesIn doomed))
      { table with arena := table.arena.vacateAll doomed } [] := by
  induction doomed generalizing table routes with
  | nil => exact ends_of_reads (reads_pure table routes)
  | cons id others ih =>
      obtain ⟨here, found⟩ := Arena.tallies_cell _ _ tallies id List.mem_cons_self
      have counted := Arena.tallies_live _ _ tallies id List.mem_cons_self
      have parts := List.nodup_cons.mp tallies.distinct
      have remaining : (table.arena.vacate id).routesIn others = table.arena.routesIn others := by
        refine Arena.routes_in_congr _ _ others fun other member => ?_
        refine Arena.vacate_other _ _ _ fun same => parts.1 ?_
        exact List.mem_append_left _ (same ▸ member)
      have rest := ih { table with arena := table.arena.vacate id }
        (Arena.tallies_vacate _ _ _ tallies) (routes + if here.routed then 1 else 0)
      have total : (routes + if here.routed then 1 else 0) + table.arena.routesIn others =
          routes + table.arena.routesIn (id :: others) := by
        simp only [Arena.routesIn, List.countP_cons, found, Option.any_some]
        omega
      rw [remaining, total] at rest
      exact ends_then (ends_release table id here found counted) rest

theorem releases_counted (table : LinkedTable V) (arena : Arena V) (doomed ids : List NodeId)
    (tallies : arena.Tallies (doomed ++ ids)) (routes : Nat)
    (counted : arena.routesIn doomed = routes) :
    Ends (releaseAll doomed 0) { table with arena } (.ok routes)
      { table with arena := arena.vacateAll doomed } [] := by
  have released := releases_all { table with arena } doomed ids tallies 0
  rwa [Nat.zero_add, counted] at released

def Fells (table : LinkedTable V) (spine : Spine V) (below others : Grove V) (slot : Nat) : Prop :=
  let change := (spine.fill below).tree.toForest.detach table.eqv spine.first spine.later
  ∃ left arena, Leaves (spine.fill below) others change left arena ∧
    Ends (removeSubtree spine.last) table
      (.ok ((if spine.target.isRoute then 1 else 0) + below.forest.routeCount))
      (table.settle spine.first slot left arena)
      (change.events ++ Journal.settled spine.first left)

theorem detach_end (eqv : Comparator V) (above : Spine V) (id : NodeId) (segment : Segment)
    (target : Target V) (before after below : Grove V)
    (apart : (Spine.node above id segment target before after).Apart) :
    (above.fill (before.append (.node id segment target below after))).tree.toForest.detach eqv
        above.first (above.later ++ [segment]) =
      above.resume eqv ⟨(before.append after).forest, true, []⟩ := by
  rw [Spine.detach_fill eqv above apart.2, Grove.append_forest,
    Forest.append_detach eqv _ _ _ _ apart.1, Grove.append_forest]
  simp [Grove.forest, Forest.detach]

theorem doomed_perm (id : NodeId) (below : Grove V) :
    (id :: below.backwards).reverse.Perm (id :: below.ids) :=
  (List.reverse_perm _).trans (.cons id below.backwards_perm)

theorem doomed_routes (arena : Arena V) (spine : Spine V) (below others : Grove V)
    (focused : arena.Focused spine below others) :
    arena.routesIn (spine.last :: below.backwards).reverse =
      (if spine.target.isRoute then 1 else 0) + below.forest.routeCount := by
  have last := Arena.focused_last arena spine below others focused
  have whole : arena.Holds spine.parent? (.node spine.last spine.segment spine.target below .nil) :=
    ⟨last, focused.held, trivial⟩
  have counted := Arena.routes_in_grove arena _ _ whole
  rw [Arena.routesIn, (doomed_perm spine.last below).countP_eq]
  simpa [Arena.routesIn, Grove.ids, Grove.forest, Forest.routeCount] using counted

theorem remove_subtree_refines (table : LinkedTable V) (spine : Spine V) (below others : Grove V)
    (apart : spine.Apart) (focused : table.arena.Focused spine below others) (slot : Nat)
    (lists : table.directory.Lists spine.first slot spine.base) :
    Fells table spine below others slot := by
  have last := Arena.focused_last table.arena spine below others focused
  have routes := doomed_routes table.arena spine below others focused
  have collected := reads_collect_subtree table spine.parent? spine.last spine.segment
    spine.target below last focused.held
  have whole := doomed_perm spine.last below
  cases spine with
  | root id segment target =>
      have tallies := Arena.tallies_permute _ _ _ focused.tallies (whole.symm.append_right others.ids)
      have detached : (Spine.fill (.root id segment target) below).tree.toForest.detach table.eqv
          segment [] = ⟨.nil, true, []⟩ := by
        simp [Spine.fill, Plant.tree, Tree.toForest, Forest.detach]
      have ends : Ends (removeSubtree id) table
          (.ok ((if target.isRoute then 1 else 0) + below.forest.routeCount))
          (table.settle segment slot none (table.arena.vacateAll (id :: below.backwards).reverse))
          [Journal.rootRemoved segment] := by
        refine ends_read collected ?_
        refine ends_read (reads_cell table id _ last) ?_
        refine ends_bind (ends_release_root table id _ last slot lists) ?_
        refine ends_then (releases_counted
          { table with directory := table.directory.drop segment.text slot } table.arena _ others.ids
          tallies _ routes) ?_
        rw [Cell.ofNode, Spine.parent?, revise_eq]
        exact ends_last _ (ends_of_reads (reads_pure _ ())) (reads_pure _ _)
      rw [Fells, Spine.later, Spine.first, detached]
      refine ⟨none, _, ⟨?_, rfl, List.nil_subset _⟩, ends⟩
      exact Arena.focused_fell table.arena id segment target below others focused _ whole
  | node above id segment target before after =>
      have tallies := Arena.tallies_unlinked table.arena above id segment target before after below
        others focused _ whole
      have cut := Arena.focused_cut table.arena above id segment target before after below others
        focused _ whole
      -- Unlinking writes the cell above, which is none of those given up, so the count is the same.
      have kept : (table.arena.rewrite above above.target (before.append after).heads).routesIn
          (id :: below.backwards).reverse =
            (if target.isRoute then 1 else 0) + below.forest.routeCount := by
        refine Eq.trans ?_ routes
        refine Arena.routes_in_congr _ _ _ fun other member => Arena.write_other _ _ _ _ ?_
        exact (List.nodup_append.mp tallies.distinct).2.2 other member above.last
          (List.mem_append_left _ above.last_member)
      obtain ⟨left, arena, leaves, revised⟩ := revise_refines
        { table with
          arena := (table.arena.rewrite above above.target
            (before.append after).heads).vacateAll (id :: below.backwards).reverse }
        above (before.append after) others cut slot lists
      rw [settle_arena] at revised
      rw [Fells, Spine.fill, Spine.first, Spine.later, detach_end _ _ _ _ _ _ _ _ apart]
      refine ⟨left, arena, ⟨leaves.stocked, leaves.tree, ?_⟩, ?_⟩
      · refine fun place member => above.fill_places _ _ ?_ (leaves.places member)
        simp only [Grove.append_places, Grove.places]
        grind
      · refine ends_read collected ?_
        refine ends_read (reads_cell table id _ last) ?_
        refine ends_then (ends_unlink table _ _ _ _ _ _ _ _ focused) ?_
        refine ends_then (releases_counted table _ _ _ tallies _ kept) ?_
        exact ends_last _ revised (reads_pure _ _)

end Linked

end TopicRouting
