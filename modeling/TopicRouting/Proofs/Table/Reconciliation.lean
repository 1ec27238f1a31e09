import TopicRouting.Proofs.Forest.Reconciled
import TopicRouting.Proofs.Table.Resolution

/-!
Installing a comparator. Whatever the comparators before, and whatever they left, an equivalence
brings every value in line again: no node comes or goes, and a route stays exactly when the routes
that extend it and are not extended themselves lead to an equivalent destination.
-/

set_option autoImplicit false

namespace TopicRouting

universe u

variable {V : Type u}

structure Node.Agreed (eqv : Comparator V) (here : Node V) : Prop where
  below : ∀ value path lower, here.target.value? = some value → here.below? path = some lower →
    ∃ held, lower.target.value? = some held ∧ eqv value held = true
  undecided : here.children ≠ .nil →
    (here.target.value? = none ↔ ¬ here.children.Unanimous eqv)

theorem Roots.reconcile_settled [DecidableEq V] (roots : Roots V)
    (distinct : roots.forest.segments.Nodup) (collapsed : roots.forest.Collapsed .equality) :
    (roots.reconcile .equality).state = roots := by
  have trees : ∀ tree ∈ roots.trees,
      tree.node.Settled .equality ∧ tree.children.Collapsed .equality := by
    intro tree member
    apply Forest.every_child _ _ collapsed tree.segment tree.node
    apply Forest.child_of_tops _ _ _ distinct
    rw [forest_tops]
    exact List.mem_map.mpr ⟨tree, member, rfl⟩
  refine congrArg (Roots.mk roots.capacity) ((List.map_congr_left ?_).trans (List.map_id _))
  intro slot member
  cases slot with
  | none => rfl
  | some tree =>
      obtain ⟨settled, below⟩ := trees tree (List.mem_filterMap.mpr ⟨_, member, rfl⟩)
      have target := Forest.settled_target tree.node settled
      simp only [Option.map_some, Forest.reconcile_settled _ below]
      exact congrArg (fun own => some (Tree.mk tree.segment own tree.children)) target

namespace Table

theorem install_forest (table : Table V) (eqv : Comparator V) :
    (table.setComparator eqv).state.forest = table.forest.reconcile eqv :=
  table.roots.reconcile_forest eqv

def Unextended (table : Table V) (key : String) : Prop :=
  ∀ longer held, table.Registered longer held → table.Extends longer key → longer = key

theorem lawful_agreed (table : Table V) (lawful : table.Lawful) (path : Path) (here : Node V)
    (found : table.forest.node? path = some here) : here.Agreed table.eqv := by
  obtain ⟨settled, collapsed⟩ := Forest.every_node _ _ lawful.collapsed path here found
  constructor
  · intro value rest lower valued isLower
    exact here.settled_below table.eqv lawful.lawful settled collapsed value valued rest lower isLower
  · exact here.settled_none_iff table.eqv lawful.lawful settled

section

variable (table : Table V) (sound : table.Sound)
include sound

theorem node_key_path (path : Path) (here : Node V) (found : table.forest.node? path = some here) :
    table.keyPath path.text = .ok path :=
  (key_path_spells table path).mpr (sound.spelled path here found)

theorem unextended_iff (path : Path) (value : V) (member : (path, value) ∈ table.routes) :
    table.Unextended path.text ↔ ∀ more own, (path ++ more, own) ∈ table.routes → more = [] := by
  have named := route_key_path table sound path value member
  constructor
  · intro unextended more own longer
    have namedLonger := route_key_path table sound _ own longer
    have same := unextended _ own ⟨_, longer, rfl⟩
      ((extends_iff table _ _).mpr ⟨path, more, named, namedLonger⟩)
    rw [same, named] at namedLonger
    simpa using namedLonger
  · intro none longer held registered longerKey
    obtain ⟨whole, namedWhole, isRoute⟩ := (registered_iff table sound longer held).mp registered
    obtain ⟨front, rest, namedFront, namedLonger⟩ := (extends_iff table longer _).mp longerKey
    cases named.symm.trans namedFront
    cases namedWhole.symm.trans namedLonger
    rw [← key_path_text table longer _ namedWhole, none rest held isRoute, List.append_nil]

theorem ends_registered (path : Path) (here : Node V)
    (found : table.forest.node? path = some here) (value : V) :
    here.Ends value ↔ ∃ longer, table.Registered longer value ∧
      table.Extends longer path.text ∧ table.Unextended longer := by
  have named := node_key_path table sound path here found
  rw [Forest.ends_iff table.forest sound.regular path here found]
  constructor
  · rintro ⟨rest, member, none⟩
    have namedLonger := route_key_path table sound _ value member
    exact ⟨_, ⟨_, member, rfl⟩, (extends_iff table _ _).mpr ⟨path, rest, named, namedLonger⟩,
      (unextended_iff table sound _ value member).mpr none⟩
  · rintro ⟨longer, registered, longerKey, unextended⟩
    obtain ⟨whole, namedWhole, member⟩ := (registered_iff table sound longer value).mp registered
    obtain ⟨front, rest, namedFront, namedLonger⟩ := (extends_iff table longer _).mp longerKey
    cases named.symm.trans namedFront
    cases namedWhole.symm.trans namedLonger
    rw [← key_path_text table longer _ namedWhole] at unextended
    exact ⟨rest, member, (unextended_iff table sound _ value member).mp unextended⟩

theorem install_registered (eqv : Comparator V) (lawful : eqv.IsEquivalence) (key : String)
    (held : V) :
    (table.setComparator eqv).state.Registered key held ↔
      table.Registered key held ∧
        ∀ longer own, table.Registered longer own → table.Extends longer key →
          table.Unextended longer → eqv held own = true := by
  have soundLater := install_sound table eqv sound
  have stays : ∀ path here, table.forest.node? path = some here →
      ((Forest.reconciled eqv here).target = .route held ↔
        here.target = .route held ∧ ∀ longer own, table.Registered longer own →
          table.Extends longer path.text → table.Unextended longer → eqv held own = true) := by
    intro path here found
    obtain ⟨regular, below⟩ := Forest.regular_node _ sound.regular path here found
    rw [Forest.reconciled_route eqv lawful here regular below]
    simp only [ends_registered table sound path here found]
    grind
  constructor
  · rintro ⟨path, member, rfl⟩
    obtain ⟨settled, found, routed⟩ := (Forest.routes_iff _ soundLater.regular path held).mp member
    rw [install_forest, Forest.reconcile_node, Option.map_eq_some_iff] at found
    obtain ⟨here, isHere, rfl⟩ := found
    obtain ⟨before, agreed⟩ := (stays path here isHere).mp routed
    exact ⟨⟨path, (Forest.routes_iff _ sound.regular path held).mpr ⟨here, isHere, before⟩, rfl⟩,
      agreed⟩
  · rintro ⟨⟨path, member, rfl⟩, agreed⟩
    obtain ⟨here, isHere, before⟩ := (Forest.routes_iff _ sound.regular path held).mp member
    refine ⟨path, (Forest.routes_iff _ soundLater.regular path held).mpr ?_, rfl⟩
    refine ⟨Forest.reconciled eqv here, ?_, (stays path here isHere).mpr ⟨before, agreed⟩⟩
    rw [install_forest, Forest.reconcile_node, isHere, Option.map_some]

end

theorem comparator_installed (table : Table V) (reachable : Reachable (fun _ => True) table)
    (eqv : Comparator V) (lawful : eqv.IsEquivalence) :
    let after := (table.setComparator eqv).state
    (∀ path here, after.forest.node? path = some here → here.Agreed eqv) ∧
      after.forest.nodes.map Prod.fst = table.forest.nodes.map Prod.fst ∧
      (∀ key held, after.Registered key held ↔
        table.Registered key held ∧
          ∀ longer own, table.Registered longer own → table.Extends longer key →
            table.Unextended longer → eqv held own = true) ∧
      ∀ _ : DecidableEq V, Reachable (fun eqv => eqv = .equality) table →
        table.resetComparator.state.roots = table.roots := by
  have sound := reachable_sound _ table reachable
  refine ⟨?_, ?_, install_registered table sound eqv lawful, ?_⟩
  · exact lawful_agreed _ (install_lawful table eqv sound lawful)
  · rw [install_forest]
    exact Forest.reconcile_paths eqv table.forest
  · intro decides equal
    have compares : table.eqv = .equality := reachable_comparator _ table equal
    have settled := reachable_lawful table (reachable_weaken _ _
      (fun eqv same => same ▸ Comparator.equality_isEquivalence) table equal)
    have collapsed := settled.collapsed
    rw [compares] at collapsed
    exact Roots.reconcile_settled table.roots sound.regular.distinct collapsed

-- The comparator before only goes one way and let a prefix stay above a leaf that leads elsewhere.
theorem comparator_installed_after_one_way :
    let table := (withComparator {} (fun existing incoming => decide (existing ≤ incoming)) :
      Table Nat).serveAll
        [.setRoute "a." 1, .setRoute "a.b" 2, .setRoute "c." 3, .setRoute "c.d" 3]
    let after := (table.setComparator .equality).state
    let equal := (ofConfig {} : Table Nat).serveAll [.setRoute "a.b" 1, .setRoute "a.c" 1]
    table.Registered "a." 1 ∧ ¬ after.Registered "a." 1 ∧ after.Registered "c." 3 ∧
      after.forest.nodes.length = 4 ∧ equal.resetComparator.state.roots = equal.roots := by
  intro table after equal
  have reachable : Reachable (fun _ => True) table :=
    reachable_serve_all _ _ (.start {} _ trivial) _ (by simp [Request.Permitted])
  have reachableEqual : Reachable (fun eqv => eqv = .equality) equal :=
    reachable_serve_all (fun eqv => eqv = .equality) _ (.start {} _ rfl) _
      (by simp [Request.Permitted])
  obtain ⟨_, paths, routes, _⟩ :=
    comparator_installed table reachable .equality Comparator.equality_isEquivalence
  obtain ⟨_, _, _, unchanged⟩ := comparator_installed equal
    (reachable_weaken _ _ (fun _ _ => trivial) equal reachableEqual) .equality
    Comparator.equality_isEquivalence
  have listed : table.routes = [([.branch "a"], 1), ([.branch "a", .leaf "b"], 2),
      ([.branch "c"], 3), ([.branch "c", .leaf "d"], 3)] := rfl
  have unextended : table.Unextended "a.b" := by
    rintro longer held ⟨path, member, rfl⟩ longerKey
    rw [listed] at member
    simp only [List.mem_cons, List.not_mem_nil, or_false, Prod.mk.injEq] at member
    rcases longerKey with ⟨_, _, front⟩ | ⟨_, same⟩
    · rcases member with ⟨rfl, rfl⟩ | ⟨rfl, rfl⟩ | ⟨rfl, rfl⟩ | ⟨rfl, rfl⟩
      · exact absurd front (by decide)
      · decide
      · exact absurd front (by decide)
      · exact absurd front (by decide)
    · exact same
  have leaf : table.Registered "a.b" 2 :=
    ⟨_, List.mem_cons_of_mem _ (List.mem_cons_self ..), by decide⟩
  have counted := congrArg List.length paths
  rw [List.length_map, List.length_map] at counted
  refine ⟨⟨_, List.mem_cons_self .., rfl⟩, ?_, ⟨[.branch "c"], by decide, rfl⟩,
    counted.trans rfl, unchanged _ reachableEqual⟩
  intro stays
  have agreed := ((routes "a." 1).mp stays).2 "a.b" 2 leaf (Or.inl ⟨rfl, rfl, by decide⟩) unextended
  exact absurd agreed (by decide)

end Table

end TopicRouting
