import TopicRouting.Proofs.Table.Directory
import TopicRouting.Proofs.Table.Runs
import TopicRouting.Proofs.Topic.Spelling

/-!
What holds of every table that comes about. Whatever the comparators, its forest is regular, its
paths are the paths of keys, and a cache that is not stale is the cache of its forest. With
comparators that are equivalences its forest is collapsed as well.
-/

set_option autoImplicit false

namespace TopicRouting.Table

universe u

variable {V : Type u}

theorem accept_kind (table : Table V) (key : String) (value : V) (kind : KeyKind)
    (accepted : table.accept key value = .ok kind) :
    table.config.keyRules.classify key = .ok kind := by
  cases classified : table.config.keyRules.classify key with
  | error fault =>
      rw [accept, keyKind, classified] at accepted
      cases accepted
  | ok found =>
      simp only [accept, keyKind, classified] at accepted
      split at accepted <;> grind

theorem accept_present (table : Table V) (key : String) (value : V) (kind : KeyKind)
    (accepted : table.accept key value = .ok kind) (here : Node V)
    (present : table.forest.node? (kind.path key) = some here) :
    kind = .literal ∨
      here.target.value? = none ∧ here.children.agreesWith table.eqv value = true := by
  have classified := accept_kind table key value kind accepted
  simp only [accept, keyKind, classified, present] at accepted
  cases kind with
  | literal => exact Or.inl rfl
  | topic =>
      refine Or.inr ?_
      cases valued : here.target.value? with
      | some held => simp [valued] at accepted
      | none =>
          refine ⟨rfl, ?_⟩
          by_cases agrees : here.children.agreesWith table.eqv value = true
          · exact agrees
          · simp [valued, agrees] at accepted

structure Sound (table : Table V) : Prop where
  regular : table.forest.Regular
  spelled : ∀ path here, table.forest.node? path = some here →
    table.config.keyRules.Spells path
  current : table.cache.stale = false → table.cache = .ofForest table.forest

theorem sound_rearranged (table : Table V) (roots : Roots V) (forest : Forest V)
    (rearranged : roots.forest.Rearranged forest) (regular : forest.Regular)
    (spelled : ∀ path here, forest.node? path = some here → table.config.keyRules.Spells path)
    (eqv : Comparator V) :
    Sound { table with eqv, roots, cache := table.cache.invalidate } := by
  refine ⟨Forest.rearranged_regular _ _ rearranged regular, ?_, fun fresh => (nomatch fresh)⟩
  intro path here found
  exact spelled path here ((Forest.rearranged_node _ _ rearranged path).symm.trans found)

theorem register_sound (table : Table V) (path : Path) (value : V) (sound : table.Sound)
    (spelled : table.config.keyRules.Spells path) : (table.register path value).state.Sound := by
  cases path with
  | nil => exact sound
  | cons segment rest =>
      apply sound_rearranged table _ _ (table.roots.register_rearranged table.eqv value segment rest
        sound.regular.distinct) (Forest.register_regular _ _ _ _ _ _ sound.regular)
      intro path here found
      have isSome := congrArg Option.isSome found
      rw [Option.isSome_some, Forest.register_nodes] at isSome
      rcases isSome with before | ⟨nonempty, later, extends_⟩
      · obtain ⟨old, found⟩ := Option.isSome_iff_exists.mp before
        exact sound.spelled path old found
      · rw [← extends_] at spelled
        exact KeyRules.spells_front _ path later nonempty spelled

theorem detach_sound (table : Table V) (path : Path) (sound : table.Sound) :
    (table.detach path).state.Sound := by
  rcases detach_state table path with same | ⟨segment, rest, changed⟩
  · rwa [same]
  · rw [changed]
    apply sound_rearranged table _ _ (table.roots.detach_rearranged table.eqv segment rest
      sound.regular.distinct) (Forest.detach_regular _ _ _ _ sound.regular)
    intro path left found
    obtain ⟨old, found⟩ := Option.isSome_iff_exists.mp (Forest.detach_nodes table.eqv
      table.forest segment rest path sound.regular (by rw [forest, found]; rfl))
    exact sound.spelled path old found

theorem install_sound (table : Table V) (eqv : Comparator V) (sound : table.Sound) :
    (table.setComparator eqv).state.Sound := by
  have regular := Forest.reconcile_regular eqv table.forest sound.regular
  apply sound_rearranged table _ (table.forest.reconcile eqv) ?_ regular
  · intro path here found
    rw [Forest.reconcile_node, Option.map_eq_some_iff] at found
    obtain ⟨old, found, _⟩ := found
    exact sound.spelled path old found
  · rw [Roots.reconcile_forest]
    exact Forest.rearranged_refl _ regular.distinct

theorem start_sound (config : TableConfig) (eqv : Comparator V) :
    (withComparator config eqv).Sound := by
  refine ⟨Forest.regular_nil, ?_, fun fresh => (nomatch fresh)⟩
  intro path here found
  cases (Forest.nil_node path).symm.trans found

theorem kept_sound (permits : Comparator V → Prop) : Kept permits Sound where
  start config eqv _ := start_sound config eqv
  register table key value kind sound accepted :=
    register_sound table _ value sound
      (KeyRules.spells_key_path _ key kind (accept_kind table key value kind accepted))
  detach := detach_sound
  install table eqv sound _ := install_sound table eqv sound
  select _ _ sound := ⟨sound.regular, sound.spelled, sound.current⟩
  refresh _ sound := ⟨sound.regular, sound.spelled, fun _ => rfl⟩

theorem reachable_sound (permits : Comparator V → Prop) (table : Table V)
    (reachable : Reachable permits table) : table.Sound :=
  reachable_keeps permits Sound (kept_sound permits) table reachable

structure Lawful (table : Table V) : Prop where
  sound : table.Sound
  lawful : table.eqv.IsEquivalence
  collapsed : table.forest.Collapsed table.eqv

theorem literal_childless (table : Table V) (sound : table.Sound) (key : String) (here : Node V)
    (found : table.forest.node? [.literal key] = some here) : here.children = .nil := by
  by_cases childless : here.children = .nil
  · exact childless
  · obtain ⟨segment, child, isChild⟩ := Forest.child_of_nonempty here.children childless
    have below : table.forest.node? [.literal key, segment] = some child := by
      have down := Forest.node_append [.literal key] [segment] table.forest (by simp)
      rw [found] at down
      exact down.trans isChild
    cases KeyRules.spells_below_branch _ [] (.literal key) segment [] (sound.spelled _ _ below)

theorem accept_follows (table : Table V) (lawful : table.Lawful) (key : String) (value : V)
    (kind : KeyKind) (accepted : table.accept key value = .ok kind) (here : Node V)
    (present : table.forest.node? (kind.path key) = some here) :
    here.children.follows table.eqv value = true := by
  rcases accept_present table key value kind accepted here present with isLiteral | ⟨_, agrees⟩
  · subst isLiteral
    rw [literal_childless table lawful.sound key here present]
    rfl
  · exact (Forest.agrees_follows table.eqv lawful.lawful value _).mp agrees

theorem register_lawful (table : Table V) (key : String) (value : V) (kind : KeyKind)
    (lawful : table.Lawful) (accepted : table.accept key value = .ok kind) :
    (table.register (kind.path key) value).state.Lawful := by
  have sound := (kept_sound fun _ => True).register table key value kind lawful.sound accepted
  have follows := accept_follows table lawful key value kind accepted
  generalize kind.path key = path at sound follows
  cases path with
  | nil => exact lawful
  | cons segment rest =>
      refine ⟨sound, lawful.lawful, ?_⟩
      apply Forest.rearranged_every _ _ _ (table.roots.register_rearranged table.eqv value segment
        rest lawful.sound.regular.distinct)
      exact Forest.register_collapsed table.eqv lawful.lawful value table.forest segment rest false
        lawful.sound.regular lawful.collapsed follows (fun settled => nomatch settled)

theorem detach_lawful (table : Table V) (path : Path) (lawful : table.Lawful) :
    (table.detach path).state.Lawful := by
  have sound := detach_sound table path lawful.sound
  rcases detach_state table path with same | ⟨segment, rest, changed⟩
  · rwa [same]
  · rw [changed] at sound ⊢
    refine ⟨sound, lawful.lawful, ?_⟩
    apply Forest.rearranged_every _ _ _ (table.roots.detach_rearranged table.eqv segment rest
      lawful.sound.regular.distinct)
    exact Forest.detach_collapsed table.eqv lawful.lawful table.forest segment rest
      lawful.sound.regular lawful.collapsed

-- Nothing of the old comparator matters here.
theorem install_lawful (table : Table V) (eqv : Comparator V) (sound : table.Sound)
    (lawful : eqv.IsEquivalence) : (table.setComparator eqv).state.Lawful := by
  refine ⟨install_sound table eqv sound, lawful, ?_⟩
  have reconciled := Forest.reconcile_collapsed eqv lawful table.forest
  rwa [forest, ← Roots.reconcile_forest] at reconciled

theorem kept_lawful : Kept Comparator.IsEquivalence (Lawful (V := V)) where
  start config eqv permitted := ⟨(kept_sound _).start config eqv permitted, permitted, trivial⟩
  register table key value kind lawful accepted :=
    register_lawful table key value kind lawful accepted
  detach table path lawful := detach_lawful table path lawful
  install table eqv lawful permitted := install_lawful table eqv lawful.sound permitted
  select table strategy lawful :=
    ⟨(kept_sound Comparator.IsEquivalence).select table strategy lawful.sound, lawful.lawful,
      lawful.collapsed⟩
  refresh table lawful :=
    ⟨(kept_sound Comparator.IsEquivalence).refresh table lawful.sound, lawful.lawful,
      lawful.collapsed⟩

theorem reachable_lawful (table : Table V)
    (reachable : Reachable Comparator.IsEquivalence table) : table.Lawful :=
  reachable_keeps _ Lawful kept_lawful table reachable

-- Installing a comparator settles every node anew, so only the one in use has to be an
-- equivalence, whatever those before it were.
theorem kept_settled : Kept (fun _ => True) fun table : Table V =>
    table.Sound ∧ (table.eqv.IsEquivalence → table.Lawful) where
  start config eqv _ :=
    ⟨start_sound config eqv, fun lawful => kept_lawful.start config eqv lawful⟩
  register table key value kind both accepted := by
    refine ⟨(kept_sound fun _ => True).register table key value kind both.1 accepted, ?_⟩
    rw [register_comparator]
    exact fun lawful => register_lawful table key value kind (both.2 lawful) accepted
  detach table path both := by
    refine ⟨detach_sound table path both.1, ?_⟩
    rw [detach_comparator]
    exact fun lawful => detach_lawful table path (both.2 lawful)
  install table eqv both _ :=
    ⟨install_sound table eqv both.1, fun lawful => install_lawful table eqv both.1 lawful⟩
  select table strategy both :=
    ⟨(kept_sound fun _ => True).select table strategy both.1,
      fun lawful => kept_lawful.select table strategy (both.2 lawful)⟩
  refresh table both :=
    ⟨(kept_sound fun _ => True).refresh table both.1,
      fun lawful => kept_lawful.refresh table (both.2 lawful)⟩

theorem lawful_now (table : Table V) (reachable : Reachable (fun _ => True) table)
    (lawful : table.eqv.IsEquivalence) : table.Lawful :=
  (reachable_keeps _ _ kept_settled table reachable).2 lawful

theorem collapse_invariant (table : Table V)
    (reachable : Reachable Comparator.IsEquivalence table) :
    (∀ path here rest below value, (path, here) ∈ table.forest.nodes →
      (rest, below) ∈ here.children.nodes → here.target.value? = some value →
      ∃ lower, below.target.value? = some lower ∧ table.eqv value lower = true) ∧
    ∀ path here, (path, here) ∈ table.forest.nodes → here.children ≠ .nil →
      (here.target.value? = none ↔ ¬ here.children.Unanimous table.eqv) := by
  have lawful := reachable_lawful table reachable
  have regular := lawful.sound.regular
  constructor
  · intro path here rest below value member memberBelow valued
    rw [Forest.nodes_iff _ regular] at member
    obtain ⟨settled, collapsed⟩ := Forest.every_node _ _ lawful.collapsed path here member
    rw [Forest.nodes_iff _ (Forest.regular_node _ regular path here member).2] at memberBelow
    cases rest with
    | nil => cases memberBelow
    | cons segment rest =>
        exact here.settled_below table.eqv lawful.lawful settled collapsed value valued
          (segment :: rest) below memberBelow
  · intro path here member inner
    rw [Forest.nodes_iff _ regular] at member
    have settled := (Forest.every_node _ _ lawful.collapsed path here member).1
    exact here.settled_none_iff table.eqv lawful.lawful settled inner

theorem collapse_invariant_after_removal :
    let table := (ofConfig {} : Table Nat).serveAll
      [.setRoute "a.b" 1, .setRoute "a.c" 1, .setRoute "a.d" 2, .removeRoute "a.d"]
    ∃ here, ([.branch "a"], here) ∈ table.forest.nodes ∧ here.target.value? = some 1 ∧
      here.children.Unanimous table.eqv := by
  intro table
  have reachable : Reachable Comparator.IsEquivalence table :=
    reachable_serve_all _ _ (.start {} _ Comparator.equality_isEquivalence) _
      (by simp [Request.Permitted])
  obtain ⟨_, complete⟩ := collapse_invariant table reachable
  have member : ([.branch "a"], ⟨.collapsed 1, .node (.leaf "b") (.route 1) .nil
      (.node (.leaf "c") (.route 1) .nil .nil)⟩) ∈ table.forest.nodes := List.mem_cons_self ..
  refine ⟨_, member, rfl, ?_⟩
  have valued := complete _ _ member (fun empty => nomatch empty)
  exact Classical.not_not.mp fun differ => nomatch valued.mpr differ

end TopicRouting.Table
