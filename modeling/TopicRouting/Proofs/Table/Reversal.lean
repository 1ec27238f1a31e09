import TopicRouting.Proofs.Table.Reordering

/-!
Registering a route and taking it back. Removing a key takes exactly the routes that extend it. So
under equality a removal undoes a registration that withdrew nothing, and a route without longer
ones can be registered again right after it was removed: nothing extends its key then, and a root
that went with it has left a slot.
-/

set_option autoImplicit false

namespace TopicRouting.Table

universe u

variable {V : Type u}

theorem remove_route_taken (table : Table V) (sound : table.Sound) (key : String) (value : V)
    (registered : table.Registered key value) :
    (table.removeRoute key).result = .ok () ∧
      ∀ other own, (table.removeRoute key).state.Registered other own ↔
        table.Registered other own ∧ ¬ table.Extends other key := by
  obtain ⟨path, named, member⟩ := (registered_iff table sound key value).mp registered
  obtain ⟨here, found, _⟩ := (Forest.routes_iff _ sound.regular path value).mp member
  have isRegistered : table.isRegistered path = true :=
    (is_registered_iff table sound key path named).mpr ⟨value, registered⟩
  have left := detach_left table sound path here found
  simp only [removeRoute, named, if_pos isRegistered, true_and]
  intro other own
  have kept : ∀ whole, whole.text = other → (whole, own) ∈ table.routes →
      (table.Extends other key ↔ path <+: whole) := by
    intro whole text listed
    apply extends_spelled table key other path whole named
    rw [← text]
    exact route_key_path table sound whole own listed
  constructor
  · intro remains
    obtain ⟨whole, listed, text⟩ := remains
    rw [left.mem_iff, Forest.outside, List.mem_filter] at listed
    exact ⟨⟨whole, listed.1, text⟩,
      fun extended => of_decide_eq_true listed.2 ((kept whole text listed.1).mp extended)⟩
  · intro both
    obtain ⟨⟨whole, listed, text⟩, apart⟩ := both
    refine ⟨whole, ?_, text⟩
    rw [left.mem_iff, Forest.outside, List.mem_filter]
    exact ⟨listed, decide_eq_true fun front => apart ((kept whole text listed).mpr front)⟩

theorem root_listed_iff (table : Table V) (segment : Segment) :
    segment ∈ table.forest.segments ↔ ∃ here, table.forest.node? [segment] = some here := by
  rw [← Option.isSome_iff_exists, ← Option.ne_none_iff_isSome, Forest.node?, ne_eq,
    Forest.child_none_iff, Classical.not_not]

theorem fewer_roots (table other : Table V) (sound : table.Sound) (soundToo : other.Sound)
    (within : ∀ path value, (path, value) ∈ other.routes → (path, value) ∈ table.routes)
    (segment : Segment) (present : segment ∈ table.forest.segments)
    (gone : segment ∉ other.forest.segments) : other.roots.count < table.roots.count := by
  have listed : ∀ root, root ∈ other.forest.segments → root ∈ table.forest.segments := by
    intro root member
    rw [root_listed_iff, Forest.node_of_route _ soundToo.regular [root] (by simp)] at member
    obtain ⟨rest, value, route⟩ := member
    rw [root_listed_iff, Forest.node_of_route _ sound.regular [root] (by simp)]
    exact ⟨rest, value, within _ value route⟩
  have same : other.forest.segments.Perm
      (table.forest.segments.filter fun root => decide (root ∈ other.forest.segments)) := by
    rw [List.perm_ext_iff_of_nodup soundToo.regular.distinct (sound.regular.distinct.filter _)]
    intro root
    rw [List.mem_filter, decide_eq_true_iff]
    exact ⟨fun member => ⟨listed root member, member⟩, fun both => both.2⟩
  have counted : ∀ any : Table V, any.roots.count = any.forest.segments.length := by
    intro any
    rw [forest, Roots.forest_segments, List.length_map, Roots.count]
  rw [counted, counted, same.length_eq, List.length_filter_lt_length_iff_exists]
  exact ⟨segment, present, by simpa using gone⟩

section

variable [DecidableEq V] (table : Table V) (plain : table.Plain) (key : String) (kind : KeyKind)
  (valid : table.keyKind key = .ok kind) (value : V)
include plain valid

theorem granted_uncovered (fresh : ¬ table.Key key)
    (granted : (table.setRoute key value).result = .ok ()) : ¬ table.Covered key := by
  cases kind with
  | topic => exact ((topic_outcome table plain.lawful plain.fits key value valid).accepted.mp granted).1
  | literal =>
      intro covered
      obtain ⟨longer, held, registered, topics | literals⟩ := covered
      · cases valid.symm.trans topics.2.1
      · exact fresh ⟨held, literals.2 ▸ registered⟩

theorem registration_undone (fresh : ¬ table.Key key)
    (agreed : ∀ shorter held, table.Registered shorter held → table.Extends key shorter →
      shorter ≠ key → held = value)
    (granted : (table.setRoute key value).result = .ok ()) :
    ((table.setRoute key value).state.removeRoute key).result = .ok () ∧
      table.Level ((table.setRoute key value).state.removeRoute key).state := by
  have routes := granted_routes table plain key value granted
  have config := set_route_config table key value
  have uncovered := granted_uncovered table plain key kind valid value fresh granted
  have own : table.Extends key key := by
    apply extends_refl table key (kind.path key)
    rw [keyPath, valid]
  obtain ⟨removed, left⟩ := remove_route_taken _
    (set_route_plain table plain key value).lawful.sound key value
    ((routes key value).mpr (Or.inl ⟨rfl, rfl⟩))
  refine ⟨removed, (remove_route_config _ key).trans config, ?_⟩
  intro other held
  rw [left, routes, extends_config table _ config]
  constructor
  · intro registered
    have differs : other ≠ key := fun same => fresh ⟨held, same ▸ registered⟩
    exact ⟨Or.inr ⟨differs, registered, fun shorter => agreed other held registered shorter differs⟩,
      fun longer => uncovered ⟨other, held, registered, longer⟩⟩
  · intro both
    obtain ⟨⟨same, _⟩ | ⟨_, registered, _⟩, apart⟩ := both
    · exact absurd (same ▸ own) apart
    · exact registered

end

section

variable [DecidableEq V] (table : Table V) (plain : table.Plain) (key : String) (value : V)
  (registered : table.Registered key value)
include plain registered

-- The removed key has no node any more, and a root that went with it has left a slot.
theorem removed_accepted :
    ∃ kind, (table.removeRoute key).state.accept key value = .ok kind := by
  have sound := plain.lawful.sound
  have plainLeft := remove_route_keeps _ _ kept_plain table key plain
  have config := remove_route_config table key
  obtain ⟨_, left⟩ := remove_route_taken table sound key value registered
  obtain ⟨path, named, member⟩ := (registered_iff table sound key value).mp registered
  have namedLeft := (key_path_config table _ config key).trans named
  generalize (table.removeRoute key).state = after at *
  have uncovered : ¬ after.Covered key := by
    intro covered
    obtain ⟨longer, held, remains, extended⟩ := covered
    exact ((left longer held).mp remains).2 ((extends_config table after config _ _).mp extended)
  have missing : after.forest.node? path = none := by
    rw [covered_iff after plainLeft.lawful.sound key path namedLeft] at uncovered
    exact Option.eq_none_iff_forall_not_mem.mpr fun here found => uncovered ⟨here, found⟩
  obtain ⟨kind, classified, rfl⟩ := (key_path_iff after key path).mp namedLeft
  obtain ⟨segment, rest, cut⟩ := List.exists_cons_of_ne_nil
    (KeyRules.spells_nonempty _ _ (key_path_spelled after key _ namedLeft))
  rw [cut] at missing member
  have verdict := accept_missing after plainLeft.fits key value kind
    ((key_kind_iff after key kind).mpr classified) segment rest cut missing
  refine ⟨kind, verdict.trans (if_neg ?_)⟩
  intro refused
  obtain ⟨rootless, full⟩ := (Bool.and_eq_true _ _).mp refused
  have gone : segment ∉ after.forest.segments := by
    rw [forest, ← Forest.child_none_iff, Roots.forest_child, Option.isNone_iff_eq_none.mp rootless]
    rfl
  have present : segment ∈ table.forest.segments := by
    rw [root_listed_iff, Forest.node_of_route _ sound.regular [segment] (by simp)]
    exact ⟨rest, value, member⟩
  have within : ∀ path own, (path, own) ∈ after.routes → (path, own) ∈ table.routes := by
    intro path own remains
    exact route_registered after table plainLeft.lawful.sound sound config.symm (path, own) remains
      ((left _ _).mp ⟨path, remains, rfl⟩).1
  have fewer := fewer_roots table after sound plainLeft.lawful.sound within segment present gone
  have bounded := fits_count table plain.fits
  have crowded : after.roots.count = after.config.rootCapacity :=
    (full_iff after plainLeft.fits).mp full
  rw [config] at crowded
  omega

theorem removal_undone (longest : ∀ longer held, table.Registered longer held →
      table.Extends longer key → longer = key) :
    (table.removeRoute key).result = .ok () ∧
      ((table.removeRoute key).state.setRoute key value).result = .ok () ∧
      table.Level ((table.removeRoute key).state.setRoute key value).state := by
  have sound := plain.lawful.sound
  have plainLeft := remove_route_keeps _ _ kept_plain table key plain
  have config := remove_route_config table key
  obtain ⟨removed, left⟩ := remove_route_taken table sound key value registered
  obtain ⟨kind, accepted⟩ := removed_accepted table plain key value registered
  have granted := (set_route_ok _ key value kind accepted).1
  have routes := granted_routes _ plainLeft key value granted
  obtain ⟨path, named, valued⟩ := registered_value table sound key value registered
  have decided := (value_at_decides table plain.lawful plain.equality key path named value).mp valued
  refine ⟨removed, granted, (set_route_config _ key value).trans config, ?_⟩
  intro other own
  rw [routes, left, extends_config table _ config]
  constructor
  · intro here
    by_cases same : other = key
    · subst same
      exact Or.inl ⟨rfl, decided.agreed other own here (extends_refl table other path named)⟩
    · obtain ⟨whole, namedOther, valuedOther⟩ := registered_value table sound other own here
      have agreed := ((value_at_decides table plain.lawful plain.equality other whole namedOther
        own).mp valuedOther).agreed
      exact Or.inr ⟨same, ⟨here, fun longer => same (longest other own here longer)⟩,
        fun shorter => (agreed key value registered shorter).symm⟩
  · intro after
    obtain ⟨rfl, rfl⟩ | ⟨_, ⟨here, _⟩, _⟩ := after
    · exact registered
    · exact here

end

theorem insertion_removal_inverse [DecidableEq V] (table : Table V)
    (reachable : Reachable (fun _ => True) table) (equality : table.eqv = .equality) (key : String)
    (kind : KeyKind) (valid : table.keyKind key = .ok kind) (value : V) :
    (¬ table.Key key →
      (∀ shorter held, table.Registered shorter held → table.Extends key shorter →
        shorter ≠ key → held = value) →
      (table.setRoute key value).result = .ok () →
      ((table.setRoute key value).state.removeRoute key).result = .ok () ∧
        table.Alike ((table.setRoute key value).state.removeRoute key).state) ∧
    (table.Registered key value →
      (∀ longer held, table.Registered longer held → table.Extends longer key → longer = key) →
      (table.removeRoute key).result = .ok () ∧
        ((table.removeRoute key).state.setRoute key value).result = .ok () ∧
        table.Alike ((table.removeRoute key).state.setRoute key value).state) := by
  have plain := plain_reachable table reachable equality
  constructor
  · intro fresh agreed granted
    have plainLater := remove_route_keeps _ _ kept_plain _ key
      (set_route_plain table plain key value)
    obtain ⟨removed, level⟩ := registration_undone table plain key kind valid value fresh agreed granted
    exact ⟨removed, level_alike table _ plain plainLater level⟩
  · intro registered longest
    have plainLater := set_route_plain _ (remove_route_keeps _ _ kept_plain table key plain) key value
    obtain ⟨removed, granted, level⟩ := removal_undone table plain key value registered longest
    exact ⟨removed, granted, level_alike table _ plain plainLater level⟩

theorem insertion_removal_inverse_single_root :
    let table := (ofConfig { rootCapacity := 1 } : Table Nat).serveAll [.setRoute "a.b" 1]
    let added := (table.setRoute "a.c" 2).state
    let removed := (table.removeRoute "a.b").state
    added.firstValue? [.branch "a", .leaf "d"] = none ∧
      (added.removeRoute "a.c").state.lookupEarlyExit "a.d" = .ok 1 ∧
      removed.roots.count = 0 ∧ (removed.setRoute "a.b" 1).result = .ok () := by
  intro table added removed
  have reachable : Reachable (fun _ => True) table :=
    reachable_serve_all _ _ (.start _ _ trivial) _ (by simp [Request.Permitted])
  have routes : table.routes = [([.branch "a", .leaf "b"], 1)] := rfl
  have registered : ∀ key held, table.Registered key held → key = "a.b" ∧ held = 1 := by
    intro key held here
    obtain ⟨path, member, text⟩ := here
    rw [routes, List.mem_singleton, Prod.mk.injEq] at member
    obtain ⟨rfl, rfl⟩ := member
    exact ⟨text.symm.trans (by decide), rfl⟩
  have leaf : table.Registered "a.b" 1 := ⟨_, List.mem_singleton.mpr rfl, by decide⟩
  have undone := (insertion_removal_inverse table reachable rfl "a.c" .topic rfl 2).1
  have restored := (insertion_removal_inverse table reachable rfl "a.b" .topic rfl 1).2
  have fresh : ¬ table.Key "a.c" := by
    intro present
    obtain ⟨held, here⟩ := present
    exact absurd (registered "a.c" held here).1 (by decide)
  have agreed : ∀ shorter held, table.Registered shorter held → table.Extends "a.c" shorter →
      shorter ≠ "a.c" → held = 2 := by
    intro shorter held here extended _
    obtain ⟨rfl, rfl⟩ := registered shorter held here
    cases extended with
    | inl topics => exact absurd topics.2.2 (by decide)
    | inr literals => exact absurd literals.2 (by decide)
  obtain ⟨_, alike⟩ := undone fresh agreed rfl
  obtain ⟨_, granted, _⟩ := restored leaf fun longer held here _ => (registered longer held here).1
  have walked : table.lookupEarlyExit "a.d" = .ok 1 := rfl
  exact ⟨by decide, (alike.earlyExit "a.d").symm.trans walked, by decide, granted⟩

end TopicRouting.Table
