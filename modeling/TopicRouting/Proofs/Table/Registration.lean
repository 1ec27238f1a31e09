import TopicRouting.Proofs.Forest.Registered
import TopicRouting.Proofs.Table.Capacity
import TopicRouting.Proofs.Table.Resolution

set_option autoImplicit false

namespace TopicRouting.Table

universe u

variable {V : Type u}

/-! ## Routes that extend a key -/

def Covered (table : Table V) (key : String) : Prop :=
  ∃ longer held, table.Registered longer held ∧ table.Extends longer key

def Concordant (table : Table V) (key : String) : Prop :=
  ∀ longer held other own, table.Registered longer held → table.Extends longer key →
    table.Registered other own → table.Extends other key → table.eqv held own = true

def Rooted (table : Table V) (key : String) : Prop :=
  ∃ other held, table.Registered other held ∧ table.keyKind other = .ok .topic ∧
    (Path.ofTopic other).head? = (Path.ofTopic key).head?

theorem registered_route (table : Table V) (sound : table.Sound) (key : String) (value : V) :
    table.Registered key value ↔
      ∃ path, table.keyPath key = .ok path ∧ table.forest.routeAt? path = some value := by
  rw [registered_iff table sound]
  simp only [Forest.route_at_iff _ sound.regular, routes]

theorem covered_iff (table : Table V) (sound : table.Sound) (key : String) (path : Path)
    (named : table.keyPath key = .ok path) :
    table.Covered key ↔ ∃ here, table.forest.node? path = some here := by
  have nonempty := KeyRules.spells_nonempty _ path (key_path_spelled table key path named)
  rw [Forest.node_of_route _ sound.regular path nonempty]
  constructor
  · rintro ⟨longer, held, registered, longerKey⟩
    obtain ⟨rest, member⟩ :=
      (extending_iff table sound key path named held).mp ⟨longer, registered, longerKey⟩
    exact ⟨rest, held, member⟩
  · rintro ⟨rest, held, member⟩
    obtain ⟨longer, registered, longerKey⟩ :=
      (extending_iff table sound key path named held).mpr ⟨rest, member⟩
    exact ⟨longer, held, registered, longerKey⟩

theorem concordant_iff (table : Table V) (lawful : table.Lawful) (key : String) (path : Path)
    (named : table.keyPath key = .ok path) (here : Node V)
    (found : table.forest.node? path = some here) :
    table.Concordant key ↔ here.target.value?.isSome = true := by
  have sound := lawful.sound
  obtain ⟨node, below⟩ := Forest.regular_node _ sound.regular path here found
  obtain ⟨settled, collapsed⟩ := Forest.every_node _ _ lawful.collapsed path here found
  have agreed := here.agreed_iff table.eqv lawful.lawful node below settled collapsed
  have leads : ∀ value, here.Leads value ↔
      ∃ longer, table.Registered longer value ∧ table.Extends longer key := by
    intro value
    rw [extending_iff table sound key path named, routes, Forest.leads_iff _ sound.regular path here found]
  rw [Option.isSome_iff_exists]
  constructor
  · intro concordant
    obtain ⟨value, first⟩ := here.leads_somewhere node below
    obtain ⟨longer, registered, longerKey⟩ := (leads value).mp first
    have all : ∀ routed, here.Leads routed → table.eqv value routed = true := by
      intro routed second
      obtain ⟨other, registeredOther, otherKey⟩ := (leads routed).mp second
      exact concordant longer value other routed registered longerKey registeredOther otherKey
    obtain ⟨held, valued, _⟩ := (agreed value).mpr all
    exact ⟨held, valued⟩
  · rintro ⟨common, valued⟩ longer held other own registered longerKey registeredOther otherKey
    have all := (agreed common).mp ⟨common, valued, lawful.lawful.refl common⟩
    have first := all held ((leads held).mpr ⟨longer, registered, longerKey⟩)
    have second := all own ((leads own).mpr ⟨other, registeredOther, otherKey⟩)
    exact lawful.lawful.trans (lawful.lawful.symm first) second

theorem undecided_children (table : Table V) (lawful : table.Lawful) (path : Path) (here : Node V)
    (found : table.forest.node? path = some here) (absent : here.target.value? = none) (value : V) :
    ¬ here.children.agreesWith table.eqv value = true := by
  obtain ⟨node, _⟩ := Forest.regular_node _ lawful.sound.regular path here found
  obtain ⟨settled, _⟩ := Forest.every_node _ _ lawful.collapsed path here found
  rw [Forest.agrees_follows table.eqv lawful.lawful]
  rcases (Forest.uniform_none table.eqv lawful.lawful _).mp (settled.complete absent) with
    empty | differ
  · have routed := node.ends empty
    cases target : here.target <;> simp_all [Target.isRoute, Target.value?]
  · exact differ value

theorem rooted_iff (table : Table V) (sound : table.Sound) (key : String) (segment : Segment)
    (rest : Path) (path : Path.ofTopic key = segment :: rest) :
    table.Rooted key ↔ ∃ tree, table.roots.find? segment = some tree := by
  have atRoot : (∃ tree, table.roots.find? segment = some tree) ↔
      ∃ here, table.forest.node? [segment] = some here := by
    rw [forest, Roots.forest_root]
    cases table.roots.find? segment <;> simp
  rw [atRoot, Forest.node_of_route _ sound.regular [segment] (by simp), Rooted, path]
  constructor
  · rintro ⟨other, held, registered, isTopic, sameHead⟩
    obtain ⟨whole, named, member⟩ := (registered_iff table sound other held).mp registered
    have cut : whole = Path.ofTopic other := by
      rw [keyPath, isTopic] at named
      cases named
      rfl
    obtain ⟨first, later, split⟩ : ∃ first later, whole = first :: later :=
      List.exists_cons_of_ne_nil
        (KeyRules.spells_nonempty _ _ (key_path_spelled table other whole named))
    rw [← cut, split] at sameHead
    obtain rfl : first = segment := by simpa using sameHead
    exact ⟨later, held, by simpa [routes, split] using member⟩
  · rintro ⟨later, held, member⟩
    have named := route_key_path table sound _ held member
    obtain ⟨kind, valid, same⟩ := (key_path_iff table _ _).mp named
    have isTopic : kind = .topic := by
      cases kind with
      | topic => rfl
      | literal =>
          have isLiteral := (List.cons.inj same).1
          have topical := Path.topical_ofTopic key
          rw [path, ← isLiteral] at topical
          exact False.elim topical
    subst isTopic
    refine ⟨_, held, ⟨_, member, rfl⟩, (key_kind_iff table _ _).mpr valid, ?_⟩
    rw [← KeyKind.path, same]
    rfl

/-! ## The routes after a registration -/

theorem register_config (table : Table V) (path : Path) (value : V) :
    (table.register path value).state.config = table.config := by
  cases path <;> rfl

theorem register_forest_at (table : Table V) (sound : table.Sound) (segment : Segment)
    (rest : Path) (value : V) (path : Path) :
    (table.register (segment :: rest) value).state.forest.routeAt? path =
      (table.forest.register table.eqv value segment rest false).forest.routeAt? path := by
  have rearranged := table.roots.register_rearranged table.eqv value segment rest
    sound.regular.distinct
  exact congrArg (Option.bind · _) (Forest.rearranged_node _ _ rearranged path)

theorem register_route_at (table : Table V) (lawful : table.Lawful) (whole : Path) (value : V)
    (nonempty : whole ≠ []) (path : Path) :
    (table.register whole value).state.forest.routeAt? path =
      Forest.surviving table.eqv value whole path (table.forest.routeAt? path) := by
  obtain ⟨segment, rest, rfl⟩ := List.exists_cons_of_ne_nil nonempty
  rw [register_forest_at table lawful.sound]
  by_cases empty : path = []
  · subst empty
    rfl
  · exact Forest.register_route table.eqv lawful.lawful value table.forest segment rest false
      lawful.sound.regular lawful.collapsed (fun settled => nomatch settled) path empty

theorem surviving_some (eqv : Comparator V) (value : V) (whole path : Path) (held : Option V)
    (own : V) :
    Forest.surviving eqv value whole path held = some own ↔
      path = whole ∧ own = value ∨
        path ≠ whole ∧ held = some own ∧ (path <+: whole → eqv own value = true) := by
  by_cases same : path = whole
  · rw [Forest.surviving, if_pos same, Option.some.injEq]
    simp only [same, true_and, ne_eq, not_true_eq_false, false_and, or_false]
    exact eq_comm
  · by_cases front : path <+: whole <;>
      simp [Forest.surviving, same, front, Option.filter_eq_some_iff]

theorem register_registered (table : Table V) (lawful : table.Lawful) (key : String) (value : V)
    (kind : KeyKind) (accepted : table.accept key value = .ok kind) (other : String) (held : V) :
    (table.register (kind.path key) value).state.Registered other held ↔
      other = key ∧ held = value ∨
        other ≠ key ∧ table.Registered other held ∧
          (table.Extends key other → table.eqv held value = true) := by
  have classified := accept_kind table key value kind accepted
  have named : table.keyPath key = .ok (kind.path key) :=
    (key_path_iff table key _).mpr ⟨kind, classified, rfl⟩
  have sound := (register_lawful table key value kind lawful accepted).sound
  have nonempty := KeyRules.spells_nonempty _ _ (key_path_spelled table key _ named)
  have sameNames : ∀ text, (table.register (kind.path key) value).state.keyPath text =
      table.keyPath text := by
    intro text
    rw [keyPath, keyPath, keyKind, keyKind, register_config]
  have sameKey : ∀ path, table.keyPath other = .ok path → (path = kind.path key ↔ other = key) := by
    intro path isPath
    constructor
    · rintro rfl
      rw [← key_path_text table other _ isPath, text_key_path]
    · rintro rfl
      exact Except.ok.inj (isPath.symm.trans named)
  have front : ∀ path, table.keyPath other = .ok path →
      (path <+: kind.path key ↔ table.Extends key other) := by
    intro path isPath
    rw [extends_iff, named, isPath]
    constructor
    · rintro ⟨rest, same⟩
      exact ⟨path, rest, rfl, by rw [same]⟩
    · rintro ⟨_, rest, ⟨⟩, same⟩
      exact ⟨rest, (Except.ok.inj same).symm⟩
  rw [registered_route _ sound, registered_route _ lawful.sound]
  simp only [sameNames, register_route_at table lawful _ value nonempty, surviving_some]
  constructor
  · rintro ⟨path, isPath, ⟨same, isValue⟩ | ⟨apart, routed, agrees⟩⟩
    · exact Or.inl ⟨(sameKey path isPath).mp same, isValue⟩
    · exact Or.inr ⟨fun same => apart ((sameKey path isPath).mpr same), ⟨path, isPath, routed⟩,
        fun extends_ => agrees ((front path isPath).mpr extends_)⟩
  · rintro (⟨same, isValue⟩ | ⟨apart, ⟨path, isPath, routed⟩, agrees⟩)
    · subst same
      exact ⟨_, named, Or.inl ⟨rfl, isValue⟩⟩
    · exact ⟨path, isPath, Or.inr ⟨fun same => apart ((sameKey path isPath).mp same), routed,
        fun isFront => agrees ((front path isPath).mp isFront)⟩⟩

/-! ## Answers -/

theorem set_route_error (table : Table V) (key : String) (value : V) (error : RouteError)
    (refused : table.accept key value = .error error) :
    (table.setRoute key value).result = .error error := by
  rw [setRoute, refused]

theorem set_route_ok (table : Table V) (key : String) (value : V) (kind : KeyKind)
    (accepted : table.accept key value = .ok kind) :
    (table.setRoute key value).result = .ok () ∧
      (table.setRoute key value).state = (table.register (kind.path key) value).state := by
  rw [setRoute, accepted]
  exact ⟨rfl, rfl⟩

theorem set_route_granted (table : Table V) (key : String) (value : V)
    (granted : (table.setRoute key value).result = .ok ()) :
    ∃ kind, table.accept key value = .ok kind := by
  cases verdict : table.accept key value with
  | error error => cases (set_route_error table key value error verdict).symm.trans granted
  | ok kind => exact ⟨kind, rfl⟩

theorem granted_registered (table : Table V) (lawful : table.Lawful) (key : String) (value : V)
    (granted : (table.setRoute key value).result = .ok ()) (other : String) (held : V) :
    (table.setRoute key value).state.Registered other held ↔
      other = key ∧ held = value ∨
        other ≠ key ∧ table.Registered other held ∧
          (table.Extends key other → table.eqv held value = true) := by
  obtain ⟨kind, accepted⟩ := set_route_granted table key value granted
  rw [(set_route_ok table key value kind accepted).2]
  exact register_registered table lawful key value kind accepted other held

def Crowded (table : Table V) : Prop := table.roots.count = table.config.rootCapacity

theorem full_iff (table : Table V) (fits : table.Fits) :
    table.roots.isFull = true ↔ table.Crowded := by
  have bounded := fits_count table fits
  rw [Roots.isFull, fits.capacity, decide_eq_true_iff, Crowded]
  omega

structure LiteralOutcome (table : Table V) (key : String) (value : V)
    (set : Outcome (Table V) (Except RouteError Unit)) : Prop where
  replaced : (∃ held, table.Registered key held) → set.result = .ok ()
  refused : (¬ ∃ held, table.Registered key held) → table.Crowded →
    set.result = .error (.capacityExceeded table.config.rootCapacity)
  added : (¬ ∃ held, table.Registered key held) → ¬ table.Crowded → set.result = .ok ()
  routes : set.result = .ok () → ∀ other held, set.state.Registered other held ↔
    other = key ∧ held = value ∨ other ≠ key ∧ table.Registered other held

-- Unlike a literal, a topic whose node exists is never accepted.
structure TopicOutcome (table : Table V) (key : String) (value : V)
    (set : Outcome (Table V) (Except RouteError Unit)) : Prop where
  duplicate : set.result = .error (.duplicateRoute key) ↔
    table.Covered key ∧ table.Concordant key
  conflicting : set.result = .error (.conflictingRoute key) ↔
    table.Covered key ∧ ¬ table.Concordant key
  full : set.result = .error (.capacityExceeded table.config.rootCapacity) ↔
    ¬ table.Covered key ∧ ¬ table.Rooted key ∧ table.Crowded
  accepted : set.result = .ok () ↔
    ¬ table.Covered key ∧ ¬ (¬ table.Rooted key ∧ table.Crowded)
  routes : set.result = .ok () → ∀ other held, set.state.Registered other held ↔
    other = key ∧ held = value ∨
      table.Registered other held ∧
        ¬ (table.Extends key other ∧ other ≠ key ∧ ¬ table.eqv held value = true)
  fresh : set.result = .ok () → table.forest.node? (Path.ofTopic key) = none

theorem accept_missing (table : Table V) (fits : table.Fits) (key : String) (value : V)
    (kind : KeyKind) (isKind : table.keyKind key = .ok kind) (segment : Segment) (rest : Path)
    (path : kind.path key = segment :: rest)
    (missing : table.forest.node? (segment :: rest) = none) :
    table.accept key value =
      if (table.roots.find? segment).isNone && table.roots.isFull then
        .error (.capacityExceeded table.config.rootCapacity)
      else .ok kind := by
  rw [accept, isKind]
  simp only [path, missing, List.head?_cons, Option.bind_some, fits.capacity]
  cases table.roots.find? segment <;> simp

theorem literal_outcome (table : Table V) (lawful : table.Lawful) (fits : table.Fits)
    (key : String) (value : V) (isLiteral : table.keyKind key = .ok .literal) :
    LiteralOutcome table key value (table.setRoute key value) := by
  have sound := lawful.sound
  have named : table.keyPath key = .ok [.literal key] := by rw [keyPath, isLiteral]; rfl
  have present : (∃ held, table.Registered key held) ↔
      ∃ here, table.forest.node? [.literal key] = some here := by
    rw [← covered_iff table sound key _ named]
    constructor
    · rintro ⟨held, registered⟩
      exact ⟨key, held, registered, Or.inr ⟨isLiteral, rfl⟩⟩
    · rintro ⟨longer, held, registered, ⟨_, isTopic, _⟩ | ⟨_, rfl⟩⟩
      · cases isLiteral.symm.trans isTopic
      · exact ⟨held, registered⟩
  have verdict (absent : ¬ ∃ here, table.forest.node? [.literal key] = some here) :
      table.accept key value =
        if table.roots.isFull then .error (.capacityExceeded table.config.rootCapacity)
        else .ok .literal := by
    have missing : table.forest.node? [.literal key] = none :=
      Option.eq_none_iff_forall_not_mem.mpr fun here found => absent ⟨here, found⟩
    have rootless : table.roots.find? (.literal key) = none := by
      rwa [forest, Roots.forest_root, Option.map_eq_none_iff] at missing
    rw [accept_missing table fits key value .literal isLiteral _ _ rfl missing, rootless,
      Option.isNone_none, Bool.true_and]
  refine ⟨?_, ?_, ?_, ?_⟩
  · rw [present]
    rintro ⟨here, found⟩
    have accepted : table.accept key value = .ok .literal := by
      simp [accept, isLiteral, KeyKind.path, found]
    exact (set_route_ok table key value _ accepted).1
  · rw [present, ← full_iff table fits]
    intro absent full
    exact set_route_error table key value _ ((verdict absent).trans (if_pos full))
  · rw [present, ← full_iff table fits]
    intro absent room
    exact (set_route_ok table key value .literal ((verdict absent).trans (if_neg room))).1
  · intro done other held
    have accepted : table.accept key value = .ok .literal := by
      cases answer : table.accept key value with
      | error error => cases (set_route_error table key value error answer).symm.trans done
      | ok kind =>
          have valid := (key_kind_iff table key kind).mpr (accept_kind table key value kind answer)
          cases isLiteral.symm.trans valid
          rfl
    rw [(set_route_ok table key value _ accepted).2,
      register_registered table lawful key value .literal accepted]
    have own : table.Extends key other → other = key := by
      rintro (⟨isTopic, _, _⟩ | ⟨_, same⟩)
      · cases isLiteral.symm.trans isTopic
      · exact same.symm
    constructor
    · rintro (fresh | ⟨apart, registered, _⟩)
      · exact Or.inl fresh
      · exact Or.inr ⟨apart, registered⟩
    · rintro (fresh | ⟨apart, registered⟩)
      · exact Or.inl fresh
      · exact Or.inr ⟨apart, registered, fun extends_ => False.elim (apart (own extends_))⟩

theorem topic_cases (table : Table V) (lawful : table.Lawful) (fits : table.Fits) (key : String)
    (value : V) (isTopic : table.keyKind key = .ok .topic) :
    (table.Covered key ∧ table.Concordant key ∧
        table.accept key value = .error (.duplicateRoute key)) ∨
      (table.Covered key ∧ ¬ table.Concordant key ∧
        table.accept key value = .error (.conflictingRoute key)) ∨
      (¬ table.Covered key ∧ (¬ table.Rooted key ∧ table.Crowded) ∧
        table.accept key value = .error (.capacityExceeded table.config.rootCapacity)) ∨
      (¬ table.Covered key ∧ ¬ (¬ table.Rooted key ∧ table.Crowded) ∧
        table.accept key value = .ok .topic ∧
        table.forest.node? (Path.ofTopic key) = none) := by
  have sound := lawful.sound
  have named : table.keyPath key = .ok (Path.ofTopic key) := by rw [keyPath, isTopic]; rfl
  have nonempty := KeyRules.spells_nonempty _ _ (key_path_spelled table key _ named)
  have covered := covered_iff table sound key _ named
  obtain ⟨segment, rest, path⟩ := List.exists_cons_of_ne_nil nonempty
  have rooted := rooted_iff table sound key segment rest path
  have full := full_iff table fits
  -- There is a node exactly when some route extends the topic; without one only the root counts.
  cases found : table.forest.node? (Path.ofTopic key) with
  | some here =>
      have isCovered : table.Covered key := covered.mpr ⟨here, found⟩
      have concordant := concordant_iff table lawful key _ named here found
      cases valued : here.target.value? with
      | some held =>
          refine Or.inl ⟨isCovered, concordant.mpr (by simp [valued]), ?_⟩
          simp [accept, isTopic, KeyKind.path, found, valued]
      | none =>
          have differ := undecided_children table lawful _ here found valued value
          refine Or.inr (Or.inl ⟨isCovered, fun agreed => ?_, ?_⟩)
          · simpa [valued] using concordant.mp agreed
          · simp [accept, isTopic, KeyKind.path, found, valued, differ]
  | none =>
      have notCovered : ¬ table.Covered key := by
        rw [covered]
        rintro ⟨here, isHere⟩
        cases found.symm.trans isHere
      have verdict := accept_missing table fits key value .topic isTopic segment rest path
        (path ▸ found)
      cases root : table.roots.find? segment with
      | some tree =>
          rw [root] at verdict
          exact Or.inr (Or.inr (Or.inr ⟨notCovered,
            fun crowded => crowded.1 (rooted.mpr ⟨tree, root⟩), verdict, rfl⟩))
      | none =>
          have notRooted : ¬ table.Rooted key := by
            rw [rooted]
            rintro ⟨tree, isTree⟩
            cases root.symm.trans isTree
          rw [root] at verdict
          by_cases crowded : table.roots.isFull = true
          · exact Or.inr (Or.inr (Or.inl ⟨notCovered, ⟨notRooted, full.mp crowded⟩,
              verdict.trans (if_pos crowded)⟩))
          · exact Or.inr (Or.inr (Or.inr ⟨notCovered,
              fun both => crowded (full.mpr both.2), verdict.trans (if_neg crowded), rfl⟩))

theorem topic_routes (table : Table V) (lawful : table.Lawful) (key : String) (value : V)
    (isTopic : table.keyKind key = .ok .topic) (accepted : table.accept key value = .ok .topic)
    (uncovered : ¬ table.Covered key) (other : String) (held : V) :
    (table.setRoute key value).state.Registered other held ↔
      other = key ∧ held = value ∨
        table.Registered other held ∧
          ¬ (table.Extends key other ∧ other ≠ key ∧ ¬ table.eqv held value = true) := by
  have own : table.Extends key key := Or.inl ⟨isTopic, isTopic, List.prefix_refl _⟩
  have notOwn : ∀ own, ¬ table.Registered key own := fun _ registered =>
    uncovered ⟨key, _, registered, own⟩
  rw [(set_route_ok table key value _ accepted).2,
    register_registered table lawful key value .topic accepted]
  constructor
  · rintro (fresh | ⟨_, registered, agrees⟩)
    · exact Or.inl fresh
    · exact Or.inr ⟨registered, fun ⟨shorter, _, differs⟩ => differs (agrees shorter)⟩
  · rintro (fresh | ⟨registered, kept⟩)
    · exact Or.inl fresh
    · have apart : other ≠ key := fun same => notOwn held (same ▸ registered)
      exact Or.inr ⟨apart, registered, fun shorter =>
        Classical.byContradiction fun differs => kept ⟨shorter, apart, differs⟩⟩

theorem topic_outcome (table : Table V) (lawful : table.Lawful) (fits : table.Fits) (key : String)
    (value : V) (isTopic : table.keyKind key = .ok .topic) :
    TopicOutcome table key value (table.setRoute key value) := by
  rcases topic_cases table lawful fits key value isTopic with ⟨covered, agreed, refused⟩ |
    ⟨covered, differ, refused⟩ | ⟨uncovered, crowded, refused⟩ | ⟨uncovered, room, accepted, absent⟩
  · have answer := set_route_error table key value _ refused
    constructor <;> simp [answer, covered, agreed]
  · have answer := set_route_error table key value _ refused
    constructor <;> simp [answer, covered, differ]
  · have answer := set_route_error table key value _ refused
    constructor <;> simp [answer, uncovered, crowded]
  · have answer := (set_route_ok table key value _ accepted).1
    refine ⟨?_, ?_, ?_, ?_, fun _ => topic_routes table lawful key value isTopic accepted uncovered,
      fun _ => absent⟩
    · simp [answer, uncovered]
    · simp [answer, uncovered]
    · simp only [answer, uncovered, not_false_eq_true, true_and, room, iff_false]
      exact fun same => nomatch same
    · simp only [answer, uncovered, not_false_eq_true, room, and_self]

theorem set_route_determined (table : Table V)
    (reachable : Reachable Comparator.IsEquivalence table) (key : String) (value : V) :
    (∀ fault, table.config.keyRules.classify key = .error fault →
      (table.setRoute key value).result = .error (.invalidKey key fault)) ∧
    (table.keyKind key = .ok .literal →
      LiteralOutcome table key value (table.setRoute key value)) ∧
    (table.keyKind key = .ok .topic →
      TopicOutcome table key value (table.setRoute key value)) := by
  have lawful := reachable_lawful table reachable
  have fits := reachable_fits _ table reachable
  refine ⟨?_, literal_outcome table lawful fits key value, topic_outcome table lawful fits key value⟩
  intro fault invalid
  apply set_route_error
  rw [accept, keyKind, invalid]

theorem set_route_determined_for_nested :
    let table := (withComparator {} Comparator.sameHost).serveAll
      [.setRoute "a." "h:1", .setRoute "a.b." "h:2", .setRoute "_x" "h:1"]
    let set := table.setRoute "a.b.c" "g:1"
    table.Registered "a." "h:1" ∧ set.result = .ok () ∧ set.state.Registered "a.b.c" "g:1" ∧
      (∀ held, ¬ set.state.Registered "a." held) ∧ (∀ held, ¬ set.state.Registered "a.b." held) ∧
      set.state.Registered "_x" "h:1" := by
  intro table set
  have reachable : Reachable Comparator.IsEquivalence table :=
    reachable_serve_all _ _ (.start {} _ Comparator.sameHost_isEquivalence) _
      (by simp [Request.Permitted])
  have routes : table.routes =
      [([.branch "a"], "h:1"), ([.branch "a", .branch "b"], "h:2"), ([.literal "_x"], "h:1")] := rfl
  have registered : ∀ key held, table.Registered key held →
      key = "a." ∧ held = "h:1" ∨ key = "a.b." ∧ held = "h:2" ∨ key = "_x" ∧ held = "h:1" := by
    rintro key held ⟨path, member, rfl⟩
    rw [routes] at member
    simp only [List.mem_cons, List.not_mem_nil, or_false, Prod.mk.injEq] at member
    rcases member with ⟨rfl, rfl⟩ | ⟨rfl, rfl⟩ | ⟨rfl, rfl⟩ <;> decide
  have outcome := (set_route_determined table reachable "a.b.c" "g:1").2.2 rfl
  have after := outcome.routes rfl
  refine ⟨⟨_, List.mem_cons_self .., rfl⟩, rfl, (after _ _).mpr (Or.inl ⟨rfl, rfl⟩), ?_, ?_, ?_⟩
  · intro held remains
    rcases (after _ _).mp remains with ⟨same, _⟩ | ⟨before, kept⟩
    · exact absurd same (by decide)
    · obtain ⟨_, rfl⟩ | ⟨same, _⟩ | ⟨same, _⟩ := registered _ _ before
      · exact kept ⟨Or.inl ⟨rfl, rfl, by decide⟩, by decide, by decide⟩
      · exact absurd same (by decide)
      · exact absurd same (by decide)
  · intro held remains
    rcases (after _ _).mp remains with ⟨same, _⟩ | ⟨before, kept⟩
    · exact absurd same (by decide)
    · obtain ⟨same, _⟩ | ⟨_, rfl⟩ | ⟨same, _⟩ := registered _ _ before
      · exact absurd same (by decide)
      · exact kept ⟨Or.inl ⟨rfl, rfl, by decide⟩, by decide, by decide⟩
      · exact absurd same (by decide)
  · refine (after _ _).mpr (Or.inr ⟨⟨[.literal "_x"], by rw [routes]; simp, rfl⟩, ?_⟩)
    rintro ⟨⟨_, isTopic, _⟩ | ⟨isLiteral, _⟩, _, _⟩
    · cases isTopic
    · cases isLiteral

end TopicRouting.Table
