import TopicRouting.Proofs.Table.Emptying

set_option autoImplicit false

namespace TopicRouting.Table

universe u

variable {V : Type u}

structure Alike (table other : Table V) : Prop where
  exhaustive : ∀ key, table.lookupExhaustive key = other.lookupExhaustive key
  earlyExit : ∀ key, table.lookupEarlyExit key = other.lookupEarlyExit key
  quick : ∀ key, (table.lookupQuick key).result = (other.lookupQuick key).result
  resolve : ∀ strategy key, (table.setStrategy strategy).state.resolve key =
    (other.setStrategy strategy).state.resolve key
  lookup : ∀ strategy key, ((table.setStrategy strategy).state.lookup key).result =
    ((other.setStrategy strategy).state.lookup key).result
  keys : ∀ value, table.keysRoutedTo value = other.keysRoutedTo value
  rootNodes : table.statistics.rootNodes = other.statistics.rootNodes
  dynamicNodes : table.statistics.dynamicNodes = other.statistics.dynamicNodes

structure Level (table other : Table V) : Prop where
  config : other.config = table.config
  routes : ∀ key value, table.Registered key value ↔ other.Registered key value

theorem resolve_selected (table : Table V) (sound : table.Sound) (strategy : Strategy)
    (key : String) :
    (table.setStrategy strategy).state.resolve key =
      if strategy = .exhaustive then table.lookupExhaustive key else table.lookupEarlyExit key := by
  have selected := (kept_sound fun _ => True).select table strategy sound
  cases strategy with
  | exhaustive => rfl
  | earlyExit => rfl
  | quickCache => exact resolve_early _ selected rfl key

theorem lookup_selected (table : Table V) (sound : table.Sound) (strategy : Strategy)
    (key : String) :
    ((table.setStrategy strategy).state.lookup key).result =
      if strategy = .exhaustive then table.lookupExhaustive key else table.lookupEarlyExit key := by
  have selected := (kept_sound fun _ => True).select table strategy sound
  cases strategy with
  | exhaustive => rfl
  | earlyExit => rfl
  | quickCache => exact lookup_early _ selected rfl key

theorem extends_config (table other : Table V) (same : other.config = table.config)
    (longer key : String) : other.Extends longer key ↔ table.Extends longer key := by
  simp only [Extends, keyKind, same]

theorem route_registered (table other : Table V) (sound : table.Sound) (soundToo : other.Sound)
    (config : other.config = table.config) (route : Path × V) (member : route ∈ table.routes)
    (registered : other.Registered route.1.text route.2) : route ∈ other.routes := by
  have named := route_key_path table sound route.1 route.2 member
  obtain ⟨whole, isWhole, there⟩ := (registered_iff other soundToo _ _).mp registered
  rw [key_path_config table other config] at isWhole
  cases named.symm.trans isWhole
  exact there

section

variable (table other : Table V) (level : table.Level other)
include level

theorem level_extends (longer key : String) : other.Extends longer key ↔ table.Extends longer key :=
  extends_config table other level.config longer key

theorem level_decides (key : String) (value : V) :
    table.Decides key value ↔ other.Decides key value := by
  constructor
  · rintro ⟨⟨longer, held, registered, longerKey⟩, agreed⟩
    refine ⟨⟨longer, held, (level.routes longer held).mp registered,
      (level_extends table other level longer key).mpr longerKey⟩, ?_⟩
    intro far own registeredFar farKey
    exact agreed far own ((level.routes far own).mpr registeredFar)
      ((level_extends table other level far key).mp farKey)
  · rintro ⟨⟨longer, held, registered, longerKey⟩, agreed⟩
    refine ⟨⟨longer, held, (level.routes longer held).mpr registered,
      (level_extends table other level longer key).mp longerKey⟩, ?_⟩
    intro far own registeredFar farKey
    exact agreed far own ((level.routes far own).mp registeredFar)
      ((level_extends table other level far key).mpr farKey)

section

variable (sound : table.Sound) (soundToo : other.Sound)
include sound soundToo

theorem level_routes : table.routes.Perm other.routes := by
  rw [routes, routes, List.perm_ext_iff_of_nodup (Forest.routes_once _ sound.regular)
    (Forest.routes_once _ soundToo.regular)]
  intro route
  constructor
  · intro member
    exact route_registered table other sound soundToo level.config route member
      ((level.routes _ _).mp ⟨route.1, member, rfl⟩)
  · intro member
    exact route_registered other table soundToo sound level.config.symm route member
      ((level.routes _ _).mpr ⟨route.1, member, rfl⟩)

theorem level_counts :
    table.roots.count = other.roots.count ∧ table.roots.dynamicCount = other.roots.dynamicCount := by
  obtain ⟨heads, fronts, literals, isHead, isFront, isLiteral, roots, nodes⟩ :=
    counts_enumerated table sound
  obtain ⟨headsToo, frontsToo, literalsToo, isHeadToo, isFrontToo, isLiteralToo, rootsToo,
    nodesToo⟩ := counts_enumerated other soundToo
  have keys : other.Key = table.Key := funext fun key => propext
    ⟨fun ⟨value, registered⟩ => ⟨value, (level.routes key value).mpr registered⟩,
      fun ⟨value, registered⟩ => ⟨value, (level.routes key value).mp registered⟩⟩
  rw [level.config, keys] at isHeadToo isFrontToo isLiteralToo
  have headsSame := enumerates_length _ _ _ isHead isHeadToo
  have frontsSame := enumerates_length _ _ _ isFront isFrontToo
  have literalsSame := enumerates_length _ _ _ isLiteral isLiteralToo
  rw [node_count] at nodes nodesToo
  omega

end

end

theorem text_ordered (texts : List String) : texts.mergeSort.Pairwise (· ≤ ·) := by
  apply List.Pairwise.imp (fun {_ _} relation => of_decide_eq_true relation)
  apply List.pairwise_mergeSort
  · intro a b c first second
    simp only [decide_eq_true_eq] at *
    exact String.le_trans first second
  · intro a b
    simp only [Bool.or_eq_true, decide_eq_true_eq]
    exact String.le_total a b

theorem text_sort (texts others : List String) (same : texts.Perm others) :
    texts.mergeSort = others.mergeSort :=
  List.Perm.eq_of_pairwise (fun _ _ _ _ first second => String.le_antisymm first second)
    (text_ordered texts) (text_ordered others)
    ((List.mergeSort_perm texts _).trans (same.trans (List.mergeSort_perm others _).symm))

section

variable [DecidableEq V]

structure Plain (table : Table V) : Prop where
  lawful : table.Lawful
  fits : table.Fits
  equality : table.eqv = .equality

theorem plain_reachable (table : Table V) (reachable : Reachable (fun _ => True) table)
    (equality : table.eqv = .equality) : table.Plain :=
  ⟨lawful_now table reachable (equality ▸ Comparator.equality_isEquivalence),
    reachable_fits _ table reachable, equality⟩

theorem kept_plain : Kept (fun eqv => eqv = Comparator.equality) (Plain (V := V)) where
  start config eqv permitted :=
    ⟨kept_lawful.start config eqv (permitted ▸ Comparator.equality_isEquivalence),
      (kept_fits fun _ => True).start config eqv trivial, permitted⟩
  register table key value kind plain accepted :=
    ⟨register_lawful table key value kind plain.lawful accepted,
      register_fits table key value kind plain.fits accepted,
      (register_comparator table _ value).trans plain.equality⟩
  detach table path plain :=
    ⟨detach_lawful table path plain.lawful, detach_fits table path plain.fits,
      (detach_comparator table path).trans plain.equality⟩
  install table eqv plain permitted :=
    ⟨install_lawful table eqv plain.lawful.sound (permitted ▸ Comparator.equality_isEquivalence),
      (kept_fits fun _ => True).install table eqv plain.fits trivial, permitted⟩
  select table strategy plain :=
    ⟨kept_lawful.select table strategy plain.lawful,
      (kept_fits fun _ => True).select table strategy plain.fits, plain.equality⟩
  refresh table plain :=
    ⟨kept_lawful.refresh table plain.lawful, (kept_fits fun _ => True).refresh table plain.fits,
      plain.equality⟩

variable (table other : Table V) (plain : table.Plain) (plainToo : other.Plain)
  (level : table.Level other)
include plain plainToo level

theorem level_exhaustive (key : String) : table.lookupExhaustive key = other.lookupExhaustive key := by
  have same := key_path_config table other level.config key
  cases named : table.keyPath key with
  | error error => rw [lookupExhaustive, lookupExhaustive, same, named]
  | ok path =>
      rw [named] at same
      rw [exhaustive_answer table key path named, exhaustive_answer other key path same]
      refine congrArg (answer key) (Option.ext fun value => ?_)
      rw [value_at_decides table plain.lawful plain.equality key path named,
        value_at_decides other plainToo.lawful plainToo.equality key path same]
      exact level_decides table other level key value

theorem level_early (key : String) : table.lookupEarlyExit key = other.lookupEarlyExit key := by
  have same := key_path_config table other level.config key
  cases named : table.keyPath key with
  | error error => rw [lookupEarlyExit, lookupEarlyExit, same, named]
  | ok path =>
      rw [named] at same
      rw [early_answer table key path named, early_answer other key path same]
      refine congrArg (answer key) (Option.ext fun value => ?_)
      rw [first_value_decides table plain.lawful plain.equality key path named,
        first_value_decides other plainToo.lawful plainToo.equality key path same]
      simp only [level_extends table other level, level_decides table other level]

theorem level_alike : table.Alike other := by
  have exhaustive := level_exhaustive table other plain plainToo level
  have early := level_early table other plain plainToo level
  have sound := plain.lawful.sound
  have soundToo := plainToo.lawful.sound
  obtain ⟨roots, dynamic⟩ := level_counts table other level sound soundToo
  refine ⟨exhaustive, early, ?_, ?_, ?_, ?_, roots, dynamic⟩
  · intro key
    rw [lookup_quick_early table sound, lookup_quick_early other soundToo, early]
  · intro strategy key
    rw [resolve_selected table sound, resolve_selected other soundToo, exhaustive, early]
  · intro strategy key
    rw [lookup_selected table sound, lookup_selected other soundToo, exhaustive, early]
  · intro value
    have routes := level_routes table other level sound soundToo
    rw [keysRoutedTo, keysRoutedTo, plain.equality, plainToo.equality]
    exact text_sort _ _ ((routes.filter _).map _)

end

end TopicRouting.Table
