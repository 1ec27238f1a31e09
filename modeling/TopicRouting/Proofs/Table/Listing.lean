import Mathlib.Data.Set.Card
import TopicRouting.Proofs.Table.Coherence
import TopicRouting.Proofs.Table.Observation

set_option autoImplicit false

namespace TopicRouting

universe u

variable {V : Type u}

/-! ## Keys of a destination -/

namespace Table

theorem texts_ascending (texts : List String) (once : texts.Nodup) :
    texts.mergeSort.Pairwise fun a b => bytes a < bytes b := by
  have apart : texts.mergeSort.Nodup := (List.mergeSort_perm texts _).nodup_iff.mpr once
  apply ((text_ordered texts).and apart).imp
  intro a b both
  apply bytes_less
  rw [← String.not_le]
  exact fun reversed => both.2 (String.le_antisymm both.1 reversed)

theorem keys_routed_iff (table : Table V) (value : V) (key : String) :
    key ∈ table.keysRoutedTo value ↔
      ∃ held, table.Registered key held ∧ table.eqv held value = true := by
  rw [keysRoutedTo, List.mem_mergeSort, List.mem_map]
  constructor
  · intro listed
    obtain ⟨⟨path, held⟩, member, named⟩ := listed
    obtain ⟨routed, same⟩ := List.mem_filter.mp member
    exact ⟨held, ⟨path, routed, named⟩, same⟩
  · intro registered
    obtain ⟨held, ⟨path, routed, named⟩, same⟩ := registered
    exact ⟨(path, held), List.mem_filter.mpr ⟨routed, same⟩, named⟩

section

variable (table : Table V) (sound : table.Sound)
include sound

theorem keys_ascending (value : V) :
    (table.keysRoutedTo value).Pairwise fun a b => bytes a < bytes b := by
  apply texts_ascending
  have within : ((table.routes.filter fun route => table.eqv route.2 value).map Prod.fst).Sublist
      (table.routes.map Prod.fst) := List.filter_sublist.map Prod.fst
  have paths := within.nodup (Forest.routes_distinct _ sound.regular)
  have once := nodup_map_of_unique Path.text _ paths ?_
  · rw [List.map_map] at once
    exact once
  · intro path member other memberToo same
    obtain ⟨⟨_, held⟩, listed, rfl⟩ := List.mem_map.mp member
    obtain ⟨⟨_, own⟩, listedToo, rfl⟩ := List.mem_map.mp memberToo
    have named := route_key_path table sound _ held (List.mem_filter.mp listed).1
    have namedToo := route_key_path table sound _ own (List.mem_filter.mp listedToo).1
    exact KeyRules.spells_once _ _ _ (key_path_spelled table _ _ named)
      (key_path_spelled table _ _ namedToo) same

theorem registered_exhaustive (key : String) (value : V) (registered : table.Registered key value) :
    table.lookupExhaustive key = .ok value := by
  obtain ⟨path, named, valued⟩ := registered_value table sound key value registered
  rw [exhaustive_answer table key path named, valued]
  rfl

end

end Table

/-! ## Representatives -/

namespace QuickMatch

structure Represented (eqv : Comparator V) (entries chosen : List (QuickMatch V)) : Prop where
  within : chosen.Sublist entries
  apart : chosen.Pairwise fun a b => ¬ eqv a.value b.value = true
  every : ∀ entry ∈ entries, ∃ earlier ∈ chosen, eqv earlier.value entry.value = true

theorem represented_more (eqv : Comparator V) (reflexive : ∀ value, eqv value value = true)
    (entries kept : List (QuickMatch V)) (entry : QuickMatch V)
    (represented : Represented eqv entries kept) :
    Represented eqv (entries ++ [entry])
      (if kept.any fun earlier => eqv earlier.value entry.value then kept else kept ++ [entry]) := by
  by_cases skipped : (kept.any fun earlier => eqv earlier.value entry.value) = true
  · rw [if_pos skipped]
    refine ⟨represented.within.trans (List.sublist_append_left _ _), represented.apart, ?_⟩
    intro other member
    rcases List.mem_append.mp member with earlier | last
    · exact represented.every other earlier
    · rw [List.mem_singleton.mp last]
      exact List.any_eq_true.mp skipped
  · rw [if_neg skipped]
    have different : ∀ earlier ∈ kept, ¬ eqv earlier.value entry.value = true := by
      intro earlier member same
      exact skipped (List.any_eq_true.mpr ⟨earlier, member, same⟩)
    refine ⟨represented.within.append (List.Sublist.refl _), ?_, ?_⟩
    · rw [List.pairwise_append]
      refine ⟨represented.apart, List.pairwise_singleton _ _, ?_⟩
      intro earlier member last isLast
      rw [List.mem_singleton.mp isLast]
      exact different earlier member
    · intro other member
      rcases List.mem_append.mp member with earlier | last
      · obtain ⟨first, isKept, same⟩ := represented.every other earlier
        exact ⟨first, List.mem_append_left _ isKept, same⟩
      · rw [List.mem_singleton.mp last]
        exact ⟨entry, List.mem_append_right _ List.mem_cons_self, reflexive entry.value⟩

theorem representatives_represented (eqv : Comparator V)
    (reflexive : ∀ value, eqv value value = true) (entries : List (QuickMatch V)) :
    Represented eqv entries (representatives eqv entries) := by
  -- The fold goes on with whatever was kept of the entries in front.
  have run : ∀ (later front kept : List (QuickMatch V)), Represented eqv front kept →
      Represented eqv (front ++ later)
        (later.foldl (fun kept entry =>
          if kept.any fun earlier => eqv earlier.value entry.value then kept else kept ++ [entry])
          kept) := by
    intro later
    induction later with
    | nil =>
        intro front kept represented
        simpa using represented
    | cons entry later ih =>
        intro front kept represented
        have first := represented_more eqv reflexive front kept entry represented
        rw [← List.singleton_append, ← List.append_assoc]
        exact ih _ _ first
  exact run entries [] [] ⟨List.Sublist.refl _, List.Pairwise.nil, fun _ member => nomatch member⟩

end QuickMatch

/-! ## Classes of values -/

def Comparator.classOf (eqv : Comparator V) (value : V) : Set V :=
  {other | eqv value other = true}

section

variable (eqv : Comparator V) (lawful : eqv.IsEquivalence)
include lawful

theorem class_same_iff (value other : V) :
    eqv.classOf value = eqv.classOf other ↔ eqv value other = true := by
  constructor
  · intro same
    have own : other ∈ eqv.classOf other := lawful.refl other
    rwa [← same] at own
  · intro alike
    ext held
    constructor
    · intro member
      exact lawful.trans (lawful.symm alike) member
    · intro member
      exact lawful.trans alike member

theorem apart_symm : Std.Symm fun a b : QuickMatch V => ¬ eqv a.value b.value = true :=
  ⟨fun _ _ apart same => apart (lawful.symm same)⟩

theorem apart_once (entries : List (QuickMatch V))
    (apart : entries.Pairwise fun a b => ¬ eqv a.value b.value = true) (held : V)
    (entry : QuickMatch V) (member : entry ∈ entries) (same : eqv held entry.value = true)
    (other : QuickMatch V) (memberToo : other ∈ entries) (sameToo : eqv held other.value = true) :
    other = entry := by
  by_cases equal : other = entry
  · exact equal
  · have symmetric := apart_symm eqv lawful
    have distinct := apart.forall memberToo member equal
    exact absurd (lawful.trans (lawful.symm sameToo) same) distinct

theorem class_count (entries : List (QuickMatch V))
    (apart : entries.Pairwise fun a b => ¬ eqv a.value b.value = true) (values : Set V)
    (every : ∀ held ∈ values, ∃ entry ∈ entries, eqv held entry.value = true)
    (sourced : ∀ entry ∈ entries, ∃ held ∈ values, eqv entry.value held = true) :
    (eqv.classOf '' values).encard = entries.length := by
  classical
  have once : (entries.map fun entry => eqv.classOf entry.value).Nodup := by
    rw [List.Nodup, List.pairwise_map]
    exact apart.imp fun distinct same => distinct ((class_same_iff eqv lawful _ _).mp same)
  have classes : eqv.classOf '' values =
      (entries.map fun entry => eqv.classOf entry.value).toFinset := by
    ext members
    rw [List.coe_toFinset, Set.mem_ofPred_eq, List.mem_map]
    constructor
    · intro image
      obtain ⟨held, isValue, rfl⟩ := image
      obtain ⟨entry, member, same⟩ := every held isValue
      exact ⟨entry, member, ((class_same_iff eqv lawful _ _).mpr same).symm⟩
    · intro listed
      obtain ⟨entry, member, rfl⟩ := listed
      obtain ⟨held, isValue, same⟩ := sourced entry member
      exact ⟨held, isValue, ((class_same_iff eqv lawful _ _).mpr same).symm⟩
  rw [classes, Set.encard_coe_eq_coe_finsetCard, List.toFinset_card_of_nodup once, List.length_map]

end

/-! ## Endpoints -/

namespace Node

def alone (segment : Segment) (here : Node V) : Forest V :=
  .node segment here.target here.children .nil

theorem alone_child (segment : Segment) (here : Node V) :
    (here.alone segment).child? segment = some here := by
  rw [alone, Forest.child?, if_pos rfl]

theorem alone_regular (segment : Segment) (here : Node V) (node : here.Regular)
    (below : here.children.Regular) : (here.alone segment).Regular :=
  ⟨List.nodup_singleton segment, node, below.every, trivial⟩

theorem alone_value (forest : Forest V) (front rest : Path) (segment : Segment) (here : Node V)
    (found : forest.node? (front ++ [segment]) = some here) :
    (here.alone segment).valueAt? (segment :: rest) = forest.valueAt? (front ++ segment :: rest) := by
  have whole : front ++ segment :: rest = (front ++ [segment]) ++ rest := by simp
  rw [Forest.valueAt?, Forest.valueAt?, Forest.node_cons, alone_child, whole,
    Forest.node_append _ _ _ (by simp), found]

theorem alone_topmost (segment : Segment) (here : Node V) (path : Path) (value : V)
    (top : (here.alone segment).Topmost path value) : ∃ rest, path = segment :: rest := by
  cases path with
  | nil => exact absurd rfl (Forest.topmost_nonempty _ _ _ top)
  | cons first rest =>
      obtain ⟨child, found⟩ := Forest.topmost_child _ first rest value top
      by_cases same : segment = first
      · exact ⟨rest, by rw [same]⟩
      · rw [alone, Forest.child?, if_neg same] at found
        cases found

end Node

-- The entries that stand for the routes at and below an expression: as few as there are classes
-- of values among these routes, and none of the classes is left out.
structure Condenses (rules : KeyRules) (eqv : Comparator V)
    (registered resolved : String → V → Prop) (expression : String)
    (entries : List (QuickMatch V)) : Prop where
  nonempty : entries ≠ []
  descending : entries.Pairwise fun a b => bytes b.path < bytes a.path
  below : ∀ entry ∈ entries, rules.Extends entry.path expression
  resolved : ∀ entry ∈ entries, resolved entry.path entry.value
  apart : entries.Pairwise fun a b => ¬ eqv a.value b.value = true
  represented : ∀ longer held, registered longer held → rules.Extends longer expression →
    ∃ entry ∈ entries, eqv held entry.value = true ∧
      ∀ other ∈ entries, eqv held other.value = true → other = entry
  classes : (eqv.classOf '' {held | ∃ longer, registered longer held ∧
    rules.Extends longer expression}).encard = entries.length

namespace Table

theorem entries_alone (front : Path) (segment : Segment) (here : Node V) :
    entriesBelow (front ++ [segment]) here =
      (here.alone segment).topmost.map fun (rest, value) => .ofPath (front ++ rest) value := by
  rw [entriesBelow, Node.alone, Forest.topmost]
  cases here.target.value? <;> simp [Forest.topmost, Function.comp_def]

section

variable (table : Table V) (sound : table.Sound) (front : Path) (segment : Segment)
  (here : Node V) (found : table.forest.node? (front ++ [segment]) = some here)
include sound found

theorem alone_topmost_iff (path : Path) (value : V) :
    (path, value) ∈ (here.alone segment).topmost ↔ (here.alone segment).Topmost path value := by
  obtain ⟨node, below⟩ := Forest.regular_node _ sound.regular _ here found
  exact Forest.topmost_iff _ (here.alone_regular segment node below) path value

theorem alone_spelled (path : Path) (value : V) (top : (here.alone segment).Topmost path value) :
    table.config.keyRules.Spells (front ++ path) ∧
      table.forest.valueAt? (front ++ path) = some value := by
  obtain ⟨rest, rfl⟩ := here.alone_topmost segment path value top
  have valued := top.valued
  rw [Node.alone_value _ front rest segment here found] at valued
  obtain ⟨lower, isLower, _⟩ := Option.bind_eq_some_iff.mp valued
  exact ⟨sound.spelled _ lower isLower, valued⟩

theorem entries_below_iff (entry : QuickMatch V) :
    entry ∈ entriesBelow (front ++ [segment]) here ↔
      ∃ path, (here.alone segment).Topmost path entry.value ∧
        .ofPath (front ++ path) entry.value = entry := by
  have top := alone_topmost_iff table sound front segment here found
  rw [entries_alone, List.mem_map]
  constructor
  · intro listed
    obtain ⟨⟨path, value⟩, member, rfl⟩ := listed
    exact ⟨path, (top path value).mp member, rfl⟩
  · intro stands
    obtain ⟨path, isTop, same⟩ := stands
    exact ⟨(path, entry.value), (top _ _).mpr isTop, same⟩

theorem entry_named (entry : QuickMatch V)
    (member : entry ∈ entriesBelow (front ++ [segment]) here) :
    ∃ rest, table.keyPath entry.path = .ok ((front ++ [segment]) ++ rest) ∧
      table.forest.valueAt? ((front ++ [segment]) ++ rest) = some entry.value := by
  obtain ⟨path, top, same⟩ := (entries_below_iff table sound front segment here found entry).mp member
  obtain ⟨spelled, valued⟩ := alone_spelled table sound front segment here found path _ top
  obtain ⟨rest, rfl⟩ := here.alone_topmost segment path _ top
  have whole : front ++ segment :: rest = (front ++ [segment]) ++ rest := by simp
  have text : entry.path = (front ++ segment :: rest).text := by
    rw [← same]
    rfl
  have named := (key_path_spells table _).mpr spelled
  rw [← text, whole] at named
  rw [whole] at valued
  exact ⟨rest, named, valued⟩

theorem entries_distinct :
    ((entriesBelow (front ++ [segment]) here).map QuickMatch.path).Nodup := by
  obtain ⟨node, below⟩ := Forest.regular_node _ sound.regular _ here found
  have paths := (Forest.topmost_paths _).nodup
    (Forest.nodes_distinct _ (here.alone_regular segment node below))
  have top := alone_topmost_iff table sound front segment here found
  have spelled := alone_spelled table sound front segment here found
  have once := nodup_map_of_unique (fun path => (front ++ path).text) _ paths ?_
  · rw [List.map_map] at once
    rw [entries_alone, List.map_map]
    exact once
  · intro path member other memberToo same
    obtain ⟨⟨_, value⟩, listed, rfl⟩ := List.mem_map.mp member
    obtain ⟨⟨_, held⟩, listedToo, rfl⟩ := List.mem_map.mp memberToo
    have whole := KeyRules.spells_once _ _ _ (spelled _ value ((top _ _).mp listed)).1
      (spelled _ held ((top _ _).mp listedToo)).1 same
    exact List.append_cancel_left whole

end

section

variable (table : Table V) (lawful : table.Lawful) (front : Path) (segment : Segment)
  (here : Node V) (found : table.forest.node? (front ++ [segment]) = some here)
include lawful found

theorem route_represented (rest : Path) (routed : V)
    (member : ((front ++ [segment]) ++ rest, routed) ∈ table.routes) :
    ∃ entry ∈ entriesBelow (front ++ [segment]) here, table.eqv entry.value routed = true := by
  have sound := lawful.sound
  have collapsed := Forest.every_node _ _ lawful.collapsed _ here found
  obtain ⟨lower, isLower, target⟩ := (Forest.routes_iff _ sound.regular _ routed).mp member
  have valued : table.forest.valueAt? (front ++ segment :: rest) = some routed := by
    rw [List.append_assoc] at isLower
    rw [Forest.valueAt?, ← List.singleton_append, isLower, Option.bind_some, target]
    rfl
  rw [← Node.alone_value _ front rest segment here found] at valued
  obtain ⟨first, met, same⟩ := Forest.first_value_above table.eqv lawful.lawful
    (here.alone segment) ⟨collapsed.1, collapsed.2, trivial⟩ (segment :: rest) [] routed valued
  obtain ⟨above, below, _, top⟩ := (Forest.first_value_iff _ _ first).mp met
  exact ⟨.ofPath (front ++ above) first,
    (entries_below_iff table sound front segment here found _).mpr ⟨above, top, rfl⟩, same⟩

theorem entry_sourced (entry : QuickMatch V)
    (member : entry ∈ entriesBelow (front ++ [segment]) here) :
    ∃ rest routed, ((front ++ [segment]) ++ rest, routed) ∈ table.routes ∧
      table.eqv entry.value routed = true := by
  have sound := lawful.sound
  obtain ⟨rest, _, valued⟩ := entry_named table sound front segment here found entry member
  have agreed := Forest.value_agreed table.eqv lawful.lawful table.forest sound.regular
    lawful.collapsed ((front ++ [segment]) ++ rest) (by simp) entry.value
  obtain ⟨⟨more, routed, listed⟩, all⟩ :=
    agreed.mp ⟨entry.value, valued, lawful.lawful.refl entry.value⟩
  have whole : ((front ++ [segment]) ++ (rest ++ more), routed) ∈ table.routes := by
    rw [← List.append_assoc]
    exact listed
  exact ⟨rest ++ more, routed, whole, all more routed listed⟩

section

variable (expression : String) (named : table.keyPath expression = .ok (front ++ [segment]))
  (chosen : List (QuickMatch V))
  (represented : QuickMatch.Represented table.eqv (entriesBelow (front ++ [segment]) here) chosen)
include named represented

theorem chosen_covers (longer : String) (held : V) (registered : table.Registered longer held)
    (longerKey : table.Extends longer expression) :
    ∃ entry ∈ chosen, table.eqv held entry.value = true := by
  obtain ⟨rest, member⟩ := (extending_iff table lawful.sound expression _ named held).mp
    ⟨longer, registered, longerKey⟩
  obtain ⟨entry, isEntry, same⟩ :=
    route_represented table lawful front segment here found rest held member
  obtain ⟨first, isChosen, close⟩ := represented.every entry isEntry
  exact ⟨first, isChosen, lawful.lawful.symm (lawful.lawful.trans close same)⟩

theorem chosen_classes :
    (table.eqv.classOf '' {held | ∃ longer, table.Registered longer held ∧
      table.Extends longer expression}).encard = chosen.length := by
  apply class_count table.eqv lawful.lawful chosen represented.apart
  · intro held isValue
    obtain ⟨longer, registered, longerKey⟩ := isValue
    exact chosen_covers table lawful front segment here found expression named chosen represented
      longer held registered longerKey
  · intro entry isChosen
    obtain ⟨rest, routed, member, same⟩ := entry_sourced table lawful front segment here found entry
      (represented.within.subset isChosen)
    have source := (extending_iff table lawful.sound expression _ named routed).mpr ⟨rest, member⟩
    exact ⟨routed, source, same⟩

theorem chosen_named (entry : QuickMatch V) (isChosen : entry ∈ chosen) :
    table.Extends entry.path expression ∧ table.lookupExhaustive entry.path = .ok entry.value := by
  obtain ⟨rest, whole, valued⟩ := entry_named table lawful.sound front segment here found entry
    (represented.within.subset isChosen)
  have extended := (extends_iff table entry.path expression).mpr ⟨_, rest, named, whole⟩
  rw [exhaustive_answer table _ _ whole, valued]
  exact ⟨extended, rfl⟩

theorem chosen_condense :
    Condenses table.config.keyRules table.eqv table.Registered
      (fun key value => table.lookupExhaustive key = .ok value) expression
      (QuickMatch.descending chosen) := by
  have covers := chosen_covers table lawful front segment here found expression named chosen
    represented
  have namedToo := chosen_named table lawful front segment here found expression named chosen
    represented
  have classes := chosen_classes table lawful front segment here found expression named chosen
    represented
  have symmetric := apart_symm table.eqv lawful.lawful
  have permuted : (QuickMatch.descending chosen).Perm chosen := List.mergeSort_perm chosen _
  have apart := (permuted.pairwise_iff fun {a b} => symmetric.symm a b).mpr represented.apart
  have distinct := (represented.within.map QuickMatch.path).nodup
    (entries_distinct table lawful.sound front segment here found)
  have listed : ∀ longer held, table.Registered longer held → table.Extends longer expression →
      ∃ entry ∈ QuickMatch.descending chosen, table.eqv held entry.value = true := by
    intro longer held registered longerKey
    obtain ⟨entry, isChosen, same⟩ := covers longer held registered longerKey
    exact ⟨entry, permuted.mem_iff.mpr isChosen, same⟩
  constructor
  · intro empty
    have covered := (covered_iff table lawful.sound expression _ named).mpr ⟨here, found⟩
    obtain ⟨longer, held, registered, longerKey⟩ := covered
    obtain ⟨entry, member, _⟩ := listed longer held registered longerKey
    rw [empty] at member
    cases member
  · exact QuickMatch.descending_strict chosen distinct
  · intro entry member
    rw [extends_rules]
    exact (namedToo entry (permuted.mem_iff.mp member)).1
  · intro entry member
    exact (namedToo entry (permuted.mem_iff.mp member)).2
  · exact apart
  · intro longer held registered longerKey
    rw [extends_rules] at longerKey
    obtain ⟨entry, member, same⟩ := listed longer held registered longerKey
    exact ⟨entry, member, same, apart_once table.eqv lawful.lawful _ apart held entry member same⟩
  · simp only [extends_rules]
    rw [classes, permuted.length_eq]

end

end

theorem endpoints_cases (table : Table V) (lawful : table.Lawful) (expression : String)
    (path : Path) (named : table.keyPath expression = .ok path) :
    (table.Covered expression ∧ ∃ entries, (table.endpoints expression).value = .ok entries ∧
      Condenses table.config.keyRules table.eqv table.Registered
        (fun key value => table.lookupExhaustive key = .ok value) expression entries) ∨
    ¬ table.Covered expression ∧ (table.endpoints expression).value = .error (.notFound expression) := by
  rw [covered_iff table lawful.sound expression path named]
  cases found : table.forest.node? path with
  | none => exact Or.inr ⟨by simp, by simp [endpoints, named, found]⟩
  | some here =>
      have nonempty := KeyRules.spells_nonempty _ path (key_path_spelled table expression path named)
      obtain ⟨front, segment, rfl⟩ := (List.eq_nil_or_concat path).resolve_left nonempty
      rw [List.concat_eq_append] at named found
      have represented := QuickMatch.representatives_represented table.eqv lawful.lawful.refl
        (entriesBelow (front ++ [segment]) here)
      have condensed := chosen_condense table lawful front segment here found expression named _
        represented
      exact Or.inl ⟨⟨here, rfl⟩, _, by simp [endpoints, named, found], condensed⟩

end Table

end TopicRouting
