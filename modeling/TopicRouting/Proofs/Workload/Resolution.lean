import TopicRouting.Proofs.Workload.Population

set_option autoImplicit false

namespace TopicRouting.Workload

def entryPath (services service : Nat) : Path :=
  if service % 16 + 16 < services then homePath service else [zone service]

def entries (services : Nat) : List (Path × UInt32) :=
  (List.range services).map fun service => (entryPath services service, owner service)

theorem entry_front (services service : Nat) : entryPath services service <+: homePath service := by
  rw [entryPath]
  split
  · exact List.prefix_refl _
  · exact zone_front service

theorem owner_next (service : Nat) : owner (service % 16) ≠ owner (service % 16 + 16) := by
  intro same
  have numbers := congrArg UInt32.toNat same
  rw [owner, owner, UInt32.toNat_ofNat', UInt32.toNat_ofNat'] at numbers
  omega

theorem entries_once (services : Nat) : ((entries services).map Prod.fst).Nodup := by
  rw [entries, List.map_map]
  refine List.Nodup.map_on (fun service bound other boundToo same => ?_) List.nodup_range
  rw [List.mem_range] at bound boundToo
  simp only [Function.comp_apply, entryPath] at same
  split at same <;> split at same
  · exact home_alone service other _ (List.prefix_refl _) (same ▸ List.prefix_refl _)
  · cases congrArg List.length same
  · cases congrArg List.length same
  · have rest := (zone_same_iff service other).mp (List.cons.inj same).1
    omega

section

variable (services : Nat) (table : Table UInt32) (carries : table.Carries (allOffers services))
include carries

theorem value_at_home (service : Nat) (bound : service < services) :
    table.forest.valueAt? (homePath service) = some (owner service) := by
  obtain ⟨route, member, front, _⟩ := offered_below services service bound _ (List.prefix_refl _)
  rw [Table.carried_value_iff table _ carries (homePath service) (by simp [homePath])]
  refine ⟨⟨route, member, front⟩, ?_⟩
  rintro ⟨path, value⟩ listed below
  obtain ⟨other, _, offer, _, rfl, rfl⟩ := (all_offers_iff services _ _).mp listed
  rw [home_alone service other _ below (List.prefix_append _ _)]

theorem value_at_lone_zone (service : Nat) (bound : service < services)
    (lone : ¬ service % 16 + 16 < services) :
    table.forest.valueAt? [zone service] = some (owner service) := by
  obtain ⟨route, member, front, _⟩ := offered_below services service bound _ (zone_front service)
  rw [Table.carried_value_iff table _ carries [zone service] (by simp)]
  refine ⟨⟨route, member, front⟩, ?_⟩
  rintro ⟨path, value⟩ listed below
  obtain ⟨other, boundToo, offer, _, rfl, rfl⟩ := (all_offers_iff services _ _).mp listed
  simp only [homePath, List.cons_append, List.cons_prefix_cons, zone_same_iff] at below
  have same : other = service := by omega
  rw [same]

theorem value_at_shared_zone (service : Nat) (shared : service % 16 + 16 < services) :
    table.forest.valueAt? [zone service] = none := by
  rw [Option.eq_none_iff_forall_not_mem]
  intro value valued
  obtain ⟨_, agreed⟩ :=
    (Table.carried_value_iff table _ carries [zone service] (by simp) value).mp valued
  have below : ∀ other, other < services → other % 16 = service % 16 → owner other = value := by
    intro other bound same
    obtain ⟨route, member, front, isOwner⟩ :=
      offered_below services other bound _ (zone_front other)
    rw [(zone_same_iff other service).mpr same] at front
    rw [← isOwner, agreed route member front]
  exact owner_next service ((below (service % 16) (by omega) (by omega)).trans
    (below (service % 16 + 16) shared (by omega)).symm)

theorem entry_topmost (service : Nat) (bound : service < services) :
    Forest.Topmost table.forest (entryPath services service) (owner service) := by
  rw [entryPath]
  split
  case isTrue shared =>
    refine ⟨value_at_home services table carries service bound, fun above below whole more => ?_⟩
    cases above with
    | nil => rfl
    | cons first above =>
        obtain ⟨rfl, later⟩ := List.cons.inj whole
        cases above with
        | nil => exact value_at_shared_zone services table carries service shared
        | cons second above =>
            exact absurd (List.append_eq_nil_iff.mp (List.cons.inj later).2).2 more
  case isFalse lone =>
    refine ⟨value_at_lone_zone services table carries service bound lone,
      fun above below whole more => ?_⟩
    cases above with
    | nil => rfl
    | cons first above =>
        have empty := congrArg List.tail whole
        exact absurd (List.append_eq_nil_iff.mp empty).2 more

theorem entries_count :
    table.refreshCache.state.cache.entries.length = services := by
  have counted := Table.carried_entries table _ carries (entries services)
    (entries_once services) ?_ ?_
  · rwa [entries, List.length_map, List.length_range] at counted
  · intro top member
    obtain ⟨service, bound, rfl⟩ := List.mem_map.mp member
    exact entry_topmost services table carries service (List.mem_range.mp bound)
  · rintro ⟨path, value⟩ member
    obtain ⟨service, bound, offer, _, rfl, _⟩ := (all_offers_iff services _ _).mp member
    exact ⟨_, List.mem_map.mpr ⟨service, List.mem_range.mpr bound, rfl⟩,
      (entry_front services service).trans (List.prefix_append _ _)⟩

theorem statistics_counted :
    table.statistics.rootNodes = min services 16 ∧
      table.statistics.dynamicNodes = 6 * services := by
  have roots := Table.carried_roots table _ carries (rootSegments services)
    (root_segments_once services) (root_segments_offered services)
  have nodes := Table.carried_nodes table _ carries (nodePaths services)
    (node_paths_once services) (node_paths_iff services)
  have split := table.node_count
  rw [rootSegments, List.length_map, List.length_range] at roots
  rw [node_paths_length] at nodes
  have dynamic : table.roots.dynamicCount = 6 * services := by omega
  exact ⟨roots, dynamic⟩

theorem resolved_below_home (config : table.config = {}) (service : Nat)
    (bound : service < services) (small : services ≤ limit64) (rest : Path) (tail : Tail rest) :
    table.lookupEarlyExit (homePath service ++ rest).text = .ok (owner service) ∧
      (table.lookupQuick (homePath service ++ rest).text).result = .ok (owner service) := by
  have spelled := home_spelled service (Nat.lt_of_lt_of_le bound small) rest tail
  rw [← config, ← Table.key_path_spells] at spelled
  obtain ⟨below, whole⟩ := (entry_front services service).trans (List.prefix_append _ rest)
  exact Table.carried_lookup table _ carries _ _ _ below _ spelled whole
    (entry_topmost services table carries service bound)

end

def changedPath (service : Nat) : Path :=
  homePath service ++ [.branch "events", .branch "changed", .leaf "value"]

def methodPath (service : Nat) : Path :=
  homePath service ++ [.leaf ("method" ++ toString (service % topicsPerService))]

theorem service_lookups_texts (service : Nat) :
    serviceLookups service = [(changedPath service).text, (methodPath service).text] := by
  rw [serviceLookups, changedPath, methodPath, home_text, home_text]
  simp [Path.text, Segment.text, String.append_assoc]
  rfl

theorem pairs_at (first second : Nat → String) (items : List Nat) (index item : Nat)
    (isItem : items[index]? = some item) :
    (items.flatMap fun item => [first item, second item])[2 * index]? = some (first item) ∧
      (items.flatMap fun item => [first item, second item])[2 * index + 1]? =
        some (second item) := by
  induction items generalizing index with
  | nil => cases isItem
  | cons head items ih =>
      cases index with
      | zero =>
          cases isItem
          exact ⟨rfl, rfl⟩
      | succ index => exact ih index isItem

theorem lookups_resolved (services : Nat) (table : Table UInt32)
    (carries : table.Carries (allOffers services)) (config : table.config = {})
    (small : services ≤ limit64) (service : Nat) (bound : service < services) (offset : Nat)
    (either : offset < 2) :
    ∃ topic, (lookups services)[2 * service + offset]? = some topic ∧
      table.lookupEarlyExit topic = .ok (owner service) ∧
      (table.lookupQuick topic).result = .ok (owner service) := by
  have resolved := resolved_below_home services table carries config service bound small
  have method : .leaf ("method" ++ toString (service % topicsPerService)) ∈ offers :=
    List.mem_cons_of_mem _ (List.mem_map.mpr
      ⟨_, List.mem_range.mpr (Nat.mod_lt _ (by decide)), rfl⟩)
  have pairs : lookups services = (List.range services).flatMap fun service =>
      [(changedPath service).text, (methodPath service).text] :=
    congrArg (List.range services).flatMap (funext service_lookups_texts)
  obtain ⟨changed, called⟩ := pairs_at (fun service => (changedPath service).text)
    (fun service => (methodPath service).text) (List.range services) service service
    (List.getElem?_range bound)
  rw [pairs]
  cases offset with
  | zero =>
      refine ⟨_, changed, resolved _ ⟨?_, by decide, by decide⟩⟩
      exact ⟨by decide, by decide, by decide, by decide⟩
  | succ offset =>
      obtain rfl : offset = 0 := by omega
      exact ⟨_, called, resolved _ (offer_tail _ method)⟩

structure Populated (services : Nat) (table : Table UInt32) : Prop where
  rootNodes : table.statistics.rootNodes = min services 16
  dynamicNodes : table.statistics.dynamicNodes = 6 * services
  entries : table.refreshCache.state.statistics.quickMatchEntries = services
  resolved : ∀ service < services, ∀ offset < 2, ∃ topic owner,
    (lookups services)[2 * service + offset]? = some topic ∧
      owner.toNat = service % UInt32.size ∧ table.lookupEarlyExit topic = .ok owner ∧
      (table.lookupQuick topic).result = .ok owner

-- The number of services is a machine word, so that their topics are not too long.
theorem workload_populated (services : Nat) (strategy : Strategy) (word : services < limit64) :
    (routes services).length = 5 * services ∧ (lookups services).length = 2 * services ∧
      ∃ table, populatedTable services strategy = .ok table ∧ Populated services table := by
  have small := Nat.le_of_lt word
  obtain ⟨table, isTable, config, carries⟩ := populated_carries services strategy small
  obtain ⟨rootNodes, dynamicNodes⟩ := statistics_counted services table carries
  refine ⟨each_service_length serviceRoutes 5 services fun _ => rfl,
    each_service_length serviceLookups 2 services fun _ => rfl, table, isTable, rootNodes,
    dynamicNodes, entries_count services table carries, ?_⟩
  intro service bound offset either
  obtain ⟨topic, isTopic, early, quick⟩ :=
    lookups_resolved services table carries config small service bound offset either
  exact ⟨topic, owner service, isTopic, UInt32.toNat_ofNat', early, quick⟩

theorem workload_populated_second_round :
    ∃ table, populatedTable 17 .quickCache = .ok table ∧ table.statistics.rootNodes = 16 ∧
      table.statistics.dynamicNodes = 102 ∧
      table.refreshCache.state.statistics.quickMatchEntries = 17 ∧
      (lookups 17)[32]? = some "zone0.svc16.events.changed.value" ∧
      table.lookupEarlyExit "zone0.svc16.events.changed.value" = .ok 16 ∧
      (table.lookupQuick "zone0.svc16.events.changed.value").result = .ok 16 := by
  obtain ⟨_, _, table, isTable, populated⟩ := workload_populated 17 .quickCache (by decide)
  obtain ⟨topic, owner, isTopic, number, early, quick⟩ := populated.resolved 16 (by decide) 0
    (by decide)
  have listed : (lookups 17)[32]? = some "zone0.svc16.events.changed.value" := by decide
  cases listed.symm.trans isTopic
  have same : owner = 16 := UInt32.toNat_inj.mp number
  rw [same] at early quick
  exact ⟨table, isTable, populated.rootNodes, populated.dynamicNodes, populated.entries, listed,
    early, quick⟩

end TopicRouting.Workload
