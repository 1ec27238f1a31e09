import TopicRouting.Proofs.Workload.Topics

set_option autoImplicit false

namespace TopicRouting.Workload

theorem populate_granted (routes : List (String × UInt32)) (table : Table UInt32)
    (grants : table.Grants routes) : populate table routes = .ok (table.withRoutes routes) := by
  induction routes generalizing table with
  | nil => rfl
  | cons route rest ih =>
      obtain ⟨granted, later⟩ := (Table.grants_cons table route rest).mp grants
      simp only [populate, granted]
      exact ih _ later

theorem populated_carries (services : Nat) (strategy : Strategy) (small : services ≤ limit64) :
    ∃ table, populatedTable services strategy = .ok table ∧ table.config = {} ∧
      table.Carries (allOffers services) := by
  have reachable : Table.Reachable (fun _ => True)
      ((Table.new : Table UInt32).setStrategy strategy).state :=
    .step _ (.setStrategy strategy) (.start {} _ trivial) trivial
  have plain := Table.plain_reachable _ reachable rfl
  have spans := Table.empty_spans _ reachable Comparator.equality_isEquivalence rfl
  have separate := all_offers_separate services small
  have acceptable := Table.separate_acceptable
    ((Table.new : Table UInt32).setStrategy strategy).state _ separate
  have grants := Table.acceptable_granted _ _ _ spans acceptable
  refine ⟨_, ?_, Table.set_routes_config _ _, Table.separate_carried _ _ separate plain spans⟩
  rw [populatedTable, routes_offered]
  exact populate_granted _ _ grants

def rootSegments (services : Nat) : List Segment := (List.range (min services 16)).map zone

def homePaths (service : Nat) : List Path :=
  homePath service :: offers.map fun offer => homePath service ++ [offer]

def nodePaths (services : Nat) : List Path :=
  (rootSegments services).map (fun root => [root]) ++ (List.range services).flatMap homePaths

theorem root_segments_once (services : Nat) : (rootSegments services).Nodup := by
  refine List.Nodup.map_on (fun service bound other boundToo same => ?_) List.nodup_range
  rw [List.mem_range] at bound boundToo
  have rest := (zone_same_iff service other).mp same
  omega

theorem root_segments_iff (services : Nat) (root : Segment) :
    root ∈ rootSegments services ↔ ∃ service < services, root = zone service := by
  rw [rootSegments, List.mem_map]
  constructor
  · rintro ⟨service, bound, rfl⟩
    exact ⟨service, by have := List.mem_range.mp bound; omega, rfl⟩
  · rintro ⟨service, bound, rfl⟩
    refine ⟨service % 16, List.mem_range.mpr (by omega), (zone_same_iff _ _).mpr (Nat.mod_mod _ _)⟩

theorem root_segments_offered (services : Nat) (root : Segment) :
    root ∈ rootSegments services ↔ ∃ route ∈ allOffers services, [root] <+: route.1 := by
  rw [root_segments_iff]
  constructor
  · rintro ⟨service, bound, rfl⟩
    obtain ⟨route, member, front, _⟩ := offered_below services service bound _ (zone_front service)
    exact ⟨route, member, front⟩
  · rintro ⟨⟨_, value⟩, member, front⟩
    obtain ⟨service, bound, offer, _, rfl, _⟩ := (all_offers_iff services _ _).mp member
    exact ⟨service, bound, (List.cons_prefix_cons.mp front).1⟩

theorem home_paths_below (service : Nat) (path : Path) (member : path ∈ homePaths service) :
    homePath service <+: path := by
  rw [homePaths, List.mem_cons, List.mem_map] at member
  rcases member with rfl | ⟨offer, _, rfl⟩
  · exact List.prefix_refl _
  · exact List.prefix_append _ _

theorem home_paths_once (service : Nat) : (homePaths service).Nodup :=
  List.nodup_cons.mpr ⟨by simp [homePath], offer_paths_once service⟩

theorem node_paths_once (services : Nat) : (nodePaths services).Nodup := by
  rw [nodePaths, List.nodup_append]
  refine ⟨(root_segments_once services).map fun a b same => by simpa using same,
    below_homes_once homePaths services home_paths_once home_paths_below, ?_⟩
  intro path short other long same
  obtain ⟨root, _, rfl⟩ := List.mem_map.mp short
  obtain ⟨service, _, member⟩ := List.mem_flatMap.mp long
  have lengths := (home_paths_below service other member).length_le
  rw [← same] at lengths
  exact absurd lengths (by simp [homePath])

theorem node_paths_length (services : Nat) :
    (nodePaths services).length = min services 16 + 6 * services := by
  rw [nodePaths, List.length_append, each_service_length homePaths 6 services fun _ => rfl]
  simp [rootSegments]

theorem node_paths_iff (services : Nat) (path : Path) :
    path ∈ nodePaths services ↔ path ≠ [] ∧ ∃ route ∈ allOffers services, path <+: route.1 := by
  rw [nodePaths, List.mem_append, List.mem_map, List.mem_flatMap]
  constructor
  · rintro (⟨root, listed, rfl⟩ | ⟨service, bound, member⟩)
    · exact ⟨by simp, (root_segments_offered services root).mp listed⟩
    · rw [homePaths, List.mem_cons, List.mem_map] at member
      rw [List.mem_range] at bound
      rcases member with rfl | ⟨offer, isOffer, rfl⟩
      · obtain ⟨route, member, front, _⟩ :=
          offered_below services service bound _ (List.prefix_refl _)
        exact ⟨by simp [homePath], route, member, front⟩
      · exact ⟨by simp, _,
          (all_offers_iff services _ _).mpr ⟨service, bound, offer, isOffer, rfl, rfl⟩,
          List.prefix_refl _⟩
  · rintro ⟨nonempty, ⟨_, value⟩, member, front⟩
    obtain ⟨service, bound, offer, isOffer, rfl, _⟩ := (all_offers_iff services _ _).mp member
    rcases (offer_start_iff path service offer).mp ⟨nonempty, front⟩ with rfl | rfl | rfl
    · exact Or.inl ⟨_, (root_segments_iff services _).mpr ⟨service, bound, rfl⟩, rfl⟩
    · exact Or.inr ⟨service, List.mem_range.mpr bound, List.mem_cons_self⟩
    · exact Or.inr ⟨service, List.mem_range.mpr bound,
        List.mem_cons_of_mem _ (List.mem_map.mpr ⟨offer, isOffer, rfl⟩)⟩

end TopicRouting.Workload
