import Mathlib.Data.List.Nodup
import TopicRouting.Proofs.Text.Numerals
import TopicRouting.Proofs.Table.Separate
import TopicRouting.Proofs.Topic.Naming
import TopicRouting.Text.Decimal
import TopicRouting.Workload

set_option autoImplicit false

namespace TopicRouting.Workload

def zone (service : Nat) : Segment := .branch ("zone" ++ toString (service % 16))

def home (service : Nat) : Segment := .branch ("svc" ++ toString service)

def homePath (service : Nat) : Path := [zone service, home service]

def offers : List Segment :=
  .branch "events" ::
    (List.range topicsPerService).map fun topic => .leaf ("method" ++ toString topic)

def serviceOffers (service : Nat) : List (Path × UInt32) :=
  offers.map fun offer => (homePath service ++ [offer], owner service)

def allOffers (services : Nat) : List (Path × UInt32) :=
  (List.range services).flatMap serviceOffers

theorem zone_same_iff (service other : Nat) :
    zone service = zone other ↔ service % 16 = other % 16 := by
  rw [zone, zone, Segment.branch.injEq]
  exact ⟨numbered_same "zone" _ _, fun same => by rw [same]⟩

theorem home_same_iff (service other : Nat) : home service = home other ↔ service = other := by
  rw [home, home, Segment.branch.injEq]
  exact ⟨numbered_same "svc" _ _, fun same => by rw [same]⟩

theorem all_offers_iff (services : Nat) (path : Path) (value : UInt32) :
    (path, value) ∈ allOffers services ↔
      ∃ service < services, ∃ offer ∈ offers,
        path = homePath service ++ [offer] ∧ value = owner service := by
  simp only [allOffers, serviceOffers, List.mem_flatMap, List.mem_range, List.mem_map,
    Prod.mk.injEq, eq_comm]

theorem offer_start_iff (path : Path) (service : Nat) (offer : Segment) :
    path ≠ [] ∧ path <+: homePath service ++ [offer] ↔
      path = [zone service] ∨ path = homePath service ∨ path = homePath service ++ [offer] := by
  simp only [homePath, List.cons_append, List.nil_append, List.prefix_cons_iff, List.prefix_nil]
  grind

theorem zone_front (service : Nat) : [zone service] <+: homePath service := ⟨[home service], rfl⟩

theorem each_service_length {α : Type} (each : Nat → List α) (count services : Nat)
    (same : ∀ service, (each service).length = count) :
    ((List.range services).flatMap each).length = count * services := by
  simp only [List.length_flatMap, same, List.map_const', List.sum_replicate_nat, List.length_range]
  exact Nat.mul_comm services count

theorem offered_below (services service : Nat) (bound : service < services) (path : Path)
    (front : path <+: homePath service) :
    ∃ route ∈ allOffers services, path <+: route.1 ∧ route.2 = owner service :=
  ⟨(homePath service ++ [.branch "events"], owner service),
    (all_offers_iff services _ _).mpr ⟨service, bound, _, List.mem_cons_self, rfl, rfl⟩,
    front.trans (List.prefix_append _ _), rfl⟩

theorem home_text (service : Nat) (rest : Path) :
    Path.text (homePath service ++ rest) = serviceTopic service ++ rest.text := by
  have dot : ".svc".toList = '.' :: "svc".toList := rfl
  apply String.ext
  simp [homePath, zone, home, serviceTopic, Path.text, Segment.text, separator, dot]

theorem routes_offered (services : Nat) :
    routes services = Table.withTexts (allOffers services) := by
  rw [routes, allOffers, Table.withTexts, List.map_flatMap]
  congr 1
  funext service
  simp only [serviceRoutes, serviceOffers, offers, List.map_cons, List.map_map, home_text]
  congr 1
  simp [Path.text, Segment.text, Function.comp_def, home_text, String.append_assoc]

structure Tail (rest : Path) : Prop where
  topical : rest.Topical
  proper : ∀ segment ∈ rest, segment.Proper
  short : rest.text.utf8ByteSize ≤ 200

theorem numbered_clear (stem : String) (number : Nat) (c : Char) (digit : c.isDigit = false)
    (clear : c ∉ stem.toList) : c ∉ (stem ++ toString number).toList := by
  rw [String.toList_append, List.mem_append]
  exact not_or.mpr ⟨clear, numeral_clear number c digit⟩

theorem numbered_proper (segment : Segment) (stem : String) (number : Nat)
    (isName : segment.name = stem ++ toString number) (filled : stem ≠ "")
    (clear : '\x00' ∉ stem.toList) : segment.Proper := by
  rw [Segment.Proper, isName, ne_eq, String.append_eq_empty_iff]
  exact ⟨fun both => filled both.1, numbered_clear stem number _ (by decide) clear⟩

theorem service_topic_short (service : Nat) (small : service < limit64) :
    (serviceTopic service).utf8ByteSize ≤ 200 := by
  have zoneBytes := numeral_bytes (service % 16) 2 (by decide)
    (Nat.lt_trans (Nat.mod_lt _ (by decide)) (by decide))
  have homeBytes := numeral_bytes service 20 (by decide) (Nat.lt_trans small (by decide))
  have zoneStem : "zone".utf8ByteSize = 4 := rfl
  have homeStem : ".svc".utf8ByteSize = 4 := rfl
  have dot : ".".utf8ByteSize = 1 := rfl
  simp only [serviceTopic, String.utf8ByteSize_append, zoneStem, homeStem, dot]
  omega

theorem home_spelled (service : Nat) (small : service < limit64) (rest : Path) (tail : Tail rest) :
    ({} : TableConfig).keyRules.Spells (homePath service ++ rest) := by
  have topical : (homePath service ++ rest).Topical :=
    ⟨numbered_clear "zone" _ _ (by decide) (by decide),
      numbered_clear "svc" _ _ (by decide) (by decide), tail.topical⟩
  refine KeyRules.spells_topic _ _ topical (KeyRules.classify_named _ _ topical (by simp [homePath])
    ?_ ?_ ?_)
  · have front := service_topic_short service small
    have back := tail.short
    rw [home_text, String.utf8ByteSize_append]
    exact Nat.lt_of_le_of_lt (Nat.add_le_add front back) (by decide)
  · rw [home_text]
    simp [serviceTopic, TableConfig.keyRules]
  · intro segment member
    rcases List.mem_append.mp member with upper | lower
    · rw [homePath, List.mem_cons, List.mem_singleton] at upper
      rcases upper with rfl | rfl
      · exact numbered_proper _ "zone" _ rfl (by decide) (by decide)
      · exact numbered_proper _ "svc" _ rfl (by decide) (by decide)
    · exact tail.proper segment lower

theorem offer_tail (offer : Segment) (member : offer ∈ offers) : Tail [offer] := by
  rw [offers, List.mem_cons] at member
  rcases member with rfl | method
  · exact ⟨⟨by decide, trivial⟩, by decide, by decide⟩
  · obtain ⟨topic, listed, rfl⟩ := List.mem_map.mp method
    have few := List.mem_range.mp listed
    rw [topicsPerService] at few
    have bytes := numeral_bytes topic 1 (by decide) (Nat.lt_trans few (by decide))
    have stem : "method".utf8ByteSize = 6 := rfl
    have proper := numbered_proper (.leaf ("method" ++ toString topic)) "method" topic rfl
      (by decide) (by decide)
    constructor
    · exact ⟨proper.1, numbered_clear "method" _ _ (by decide) (by decide)⟩
    · exact List.forall_mem_singleton.mpr proper
    · rw [Path.text, Path.text, Segment.text, String.append_empty, String.utf8ByteSize_append, stem]
      omega

theorem home_alone (service other : Nat) (path : Path) (mine : homePath service <+: path)
    (others : homePath other <+: path) : service = other := by
  obtain ⟨rest, rfl⟩ := others
  simp only [homePath, List.cons_append, List.cons_prefix_cons] at mine
  exact (home_same_iff service other).mp mine.2.1

theorem below_homes_once (each : Nat → List Path) (services : Nat)
    (once : ∀ service, (each service).Nodup)
    (below : ∀ service, ∀ path ∈ each service, homePath service <+: path) :
    ((List.range services).flatMap each).Nodup := by
  rw [List.nodup_flatMap]
  refine ⟨fun service _ => once service, List.nodup_range.imp fun {service other} different => ?_⟩
  exact List.disjoint_left.mpr fun path mine others =>
    different (home_alone service other path (below service path mine) (below other path others))

theorem offer_paths_once (service : Nat) :
    (offers.map fun offer => homePath service ++ [offer]).Nodup := by
  have distinct : offers.Nodup := by decide
  exact distinct.map fun a b same => by simpa using same

theorem all_offers_once (services : Nat) : ((allOffers services).map Prod.fst).Nodup := by
  simp only [allOffers, List.map_flatMap, serviceOffers, List.map_map, Function.comp_def]
  refine below_homes_once _ services offer_paths_once fun service path member => ?_
  obtain ⟨offer, _, rfl⟩ := List.mem_map.mp member
  exact List.prefix_append _ _

theorem key_root (service : Nat) (small : service < limit64) (offer : Segment)
    (member : offer ∈ offers) (root : Segment)
    (isRoot : ({} : TableConfig).keyRules.root? (homePath service ++ [offer]).text = some root) :
    root = zone service := by
  obtain ⟨kind, valid, isPath⟩ := home_spelled service small [offer] (offer_tail offer member)
  simp only [KeyRules.root?, valid, isPath] at isRoot
  exact (Option.some.inj isRoot).symm

theorem all_offers_roots (services : Nat) (small : services ≤ limit64) :
    ({} : TableConfig).keyRules.rootCount ((Table.withTexts (allOffers services)).map Prod.fst) ≤
      16 := by
  have within : (((Table.withTexts (allOffers services)).map Prod.fst).filterMap
      ({} : TableConfig).keyRules.root?).toFinset ⊆ ((List.range 16).map zone).toFinset := by
    intro root listed
    rw [List.mem_toFinset, List.mem_filterMap] at listed
    obtain ⟨_, member, isRoot⟩ := listed
    rw [Table.withTexts, List.map_map] at member
    obtain ⟨⟨path, value⟩, offered, rfl⟩ := List.mem_map.mp member
    obtain ⟨service, bound, offer, isOffer, rfl, _⟩ := (all_offers_iff services _ _).mp offered
    rw [key_root service (Nat.lt_of_lt_of_le bound small) offer isOffer root isRoot,
      List.mem_toFinset, List.mem_map]
    exact ⟨service % 16, List.mem_range.mpr (Nat.mod_lt _ (by decide)),
      (zone_same_iff _ _).mpr (Nat.mod_mod _ _)⟩
  exact Nat.le_trans (Finset.card_le_card within) (List.toFinset_card_le _)

theorem all_offers_separate (services : Nat) (small : services ≤ limit64) :
    Table.Separate {} (allOffers services) := by
  constructor
  · rintro ⟨path, value⟩ member
    obtain ⟨service, bound, offer, isOffer, rfl, _⟩ := (all_offers_iff services _ _).mp member
    exact home_spelled service (Nat.lt_of_lt_of_le bound small) [offer] (offer_tail offer isOffer)
  · exact all_offers_once services
  · rintro ⟨path, value⟩ member ⟨other, valueToo⟩ memberToo front
    obtain ⟨_, _, _, _, rfl, _⟩ := (all_offers_iff services _ _).mp member
    obtain ⟨_, _, _, _, rfl, _⟩ := (all_offers_iff services _ _).mp memberToo
    exact front.eq_of_length rfl
  · exact Nat.le_trans (all_offers_roots services small) (by decide)

end TopicRouting.Workload
