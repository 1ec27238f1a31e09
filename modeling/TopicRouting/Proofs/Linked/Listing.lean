import TopicRouting.Proofs.Linked.Routes

set_option autoImplicit false

namespace TopicRouting

open Layout

variable {V : Type}

namespace LinkedTable

structure Lists (linked : LinkedTable V) (value : V) (keys : List String) : Prop where
  ascending : keys.Pairwise fun a b => bytes a < bytes b
  exact : ∀ key, key ∈ keys ↔
    ∃ held, linked.Registered key held ∧ linked.eqv held value = true
  valid : ∀ key ∈ keys, ∃ kind, linked.config.keyRules.classify key = .ok kind
  resolved : ∀ key ∈ keys, ∀ held, linked.Registered key held → linked.Resolves key held

-- Nothing is assumed of the comparators, so the keys are those with a value that is equivalent to
-- the destination and not the other way round.
theorem keys_of_destination (linked : LinkedTable V) (reachable : linked.Reachable) (value : V) :
    ∃ keys, Linked.Reads (Linked.keysRoutedTo value) linked keys ∧ linked.Lists value keys := by
  obtain ⟨table, layout, represents⟩ := reachable_represents linked reachable
  have sound := represents.sound
  have registered := represents_registered linked table layout represents
  have listed := table.keys_routed_iff value
  refine ⟨_, reads_keys_routed_to linked table layout represents value, ?_⟩
  constructor
  · exact Table.keys_ascending table sound value
  · intro key
    rw [listed, registered, represents.eqv]
  · intro key member
    obtain ⟨held, isRoute, _⟩ := (listed key).mp member
    obtain ⟨path, named, _⟩ := (Table.registered_iff table sound key held).mp isRoute
    obtain ⟨kind, valid, _⟩ := (Table.key_path_iff table key path).mp named
    rw [represents.config]
    exact ⟨kind, valid⟩
  · intro key _ held isRoute
    rw [registered] at isRoute
    rw [represents_resolves linked table layout represents]
    exact Table.registered_exhaustive table sound key held isRoute

theorem keys_of_destination_one_way :
    ∃ (linked : LinkedTable Nat) (keys : List String), linked.Reachable ∧
      Linked.Reads (Linked.keysRoutedTo 2) linked keys ∧ "a.b" ∈ keys ∧ "_x" ∈ keys ∧
      "a.c" ∉ keys ∧ linked.Resolves "_x" 2 := by
  obtain ⟨linked, layout, reachable, represents⟩ := run_represented {}
    (fun existing incoming => Nat.ble existing incoming)
    [.setRoute "a.b" 1, .setRoute "a.c" 3, .setRoute "_x" 2]
  obtain ⟨keys, reads, lists⟩ := keys_of_destination linked reachable 2
  have registered := represents_registered linked _ layout represents
  have eqv := represents.eqv
  have leaf : linked.Registered "a.b" 1 := by
    rw [registered]
    exact ⟨[.branch "a", .leaf "b"], by decide, by decide⟩
  have larger : linked.Registered "a.c" 3 := by
    rw [registered]
    exact ⟨[.branch "a", .leaf "c"], by decide, by decide⟩
  have literal : linked.Registered "_x" 2 := by
    rw [registered]
    exact ⟨[.literal "_x"], by decide, by decide⟩
  have listed : "_x" ∈ keys := (lists.exact "_x").mpr ⟨2, literal, by rw [eqv]; rfl⟩
  refine ⟨linked, keys, reachable, reads, (lists.exact "a.b").mpr ⟨1, leaf, by rw [eqv]; rfl⟩,
    listed, ?_, lists.resolved "_x" listed 2 literal⟩
  intro member
  obtain ⟨held, isRoute, same⟩ := (lists.exact "a.c").mp member
  have resolved := lists.resolved "a.c" member
  cases (Linked.ends_unique (resolved held isRoute) (resolved 3 larger)).1
  rw [eqv] at same
  cases same

structure Endpoints (linked : LinkedTable V) (expression : String)
    (result : Except RouteError (List (QuickMatch V))) : Prop where
  granted : (∃ entries, result = .ok entries) ↔
    ∃ longer held, linked.Registered longer held ∧ linked.config.keyRules.Extends longer expression
  refused : ∀ error, result = .error error → error = .notFound expression
  condensed : ∀ entries, result = .ok entries → Condenses linked.config.keyRules linked.eqv
    linked.Registered linked.Resolves expression entries

-- Earlier comparators do not matter, since a new one settles all nodes anew.
theorem endpoints_represent (linked : LinkedTable V) (reachable : linked.Reachable)
    (lawful : linked.eqv.IsEquivalence) (expression : String) (kind : KeyKind)
    (valid : linked.config.keyRules.classify expression = .ok kind) :
    ∃ result events, Linked.Ends (Linked.endpoints expression) linked result linked events ∧
      linked.Endpoints expression result := by
  obtain ⟨table, layout, represents, sources⟩ := reachable_sources linked reachable
  rw [represents.eqv] at lawful
  rw [represents.config] at valid
  have settled := Table.lawful_now table sources lawful
  have named := (Table.key_path_iff table expression _).mpr ⟨kind, valid, rfl⟩
  have covered : (∃ longer held, linked.Registered longer held ∧
      linked.config.keyRules.Extends longer expression) ↔ table.Covered expression := by
    simp only [represents_registered linked table layout represents,
      represents_extends linked table layout represents, Table.Covered]
  refine ⟨_, _, endpoints_refines linked table layout represents expression, ?_⟩
  rcases Table.endpoints_cases table settled expression _ named with
    ⟨isCovered, entries, found, condenses⟩ | ⟨uncovered, missing⟩
  · rw [found]
    constructor
    · rw [covered]
      exact ⟨fun _ => isCovered, fun _ => ⟨entries, rfl⟩⟩
    · intro error failed
      cases failed
    · intro others same
      cases same
      rw [represents.config, represents.eqv, represents_registered linked table layout represents,
        represents_resolves linked table layout represents]
      exact condenses
  · rw [missing]
    constructor
    · rw [covered]
      constructor
      · intro granted
        obtain ⟨entries, same⟩ := granted
        cases same
      · intro isCovered
        exact absurd isCovered uncovered
    · intro error failed
      cases failed
      rfl
    · intro entries granted
      cases granted

theorem endpoints_represent_hosts :
    ∃ (linked : LinkedTable String) (entries : List (QuickMatch String)) (events : List Event),
      linked.Reachable ∧ Linked.Ends (Linked.endpoints "a.") linked (.ok entries) linked events ∧
      (∃ entry ∈ entries, linked.eqv "h:1" entry.value = true ∧
        linked.eqv "h:2" entry.value = true) ∧
      ∃ entry ∈ entries, linked.eqv "g:1" entry.value = true := by
  obtain ⟨linked, layout, reachable, represents⟩ := run_represented {} Comparator.sameHost
    [.setRoute "a.b.c" "h:1", .setRoute "a.b.d" "h:2", .setRoute "a.e" "g:1"]
  have eqv : linked.eqv = Comparator.sameHost := represents.eqv
  have lawful : linked.eqv.IsEquivalence := by
    rw [eqv]
    exact Comparator.sameHost_isEquivalence
  have registered := represents_registered linked _ layout represents
  have upper : linked.Registered "a.b.c" "h:1" := by
    rw [registered]
    exact ⟨[.branch "a", .branch "b", .leaf "c"], by decide, by decide⟩
  have other : linked.Registered "a.e" "g:1" := by
    rw [registered]
    exact ⟨[.branch "a", .leaf "e"], by decide, by decide⟩
  have rules : linked.config.keyRules = ({} : TableConfig).keyRules :=
    congrArg TableConfig.keyRules represents.config
  have below : ∀ key, ({} : TableConfig).keyRules.Extends key "a." →
      linked.config.keyRules.Extends key "a." := by
    intro key longer
    rwa [rules]
  have first := below "a.b.c" (Or.inl ⟨by decide, by decide, by decide⟩)
  have second := below "a.e" (Or.inl ⟨by decide, by decide, by decide⟩)
  obtain ⟨result, events, ends, represent⟩ := endpoints_represent linked reachable lawful "a."
    .topic (by rw [rules]; decide)
  obtain ⟨entries, rfl⟩ := represent.granted.mpr ⟨"a.e", "g:1", other, second⟩
  have condenses := represent.condensed entries rfl
  obtain ⟨entry, member, same, _⟩ := condenses.represented "a.b.c" "h:1" upper first
  obtain ⟨last, memberToo, sameToo, _⟩ := condenses.represented "a.e" "g:1" other second
  have ports : linked.eqv "h:2" "h:1" = true := by
    rw [eqv]
    decide
  exact ⟨linked, entries, events, reachable, ends,
    ⟨entry, member, same, lawful.trans ports same⟩, last, memberToo, sameToo⟩

end LinkedTable

end TopicRouting
