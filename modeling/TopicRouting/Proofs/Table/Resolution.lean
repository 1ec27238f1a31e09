import TopicRouting.Proofs.Table.Cache

set_option autoImplicit false

namespace TopicRouting.Table

universe u

variable {V : Type u}

def Registered (table : Table V) (key : String) (value : V) : Prop :=
  ∃ path, (path, value) ∈ table.routes ∧ path.text = key

def Extends (table : Table V) (longer key : String) : Prop :=
  (table.keyKind longer = .ok .topic ∧ table.keyKind key = .ok .topic ∧
      Path.ofTopic key <+: Path.ofTopic longer) ∨
    table.keyKind longer = .ok .literal ∧ longer = key

structure Decides (table : Table V) (key : String) (value : V) : Prop where
  covered : ∃ longer held, table.Registered longer held ∧ table.Extends longer key
  agreed : ∀ longer held, table.Registered longer held → table.Extends longer key → held = value

theorem key_path_text (table : Table V) (key : String) (path : Path)
    (named : table.keyPath key = .ok path) : path.text = key := by
  obtain ⟨kind, _, rfl⟩ := (key_path_iff table key path).mp named
  exact text_key_path kind key

theorem key_path_spells (table : Table V) (path : Path) :
    table.keyPath path.text = .ok path ↔ table.config.keyRules.Spells path :=
  key_path_iff table path.text path

theorem key_path_spelled (table : Table V) (key : String) (path : Path)
    (named : table.keyPath key = .ok path) : table.config.keyRules.Spells path := by
  rw [← key_path_spells, key_path_text table key path named]
  exact named

theorem extends_iff (table : Table V) (longer key : String) :
    table.Extends longer key ↔
      ∃ path rest, table.keyPath key = .ok path ∧ table.keyPath longer = .ok (path ++ rest) := by
  simp only [Extends, key_kind_iff, key_path_iff]
  constructor
  · rintro (⟨isLonger, isKey, rest, same⟩ | ⟨isLonger, rfl⟩)
    · exact ⟨_, rest, ⟨.topic, isKey, rfl⟩, .topic, isLonger, same.symm⟩
    · exact ⟨_, [], ⟨.literal, isLonger, rfl⟩, .literal, isLonger, (List.append_nil _).symm⟩
  · rintro ⟨path, rest, ⟨kind, valid, rfl⟩, other, validLonger, same⟩
    cases kind with
    | literal =>
        obtain ⟨rfl, rfl, _⟩ := key_path_literal other longer key rest same
        exact Or.inr ⟨validLonger, rfl⟩
    | topic =>
        cases other with
        | topic => exact Or.inl ⟨validLonger, valid, rest, same.symm⟩
        | literal =>
            have nonempty := KeyRules.spells_nonempty _ _ (KeyRules.spells_key_path _ key _ valid)
            obtain ⟨segment, later, cut⟩ := List.exists_cons_of_ne_nil nonempty
            rw [cut] at same
            cases (List.cons.inj same).1
            cases (key_path_literal .topic key longer later cut).1

theorem extends_spelled (table : Table V) (key other : String) (path whole : Path)
    (named : table.keyPath key = .ok path) (namedOther : table.keyPath other = .ok whole) :
    table.Extends other key ↔ path <+: whole := by
  rw [extends_iff, named, namedOther]
  constructor
  · intro extended
    obtain ⟨_, rest, ⟨⟩, same⟩ := extended
    exact ⟨rest, (Except.ok.inj same).symm⟩
  · intro front
    obtain ⟨rest, same⟩ := front
    exact ⟨path, rest, rfl, congrArg Except.ok same.symm⟩

theorem route_key_path (table : Table V) (sound : table.Sound) (path : Path) (value : V)
    (member : (path, value) ∈ table.routes) : table.keyPath path.text = .ok path := by
  obtain ⟨here, found, _⟩ := (Forest.routes_iff _ sound.regular path value).mp member
  exact (key_path_spells table path).mpr (sound.spelled path here found)

theorem registered_iff (table : Table V) (sound : table.Sound) (key : String) (value : V) :
    table.Registered key value ↔
      ∃ path, table.keyPath key = .ok path ∧ (path, value) ∈ table.routes := by
  constructor
  · rintro ⟨path, member, rfl⟩
    exact ⟨path, route_key_path table sound path value member, member⟩
  · rintro ⟨path, named, member⟩
    exact ⟨path, member, key_path_text table key path named⟩

theorem extending_iff (table : Table V) (sound : table.Sound) (key : String) (path : Path)
    (named : table.keyPath key = .ok path) (value : V) :
    (∃ longer, table.Registered longer value ∧ table.Extends longer key) ↔
      ∃ rest, (path ++ rest, value) ∈ table.routes := by
  constructor
  · rintro ⟨longer, registered, longerKey⟩
    obtain ⟨whole, namedWhole, member⟩ := (registered_iff table sound longer value).mp registered
    obtain ⟨front, rest, namedFront, namedLonger⟩ := (extends_iff table longer key).mp longerKey
    cases named.symm.trans namedFront
    cases namedWhole.symm.trans namedLonger
    exact ⟨rest, member⟩
  · rintro ⟨rest, member⟩
    have namedWhole := route_key_path table sound _ value member
    exact ⟨_, ⟨_, member, rfl⟩, (extends_iff table _ key).mpr ⟨path, rest, named, namedWhole⟩⟩

theorem decides_iff (table : Table V) (sound : table.Sound) (key : String) (path : Path)
    (named : table.keyPath key = .ok path) (value : V) :
    table.Decides key value ↔
      (∃ rest routed, (path ++ rest, routed) ∈ table.routes) ∧
        ∀ rest routed, (path ++ rest, routed) ∈ table.routes → routed = value := by
  have extending := extending_iff table sound key path named
  constructor
  · rintro ⟨⟨longer, held, registered, longerKey⟩, agreed⟩
    obtain ⟨rest, member⟩ := (extending held).mp ⟨longer, registered, longerKey⟩
    refine ⟨⟨rest, held, member⟩, ?_⟩
    intro other routed memberOther
    obtain ⟨far, registeredFar, farKey⟩ := (extending routed).mpr ⟨other, memberOther⟩
    exact agreed far routed registeredFar farKey
  · rintro ⟨⟨rest, routed, member⟩, agreed⟩
    obtain ⟨longer, registered, longerKey⟩ := (extending routed).mpr ⟨rest, member⟩
    refine ⟨⟨longer, routed, registered, longerKey⟩, ?_⟩
    intro far held registeredFar farKey
    obtain ⟨other, memberOther⟩ := (extending held).mp ⟨far, registeredFar, farKey⟩
    exact agreed other held memberOther

structure Answers (key : String) (decided : V → Prop) (result : Except RouteError V) : Prop where
  resolved : ∀ value, result = .ok value ↔ decided value
  unresolved : (∀ value, ¬ decided value) → result = .error (.notFound key)

theorem answers_of_value (key : String) (decided : V → Prop) (found : Option V)
    (same : ∀ value, found = some value ↔ decided value) :
    Answers key decided (answer key found) := by
  cases found with
  | none =>
      refine ⟨fun value => ?_, fun _ => rfl⟩
      rw [← same]
      exact ⟨fun result => (nomatch result), fun held => (nomatch held)⟩
  | some held =>
      refine ⟨fun value => ?_, fun nothing => False.elim (nothing held ((same held).mp rfl))⟩
      rw [← same]
      simp [answer]

theorem exhaustive_answer (table : Table V) (key : String) (path : Path)
    (named : table.keyPath key = .ok path) :
    table.lookupExhaustive key = answer key (table.forest.valueAt? path) := by
  rw [lookupExhaustive, named]
  rfl

theorem early_answer (table : Table V) (key : String) (path : Path)
    (named : table.keyPath key = .ok path) :
    table.lookupEarlyExit key = answer key (table.forest.firstValue? path) := by
  rw [lookupEarlyExit, named]
  rfl

section

variable [DecidableEq V] (table : Table V) (lawful : table.Lawful)
  (plain : table.eqv = .equality) (key : String) (path : Path)
  (named : table.keyPath key = .ok path)
include lawful plain named

theorem value_at_decides (value : V) :
    table.forest.valueAt? path = some value ↔ table.Decides key value := by
  have nonempty := KeyRules.spells_nonempty _ path (key_path_spelled table key path named)
  have agreed := Forest.value_agreed table.eqv lawful.lawful table.forest lawful.sound.regular
    lawful.collapsed path nonempty value
  rw [decides_iff table lawful.sound key path named]
  simpa [plain, Comparator.equality, routes, eq_comm] using agreed

theorem first_value_decides (value : V) :
    table.forest.firstValue? path = some value ↔
      ∃ shorter, table.Extends key shorter ∧ table.Decides shorter value := by
  constructor
  · intro met
    obtain ⟨above, below, rfl, top⟩ := (Forest.first_value_iff _ path value).mp met
    have spelled := KeyRules.spells_front _ above below (Forest.topmost_nonempty _ above value top)
      (key_path_spelled table key _ named)
    have namedAbove := (key_path_spells table above).mpr spelled
    exact ⟨above.text, (extends_iff table key _).mpr ⟨above, below, namedAbove, named⟩,
      (value_at_decides table lawful plain _ above namedAbove value).mp top.valued⟩
  · rintro ⟨shorter, keyShorter, decides⟩
    obtain ⟨front, rest, namedFront, namedKey⟩ := (extends_iff table key shorter).mp keyShorter
    cases named.symm.trans namedKey
    have valued := (value_at_decides table lawful plain shorter front namedFront value).mpr decides
    obtain ⟨first, met, same⟩ := Forest.first_value_above table.eqv lawful.lawful table.forest
      lawful.collapsed front rest value valued
    rw [plain] at same
    rw [met, of_decide_eq_true same]

end

theorem registered_value (table : Table V) (sound : table.Sound) (key : String) (value : V)
    (registered : table.Registered key value) :
    ∃ path, table.keyPath key = .ok path ∧ table.forest.valueAt? path = some value := by
  obtain ⟨path, named, member⟩ := (registered_iff table sound key value).mp registered
  obtain ⟨here, found, routed⟩ := (Forest.routes_iff _ sound.regular path value).mp member
  exact ⟨path, named, by rw [Forest.valueAt?, found, Option.bind_some, routed]; rfl⟩

theorem lookups_determined [DecidableEq V] (table : Table V)
    (reachable : Reachable (fun eqv => eqv = Comparator.equality) table) (key : String)
    (kind : KeyKind) (valid : table.keyKind key = .ok kind) :
    Answers key (table.Decides key) (table.lookupExhaustive key) ∧
      Answers key (fun value => ∃ shorter, table.Extends key shorter ∧ table.Decides shorter value)
        (table.lookupEarlyExit key) ∧
      Answers key (fun value => ∃ shorter, table.Extends key shorter ∧ table.Decides shorter value)
        (table.lookupQuick key).result ∧
      ∀ value, table.Registered key value →
        table.lookupExhaustive key = .ok value ∧ table.lookupEarlyExit key = .ok value ∧
          (table.lookupQuick key).result = .ok value := by
  have plain := reachable_comparator _ table reachable
  have lawful := reachable_lawful table (reachable_weaken _ _
    (fun eqv same => same ▸ Comparator.equality_isEquivalence) table reachable)
  have named : table.keyPath key = .ok (kind.path key) := by rw [keyPath, valid]
  have exact_ := answers_of_value key _ _ (value_at_decides table lawful plain key _ named)
  have early := answers_of_value key _ _ (first_value_decides table lawful plain key _ named)
  rw [lookup_quick_early table lawful.sound key]
  rw [exhaustive_answer table key _ named, early_answer table key _ named]
  refine ⟨exact_, early, early, ?_⟩
  intro value registered
  obtain ⟨path, namedPath, valued⟩ := registered_value table lawful.sound key value registered
  cases named.symm.trans namedPath
  have decides := (value_at_decides table lawful plain key _ named value).mp valued
  have own := (extends_iff table key key).mpr ⟨_, [], named, by simpa using named⟩
  have onPath := (early.resolved value).mpr ⟨key, own, decides⟩
  exact ⟨(exact_.resolved value).mpr decides, onPath, onPath⟩

theorem lookups_determined_for_unregistered :
    let table := (ofConfig {} : Table Nat).serveAll [.setRoute "a.b" 1, .setRoute "a.c" 1]
    (∃ shorter, table.Extends "a.d" shorter ∧ table.Decides shorter 1) ∧
      ∀ value, ¬ table.Decides "a.d" value := by
  intro table
  have reachable : Reachable (fun eqv => eqv = Comparator.equality) table :=
    reachable_serve_all (fun eqv => eqv = Comparator.equality) _ (.start {} _ rfl) _
      (by simp [Request.Permitted])
  obtain ⟨exact_, early, _⟩ := lookups_determined table reachable "a.d" .topic rfl
  have missing : table.lookupExhaustive "a.d" = .error (.notFound "a.d") := rfl
  refine ⟨(early.resolved 1).mp rfl, fun value decides => ?_⟩
  cases missing.symm.trans ((exact_.resolved value).mpr decides)

theorem answer_ok_iff (key : String) (found : Option V) (value : V) :
    answer key found = .ok value ↔ found = some value := by
  cases found <;> simp [answer]

theorem exhaustive_early (table : Table V) (lawful : table.Lawful) (key : String) (value : V)
    (resolved : table.lookupExhaustive key = .ok value) :
    ∃ first, table.lookupEarlyExit key = .ok first ∧ table.eqv first value = true := by
  cases named : table.keyPath key with
  | error error =>
      rw [lookupExhaustive, named] at resolved
      cases resolved
  | ok path =>
      rw [exhaustive_answer table key path named, answer_ok_iff] at resolved
      obtain ⟨first, met, same⟩ := Forest.first_value_above table.eqv lawful.lawful table.forest
        lawful.collapsed path [] value resolved
      rw [List.append_nil] at met
      exact ⟨first, by rw [early_answer table key path named, met]; rfl, same⟩

theorem node_lookups (table : Table V) (lawful : table.Lawful) (path : Path) (here : Node V)
    (found : table.forest.node? path = some here) :
    table.lookupExhaustive path.text = answer path.text here.target.value? ∧
      (here.target.value? = none →
        table.lookupEarlyExit path.text = .error (.notFound path.text)) := by
  have named := (key_path_spells table path).mpr (lawful.sound.spelled path here found)
  rw [exhaustive_answer table _ path named, early_answer table _ path named]
  refine ⟨by rw [Forest.valueAt?, found, Option.bind_some], ?_⟩
  intro absent
  cases met : table.forest.firstValue? path with
  | none => rfl
  | some first =>
      obtain ⟨value, valued, _⟩ := Forest.first_value_below table.eqv lawful.lawful table.forest
        lawful.collapsed path here found first met
      cases absent.symm.trans valued

theorem strategies_agree (table : Table V)
    (reachable : Reachable Comparator.IsEquivalence table) (key : String) :
    (∀ value, table.lookupExhaustive key = .ok value →
      (∃ first, table.lookupEarlyExit key = .ok first ∧ table.eqv first value = true) ∧
      ∃ quick, (table.lookupQuick key).result = .ok quick ∧ table.eqv quick value = true) ∧
    (∀ (_ : DecidableEq V) value, table.eqv = .equality →
      table.lookupExhaustive key = .ok value →
      table.lookupEarlyExit key = .ok value ∧ (table.lookupQuick key).result = .ok value) ∧
    ∀ path here, (path, here) ∈ table.forest.nodes → path.text = key →
      ((∃ first, table.lookupEarlyExit key = .ok first) ↔
        ∃ value, table.lookupExhaustive key = .ok value) ∧
      (here.target.value? = none →
        table.lookupExhaustive key = .error (.notFound key) ∧
        table.lookupEarlyExit key = .error (.notFound key) ∧
        (table.lookupQuick key).result = .error (.notFound key)) := by
  have lawful := reachable_lawful table reachable
  have agree := exhaustive_early table lawful key
  rw [lookup_quick_early table lawful.sound key]
  refine ⟨fun value resolved => ⟨agree value resolved, agree value resolved⟩, ?_, ?_⟩
  · intro decidable value plain resolved
    obtain ⟨first, early, same⟩ := agree value resolved
    rw [plain] at same
    cases of_decide_eq_true same
    exact ⟨early, early⟩
  · rintro path here member rfl
    rw [Forest.nodes_iff _ lawful.sound.regular] at member
    obtain ⟨exhaustive, absentEarly⟩ := node_lookups table lawful path here member
    cases valued : here.target.value? with
    | none =>
        have early := absentEarly valued
        rw [valued] at exhaustive
        refine ⟨?_, fun _ => ⟨exhaustive, early, early⟩⟩
        simp [exhaustive, early, answer]
    | some value =>
        rw [valued] at exhaustive
        obtain ⟨first, early, _⟩ := agree value exhaustive
        exact ⟨⟨fun _ => ⟨value, exhaustive⟩, fun _ => ⟨first, early⟩⟩, fun absent => nomatch absent⟩

-- One branch holds two ports of a host, and the leaves of the other lead to different hosts.
theorem strategies_agree_on_hosts :
    let table := (withComparator {} Comparator.sameHost).serveAll
      [.setRoute "a.b" "h:1", .setRoute "a.c" "h:2", .setRoute "b.c" "h:1", .setRoute "b.d" "g:1"]
    table.lookupExhaustive "a.c" = .ok "h:2" ∧ table.lookupEarlyExit "a.c" = .ok "h:1" ∧
      table.eqv "h:1" "h:2" = true ∧
      (table.lookupQuick "b.").result = .error (.notFound "b.") := by
  intro table
  have reachable : Reachable Comparator.IsEquivalence table :=
    reachable_serve_all _ _ (.start {} _ Comparator.sameHost_isEquivalence) _
      (by simp [Request.Permitted])
  have walked : table.lookupEarlyExit "a.c" = .ok "h:1" := rfl
  obtain ⟨⟨first, early, same⟩, _⟩ := (strategies_agree table reachable "a.c").1 "h:2" rfl
  cases walked.symm.trans early
  have member : ([.branch "b"], ⟨.undecided, .node (.leaf "c") (.route "h:1") .nil
      (.node (.leaf "d") (.route "g:1") .nil .nil)⟩) ∈ table.forest.nodes := by decide
  obtain ⟨_, absent⟩ := (strategies_agree table reachable "b.").2.2 _ _ member rfl
  exact ⟨rfl, walked, same, (absent rfl).2.2⟩

end TopicRouting.Table
