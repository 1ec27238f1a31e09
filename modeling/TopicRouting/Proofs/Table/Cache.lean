import TopicRouting.Proofs.Table.Invariants

/-!
The quick-match cache and the walk along a path. An entry covers a key exactly when the entry's
path starts the key's path, so at most one entry covers a key, and it is the first node with a
value that the walk meets.
-/

set_option autoImplicit false

namespace TopicRouting

universe u

variable {V : Type u}

namespace QuickMatch

theorem covers_iff (entry : QuickMatch V) (key : String) :
    entry.covers key = true ↔
      ∃ rest, entry.path ++ rest = key ∧
        (rest = "" ∨
          entry.isLiteral = false ∧ entry.path.toList.getLast? = some separator) := by
  have starts : entry.path.toList <+: key.toList ↔ ∃ rest, entry.path ++ rest = key := by
    constructor
    · rintro ⟨rest, same⟩
      exact ⟨String.ofList rest, String.ext (by simpa using same)⟩
    · rintro ⟨rest, rfl⟩
      simp
  simp only [covers, Bool.and_eq_true, List.isPrefixOf_iff_prefix, starts, Bool.or_eq_true,
    beq_iff_eq, Bool.not_eq_true']
  constructor
  · rintro ⟨⟨rest, rfl⟩, ended⟩
    refine ⟨rest, rfl, ended.imp_left ?_⟩
    intro sizes
    rw [String.utf8ByteSize_append] at sizes
    exact String.utf8ByteSize_eq_zero_iff.mp (by omega)
  · rintro ⟨rest, rfl, ended⟩
    refine ⟨⟨rest, rfl⟩, ended.imp_left ?_⟩
    rintro rfl
    simp

theorem covers_literal_iff (rules : KeyRules) (word : String) (value : V)
    (isLiteral : rules.classify word = .ok .literal) (key : String) (kind : KeyKind)
    (valid : rules.classify key = .ok kind) :
    (ofPath [.literal word] value).covers key = true ↔ [.literal word] <+: kind.path key := by
  have whole : Path.text [.literal word] = word := text_key_path .literal word
  rw [covers_iff]
  simp only [ofPath, whole, Path.isLiteral, Segment.isLiteral, Bool.true_eq_false, false_and,
    or_false]
  constructor
  · rintro ⟨rest, rfl, rfl⟩
    rw [String.append_empty] at valid ⊢
    cases isLiteral.symm.trans valid
    exact List.prefix_refl _
  · rintro ⟨rest, same⟩
    obtain ⟨_, rfl, _⟩ := key_path_literal kind key word rest same.symm
    exact ⟨"", String.append_empty, rfl⟩

theorem covers_topic_iff (rules : KeyRules) (path : Path) (value : V) (topical : path.Topical)
    (isTopic : rules.classify path.text = .ok .topic) (key : String) (kind : KeyKind)
    (valid : rules.classify key = .ok kind) :
    (ofPath path value).covers key = true ↔ path <+: kind.path key := by
  have nonempty := KeyRules.spells_nonempty _ _ (KeyRules.spells_topic rules path topical isTopic)
  rw [covers_iff]
  simp only [ofPath, Path.topical_not_literal path topical, true_and]
  constructor
  · rintro ⟨rest, rfl, ended⟩
    cases kind with
    | literal => exact False.elim (KeyRules.classify_topic_start rules _ rest isTopic valid)
    | topic =>
        rcases ended with rfl | ended
        · refine ⟨[], ?_⟩
          rw [String.append_empty, List.append_nil, KeyKind.path, Path.ofTopic_text path topical]
        · rw [KeyKind.path, Path.ofTopic, String.toList_append,
            Path.scan_after_separator path topical ended]
          exact List.prefix_append _ _
  · rintro ⟨below, same⟩
    refine ⟨Path.text below, by rw [← Path.text_append, same, text_key_path], ?_⟩
    by_cases last : below = []
    · exact Or.inl (by rw [last]; rfl)
    · cases kind with
      | literal =>
          cases path with
          | nil => exact False.elim (nonempty rfl)
          | cons segment rest =>
              cases (List.cons.inj same).1
              exact False.elim topical
      | topic =>
          have cut := Path.topical_ofTopic key
          rw [← KeyKind.path, ← same] at cut
          exact Or.inr (Path.topical_ends_with_separator path below cut nonempty last)

theorem covers_path_iff (rules : KeyRules) (path : Path) (value : V)
    (spelled : rules.Spells path) (key : String) (kind : KeyKind)
    (valid : rules.classify key = .ok kind) :
    (ofPath path value).covers key = true ↔ path <+: kind.path key := by
  rcases KeyRules.spells_cases rules path spelled with ⟨word, rfl, isLiteral⟩ | ⟨topical, isTopic⟩
  · exact covers_literal_iff rules word value isLiteral key kind valid
  · exact covers_topic_iff rules path value topical isTopic key kind valid

end QuickMatch

theorem QuickCache.entries_iff (forest : Forest V) (entry : QuickMatch V) :
    entry ∈ (QuickCache.ofForest forest).entries ↔
      ∃ path value, (path, value) ∈ forest.topmost ∧ QuickMatch.ofPath path value = entry := by
  simp [QuickCache.ofForest, QuickMatch.descending, Forest.quickMatches, Prod.exists]

theorem QuickCache.found_entry (cache : QuickCache V) (key : String) (entry : QuickMatch V)
    (found : cache.find? key = some entry) :
    entry ∈ cache.entries ∧ entry.covers key = true := by
  rw [find?] at found
  have covers := List.find?_some found
  exact ⟨List.mem_of_find?_eq_some found, covers⟩

-- The order of the entries plays no part, since at most one of them covers a key.
theorem QuickCache.find_first_value (rules : KeyRules) (forest : Forest V)
    (regular : forest.Regular)
    (spelled : ∀ path here, forest.node? path = some here → rules.Spells path) (key : String)
    (kind : KeyKind) (valid : rules.classify key = .ok kind) :
    ((QuickCache.ofForest forest).find? key).map QuickMatch.value =
      forest.firstValue? (kind.path key) := by
  have covering : ∀ path value, (path, value) ∈ forest.topmost →
      Forest.Topmost forest path value ∧
        ((QuickMatch.ofPath path value).covers key = true ↔ path <+: kind.path key) := by
    intro path value member
    have top := (Forest.topmost_iff forest regular path value).mp member
    obtain ⟨here, found, _⟩ := Option.bind_eq_some_iff.mp top.valued
    exact ⟨top, QuickMatch.covers_path_iff rules path value (spelled path here found) key kind valid⟩
  apply Option.ext
  intro value
  rw [Option.map_eq_some_iff, Forest.first_value_iff]
  constructor
  · rintro ⟨entry, found, rfl⟩
    obtain ⟨isEntry, covers⟩ := found_entry _ key entry found
    obtain ⟨path, value, member, rfl⟩ := (entries_iff forest entry).mp isEntry
    obtain ⟨top, covered⟩ := covering path value member
    obtain ⟨below, same⟩ := covered.mp covers
    exact ⟨path, below, same, top⟩
  · rintro ⟨above, below, same, top⟩
    have member := (Forest.topmost_iff forest regular above value).mpr top
    have covers := (covering above value member).2.mpr ⟨below, same⟩
    have hit : ((QuickCache.ofForest forest).find? key).isSome = true :=
      List.find?_isSome.mpr ⟨_, (entries_iff forest _).mpr ⟨above, value, member, rfl⟩, covers⟩
    obtain ⟨entry, found⟩ := Option.isSome_iff_exists.mp hit
    obtain ⟨isEntry, coversToo⟩ := found_entry _ key entry found
    obtain ⟨path, other, atTop, rfl⟩ := (entries_iff forest entry).mp isEntry
    obtain ⟨second, covered⟩ := covering path other atTop
    obtain ⟨later, extends_⟩ := covered.mp coversToo
    have one := Forest.topmost_unique forest above path below later value other top second
      (same.trans extends_.symm)
    exact ⟨_, found, one.2.symm⟩

namespace Table

theorem quick_value (table : Table V) (sound : table.Sound) (key : String) (path : Path)
    (named : table.keyPath key = .ok path) :
    table.quickValue? key path = table.firstValue? path := by
  rw [quickValue?]
  cases stale : table.cache.stale with
  | true => rfl
  | false =>
      obtain ⟨kind, valid, rfl⟩ := (key_path_iff table key path).mp named
      rw [sound.current stale]
      exact QuickCache.find_first_value table.config.keyRules table.forest sound.regular
        sound.spelled key kind valid

theorem ensure_cache_state (table : Table V) :
    ∃ cache, table.ensureCache.state = { table with cache } := by
  rw [ensureCache]
  cases table.cache.stale with
  | true => exact ⟨.ofForest table.forest, rfl⟩
  | false => exact ⟨table.cache, rfl⟩

theorem ensure_cache_sound (table : Table V) (sound : table.Sound) :
    table.ensureCache.state.Sound :=
  ensure_cache_keeps Sound (kept_sound fun _ => True).refresh table sound

theorem ensured_cache (table : Table V) (sound : table.Sound) :
    table.ensureCache.state.cache = .ofForest table.forest := by
  rw [ensureCache]
  cases stale : table.cache.stale with
  | true => rfl
  | false => exact sound.current stale

theorem lookup_quick_early (table : Table V) (sound : table.Sound) (key : String) :
    (table.lookupQuick key).result = table.lookupEarlyExit key := by
  rw [lookupQuick, lookupEarlyExit]
  cases named : table.keyPath key with
  | error error => rfl
  | ok path =>
      have ready := ensure_cache_sound table sound
      obtain ⟨cache, isReady⟩ := ensure_cache_state table
      rw [isReady] at ready
      simp only [isReady]
      rw [quick_value _ ready key path named]
      rfl

theorem resolve_early (table : Table V) (sound : table.Sound) (cached : table.strategy = .quickCache)
    (key : String) : table.resolve key = table.lookupEarlyExit key := by
  rw [resolve, lookupEarlyExit]
  cases named : table.keyPath key with
  | error error => rfl
  | ok path => simp only [cached, quick_value table sound key path named]

theorem resolve_uncached (table : Table V) (walked : table.strategy ≠ .quickCache)
    (cache : QuickCache V) (key : String) :
    ({ table with cache } : Table V).resolve key = table.resolve key := by
  cases selected : table.strategy with
  | exhaustive => simp only [resolve, selected, exactValue?, forest, keyPath, keyKind]
  | earlyExit => simp only [resolve, selected, firstValue?, forest, keyPath, keyKind]
  | quickCache => exact absurd selected walked

theorem lookup_early (table : Table V) (sound : table.Sound) (cached : table.strategy = .quickCache)
    (key : String) : (table.lookup key).result = table.lookupEarlyExit key := by
  have ready := ensure_cache_sound table sound
  obtain ⟨cache, isReady⟩ := ensure_cache_state table
  rw [isReady] at ready
  simp only [lookup, if_pos cached, isReady]
  exact resolve_early _ ready cached key

theorem cache_refines_walk (table : Table V) (reachable : Reachable (fun _ => True) table)
    (key : String) :
    (table.lookupQuick key).result = table.lookupEarlyExit key ∧
      (table.strategy = .quickCache →
        table.resolve key = table.lookupEarlyExit key ∧
        (table.lookup key).result = table.lookupEarlyExit key ∧
        (table.lookup key).state.resolve key = table.lookupEarlyExit key ∧
        table.refreshCache.state.resolve key = table.lookupEarlyExit key) := by
  have sound := reachable_sound _ table reachable
  refine ⟨lookup_quick_early table sound key, fun cached => ⟨?_, ?_, ?_, ?_⟩⟩
  · exact resolve_early table sound cached key
  · exact lookup_early table sound cached key
  · exact lookup_early table sound cached key
  · exact resolve_early table.refreshCache.state
      ((kept_sound fun _ => True).refresh table sound) cached key

-- The comparator only goes one way, so the branch keeps a value that one of its leaves does not
-- carry, and the cache was collected before that leaf came.
theorem cache_refines_walk_one_way :
    let table := (withComparator {} (fun existing incoming => decide (existing ≤ incoming)) :
      Table Nat).serveAll [.setRoute "a.b" 1, .refreshCache, .setRoute "a.c" 2]
    table.cache.stale = true ∧ (table.lookupQuick "a.c").result = .ok 1 ∧
      table.resolve "a.c" = .ok 1 ∧ (table.lookup "a.c").result = .ok 1 ∧
      table.refreshCache.state.resolve "a.c" = .ok 1 := by
  intro table
  have reachable : Reachable (fun _ => True) table :=
    reachable_serve_all _ _ (.start {} _ trivial) _ (by simp [Request.Permitted])
  obtain ⟨quick, cached⟩ := cache_refines_walk table reachable "a.c"
  obtain ⟨stale, looked, _, fresh⟩ := cached rfl
  have walked : table.lookupEarlyExit "a.c" = .ok 1 := rfl
  exact ⟨rfl, quick.trans walked, stale.trans walked, looked.trans walked, fresh.trans walked⟩

end Table

end TopicRouting
