import TopicRouting.Proofs.Table.Resolution
import TopicRouting.Proofs.Text.ByteOrder

set_option autoImplicit false

namespace TopicRouting

universe u

variable {V : Type u}

namespace QuickMatch

theorem descending_ordered (entries : List (QuickMatch V)) :
    (descending entries).Pairwise fun a b => b.path ≤ a.path := by
  apply List.Pairwise.imp (fun {_ _} relation => of_decide_eq_true relation)
  apply List.pairwise_mergeSort
  · intro a b c first second
    simp only [decide_eq_true_eq] at *
    exact String.le_trans second first
  · intro a b
    simp only [Bool.or_eq_true, decide_eq_true_eq]
    exact String.le_total b.path a.path

theorem descending_strict (entries : List (QuickMatch V)) (distinct : (entries.map path).Nodup) :
    (descending entries).Pairwise fun a b => bytes b.path < bytes a.path := by
  have apart : ((descending entries).map path).Nodup :=
    ((List.mergeSort_perm entries _).map path).nodup_iff.mpr distinct
  rw [List.Nodup, List.pairwise_map] at apart
  refine ((descending_ordered entries).and apart).imp ?_
  intro a b both
  apply bytes_less
  rw [← String.not_le]
  exact fun reversed => both.2 (String.le_antisymm reversed both.1)

structure Depicts (entry : QuickMatch V) (forest : Forest V) (path : Path) : Prop where
  text : entry.path = path.text
  topmost : forest.Topmost path entry.value
  literal : entry.isLiteral = path.getLast?.any Segment.isLiteral

theorem depicts_same (entry other : QuickMatch V) (forest : Forest V) (path : Path)
    (depicts : entry.Depicts forest path) (depictsToo : other.Depicts forest path) :
    entry = other := by
  obtain ⟨own, value, flag⟩ := entry
  obtain ⟨ownToo, held, flagToo⟩ := other
  cases depicts.text.trans depictsToo.text.symm
  cases depicts.literal.trans depictsToo.literal.symm
  cases depicts.topmost.valued.symm.trans depictsToo.topmost.valued
  rfl

end QuickMatch

theorem find_rearranged {α : Type u} (hit : α → Bool) (entries others : List α)
    (same : entries.Perm others)
    (single : ∀ a ∈ entries, ∀ b ∈ entries, hit a = true → hit b = true → a = b) :
    entries.find? hit = others.find? hit := by
  cases found : entries.find? hit with
  | none =>
      rw [List.find?_eq_none] at found
      exact (List.find?_eq_none.mpr fun other member => found other (same.mem_iff.mpr member)).symm
  | some entry =>
      have member := List.mem_of_find?_eq_some found
      have hits : hit entry = true := List.find?_some found
      have some_ : (others.find? hit).isSome = true :=
        List.find?_isSome.mpr ⟨entry, same.mem_iff.mp member, hits⟩
      obtain ⟨other, isOther⟩ := Option.isSome_iff_exists.mp some_
      have memberToo := same.mem_iff.mpr (List.mem_of_find?_eq_some isOther)
      rw [isOther, single entry member other memberToo hits (List.find?_some isOther)]

namespace Table

structure Coherent (table : Table V) : Prop where
  descending : table.cache.entries.Pairwise fun a b => bytes b.path < bytes a.path
  depicts : ∀ entry ∈ table.cache.entries, ∃ path, entry.Depicts table.forest path ∧
    ∀ other, entry.Depicts table.forest other → other = path
  depicted : ∀ path value, table.forest.Topmost path value →
    ∃ entry ∈ table.cache.entries, entry.Depicts table.forest path ∧
      ∀ other ∈ table.cache.entries, other.Depicts table.forest path → other = entry
  single : ∀ key kind, table.keyKind key = .ok kind → ∀ a ∈ table.cache.entries,
    ∀ b ∈ table.cache.entries, a.covers key = true → b.covers key = true → a = b
  unordered : ∀ key kind, table.keyKind key = .ok kind → ∀ entries,
    table.cache.entries.Perm entries →
      entries.find? (fun entry => entry.covers key) = table.cache.find? key

section

variable (table : Table V) (sound : table.Sound)
include sound

theorem topmost_spelled (path : Path) (value : V) (top : table.forest.Topmost path value) :
    table.config.keyRules.Spells path := by
  obtain ⟨here, found, _⟩ := Option.bind_eq_some_iff.mp top.valued
  exact sound.spelled path here found

theorem topmost_text (path other : Path) (value held : V)
    (top : table.forest.Topmost path value) (second : table.forest.Topmost other held)
    (same : path.text = other.text) : path = other :=
  KeyRules.spells_once _ path other (topmost_spelled table sound path value top)
    (topmost_spelled table sound other held second) same

theorem depicts_of_topmost (path : Path) (value : V) (top : table.forest.Topmost path value) :
    (QuickMatch.ofPath path value).Depicts table.forest path :=
  ⟨rfl, top, KeyRules.spells_literal _ path (topmost_spelled table sound path value top)⟩

variable (fresh : table.cache.stale = false)
include fresh

theorem entry_iff (entry : QuickMatch V) :
    entry ∈ table.cache.entries ↔ ∃ path, entry.Depicts table.forest path := by
  rw [sound.current fresh, QuickCache.entries_iff]
  constructor
  · rintro ⟨path, value, member, rfl⟩
    have top := (Forest.topmost_iff _ sound.regular path value).mp member
    exact ⟨path, depicts_of_topmost table sound path value top⟩
  · rintro ⟨path, text, top, literal⟩
    refine ⟨path, entry.value, (Forest.topmost_iff _ sound.regular path _).mpr top, ?_⟩
    obtain ⟨own, value, flag⟩ := entry
    cases text
    cases (depicts_of_topmost table sound path value top).literal.trans literal.symm
    rfl

theorem entries_descending :
    table.cache.entries.Pairwise fun a b => bytes b.path < bytes a.path := by
  rw [sound.current fresh]
  apply QuickMatch.descending_strict
  have paths := (Forest.topmost_paths table.forest).nodup
    (Forest.nodes_distinct _ sound.regular)
  have once := nodup_map_of_unique Path.text _ paths ?_
  · simpa [Forest.quickMatches, Function.comp_def, QuickMatch.ofPath] using once
  · intro path member other memberToo same
    obtain ⟨⟨_, value⟩, listed, rfl⟩ := List.mem_map.mp member
    obtain ⟨⟨_, held⟩, listedToo, rfl⟩ := List.mem_map.mp memberToo
    exact topmost_text table sound _ _ value held
      ((Forest.topmost_iff _ sound.regular _ value).mp listed)
      ((Forest.topmost_iff _ sound.regular _ held).mp listedToo) same

theorem entries_single (key : String) (kind : KeyKind) (valid : table.keyKind key = .ok kind)
    (a : QuickMatch V) (isEntry : a ∈ table.cache.entries) (b : QuickMatch V)
    (isEntryToo : b ∈ table.cache.entries) (covers : a.covers key = true)
    (coversToo : b.covers key = true) : a = b := by
  rw [key_kind_iff] at valid
  rw [sound.current fresh, QuickCache.entries_iff] at isEntry isEntryToo
  obtain ⟨path, value, member, rfl⟩ := isEntry
  obtain ⟨other, held, memberToo, rfl⟩ := isEntryToo
  have top := (Forest.topmost_iff _ sound.regular path value).mp member
  have second := (Forest.topmost_iff _ sound.regular other held).mp memberToo
  obtain ⟨rest, starts⟩ := (QuickMatch.covers_path_iff _ path value
    (topmost_spelled table sound path value top) key kind valid).mp covers
  obtain ⟨later, startsToo⟩ := (QuickMatch.covers_path_iff _ other held
    (topmost_spelled table sound other held second) key kind valid).mp coversToo
  obtain ⟨rfl, rfl⟩ := Forest.topmost_unique _ path other rest later value held top second
    (starts.trans startsToo.symm)
  rfl

end

theorem cache_coherent (table : Table V) (reachable : Reachable (fun _ => True) table)
    (fresh : table.cache.stale = false) : table.Coherent := by
  have sound := reachable_sound _ table reachable
  have single := entries_single table sound fresh
  refine ⟨entries_descending table sound fresh, ?_, ?_, single, ?_⟩
  · intro entry member
    obtain ⟨path, depicts⟩ := (entry_iff table sound fresh entry).mp member
    refine ⟨path, depicts, fun other depictsToo => ?_⟩
    exact topmost_text table sound other path _ _ depictsToo.topmost depicts.topmost
      (depictsToo.text.symm.trans depicts.text)
  · intro path value top
    have depicts := depicts_of_topmost table sound path value top
    refine ⟨_, (entry_iff table sound fresh _).mpr ⟨path, depicts⟩, depicts, ?_⟩
    exact fun other _ depictsToo => QuickMatch.depicts_same other _ _ path depictsToo depicts
  · intro key kind valid entries same
    exact (find_rearranged _ _ _ same (single key kind valid)).symm

theorem cache_coherent_with_literal :
    let table := (withComparator {} (fun existing incoming => decide (incoming ≤ existing)) :
      Table Nat).serveAll
        [.setRoute "a.b" 1, .setRoute "a.c" 2, .setRoute "_x" 3, .refreshCache]
    table.cache.stale = false ∧
      (∃ entry ∈ table.cache.entries, entry.path = "a.c" ∧ entry.value = 2) ∧
      (∃ entry ∈ table.cache.entries, entry.path = "_x" ∧ entry.isLiteral = true) ∧
      table.cache.entries.reverse.find? (fun entry => entry.covers "a.c") =
        table.cache.find? "a.c" := by
  intro table
  have reachable : Reachable (fun _ => True) table :=
    reachable_serve_all _ _ (.start {} _ trivial) _ (by simp [Request.Permitted])
  have coherent := cache_coherent table reachable rfl
  have top := fun path value => Forest.topmost_iff table.forest
    (reachable_sound _ table reachable).regular path value
  obtain ⟨leaf, isLeaf, atLeaf, _⟩ :=
    coherent.depicted [.branch "a", .leaf "c"] 2 ((top _ _).mp (by decide))
  obtain ⟨literal, isLiteral, atLiteral, _⟩ :=
    coherent.depicted [.literal "_x"] 3 ((top _ _).mp (by decide))
  refine ⟨rfl, ⟨leaf, isLeaf, atLeaf.text.trans (by decide), ?_⟩,
    ⟨literal, isLiteral, atLiteral.text.trans (by decide), atLiteral.literal⟩,
    coherent.unordered "a.c" .topic rfl _ (List.reverse_perm _).symm⟩
  exact Option.some.inj (atLeaf.topmost.valued.symm.trans rfl)

end Table

end TopicRouting
