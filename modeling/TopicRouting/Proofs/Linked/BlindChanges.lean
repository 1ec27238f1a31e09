import TopicRouting.Proofs.Linked.Answering
import TopicRouting.Proofs.Linked.Blindness
import TopicRouting.Proofs.Linked.Passes
import TopicRouting.Proofs.Linked.Registering

set_option autoImplicit false

namespace TopicRouting

open Layout

variable {V : Type}

namespace Linked

/-! ## The way up -/

theorem blind_revise_none : Blind (revise none : Action V Unit) := by
  rw [revise_eq]
  exact blind_pure ()

theorem blind_revise (table : LinkedTable V) (spine : Spine V) (below others : Grove V)
    (focused : table.arena.Focused spine below others) (slot : Nat)
    (lists : table.directory.Lists spine.first slot spine.base) :
    BlindAt (revise (some spine.last)) table := by
  induction spine generalizing table below with
  | root id segment target =>
      by_cases structural : below = .nil ∧ target.isRoute = false
      · obtain ⟨rfl, structural⟩ := structural
        exact blind_ends
          { table with
            arena := table.arena.vacateAll [id]
            directory := table.directory.drop segment.text slot } fun cache =>
          revise_felled { table with cache } id segment target others focused structural slot lists
      by_cases collapses : target = .undecided ∧
          ∃ value, below.forest.uniformValue? table.eqv = some value
      · obtain ⟨rfl, value, uniform⟩ := collapses
        exact blind_proceeds (blind_revise_none { table with arena := table.arena.rewrite _ _ _ })
          fun cache =>
            revise_collapsed { table with cache } _ below others focused rfl value uniform
      exact blind_ends table fun cache => revise_still { table with cache } _ below others focused
        (kept_routed _ below structural) (plain_undecided table.eqv _ below collapses)
  | node above id segment target before after ih =>
      by_cases structural : below = .nil ∧ target.isRoute = false
      · obtain ⟨rfl, structural⟩ := structural
        have cut := Arena.focused_cut table.arena above id segment target before after .nil others
          focused [id] (.refl _)
        exact blind_proceeds (ih { table with arena := _ } _ cut lists) fun cache =>
          revise_pruned { table with cache } above id segment target before after others focused
            structural
      by_cases collapses : target = .undecided ∧
          ∃ value, below.forest.uniformValue? table.eqv = some value
      · obtain ⟨rfl, value, uniform⟩ := collapses
        have written := Arena.focused_retarget table.arena _ below others focused (.collapsed value)
        rw [Spine.retarget, Arena.focused_node] at written
        exact blind_proceeds (ih { table with arena := _ } _ written lists) fun cache =>
          revise_collapsed { table with cache } _ below others focused rfl value uniform
      exact blind_ends table fun cache => revise_still { table with cache } _ below others focused
        (kept_routed _ below structural) (plain_undecided table.eqv _ below collapses)

/-! ## Removing -/

theorem blind_remove_subtree (table : LinkedTable V) (spine : Spine V) (below others : Grove V)
    (focused : table.arena.Focused spine below others) (slot : Nat)
    (lists : table.directory.Lists spine.first slot spine.base) :
    BlindAt (removeSubtree spine.last) table := by
  have last := Arena.focused_last table.arena spine below others focused
  have routes := doomed_routes table.arena spine below others focused
  have whole := doomed_perm spine.last below
  refine blind_read (fun cache => reads_collect_subtree { table with cache } spine.parent?
    spine.last spine.segment spine.target below last focused.held) ?_
  refine blind_read (fun cache => reads_cell { table with cache } _ _ last) ?_
  cases spine with
  | root id segment target =>
      refine blind_last (blind_unlink _ _ table) fun _ => blind_bind (blind_release_all _ 0) fun _ => ?_
      exact blind_bind blind_revise_none fun _ => blind_pure _
  | node above id segment target before after =>
      have tallies := Arena.tallies_unlinked table.arena above id segment target before after below
        others focused _ whole
      have cut := Arena.focused_cut table.arena above id segment target before after below others
        focused _ whole
      refine blind_then (blind_unlink _ _ table)
        (ends_unlink table above id segment target before after below others focused) ?_
      refine blind_then (blind_release_all _ 0 _) (releases_counted table _ _ _ tallies _ rfl) ?_
      exact blind_last (blind_revise _ above _ others cut slot lists) fun _ => blind_pure _

/-! ## Walks -/

theorem blind_walk (table : LinkedTable V) (spine : Spine V) (below : Grove V)
    (reaches : table.arena.Reaches spine below) (path : Path) (topical : path.Topical)
    (visited : List NodeId) :
    BlindAt (finishWalk visited ⟨some spine.last, spine.segment.characters ++ path.text.toList⟩)
      table := by
  rw [finish_walk_eq]
  rcases advance_cases table spine below reaches path topical with
    ⟨advances, _⟩ | ⟨head, rest, id, here, before, children, after, rfl, _, _, rfl, lower, advances⟩
  · refine blind_then (blind_advance _ _ table) (ends_of_reads advances) ?_
    rw [finish_walk_eq]
    exact blind_pure _ table
  · have later := (Path.topical_cons head rest topical).2.1
    refine blind_then (blind_advance _ _ table) (ends_of_reads advances) ?_
    rw [Path.text_characters]
    -- Every visit takes the first segment of what is left of the path.
    exact blind_walk table _ children lower rest later _
termination_by path.length

end Linked

namespace LinkedTable

section

variable (linked : LinkedTable V) (table : Table V) (layout : Layout V)
  (represents : linked.Represents table layout)
include represents

theorem blind_whole_walk (key : String) (kind : KeyKind)
    (valid : table.config.keyRules.classify key = .ok kind) :
    Linked.BlindAt (do Linked.finishWalk [] (← Linked.startWalk key kind)) linked := by
  have starts := Linked.blind_start_walk (V := V) key kind
  cases named : kind.path key with
  | nil =>
      exact absurd named (KeyRules.spells_nonempty _ _ (KeyRules.spells_key_path _ key kind valid))
  | cons head rest =>
      cases found : table.roots.find? head with
      | none =>
          refine Linked.blind_then (starts linked) (Linked.ends_of_reads
            (reads_start_absent linked table layout represents key kind valid head rest named found)) ?_
          rw [Linked.finish_walk_eq]
          exact Linked.blind_pure _ linked
      | some tree =>
          obtain ⟨slot, plant, held, _, rfl⟩ := root_held linked table layout represents head tree found
          refine Linked.blind_then (starts linked) (Linked.ends_of_reads
            (reads_start linked table layout represents key kind slot plant held rest named)) ?_
          exact Linked.blind_walk linked _ plant.children
            (root_reaches linked table layout represents slot plant held) rest
            (key_tail key kind _ rest named) []

theorem blind_find_exact (key : String) (kind : KeyKind)
    (valid : table.config.keyRules.classify key = .ok kind) :
    Linked.BlindAt (Linked.findExact key kind) linked := by
  rw [Linked.findExact, ← bind_assoc]
  refine Linked.blind_last (blind_whole_walk linked table layout represents key kind valid) ?_
  intro walked
  obtain ⟨path, rest⟩ := walked
  dsimp only
  cases path.getLast? with
  | none => exact Linked.blind_pure none
  | some last => exact Linked.blind_pure _

theorem blind_exhaustive (key : String) (kind : KeyKind)
    (valid : table.config.keyRules.classify key = .ok kind) :
    Linked.BlindAt (Linked.exhaustive key kind) linked := by
  refine Linked.blind_last (blind_find_exact linked table layout represents key kind valid) ?_
  intro found
  cases found with
  | none => exact Linked.blind_pure none
  | some id => exact Linked.blind_bind (Linked.blind_cell id) fun _ => Linked.blind_pure _

theorem blind_trace_path (key : String) (valid : table.config.keyRules.classify key = .ok .topic) :
    Linked.BlindAt (Linked.tracePath key) linked := by
  have tokens := fun cache =>
    Linked.reads_tokens { linked with cache } (Path.ofTopic key) (Path.topical_ofTopic key) []
  rw [Path.text_ofTopic] at tokens
  exact Linked.blind_read tokens (blind_whole_walk linked table layout represents key .topic valid)

theorem blind_key {α : Type} (key : String) (f : KeyKind → Action V α)
    (later : ∀ kind, table.config.keyRules.classify key = .ok kind → Linked.BlindAt (f kind) linked) :
    Linked.BlindAt (Linked.keyKind key >>= f) linked := by
  refine Linked.blind_at_bind (Linked.blind_key_kind key linked) ?_
  intro kind mid front back isEnding
  rcases key_kind_cases linked table layout represents key with
    ⟨fault, _, refused⟩ | ⟨known, _, valid, reads⟩
  · rw [refused front] at isEnding
    cases isEnding
  · rw [reads front] at isEnding
    cases isEnding
    exact later kind valid

/-! ## Registering -/

omit represents in
theorem cleared_lists (spine : Spine V) (slot : Nat)
    (lists : linked.directory.Lists spine.first slot spine.base) (value : V) :
    linked.directory.Lists (spine.clear linked.eqv value).spine.first slot
      (spine.clear linked.eqv value).spine.base := by
  rw [Spine.clear_first, Spine.clear_base]
  exact lists

section

variable (key : String) (value : V) (slot : Nat) (spine : Spine V) (below : Grove V)
  (locates : linked.Locates layout spine.path slot spine below)
include locates

theorem blind_route_existing :
    Linked.BlindAt (Linked.routeExisting key spine.trail value) linked := by
  have focused := represents_focused linked table layout represents slot spine below locates.held
  have lists := represents_lists linked table layout represents slot spine below locates.held
  have last := Arena.focused_last linked.arena spine below _ focused
  have agrees := Linked.reads_children_agree linked spine.last _ value below last rfl locates.reaches.held
  rw [Linked.routeExisting, spine.trail_last]
  refine Linked.blind_then (Linked.blind_cell _ linked)
    (Linked.ends_of_reads (Linked.reads_cell linked _ _ last)) ?_
  split
  · exact Linked.blind_bind (Linked.blind_check _ _ _) (fun _ => Linked.blind_refuse _) linked
  refine Linked.blind_then (Linked.blind_children_agree _ value linked)
    (Linked.ends_of_reads agrees) ?_
  split
  · exact Linked.blind_refuse _ linked
  cases spine with
  | root id segment target =>
      refine Linked.blind_then (Linked.blind_relax value _ linked)
        (Linked.ends_of_reads (Linked.reads_pure linked ())) ?_
      refine Linked.blind_then (Linked.blind_cell _ linked)
        (Linked.ends_of_reads (Linked.reads_cell linked _ _ last)) ?_
      exact Linked.blind_last (Linked.blind_set_value _ value linked) fun _ =>
        Linked.blind_revise_none
  | node above id segment target before after =>
      obtain ⟨mid, refocused, relaxes⟩ := Linked.ends_relax linked above _ _
        ((Arena.focused_node ..).mp focused) value _ rfl
      rw [← Arena.focused_node] at refocused
      have still := Arena.focused_last mid _ below _ refocused
      have sets := Linked.ends_set_value { linked with arena := mid } _ below _ refocused value
      have written := Arena.focused_retarget mid _ below _ refocused (.route value)
      rw [Spine.retarget, Arena.focused_node] at written
      have kept := cleared_lists linked above slot lists value
      rw [Spine.trail, List.dropLast_concat]
      refine Linked.blind_then (Linked.blind_relax value _ linked) relaxes ?_
      refine Linked.blind_then (Linked.blind_cell _ _)
        (Linked.ends_of_reads (Linked.reads_cell _ _ _ still)) ?_
      refine Linked.blind_then (Linked.blind_set_value _ value _) sets ?_
      exact Linked.blind_revise _ _ _ _ written slot kept

theorem blind_add_path (head : Segment) (rest : Path) (topical : Path.Topical (head :: rest)) :
    Linked.BlindAt (Linked.addPath key spine.trail (Path.text (head :: rest)).toList value) linked := by
  have focused := represents_focused linked table layout represents slot spine below locates.held
  have lists := represents_lists linked table layout represents slot spine below locates.held
  have last := Arena.focused_last linked.arena spine below _ focused
  have total := focused.tallies.total
  obtain ⟨mid, refocused, relaxes⟩ := Linked.ends_relax linked spine below _ focused value _ rfl
  obtain ⟨arena, chain, _, planted, adds⟩ := Linked.adds_below { linked with arena := mid }
    (spine.clear linked.eqv value).spine below _ refocused value (head :: rest) topical
  have kept := cleared_lists linked spine slot lists value
  rw [Spine.clear_last] at adds
  rw [Linked.addPath, spine.trail_last]
  refine Linked.blind_read (fun cache => Linked.reads_tokens { linked with cache } _ topical []) ?_
  refine Linked.blind_then (Linked.blind_reserve _ linked)
    (Linked.ends_of_reads (Linked.reads_reserve linked _ (by omega))) ?_
  refine Linked.blind_then (Linked.blind_cell _ linked)
    (Linked.ends_of_reads (Linked.reads_cell linked _ _ last)) ?_
  refine Linked.blind_then (Linked.blind_pure _ linked)
    (Linked.ends_of_reads (Linked.reads_pure linked _)) ?_
  refine Linked.blind_then (Linked.blind_relax value _ linked) relaxes ?_
  refine Linked.blind_then (Linked.blind_add_below _ _ _) adds ?_
  rw [← Spine.clear_last linked.eqv value spine]
  exact Linked.blind_revise { linked with arena } _ _ _ planted slot kept

end

section

variable (key : String) (value : V)

omit represents in
theorem blind_add_root (path : Path) (topical : path.Topical) :
    Linked.BlindAt (Linked.addPath key [] path.text.toList value) linked := by
  refine Linked.blind_read (fun cache => Linked.reads_tokens { linked with cache } path topical []) ?_
  refine Linked.blind_bind (Linked.blind_reserve _) (fun _ => ?_) linked
  refine Linked.blind_bind Linked.blind_reserve_root fun _ => ?_
  refine Linked.blind_bind (Linked.blind_head_token _) fun text later => ?_
  refine Linked.blind_then (Linked.blind_pure _ later)
    (Linked.ends_of_reads (Linked.reads_pure later _)) ?_
  cases Linked.newCells value ([] ++ path.map Segment.characters) with
  | nil => exact Linked.blind_bind (Linked.blind_notice _) (fun _ => Linked.blind_refuse _) later
  | cons first cells =>
      refine Linked.blind_bind (Linked.blind_allocate first) (fun id => ?_) later
      refine Linked.blind_bind (Linked.blind_attach_root _ id) fun _ => ?_
      exact Linked.blind_bind (Linked.blind_add_below cells id) fun _ => Linked.blind_revise_none

theorem blind_set_topic (valid : table.config.keyRules.classify key = .ok .topic) :
    Linked.BlindAt (Linked.setTopic key value) linked := by
  have tokens := Linked.reads_tokens linked (Path.ofTopic key) (Path.topical_ofTopic key) []
  rw [Path.text_ofTopic] at tokens
  refine Linked.blind_then (blind_exhaustive linked table layout represents key .topic valid)
    (Linked.ends_of_reads (reads_exhaustive linked table layout represents key .topic valid)) ?_
  cases table.exactValue? (KeyKind.topic.path key) with
  | some held => exact Linked.blind_refuse _ linked
  | none =>
      have traces := blind_trace_path linked table layout represents key valid
      rcases walk_cases linked table layout represents key .topic valid with
        ⟨head, rest, walk, named, _, starts, ends⟩ |
        ⟨slot, spine, below, rest, walk, locates, _, topical, _, starts, ends⟩
      · refine Linked.blind_then traces (Linked.ends_of_reads
          (Linked.reads_bind _ tokens (Linked.reads_bind _ starts ends))) ?_
        have filled : key.toList.isEmpty = false := by
          rw [key_characters key .topic head rest named]
          have single := (Path.topical_cons head rest (named ▸ Path.topical_ofTopic key)).1
          simp [Segment.characters_nonempty head single]
        have adds := blind_add_root linked key value (Path.ofTopic key) (Path.topical_ofTopic key)
        rw [Path.text_ofTopic] at adds
        simp only [filled]
        exact adds
      · refine Linked.blind_then traces (Linked.ends_of_reads
          (Linked.reads_bind _ tokens (Linked.reads_bind _ starts ends))) ?_
        cases rest with
        | nil =>
            exact blind_route_existing linked table layout represents key value slot spine below locates
        | cons head more =>
            have filled : (Path.text (head :: more)).toList.isEmpty = false := by
              simp [Path.text_characters,
                Segment.characters_nonempty head (Path.topical_cons _ _ topical).1]
            simp only [filled]
            exact blind_add_path linked table layout represents key value slot spine below locates
              head more topical

theorem blind_set_route : Linked.BlindAt (Linked.setRoute key value) linked := by
  have sets : Linked.BlindAt (Linked.setKey key value) linked := by
    refine blind_key linked table layout represents key _ fun kind valid => ?_
    cases kind with
    | literal => exact Linked.blind_set_literal key value linked
    | topic => exact blind_set_topic linked table layout represents key value valid
  refine Linked.blind_at_table _ linked (fun _ => rfl) ?_
  refine Linked.blind_last (Linked.blind_attempt sets) fun result => ?_
  cases result with
  | error error => exact Linked.blind_bind (Linked.blind_report _) fun _ => Linked.blind_refuse error
  | ok done =>
      refine Linked.blind_bind Linked.blind_invalidate fun _ => ?_
      refine Linked.blind_table _ (fun _ _ => rfl) fun after => ?_
      refine Linked.blind_bind (Linked.blind_minus _ _) fun roots => ?_
      refine Linked.blind_bind (Linked.blind_minus _ _) fun nodes => ?_
      exact Linked.blind_bind (Linked.blind_minus _ _) fun _ => Linked.blind_report _

end

/-! ## Removing -/

theorem blind_remove_route (key : String) : Linked.BlindAt (Linked.removeRoute key) linked := by
  refine blind_key linked table layout represents key _ fun kind valid => ?_
  have finds := blind_find_exact linked table layout represents key kind valid
  rcases find_exact_refines linked table layout represents key kind valid with
    ⟨_, reads⟩ | ⟨slot, spine, below, locates, reads⟩
  · exact Linked.blind_then finds (Linked.ends_of_reads reads) (Linked.blind_refuse _ linked)
  · have focused := represents_focused linked table layout represents slot spine below locates.held
    have lists := represents_lists linked table layout represents slot spine below locates.held
    have last := Arena.focused_last linked.arena spine below _ focused
    refine Linked.blind_then finds (Linked.ends_of_reads reads) ?_
    refine Linked.blind_then (Linked.blind_cell _ linked)
      (Linked.ends_of_reads (Linked.reads_cell linked _ _ last)) ?_
    split
    · refine Linked.blind_last (Linked.blind_remove_subtree linked spine below _ focused slot lists)
        fun _ => ?_
      exact Linked.blind_bind Linked.blind_invalidate fun _ => Linked.blind_report _
    · exact Linked.blind_refuse _ linked

end

theorem mirrors_cached (linked : LinkedTable V) (table : Table V) (layout : Layout V)
    (mirrors : linked.Mirrors table layout) (cache : QuickCache V) :
    { linked with cache }.Mirrors { table with cache } layout :=
  ⟨mirrors.config, mirrors.eqv, mirrors.strategy, rfl, mirrors.trees, mirrors.indexes,
    mirrors.stocked, ⟨mirrors.sound.regular, mirrors.sound.spelled, fun fresh => nomatch fresh⟩,
    ⟨mirrors.fits.capacity, mirrors.fits.slots⟩⟩

theorem blind_remove_matching (origin : LinkedTable V) (past : Table V) (start : Layout V)
    (before : origin.Mirrors past start) (value : V) (found : List (Path × NodeId))
    (placed : found ⊆ (grove start).places) (linked : LinkedTable V) (table : Table V)
    (layout : Layout V) (mirrors : linked.Mirrors table layout)
    (within : (grove layout).places ⊆ (grove start).places) (routes : Nat) :
    Linked.BlindAt (Linked.removeMatching value (found.map Prod.snd) routes) linked := by
  induction found generalizing linked table layout routes with
  | nil => exact Linked.blind_pure routes linked
  | cons place found ih =>
      have others : found ⊆ (grove start).places := fun other member =>
        placed (List.mem_cons_of_mem _ member)
      have asks := Linked.blind_still_matches value place.2 linked
      rw [List.map_cons, Linked.removeMatching]
      rcases still_matches_cases linked origin table past layout start mirrors before within value
          place.1 place.2 (placed List.mem_cons_self) with
        ⟨_, reads⟩ | ⟨_, reads, slot, spine, below, held, _, isLast, apart⟩
      · exact Linked.blind_then asks (Linked.ends_of_reads reads)
          (ih others linked table layout mirrors within routes)
      · have focused := represents_focused _ _ layout mirrors slot spine below held
        have lists := represents_lists _ _ layout mirrors slot spine below held
        have removes := Linked.blind_remove_subtree linked spine below _ focused slot lists
        obtain ⟨mid, less, ends, mirrored, shrinks⟩ :=
          detach_refines linked table layout mirrors slot spine below held apart
        rw [isLast] at removes ends
        refine Linked.blind_then asks (Linked.ends_of_reads reads) ?_
        exact Linked.blind_then removes ends
          (ih others mid _ less mirrored (List.Subset.trans shrinks.places within) _)

theorem blind_passes (value : V) (linked : LinkedTable V) (table : Table V) (layout : Layout V)
    (mirrors : linked.Mirrors table layout) (routes : Nat) :
    Linked.BlindAt (Linked.removalPasses value routes) linked := by
  have reads : ∀ cache, Linked.Reads (Linked.topmostMatching value linked.directory.ids [])
      { linked with cache } (((grove layout).matching table.eqv value).map Prod.snd) := fun cache =>
    reads_matching { linked with cache } { table with cache } layout
      (mirrors_cached linked table layout mirrors cache) value
  rw [Linked.removal_passes_eq]
  refine Linked.blind_at_table _ linked (fun _ => rfl) ?_
  refine Linked.blind_read reads ?_
  cases isFound : (grove layout).matching table.eqv value with
  | nil => exact Linked.blind_pure routes linked
  | cons first found =>
      have within := (grove layout).matching_places table.eqv value
      rw [isFound] at within
      obtain ⟨mid, less, ends, mirrored, shrinks, _⟩ :=
        pass_progresses linked table layout mirrors value first found isFound routes
      -- A pass that found something leaves fewer nodes, on which the recursion goes down.
      have fewer := shrinks.fewer
      refine Linked.blind_then (blind_remove_matching linked table layout mirrors value
        (first :: found) within linked table layout mirrors (fun _ here => here) routes) ends ?_
      refine Linked.blind_then (Linked.blind_invalidate mid) (Linked.ends_change mid _) ?_
      exact blind_passes value { mid with cache := mid.cache.invalidate } _ less mirrored _
termination_by (grove layout).ids.length

section

variable (linked : LinkedTable V) (table : Table V) (layout : Layout V)
  (represents : linked.Represents table layout)
include represents

theorem blind_remove_value (value : V) : Linked.BlindAt (Linked.removeValue value) linked := by
  have mirrors := represents_mirrors linked table layout represents
  refine Linked.blind_last (blind_passes value linked table layout mirrors 0) fun _ => ?_
  exact Linked.blind_bind (Linked.blind_report _) fun _ => Linked.blind_pure _

/-! ## Comparators -/

theorem blind_set_comparator (eqv : Comparator V) :
    Linked.BlindAt (Linked.setComparator eqv) linked := by
  have collects := fun cache => Linked.reads_collect_forest { linked with cache } (grove layout)
    represents.stocked.holds []
  rw [← Directory.indexes_ids _ layout represents.indexes] at collects
  refine Linked.blind_at_table _ linked (fun _ => rfl) ?_
  refine Linked.blind_read collects ?_
  refine Linked.blind_bind (Linked.blind_change _ fun _ _ => ⟨_, rfl⟩) (fun _ => ?_) linked
  refine Linked.blind_bind (Linked.blind_reoptimize _) fun _ => ?_
  exact Linked.blind_bind Linked.blind_invalidate fun _ => Linked.blind_report _

end

end LinkedTable

end TopicRouting
