import TopicRouting.Proofs.Linked.Routes
import TopicRouting.Proofs.Table.Clearing

/-!
Removing a destination, pass by pass. Every pass that finds something gives a node up, since the
first node it has found is in use and leads to the destination when the pass comes to it; so the
passes come to an end under any comparator. Under an equivalence the second one finds nothing.
-/

set_option autoImplicit false

namespace TopicRouting

open Layout

variable {V : Type}

-- The table a pass begins with, the nodes it finds there and the table it leaves, which does not
-- know yet that its cache is stale.
structure Pass (V : Type) where
  before : LinkedTable V
  found : List NodeId
  after : LinkedTable V

structure Pass.Frees (pass : Pass V) (value : V) (first : NodeId) : Prop where
  used : pass.before.arena.contains first = true
  leads : Linked.Reads (Linked.stillMatches value first) pass.before true
  fewer : pass.after.arena.live < pass.before.arena.live
  within : ∀ id, pass.after.arena.contains id = true → pass.before.arena.contains id = true

namespace LinkedTable

-- The passes that are made from a table on, where some routes have been counted before, and the
-- table in the end. The last pass finds nothing.
inductive Passes (value : V) : Nat → LinkedTable V → List (Pass V) → LinkedTable V → Prop where
  | last (routes : Nat) (table : LinkedTable V)
      (finds : Linked.Reads (Linked.topmostMatching value table.directory.ids []) table []) :
      Passes value routes table [⟨table, [], table⟩] table
  | more (routes total : Nat) (table next end_ : LinkedTable V) (first : NodeId)
      (others : List NodeId) (later : List (Pass V)) (events : List Event)
      (finds : Linked.Reads (Linked.topmostMatching value table.directory.ids []) table
        (first :: others))
      (removes : Linked.Ends (Linked.removeMatching value (first :: others) routes) table
        (.ok total) next events)
      (rest : Passes value total { next with cache := next.cache.invalidate } later end_) :
      Passes value routes table (⟨table, first :: others, next⟩ :: later) end_

theorem passes_end (value : V) (routes : Nat) (linked end_ : LinkedTable V) (passes : List (Pass V))
    (made : Passes value routes linked passes end_) :
    ∃ total events, Linked.Ends (Linked.removalPasses value routes) linked (.ok total) end_ events := by
  induction made with
  | last routes table finds =>
      refine ⟨routes, [], ?_⟩
      rw [Linked.removal_passes_eq]
      refine Linked.ends_read (Linked.reads_table table) (Linked.ends_read finds ?_)
      exact Linked.ends_of_reads (Linked.reads_pure table routes)
  | more routes total table next end_ first others later events finds removes _ ih =>
      obtain ⟨sum, eventsLater, ends⟩ := ih
      refine ⟨sum, events ++ eventsLater, ?_⟩
      rw [Linked.removal_passes_eq]
      refine Linked.ends_read (Linked.reads_table table) (Linked.ends_read finds ?_)
      exact Linked.ends_bind removes (Linked.ends_then (Linked.ends_change next _) ends)

theorem passes_first (value : V) (routes : Nat) (linked end_ : LinkedTable V)
    (passes : List (Pass V)) (made : Passes value routes linked passes end_) (pass : Pass V)
    (first : passes[0]? = some pass) :
    Linked.Reads (Linked.topmostMatching value linked.directory.ids []) linked pass.found := by
  cases made with
  | last _ _ finds =>
      cases first
      exact finds
  | more _ _ _ _ _ _ _ _ _ finds _ _ =>
      cases first
      exact finds

section

variable (linked : LinkedTable V) (table : Table V) (layout : Layout V)
  (represents : linked.Represents table layout) (value : V)
include represents

theorem pass_cases (routes : Nat) :
    Linked.Reads (Linked.topmostMatching value linked.directory.ids []) linked [] ∨
    ∃ first others total next events left,
      Linked.Reads (Linked.topmostMatching value linked.directory.ids []) linked
        (first :: others) ∧
      Linked.Ends (Linked.removeMatching value (first :: others) routes) linked (.ok total) next
        events ∧
      (Pass.mk linked (first :: others) next).Frees value first ∧
      Represents { next with cache := next.cache.invalidate }
        (Table.detachMatching value table (table.matching value)).state left := by
  have mirrors := represents_mirrors linked table layout represents
  have reads := reads_matching linked table layout mirrors value
  have paths := matching_layout linked table layout mirrors value
  have places := (grove layout).matching_places table.eqv value
  cases isFound : (grove layout).matching table.eqv value with
  | nil =>
      rw [isFound] at reads
      exact Or.inl reads
  | cons first others =>
      rw [isFound] at reads paths places
      obtain ⟨next, left, ends, mirrored, shrinks, stale⟩ :=
        pass_progresses linked table layout mirrors value first others isFound routes
      rw [paths] at ends mirrored stale
      have placed := places List.mem_cons_self
      have matching : table.stillMatches value first.1 = true := by
        refine table.matching_matches represents.sound.regular value first.1 ?_
        rw [← paths]
        exact List.mem_cons_self
      have leads : Linked.Reads (Linked.stillMatches value first.2) linked true := by
        rcases still_matches_cases linked linked table table layout layout mirrors mirrors
            (List.Subset.refl _) value first.1 first.2 placed with ⟨differs, _⟩ | ⟨_, reads, _⟩
        · cases differs.symm.trans matching
        · exact reads
      have represented := mirrors_stale next _ left mirrored stale
      refine Or.inr ⟨first.2, others.map Prod.snd, _, next, _, left, reads, ends, ?_, represented⟩
      refine ⟨place_used linked table layout represents first.1 first.2 placed, leads, ?_, ?_⟩
      · have fewer := shrinks.fewer
        rwa [← represented.stocked.tallies.live, ← represents.stocked.tallies.live] at fewer
      · intro id used
        obtain ⟨path, inside⟩ := used_placed _ _ left represented id used
        exact place_used linked table layout represents path id (shrinks.places inside)

theorem reads_nothing (nothing : table.matching value = []) :
    Linked.Reads (Linked.topmostMatching value linked.directory.ids []) linked [] := by
  have mirrors := represents_mirrors linked table layout represents
  have reads := reads_matching linked table layout mirrors value
  rw [← matching_layout linked table layout mirrors value, List.map_eq_nil_iff] at nothing
  rwa [nothing] at reads

end

theorem passes_made (value : V) (linked : LinkedTable V) (table : Table V) (layout : Layout V)
    (represents : linked.Represents table layout) (routes : Nat) :
    ∃ passes end_, Passes value routes linked passes end_ ∧
      passes.length ≤ linked.arena.live + 1 ∧
      ∀ pass ∈ passes, ∀ first others, pass.found = first :: others → pass.Frees value first := by
  rcases pass_cases linked table layout represents value routes with
    reads | ⟨first, others, total, next, events, left, reads, ends, frees, represented⟩
  · refine ⟨_, linked, .last routes linked reads, Nat.succ_le_succ (Nat.zero_le _), ?_⟩
    intro pass member first others found
    cases List.mem_singleton.mp member
    cases found
  · have fewer : next.arena.live < linked.arena.live := frees.fewer
    -- The next pass begins with fewer nodes.
    obtain ⟨later, end_, made, bound, each⟩ :=
      passes_made value { next with cache := next.cache.invalidate } _ left represented total
    refine ⟨_, end_, .more routes total linked next end_ first others later events reads ends made,
      ?_, ?_⟩
    · rw [List.length_cons]
      exact Nat.succ_le_succ (Nat.le_trans bound fewer)
    · intro pass member top rest found
      rcases List.mem_cons.mp member with rfl | isLater
      · cases found
        exact frees
      · exact each pass isLater top rest found
termination_by linked.arena.live

theorem second_pass (value : V) (linked end_ : LinkedTable V) (table : Table V) (layout : Layout V)
    (represents : linked.Represents table layout) (lawful : table.Lawful) (routes : Nat)
    (passes : List (Pass V)) (made : Passes value routes linked passes end_) (second : Pass V)
    (isSecond : passes[1]? = some second) : second.found = [] := by
  cases made with
  | last => cases isSecond
  | more _ total _ next _ first others later events finds removes rest =>
      have isFirst : later[0]? = some second := isSecond
      rcases pass_cases linked table layout represents value routes with
        nothing | ⟨_, _, _, mid, _, left, reads, ends, _, represented⟩
      · cases Linked.reads_unique _ linked _ _ finds nothing
      · cases Linked.reads_unique _ linked _ _ finds reads
        cases (Linked.ends_unique ends removes).2
        have nothing := reads_nothing _ _ left represented value
          (Table.matching_once table lawful value)
        exact Linked.reads_unique _ _ _ _ (passes_first value total _ end_ later rest second isFirst)
          nothing

theorem removal_in_passes (linked : LinkedTable V) (reachable : linked.Reachable) (value : V) :
    ∃ passes end_ routes events, Passes value 0 linked passes end_ ∧
      Linked.Ends (Linked.removeValue value) linked (.ok routes) end_ events ∧
      passes.length ≤ linked.arena.live + 1 ∧
      (∀ pass ∈ passes, ∀ first others, pass.found = first :: others → pass.Frees value first) ∧
      (linked.eqv.IsEquivalence → ∀ second, passes[1]? = some second → second.found = []) := by
  obtain ⟨table, layout, represents, sources⟩ := reachable_sources linked reachable
  obtain ⟨passes, end_, made, bound, each⟩ := passes_made value linked table layout represents 0
  obtain ⟨routes, events, ends⟩ := passes_end value 0 linked end_ passes made
  have removed : Linked.Ends (Linked.removeValue value) linked (.ok routes) end_
      (events ++ [Journal.valueRemoved routes]) :=
    Linked.ends_bind ends
      (Linked.ends_last _ (Linked.ends_report end_ _) (Linked.reads_pure end_ _))
  refine ⟨passes, end_, routes, _, made, removed, bound, each, ?_⟩
  intro lawful second isSecond
  rw [represents.eqv] at lawful
  exact second_pass value linked end_ table layout represents
    (Table.lawful_now table sources lawful) 0 passes made second isSecond

theorem removal_in_passes_for_hosts :
    ∃ (linked end_ : LinkedTable String) (first last : Pass String), linked.Reachable ∧
      Passes "h:3" 0 linked [first, last] end_ ∧ first.found.length = 2 ∧ last.found = [] ∧
      first.after.arena.live < linked.arena.live := by
  obtain ⟨linked, layout, reachable, represents⟩ := run_represented {} Comparator.sameHost
    [.setRoute "a.b.c" "h:1", .setRoute "a.e" "g:1", .setRoute "a.d" "h:2"]
  have eqv : linked.eqv = Comparator.sameHost := represents.eqv
  have lawful : linked.eqv.IsEquivalence := by
    rw [eqv]
    exact Comparator.sameHost_isEquivalence
  have mirrors := represents_mirrors linked _ layout represents
  have counted : ∀ found,
      Linked.Reads (Linked.topmostMatching "h:3" linked.directory.ids []) linked found →
        found.length = 2 := by
    intro found finds
    have paths := congrArg List.length (matching_layout linked _ layout mirrors "h:3")
    rw [Linked.reads_unique _ linked _ _ finds (reads_matching linked _ layout mirrors "h:3")]
    rw [List.length_map] at paths ⊢
    exact paths.trans (by decide)
  obtain ⟨passes, end_, _, _, made, _, _, each, second⟩ :=
    removal_in_passes linked reachable "h:3"
  cases made with
  | last _ _ finds => cases counted _ finds
  | more _ _ _ next _ first others later _ finds removes rest =>
      cases rest with
      | last _ _ nothing =>
          have frees := each _ List.mem_cons_self first others rfl
          exact ⟨linked, _, _, _, reachable,
            .more _ _ _ _ _ _ _ _ _ finds removes (.last _ _ nothing), counted _ finds, rfl,
            frees.fewer⟩
      | more => cases second lawful _ rfl

end LinkedTable

end TopicRouting
