import TopicRouting.Proofs.Forest.Borrowed
import TopicRouting.Proofs.Table.Emptying

/-!
Where the values come from that lookups hand out. A collapsed value is that of some route below it
until a removal of a key takes the routes with that value; the node keeps it then, as long as the
routes that are left are equivalent. So a lookup resolves to a value that some route has at that
moment, or to one that such a removal took, and always to one equivalent to a route that is there.
-/

set_option autoImplicit false

namespace TopicRouting

universe u

variable {V : Type u}

-- The values taken by removals of keys since the comparator was installed, one request later.
def Request.taken (table : Table V) (gone : V → Prop) : Request V → V → Prop
  | .removeRoute key => fun value => gone value ∨
      table.Key key ∧ ∃ other, table.Registered other value ∧ table.Extends other key
  | .setComparator _ => fun _ => False
  | _ => gone

namespace Table

def takenAfter (gone : V → Prop) (table : Table V) : List (Request V) → V → Prop
  | [] => gone
  | request :: later => takenAfter (request.taken table gone) (table.serve request).state later

structure Traced (gone : V → Prop) (table : Table V) : Prop where
  lawful : table.Lawful
  borrows : table.forest.Every (Node.Borrows gone)

theorem traced_value (gone : V → Prop) (table : Table V) (traced : table.Traced gone) (path : Path)
    (value : V) (valued : table.forest.valueAt? path = some value) :
    gone value ∨ ∃ other, table.Registered other value := by
  obtain ⟨here, found, isValue⟩ := Option.bind_eq_some_iff.mp valued
  obtain ⟨borrows, below⟩ := Forest.every_node _ _ traced.borrows path here found
  refine (here.leads_back gone borrows below value isValue).imp_right fun leads => ?_
  obtain ⟨rest, member⟩ :=
    (Forest.leads_iff _ traced.lawful.sound.regular path here found value).mp leads
  exact ⟨_, _, member, rfl⟩

section

variable (gone : V → Prop) (table : Table V) (traced : table.Traced gone)
include traced

-- A literal root has no parent, and a topic is only accepted where no node has a value.
theorem set_route_traced (key : String) (value : V) :
    (table.setRoute key value).state.Traced gone := by
  refine ⟨set_route_keeps _ _ kept_lawful table key value traced.lawful, ?_⟩
  cases verdict : table.accept key value with
  | error error =>
      rw [setRoute, verdict]
      exact traced.borrows
  | ok kind =>
      rw [(set_route_ok table key value kind verdict).2]
      have present := accept_present table key value kind verdict
      obtain ⟨segment, rest, cut⟩ := List.exists_cons_of_ne_nil (KeyRules.spells_nonempty _ _
        (KeyRules.spells_key_path _ key kind (accept_kind table key value kind verdict)))
      have accepted : ∀ here, table.forest.node? (segment :: rest) = some here →
          rest = [] ∨ here.target.value? = none := by
        intro here found
        cases present here (cut ▸ found) with
        | inl isLiteral =>
            subst isLiteral
            exact Or.inl (List.cons.inj cut).2.symm
        | inr absent => exact Or.inr absent.1
      have regular := traced.lawful.sound.regular
      rw [cut]
      exact Forest.rearranged_every _ _ _
        (table.roots.register_rearranged table.eqv value segment rest regular.distinct)
        (Forest.register_borrows gone table.eqv value table.forest segment rest false regular
          traced.borrows accepted)

theorem detach_traced (path : Path) (taken : ∀ route ∈ table.forest.inside path, gone route.2) :
    (table.detach path).state.Traced gone := by
  refine ⟨detach_lawful table path traced.lawful, ?_⟩
  cases found : table.forest.node? path with
  | none =>
      have same : (table.detach path).state = table := by
        cases path <;> simp only [detach, found]
      rw [same]
      exact traced.borrows
  | some here =>
      obtain ⟨segment, rest, rfl, _, left⟩ := detach_found table path here found
      have regular := traced.lawful.sound.regular
      rw [left]
      apply Forest.rearranged_every _ _ _
        (table.roots.detach_rearranged table.eqv segment rest regular.distinct)
      apply Forest.detach_borrows gone table.eqv table.forest segment rest regular traced.borrows
      intro path value routed
      have member := (Forest.route_at_iff _ regular _ value).mp routed
      exact taken _ (List.mem_filter.mpr ⟨member, decide_eq_true ⟨path, rfl⟩⟩)

theorem traced_more (lost : V → Prop) (more : ∀ value, gone value → lost value) :
    table.Traced lost :=
  ⟨traced.lawful, Forest.every_more gone lost more table.forest traced.borrows⟩

theorem remove_route_traced (key : String) :
    (table.removeRoute key).state.Traced
      ((Request.removeRoute key : Request V).taken table gone) := by
  have sound := traced.lawful.sound
  have wider : table.Traced ((Request.removeRoute key : Request V).taken table gone) :=
    traced_more gone table traced _ fun value excused => Or.inl excused
  rw [removeRoute]
  cases named : table.keyPath key with
  | error error => exact wider
  | ok path =>
      by_cases routed : table.isRegistered path = true
      · simp only [if_pos routed]
        apply detach_traced _ table wider path
        intro route member
        obtain ⟨listed, within⟩ := List.mem_filter.mp member
        have longer := route_key_path table sound route.1 route.2 listed
        exact Or.inr ⟨(is_registered_iff table sound key path named).mp routed, route.1.text,
          ⟨route.1, listed, rfl⟩,
          (extends_spelled table key _ path route.1 named longer).mpr (of_decide_eq_true within)⟩
      · simp only [if_neg routed]
        exact wider

theorem remove_value_traced (value : V) : (table.removeValue value).state.Traced gone := by
  have lawful := traced.lawful
  have sheds := sheds_removed table lawful value
  -- During the passes a node may keep the value of a route that went, as long as it leads to the
  -- destination; in the end no node has such a value.
  have passes : (table.removeValue value).state.eqv = table.eqv ∧
      (table.removeValue value).state.Traced
        (fun held => gone held ∨ table.eqv held value = true) := by
    apply removal_passes_keeps (fun after => after.eqv = table.eqv ∧
      after.Traced fun held => gone held ∨ table.eqv held value = true) value
    · intro after path both still
      refine ⟨(detach_comparator after path).trans both.1, detach_traced _ after both.2 path ?_⟩
      intro route member
      rw [← both.1]
      exact Or.inr (inside_matches after both.2.lawful value path still route member)
    · exact ⟨rfl, traced_more gone table traced _ fun held excused => Or.inl excused⟩
  obtain ⟨_, after⟩ := passes
  refine ⟨after.lawful, Forest.every_of_nodes _ _ after.lawful.sound.regular ?_⟩
  intro path here found held collapsed
  have valued : (table.removeValue value).state.forest.valueAt? path = some held := by
    rw [Forest.valueAt?, found, Option.bind_some, collapsed]
    rfl
  have elsewhere : ¬ table.eqv held value = true := by
    intro same
    obtain ⟨whole, own, member, close⟩ := route_of_value _ after.lawful path held valued
    rw [sheds.eqv] at close
    exact removed_elsewhere table lawful value _ member
      (lawful.lawful.trans (lawful.lawful.symm close) same)
  have borrows := (Forest.every_node _ _ after.borrows path here found).1 held collapsed
  exact borrows.imp_left fun excused => excused.resolve_right elsewhere

theorem set_comparator_traced (eqv : Comparator V) (lawful : eqv.IsEquivalence) :
    (table.setComparator eqv).state.Traced (fun _ => False) := by
  refine ⟨install_lawful table eqv traced.lawful.sound lawful, ?_⟩
  have settled := Forest.reconcile_borrows (fun _ => False) eqv table.forest
    traced.lawful.sound.regular.every
  rwa [forest, ← Roots.reconcile_forest] at settled

theorem set_strategy_traced (strategy : Strategy) :
    (table.setStrategy strategy).state.Traced gone :=
  ⟨kept_lawful.select table strategy traced.lawful, traced.borrows⟩

theorem serve_traced (request : Request V) (permitted : request.Permitted Comparator.IsEquivalence) :
    (table.serve request).state.Traced (request.taken table gone) := by
  cases request with
  | setRoute key value => exact set_route_traced gone table traced key value
  | removeRoute key => exact remove_route_traced gone table traced key
  | removeValue value => exact remove_value_traced gone table traced value
  | setComparator eqv => exact set_comparator_traced gone table traced eqv permitted
  | setStrategy strategy => exact set_strategy_traced gone table traced strategy
  | _ =>
      exact reading_keeps (Traced gone)
        (fun table traced => ⟨kept_lawful.refresh table traced.lawful, traced.borrows⟩) table _ rfl
        traced

end

theorem serve_all_traced (requests : List (Request V)) (gone : V → Prop) (table : Table V)
    (traced : table.Traced gone)
    (permitted : ∀ request ∈ requests, request.Permitted Comparator.IsEquivalence) :
    (table.serveAll requests).Traced (takenAfter gone table requests) := by
  induction requests generalizing gone table with
  | nil => exact traced
  | cons request later ih =>
      exact ih _ _ (serve_traced gone table traced request (permitted request List.mem_cons_self))
        fun other member => permitted other (List.mem_cons_of_mem _ member)

theorem resolved_values_traced (config : TableConfig) (eqv : Comparator V)
    (lawful : eqv.IsEquivalence) (requests : List (Request V))
    (permitted : ∀ request ∈ requests, request.Permitted Comparator.IsEquivalence) (key : String)
    (value : V) (resolves : ((withComparator config eqv).serveAll requests).Resolves key value) :
    let table := (withComparator config eqv).serveAll requests
    (∃ other own, table.Registered other own ∧ table.eqv value own = true) ∧
      (takenAfter (fun _ => False) (withComparator config eqv) requests value ∨
        ∃ other, table.Registered other value) := by
  have start : (withComparator config eqv).Traced fun _ => False :=
    ⟨kept_lawful.start config eqv lawful, trivial⟩
  have traced := serve_all_traced requests _ _ start permitted
  obtain ⟨path, valued⟩ := resolves_valued _ traced.lawful.sound key value resolves
  obtain ⟨whole, own, member, close⟩ := route_of_value _ traced.lawful path value valued
  exact ⟨⟨whole.text, own, ⟨whole, member, rfl⟩, close⟩, traced_value _ _ traced path value valued⟩

theorem resolved_values_traced_elsewhere :
    let requests := [.setRoute "a.b" "h:1", .setRoute "a.c" "h:2", .setRoute "b" "g:1",
      .removeRoute "b"]
    let table := (withComparator {} Comparator.sameHost).serveAll requests
    table.lookupEarlyExit "a.d" = .ok "h:1" ∧ ∃ other, table.Registered other "h:1" := by
  intro requests table
  have walked : table.lookupEarlyExit "a.d" = .ok "h:1" := rfl
  have traced := resolved_values_traced {} Comparator.sameHost Comparator.sameHost_isEquivalence
    requests (by simp [requests, Request.Permitted]) "a.d" "h:1" (.earlyExit walked)
  have apart : ¬ takenAfter (fun _ => False) (withComparator {} Comparator.sameHost) requests
      "h:1" := by
    intro taken
    obtain excused | ⟨_, other, ⟨path, member, text⟩, longer⟩ := taken
    · exact excused
    · change (path, "h:1") ∈ [([.branch "a", .leaf "b"], "h:1"), ([.branch "a", .leaf "c"], "h:2"),
        ([.leaf "b"], "g:1")] at member
      have isBranch : path = [.branch "a", .leaf "b"] := by simpa using member
      subst isBranch
      subst text
      obtain ⟨_, _, front⟩ | ⟨_, same⟩ := longer
      · exact absurd front (by decide)
      · exact absurd same (by decide)
  exact ⟨walked, traced.2.resolve_left apart⟩

-- Two ports of a host share a branch. The one whose value the branch took goes away, and the branch
-- still hands it out.
theorem resolves_to_removed_value :
    let table := (withComparator {} Comparator.sameHost).serveAll
      [.setRoute "a.b" "h:1", .setRoute "a.c" "h:2", .removeRoute "a.b"]
    Reachable Comparator.IsEquivalence table ∧ table.lookupEarlyExit "a.c" = .ok "h:1" ∧
      ∀ other, ¬ table.Registered other "h:1" := by
  intro table
  have reachable : Reachable Comparator.IsEquivalence table :=
    reachable_serve_all _ _ (.start {} _ Comparator.sameHost_isEquivalence) _
      (by simp [Request.Permitted])
  have routes : table.routes = [([.branch "a", .leaf "c"], "h:2")] := rfl
  refine ⟨reachable, rfl, ?_⟩
  intro other registered
  obtain ⟨path, member, _⟩ := registered
  rw [routes] at member
  simp at member

end Table

end TopicRouting
