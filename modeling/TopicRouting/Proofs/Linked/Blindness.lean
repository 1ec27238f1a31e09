import TopicRouting.Linked.Registration
import TopicRouting.Linked.Removal
import TopicRouting.Linked.Report
import TopicRouting.Proofs.Linked.Steps

/-!
Actions that do not look at the cache. From two tables with the same nodes such an action comes to
the same result with the same record, and leaves the same nodes again. Every step of a change is
one, and so is every sequence of them; of a loop nothing is known but its rounds, so it is shown to
be one only where it comes to an end.
-/

set_option autoImplicit false

namespace TopicRouting

variable {V : Type}

-- The same nodes, roots and settings. The caches may differ.
def LinkedTable.Twins (one other : LinkedTable V) : Prop := ∃ cache, other = { one with cache }

theorem LinkedTable.twins_refl (table : LinkedTable V) : table.Twins table := ⟨table.cache, rfl⟩

theorem LinkedTable.twins_symm (one other : LinkedTable V) (twins : one.Twins other) :
    other.Twins one := by
  obtain ⟨cache, rfl⟩ := twins
  exact ⟨one.cache, rfl⟩

theorem LinkedTable.twins_trans (one mid other : LinkedTable V) (first : one.Twins mid)
    (second : mid.Twins other) : one.Twins other := by
  obtain ⟨_, rfl⟩ := first
  obtain ⟨cache, rfl⟩ := second
  exact ⟨cache, rfl⟩

namespace Linked

variable {α β : Type}

inductive Alike : Ending V α → Ending V α → Prop where
  | endless : Alike none none
  | failed (fault : Fault) : Alike (some (.error fault)) (some (.error fault))
  | done (result : Except RouteError α) (one other : LinkedTable V) (notices : List Notice)
      (twins : one.Twins other) :
      Alike (some (.ok (result, ⟨one, notices⟩))) (some (.ok (result, ⟨other, notices⟩)))

theorem alike_symm (one other : Ending V α) (alike : Alike one other) : Alike other one := by
  cases alike with
  | endless => exact .endless
  | failed fault => exact .failed fault
  | done result one other notices twins =>
      exact .done result other one notices (one.twins_symm other twins)

theorem alike_trans (one mid other : Ending V α) (first : Alike one mid) (second : Alike mid other) :
    Alike one other := by
  cases first with
  | endless => exact second
  | failed fault => exact second
  | done result one mid notices twins =>
      cases second with
      | done _ _ other _ further =>
          exact .done result one other notices (one.twins_trans mid other twins further)

def BlindAt (action : Action V α) (table : LinkedTable V) : Prop :=
  ∀ cache notices, Alike (action ⟨table, notices⟩) (action ⟨{ table with cache }, notices⟩)

def Blind (action : Action V α) : Prop := ∀ table, BlindAt action table

theorem alike_done (result ending : Except RouteError α) (one other : Progress V)
    (alike : Alike (some (.ok (result, one))) (some (.ok (ending, other)))) :
    ending = result ∧ one.table.Twins other.table := by
  cases alike with
  | done result one other notices twins => exact ⟨rfl, twins⟩

theorem blind_agrees {action : Action V α} {table next last : LinkedTable V}
    {cache : QuickCache V} {result ending : Except RouteError α} {front back : List Event}
    (blind : BlindAt action table) (first : Ends action table result next front)
    (second : Ends action { table with cache } ending last back) :
    ending = result ∧ next.Twins last := by
  have alike := blind cache []
  rw [first [], second []] at alike
  exact alike_done _ _ _ _ alike

theorem blind_cached (action : Action V α) (table : LinkedTable V) (blind : BlindAt action table)
    (cache : QuickCache V) : BlindAt action { table with cache } := by
  intro other notices
  exact alike_trans _ _ _ (alike_symm _ _ (blind cache notices)) (blind other notices)

/-! ## Sequences -/

section

variable {action : Action V α} {f : α → Action V β} {table mid : LinkedTable V}

-- What follows only has to be blind where the first action can lead.
theorem blind_at_bind (first : BlindAt action table)
    (later : ∀ result mid front back,
      action ⟨table, front⟩ = some (.ok (.ok result, ⟨mid, back⟩)) → BlindAt (f result) mid) :
    BlindAt (action >>= f) table := by
  intro cache notices
  have alike := first cache notices
  rw [bind_run, bind_run]
  generalize isEnding : action ⟨table, notices⟩ = ending at alike ⊢
  generalize action ⟨{ table with cache }, notices⟩ = another at alike ⊢
  cases alike with
  | endless => exact .endless
  | failed fault => exact .failed fault
  | done result one other front twins =>
      cases result with
      | error error => exact .done _ one other front twins
      | ok result =>
          obtain ⟨touched, rfl⟩ := twins
          exact later result one _ _ isEnding touched front

theorem blind_last (first : BlindAt action table) (later : ∀ result, Blind (f result)) :
    BlindAt (action >>= f) table :=
  blind_at_bind first fun result mid _ _ _ => later result mid

theorem blind_bind (first : Blind action) (later : ∀ result, Blind (f result)) :
    Blind (action >>= f) :=
  fun table => blind_last (first table) later

theorem blind_then {result : α} {events : List Event} (first : BlindAt action table)
    (ends : Ends action table (.ok result) mid events) (later : BlindAt (f result) mid) :
    BlindAt (action >>= f) table := by
  refine blind_at_bind first fun other next front back isEnding => ?_
  rw [ends front] at isEnding
  cases isEnding
  exact later

theorem blind_read {result : α} (first : ∀ cache, Reads action { table with cache } result)
    (later : BlindAt (f result) table) : BlindAt (action >>= f) table := by
  intro cache notices
  rw [bind_run, bind_run, first table.cache notices, first cache notices]
  exact later cache notices

end

section

variable {action later : Action V α} {table : LinkedTable V}

theorem blind_proceeds {mid : LinkedTable V} {events : List Event} (blind : BlindAt later mid)
    (proceeds : ∀ cache, Proceeds action { table with cache } later { mid with cache } events) :
    BlindAt action table := by
  intro cache notices
  rw [proceeds table.cache notices, proceeds cache notices]
  exact blind_cached later mid blind table.cache cache _

theorem blind_ends (mid : LinkedTable V) {result : Except RouteError α} {events : List Event}
    (ends : ∀ cache, Ends action { table with cache } result { mid with cache } events) :
    BlindAt action table := by
  intro cache notices
  rw [ends table.cache notices, ends cache notices]
  exact .done _ _ _ _ ⟨cache, rfl⟩

theorem blind_attempt (blind : BlindAt action table) : BlindAt (attempt action) table := by
  intro cache notices
  have alike := blind cache notices
  simp only [attempt]
  generalize action ⟨table, notices⟩ = ending at alike ⊢
  generalize action ⟨{ table with cache }, notices⟩ = another at alike ⊢
  cases alike with
  | endless => exact .endless
  | failed fault => exact .failed fault
  | done result one other later twins => exact .done _ one other later twins

end

/-! ## Single steps -/

theorem blind_pure (result : α) : Blind (pure result : Action V α) :=
  fun table cache notices => .done _ table _ notices ⟨cache, rfl⟩

theorem blind_refuse (error : RouteError) : Blind (refuse error : Action V α) :=
  fun table cache notices => .done _ table _ notices ⟨cache, rfl⟩

theorem blind_fail (fault : Fault) : Blind (fail fault : Action V α) :=
  fun _ _ _ => .failed fault

theorem blind_notice (noticed : Notice) : Blind (notice noticed : Action V Unit) :=
  fun table cache _ => .done _ table _ _ ⟨cache, rfl⟩

theorem blind_report (event : Event) : Blind (report event : Action V Unit) := blind_notice _

theorem blind_at_table (f : LinkedTable V → Action V α) (table : LinkedTable V)
    (same : ∀ cache, f { table with cache } = f table) (later : BlindAt (f table) table) :
    BlindAt (Linked.table >>= f) table := by
  intro cache notices
  change Alike (f table ⟨table, notices⟩) (f { table with cache } ⟨{ table with cache }, notices⟩)
  rw [same cache]
  exact later cache notices

theorem blind_table (f : LinkedTable V → Action V α)
    (same : ∀ table cache, f { table with cache } = f table) (later : ∀ table, Blind (f table)) :
    Blind (Linked.table >>= f) :=
  fun table => blind_at_table f table (same table) (later table table)

theorem blind_change (f : LinkedTable V → LinkedTable V)
    (same : ∀ table cache, (f table).Twins (f { table with cache })) : Blind (change f) :=
  fun table cache notices => .done _ _ _ notices (same table cache)

theorem blind_minus (a b : Nat) : Blind (minus a b : Action V Nat) := by
  unfold minus
  split
  · exact blind_pure _
  · exact blind_fail _

theorem blind_check (holds : Bool) (lapse : Lapse) (message : String) :
    Blind (check holds lapse message : Action V Unit) := by
  cases holds with
  | true => exact blind_pure ()
  | false => exact blind_bind (blind_notice _) fun _ => blind_report _

theorem blind_invalidate : Blind (invalidateCache : Action V Unit) :=
  blind_change _ fun _ _ => ⟨_, rfl⟩

/-! ## Cells -/

theorem blind_cell (id : NodeId) : Blind (cell id : Action V (Cell V)) := by
  refine blind_table _ (fun _ _ => rfl) fun table => ?_
  cases table.arena.cell? id with
  | none => exact blind_fail _
  | some here => exact blind_pure here

theorem blind_update (id : NodeId) (f : Cell V → Cell V) : Blind (update id f) :=
  blind_bind (blind_cell id) fun _ => blind_change _ fun _ _ => ⟨_, rfl⟩

theorem blind_reserve (more : Nat) : Blind (reserve more : Action V Unit) :=
  blind_table _ (fun _ _ => rfl) fun _ => blind_bind (blind_minus _ _) fun _ => blind_pure ()

theorem blind_allocate (here : Cell V) : Blind (allocate here) := by
  refine blind_table _ (fun _ _ => rfl) fun table => ?_
  have stores : Blind (do
      change fun table => { table with arena := table.arena.insert here }
      pure table.arena.next : Action V NodeId) :=
    blind_bind (blind_change _ fun _ _ => ⟨_, rfl⟩) fun _ => blind_pure _
  cases isFree : table.arena.free with
  | nil =>
      simp only [isFree]
      exact stores
  | cons id free =>
      simp only [isFree]
      by_cases outside : table.arena.slots.length ≤ id
      · rw [if_pos outside]
        exact blind_bind (blind_fail _) fun _ => stores
      · rw [if_neg outside]
        exact stores

theorem blind_release (id : NodeId) : Blind (release id : Action V (Option (Cell V))) := by
  refine blind_table _ (fun _ _ => rfl) fun table => ?_
  cases found : table.arena.cell? id with
  | none =>
      simp only [found]
      exact blind_pure none
  | some here =>
      simp only [found]
      refine blind_bind (blind_minus _ _) fun _ => ?_
      exact blind_bind (blind_change _ fun _ _ => ⟨_, rfl⟩) fun _ => blind_pure _

theorem blind_release_all (doomed : List NodeId) (routes : Nat) :
    Blind (releaseAll doomed routes : Action V Nat) := by
  induction doomed generalizing routes with
  | nil => exact blind_pure routes
  | cons id others ih =>
      refine blind_bind (blind_release id) fun gone => ?_
      cases gone with
      | some here => exact ih _
      | none => exact blind_bind (blind_check _ _ _) fun _ => ih routes

theorem blind_add_below (cells : List (Cell V)) (parent : NodeId) :
    Blind (addBelow parent cells) := by
  induction cells generalizing parent with
  | nil => exact blind_pure ()
  | cons here later ih =>
      refine blind_bind (blind_allocate _) fun id => ?_
      exact blind_bind (blind_update parent _) fun _ => ih id

/-! ## Roots -/

theorem blind_slot (slot : Nat) : Blind (slotContent slot : Action V (Option NodeId)) := by
  refine blind_table _ (fun _ _ => rfl) fun table => ?_
  cases table.directory.slots[slot]? with
  | none => exact blind_fail _
  | some content => exact blind_pure content

theorem blind_find_root (text : String) : Blind (findRoot text : Action V (Option NodeId)) := by
  refine blind_table _ (fun _ _ => rfl) fun table => ?_
  cases table.directory.slot? text with
  | none => exact blind_pure none
  | some slot => exact blind_slot slot

theorem blind_reserve_root : Blind (reserveRoot : Action V Unit) := by
  refine blind_table _ (fun _ _ => rfl) fun table => ?_
  by_cases full : table.directory.capacity ≤ table.directory.count
  · simp only [if_pos full]
    exact blind_refuse _
  · simp only [if_neg full]
    exact blind_pure ()

theorem blind_insert_root (text : String) (id : NodeId) :
    Blind (insertRoot text id : Action V (Option Nat)) := by
  refine blind_table _ (fun _ _ => rfl) fun table => ?_
  cases table.directory.vacancy? with
  | none => exact blind_pure none
  | some slot => exact blind_bind (blind_change _ fun _ _ => ⟨_, rfl⟩) fun _ => blind_pure _

theorem blind_remove_root (text : String) :
    Blind (removeRootEntry text : Action V (Option NodeId)) := by
  refine blind_table _ (fun _ _ => rfl) fun table => ?_
  cases table.directory.slot? text with
  | none => exact blind_pure none
  | some slot =>
      refine blind_bind (blind_slot slot) fun _ => ?_
      exact blind_bind (blind_change _ fun _ _ => ⟨_, rfl⟩) fun _ => blind_pure _

theorem blind_attach_root (text : String) (id : NodeId) :
    Blind (attachRoot text id : Action V Unit) := by
  refine blind_bind (blind_insert_root text id) fun taken => ?_
  cases taken with
  | some slot => exact blind_bind (blind_cell id) fun _ => blind_report _
  | none =>
      refine blind_bind (blind_notice _) fun _ => blind_bind (blind_release id) fun _ => ?_
      exact blind_table _ (fun _ _ => rfl) fun _ => blind_refuse _

theorem blind_release_root (id : NodeId) : Blind (releaseRoot id : Action V Unit) := by
  refine blind_bind (blind_cell id) fun _ => blind_bind (blind_remove_root _) fun _ => ?_
  exact blind_bind (blind_check _ _ _) fun _ => blind_report _

theorem blind_unlink (id : NodeId) (parent : Option NodeId) :
    Blind (unlink id parent : Action V Unit) := by
  cases parent with
  | some parent => exact blind_update parent _
  | none => exact blind_release_root id

/-! ## Values -/

theorem blind_leads_to (value : V) (held : Option V) : Blind (leadsTo value held) := by
  cases held with
  | none => exact blind_pure false
  | some existing => exact blind_table _ (fun _ _ => rfl) fun _ => blind_pure _

theorem blind_all_agree (value : V) (ids : List NodeId) : Blind (allAgree value ids) := by
  induction ids with
  | nil => exact blind_pure true
  | cons id others ih =>
      refine blind_bind (blind_cell id) fun here => ?_
      cases here.value with
      | none => exact blind_pure false
      | some existing =>
          refine blind_table _ (fun _ _ => rfl) fun table => ?_
          cases table.eqv existing value with
          | true => exact ih
          | false => exact blind_pure false

theorem blind_children_agree (id : NodeId) (value : V) : Blind (childrenAgree id value) :=
  blind_bind (blind_cell id) fun _ => blind_all_agree value _

theorem blind_all_follow (value : V) (ids : List NodeId) : Blind (allFollow value ids) := by
  induction ids with
  | nil => exact blind_pure true
  | cons id others ih =>
      refine blind_bind (blind_cell id) fun here => ?_
      cases here.value with
      | none => exact blind_pure false
      | some incoming =>
          refine blind_table _ (fun _ _ => rfl) fun table => ?_
          cases table.eqv value incoming with
          | true => exact ih
          | false => exact blind_pure false

theorem blind_uniform_value (id : NodeId) : Blind (uniformValue id : Action V (Option V)) := by
  refine blind_bind (blind_cell id) fun here => ?_
  cases here.children with
  | nil => exact blind_pure none
  | cons first others =>
      refine blind_bind (blind_cell first) fun top => ?_
      cases top.value with
      | none => exact blind_pure none
      | some value => exact blind_bind (blind_all_follow value others) fun _ => blind_pure _

theorem blind_set_value (id : NodeId) (value : V) : Blind (setValue id value) :=
  blind_update id _

theorem blind_relax (value : V) (path : List NodeId) : Blind (relax value path) := by
  induction path with
  | nil => exact blind_pure ()
  | cons id below ih =>
      refine blind_bind (blind_cell id) fun here => ?_
      cases here.value with
      | none => exact ih
      | some existing =>
          refine blind_table _ (fun _ _ => rfl) fun table => ?_
          cases table.eqv existing value with
          | true => exact blind_report _
          | false =>
              refine blind_bind (blind_report _) fun _ => ?_
              exact blind_bind (blind_update id _) fun _ => ih

theorem blind_still_matches (value : V) (id : NodeId) : Blind (stillMatches value id) := by
  refine blind_table _ (fun _ _ => rfl) fun table => ?_
  cases table.arena.contains id with
  | false => exact blind_pure false
  | true => exact blind_bind (blind_cell id) fun _ => blind_leads_to value _

theorem blind_route_holds (id : NodeId) (here : Cell V) : Blind (routeHolds id here) := by
  unfold routeHolds
  split
  · exact blind_children_agree id _
  · exact blind_pure false

theorem blind_decide (id : NodeId) (here : Cell V) : Blind (Linked.decide id here) := by
  have decides := blind_bind (blind_uniform_value id) fun value =>
    blind_update id fun cell : Cell V => { cell with value, routed := false }
  unfold Linked.decide
  cases here.routed with
  | true => exact blind_bind (blind_report _) fun _ => decides
  | false => exact decides

theorem blind_reoptimize (order : List NodeId) : Blind (reoptimize order : Action V Unit) := by
  induction order with
  | nil => exact blind_pure ()
  | cons id others ih =>
      refine blind_bind (blind_cell id) fun here => ?_
      cases here.children.isEmpty with
      | true => exact ih
      | false =>
          refine blind_bind (blind_route_holds id here) fun holds => ?_
          cases holds with
          | true => exact ih
          | false => exact blind_bind (blind_decide id here) fun _ => ih

/-! ## Keys -/

theorem blind_cut (bytes : Nat) (text : List Char) :
    Blind (cut bytes text : Action V (List Char × List Char)) := by
  unfold cut
  split
  · exact blind_pure _
  · exact blind_fail _

theorem blind_head_token (rest : List Char) : Blind (headToken rest : Action V (List Char)) := by
  unfold headToken
  split
  · exact blind_bind (blind_cut _ rest) fun _ => blind_pure _
  · exact blind_pure rest

theorem blind_key_kind (key : String) : Blind (keyKind key : Action V KeyKind) := by
  refine blind_table _ (fun _ _ => rfl) fun table => ?_
  cases table.config.keyRules.classify key with
  | ok kind => exact blind_pure kind
  | error fault => exact blind_refuse _

theorem blind_find_child (rest : List Char) (ids : List NodeId) :
    Blind (findChild rest ids : Action V (Option NodeId)) := by
  induction ids with
  | nil => exact blind_pure none
  | cons child others ih =>
      refine blind_bind (blind_cell child) fun here => ?_
      cases here.segment.matchesHead rest with
      | true => exact blind_pure _
      | false => exact ih

theorem blind_key_head (key : String) (kind : KeyKind) :
    Blind (keyHead key kind : Action V (List Char)) := by
  cases kind with
  | literal => exact blind_pure _
  | topic => exact blind_head_token _

theorem blind_start_walk (key : String) (kind : KeyKind) :
    Blind (startWalk key kind : Action V Walk) := by
  refine blind_bind (blind_key_head key kind) fun _ => blind_bind (blind_find_root _) fun found => ?_
  cases found with
  | none => exact blind_pure _
  | some root => exact blind_bind (blind_cell root) fun _ => blind_pure _

theorem blind_advance (id : NodeId) (rest : List Char) : Blind (advance id rest : Action V Walk) := by
  refine blind_bind (blind_cell id) fun here => blind_bind (blind_cut _ rest) fun parts => ?_
  cases isEmpty : parts.2.isEmpty with
  | true =>
      simp only [isEmpty]
      exact blind_pure _
  | false =>
      simp only [isEmpty]
      exact blind_bind (blind_find_child _ _) fun _ => blind_pure _

/-! ## Requests without loops -/

theorem blind_set_literal (key : String) (value : V) : Blind (setLiteral key value) := by
  refine blind_bind (blind_find_root key) fun found => ?_
  cases found with
  | some id => exact blind_bind (blind_report _) fun _ => blind_set_value id value
  | none =>
      refine blind_bind blind_reserve_root fun _ => blind_bind (blind_reserve 1) fun _ => ?_
      exact blind_bind (blind_allocate _) fun id => blind_attach_root key id

theorem blind_set_strategy (strategy : Strategy) : Blind (setStrategy strategy : Action V Unit) := by
  refine blind_table _ (fun _ _ => rfl) fun table => ?_
  have changes : Blind (change fun table : LinkedTable V => { table with strategy }) :=
    blind_change _ fun _ _ => ⟨_, rfl⟩
  by_cases same : table.strategy = strategy
  · simp only [if_pos same]
    exact changes
  · simp only [if_neg same]
    exact blind_bind (blind_report _) fun _ => changes

end Linked

end TopicRouting
