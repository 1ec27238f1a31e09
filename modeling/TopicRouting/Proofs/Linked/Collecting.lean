import TopicRouting.Linked.Removal
import TopicRouting.Linked.Report
import TopicRouting.Proofs.Linked.Walking

set_option autoImplicit false

namespace TopicRouting

variable {V : Type}

theorem Path.join_text (path : Path) : String.join (path.map Segment.text) = path.text := by
  induction path with
  | nil => rfl
  | cons segment rest ih => simp [Path.text, ← ih]

namespace Linked

def Upward (table : LinkedTable V) (node : Option NodeId) (path : Path) : Prop :=
  ∀ texts, Reads (climb node texts) table (path.map Segment.text ++ texts)

theorem upward_none (table : LinkedTable V) : Upward table none [] := by
  intro texts
  rw [climb_eq]
  exact reads_pure table texts

theorem upward_child (table : LinkedTable V) (parent : Option NodeId) (path : Path)
    (above : Upward table parent path) (id : NodeId) (segment : Segment) (target : Target V)
    (children : List NodeId)
    (here : table.arena.cell? id = some (.ofNode segment target parent children)) :
    Upward table (some id) (path ++ [segment]) := by
  intro texts
  rw [climb_eq]
  refine reads_bind _ (reads_cell table id _ here) ?_
  simpa [Cell.ofNode] using above (segment.text :: texts)

theorem reads_full_path (table : LinkedTable V) (id : NodeId) (path : Path)
    (upward : Upward table (some id) path) : Reads (fullPath id) table path.text := by
  refine reads_bind _ (upward []) ?_
  rw [List.append_nil, Path.join_text]
  exact reads_pure table _

theorem upward_spine (table : LinkedTable V) (spine : Spine V) (below : List NodeId)
    (around : table.arena.HoldsAround spine below) : Upward table (some spine.last) spine.path := by
  induction spine generalizing below with
  | root id segment target => exact upward_child table none [] (upward_none table) id _ _ _ around
  | node above id segment target before after ih =>
      have child := upward_child table _ _ (ih _ around.2.2.2) id _ _ _ around.1
      simpa [Spine.path, Spine.first, Spine.later, Spine.last] using child

def BundleMode.added (mode : BundleMode) (eqv : Comparator V) (entries : List (QuickMatch V)) :
    List (QuickMatch V) → List (QuickMatch V)
  | [] => []
  | entry :: later =>
    if mode.skips eqv entries entry.value then mode.added eqv entries later
    else entry :: mode.added eqv (entries ++ [entry]) later

theorem added_append (mode : BundleMode) (eqv : Comparator V)
    (entries front back : List (QuickMatch V)) :
    mode.added eqv entries (front ++ back) =
      mode.added eqv entries front ++ mode.added eqv (entries ++ mode.added eqv entries front) back := by
  induction front generalizing entries with
  | nil => simp [BundleMode.added]
  | cons entry front ih =>
      by_cases skipped : mode.skips eqv entries entry.value = true <;>
        simp [BundleMode.added, skipped, ih]

theorem added_complete (eqv : Comparator V) (entries later : List (QuickMatch V)) :
    BundleMode.complete.added eqv entries later = later := by
  induction later generalizing entries with
  | nil => rfl
  | cons entry later ih => simp [BundleMode.added, BundleMode.skips, ih]

theorem added_trimmed (eqv : Comparator V) (entries later : List (QuickMatch V)) :
    later.foldl (fun kept entry =>
        if kept.any fun earlier => eqv earlier.value entry.value then kept else kept ++ [entry])
        entries =
      entries ++ BundleMode.trimmed.added eqv entries later := by
  induction later generalizing entries with
  | nil => simp [BundleMode.added]
  | cons entry later ih =>
      have skips : BundleMode.trimmed.skips eqv entries entry.value =
          entries.any fun earlier => eqv earlier.value entry.value := rfl
      rw [List.foldl_cons, ih, BundleMode.added, skips]
      by_cases skipped : (entries.any fun earlier => eqv earlier.value entry.value) = true
      · rw [if_pos skipped, if_pos skipped]
      · rw [if_neg skipped, if_neg skipped, List.append_assoc, List.singleton_append]

def bundleBelow (path : Path) (forest : Forest V) : List (QuickMatch V) :=
  forest.topmost.map fun (below, value) => .ofPath (path ++ below) value

theorem bundle_node (path : Path) (segment : Segment) (target : Target V)
    (children siblings : Forest V) :
    bundleBelow path (.node segment target children siblings) =
      (match target.value? with
        | some value => [.ofPath (path ++ [segment]) value]
        | none => bundleBelow (path ++ [segment]) children) ++ bundleBelow path siblings := by
  cases valued : target.value? <;>
    simp [bundleBelow, Forest.topmost, valued, Function.comp_def]

theorem literal_end (path : Path) (segment : Segment)
    (plain : path = [] ∨ Path.Topical [segment]) :
    Path.isLiteral (path ++ [segment]) = segment.isLiteral := by
  rcases plain with rfl | topical
  · rfl
  · have same : segment.isLiteral = false := Path.topical_not_literal [segment] topical
    rw [same]
    cases path with
    | nil => exact same
    | cons first path => cases path <;> rfl

theorem collects_bundle (mode : BundleMode) (table : LinkedTable V) (parent : Option NodeId)
    (path : Path) (grove : Grove V) (upward : Upward table parent path)
    (holds : table.arena.Holds parent grove) (grounded : grove.forest.Grounded)
    (plain : path = [] ∨ grove.forest.Topical) (stack : List NodeId)
    (entries more : List (QuickMatch V))
    (adds : mode.added table.eqv entries (bundleBelow path grove.forest) = more) :
    Proceeds (collectBundle mode (grove.heads ++ stack) entries) table
      (collectBundle mode stack (entries ++ more)) table
      (more.map fun entry => Journal.expressionGenerated entry.path) := by
  induction grove generalizing parent path stack entries more with
  | nil =>
      have nothing : more = [] := adds.symm
      subst nothing
      rw [List.append_nil]
      exact proceeds_refl
  | node id segment target children siblings below beside =>
      obtain ⟨here, lower, later⟩ := holds
      have plainLater : path = [] ∨ siblings.forest.Topical :=
        plain.imp_right fun topical => topical.2.2
      have upwardHere := upward_child table parent path upward id _ _ _ here
      subst adds
      rw [Grove.heads, List.cons_append, collect_bundle_eq, Grove.forest, bundle_node]
      refine proceeds_silent (proceeds_read (reads_cell table id _ here)) ?_
      cases valued : target.value? with
      | none =>
          have first := below (some id) _ upwardHere lower (Forest.topical_grounded _ grounded.1)
            (Or.inr grounded.1) (siblings.heads ++ stack) entries _ rfl
          have second := beside parent path upward later grounded.2 plainLater stack
            (entries ++ mode.added table.eqv entries (bundleBelow (path ++ [segment])
              children.forest)) _ rfl
          have both := proceeds_trans first second
          rw [List.append_assoc, ← List.map_append, ← added_append] at both
          simpa only [Cell.ofNode, valued, List.append_assoc] using both
      | some value =>
          rw [List.singleton_append, BundleMode.added]
          simp only [Cell.ofNode, valued]
          refine proceeds_silent (proceeds_read (reads_table table)) ?_
          by_cases skipped : mode.skips table.eqv entries value = true
          · simp only [QuickMatch.ofPath, skipped, if_true]
            exact beside parent path upward later grounded.2 plainLater stack entries _ rfl
          · have second := beside parent path upward later grounded.2 plainLater stack
              (entries ++ [.ofPath (path ++ [segment]) value]) _ rfl
            rw [List.append_assoc, List.singleton_append] at second
            simp only [QuickMatch.ofPath, skipped] at second ⊢
            refine proceeds_silent (proceeds_read (reads_full_path table id _ upwardHere)) ?_
            rw [literal_end path segment (plain.imp_right fun topical => topical.1)] at second ⊢
            exact proceeds_trans (proceeds_bind (ends_report table _)) second

theorem reads_leads_to (table : LinkedTable V) (value : V) (held : Option V) :
    Reads (leadsTo value held) table (held.any fun existing => table.eqv existing value) := by
  cases held with
  | none => exact reads_pure table false
  | some existing => exact reads_bind _ (reads_table table) (reads_pure table _)

def keysBelow (eqv : Comparator V) (value : V) (path : Path) (forest : Forest V) : List String :=
  (forest.routes.filter fun (_, existing) => eqv existing value).map fun (below, _) =>
    Path.text (path ++ below)

theorem keys_node (eqv : Comparator V) (value : V) (path : Path) (segment : Segment)
    (target : Target V) (children siblings : Forest V) :
    keysBelow eqv value path (.node segment target children siblings) =
      (if target.isRoute && target.agreesWith eqv value then [Path.text (path ++ [segment])] else [])
        ++ keysBelow eqv value (path ++ [segment]) children ++ keysBelow eqv value path siblings := by
  have below : ((children.routes.map fun (rest, held) => (segment :: rest, held)).filter
      fun (_, existing) => eqv existing value).map (fun (rest, _) => Path.text (path ++ rest)) =
        keysBelow eqv value (path ++ [segment]) children := by
    simp [keysBelow, List.filter_map, Function.comp_def]
  rw [keysBelow, Forest.routes, List.filter_append, List.filter_append, List.map_append,
    List.map_append, below]
  cases target with
  | undecided => simp [keysBelow, Target.route?, Target.isRoute]
  | collapsed held => simp [keysBelow, Target.route?, Target.isRoute]
  | route held =>
      by_cases leads : eqv held value = true <;>
        simp [keysBelow, Target.route?, Target.isRoute, Target.agreesWith, Target.value?, leads]

theorem finds_all (table : LinkedTable V) (value : V) (parent : Option NodeId) (path : Path)
    (grove : Grove V) (upward : Upward table parent path)
    (holds : table.arena.Holds parent grove) (stack : List NodeId) (found : List String) :
    Proceeds (findAll value (grove.heads ++ stack) found) table
      (findAll value stack (found ++ keysBelow table.eqv value path grove.forest)) table [] := by
  induction grove generalizing parent path stack found with
  | nil =>
      simp only [Grove.forest, keysBelow, Forest.routes, List.filter_nil, List.map_nil,
        List.append_nil]
      exact proceeds_refl
  | node id segment target children siblings below beside =>
      obtain ⟨here, lower, later⟩ := holds
      have upwardHere := upward_child table parent path upward id _ _ _ here
      have rest := fun found => proceeds_trans
        (below (some id) _ upwardHere lower (siblings.heads ++ stack) found)
        (beside parent path upward later stack _)
      rw [Grove.heads, List.cons_append, find_all_eq, Grove.forest, keys_node]
      refine proceeds_silent (proceeds_read (reads_cell table id _ here)) ?_
      refine proceeds_silent (proceeds_read (reads_leads_to table value target.value?)) ?_
      simp only [Cell.ofNode, Target.agreesWith]
      by_cases leads : (target.isRoute &&
          target.value?.any fun existing => table.eqv existing value) = true
      · simp only [leads, if_true]
        refine proceeds_silent (proceeds_read (reads_full_path table id _ upwardHere)) ?_
        simpa [List.append_assoc] using rest (found ++ [Path.text (path ++ [segment])])
      · simp only [leads]
        simpa [List.append_assoc] using rest found

end Linked

namespace Grove

def matching (eqv : Comparator V) (value : V) : Grove V → List (Path × NodeId)
  | .nil => []
  | .node id segment target children siblings =>
    (match target.value? with
      | some existing => if eqv existing value then [([segment], id)] else []
      | none => (children.matching eqv value).map fun (path, below) => (segment :: path, below))
      ++ siblings.matching eqv value

theorem matching_paths (eqv : Comparator V) (value : V) (grove : Grove V) :
    (grove.matching eqv value).map Prod.fst =
      (grove.forest.topmost.filter fun (_, existing) => eqv existing value).map Prod.fst := by
  induction grove with
  | nil => rfl
  | node id segment target children siblings below beside =>
      rw [matching, forest, Forest.topmost, List.map_append, List.filter_append, List.map_append,
        beside]
      congr 1
      cases valued : target.value? with
      | none =>
          have lifted := congrArg (List.map fun path => segment :: path) below
          simpa [List.filter_map, Function.comp_def] using lifted
      | some existing => by_cases leads : eqv existing value = true <;> simp [leads]

theorem matching_places (eqv : Comparator V) (value : V) (grove : Grove V) :
    grove.matching eqv value ⊆ grove.places := by
  induction grove with
  | nil => exact List.nil_subset _
  | node id segment target children siblings below beside =>
      simp only [matching, places]
      cases valued : target.value? with
      | none =>
          refine List.append_subset.mpr ⟨?_, fun _ member => ?_⟩
          · refine fun place member => List.mem_cons_of_mem _ (List.mem_append_left _ ?_)
            obtain ⟨lower, found, rfl⟩ := List.mem_map.mp member
            exact List.mem_map.mpr ⟨lower, below found, rfl⟩
          · exact List.mem_cons_of_mem _ (List.mem_append_right _ (beside member))
      | some existing =>
          refine List.append_subset.mpr ⟨?_, fun _ member => ?_⟩
          · by_cases leads : eqv existing value = true <;> simp [leads]
          · exact List.mem_cons_of_mem _ (List.mem_append_right _ (beside member))

theorem forest_width (grove : Grove V) : grove.forest.width = grove.heads.length := by
  induction grove with
  | nil => rfl
  | node id segment target children siblings _ ih =>
      simp only [forest, Forest.width, heads, List.length_cons, ih]
      omega

end Grove

namespace Linked

theorem finds_matching (table : LinkedTable V) (value : V) (parent : Option NodeId)
    (grove : Grove V) (holds : table.arena.Holds parent grove) (stack found : List NodeId) :
    Proceeds (topmostMatching value (grove.heads ++ stack) found) table
      (topmostMatching value stack (found ++ (grove.matching table.eqv value).map Prod.snd))
      table [] := by
  induction grove generalizing parent stack found with
  | nil =>
      simp only [Grove.matching, List.map_nil, List.append_nil]
      exact proceeds_refl
  | node id segment target children siblings below beside =>
      obtain ⟨here, lower, later⟩ := holds
      rw [Grove.heads, List.cons_append, topmost_matching_eq, Grove.matching]
      refine proceeds_silent (proceeds_read (reads_cell table id _ here)) ?_
      cases valued : target.value? with
      | none =>
          have both := proceeds_trans (below (some id) lower (siblings.heads ++ stack) found)
            (beside parent later stack _)
          simpa [Cell.ofNode, valued, List.append_assoc, Function.comp_def] using both
      | some existing =>
          simp only [Cell.ofNode, valued, Option.isSome_some, if_true]
          refine proceeds_silent (proceeds_read (reads_leads_to table value (some existing))) ?_
          by_cases leads : table.eqv existing value = true
          · simpa [leads] using beside parent later stack (found ++ [id])
          · simpa [leads] using beside parent later stack found

theorem outlines (table : LinkedTable V) (parent : Option NodeId) (grove : Grove V)
    (holds : table.arena.Holds parent grove) (depth : Nat) (stack : List (NodeId × Nat))
    (lines : List String) :
    Proceeds (outline ((grove.heads.map fun id => (id, depth)) ++ stack) lines) table
      (outline stack (lines ++ grove.forest.outline depth)) table [] := by
  induction grove generalizing parent depth stack lines with
  | nil =>
      rw [Grove.forest, Forest.outline, List.append_nil]
      exact proceeds_refl
  | node id segment target children siblings below beside =>
      obtain ⟨here, lower, later⟩ := holds
      rw [Grove.heads, List.map_cons, List.cons_append, outline_eq]
      refine proceeds_silent (proceeds_read (reads_cell table id _ here)) ?_
      have both := proceeds_trans
        (below (some id) lower (depth + 1) ((siblings.heads.map fun id => (id, depth)) ++ stack)
          (lines ++ [outlineOf (.ofNode segment target parent children.heads) depth]))
        (beside parent later depth stack _)
      rw [Grove.forest, Forest.outline, Grove.forest_width]
      rw [List.append_assoc, List.append_assoc, List.singleton_append] at both
      exact both

end Linked

end TopicRouting
