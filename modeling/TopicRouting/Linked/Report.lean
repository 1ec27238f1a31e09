import TopicRouting.Linked.Change
import TopicRouting.Linked.Removal
import TopicRouting.Table.Report

set_option autoImplicit false

namespace TopicRouting.Linked

variable {V : Type}

def setStrategy (strategy : Strategy) : Action V Unit := do
  let old := (← table).strategy
  if old = strategy then pure () else report (Journal.strategyChanged old strategy)
  change fun table => { table with strategy }

def collectForest : List NodeId → (order : List NodeId) → Action V (List NodeId)
  | [], order => pure order
  | root :: others, order => do
    let below ← collectSubtree [root] []
    collectForest others (order ++ below)

def routeHolds (id : NodeId) (here : Cell V) : Action V Bool :=
  match here.routed, here.value with
  | true, some value => childrenAgree id value
  | _, _ => pure false

def decide (id : NodeId) (here : Cell V) : Action V Unit := do
  if here.routed then report (Journal.routeWithdrawn here.segment) else pure ()
  let value ← uniformValue id
  update id fun cell => { cell with value, routed := false }

def reoptimize : List NodeId → Action V Unit
  | [] => pure ()
  | id :: others => do
    let here ← cell id
    if here.children.isEmpty then reoptimize others
    else if ← routeHolds id here then reoptimize others
    else
      decide id here
      reoptimize others

def setComparator (eqv : Comparator V) : Action V Unit := do
  let order ← collectForest (← table).directory.ids []
  change fun table => { table with eqv }
  reoptimize order.reverse
  invalidateCache
  report (Journal.comparatorReplaced order.length)

def findAll (value : V) (stack : List NodeId) (found : List String) :
    Action V (List String) :=
  rounds (fun (stack, found) => do
    match stack with
    | [] => stop found
    | id :: stack =>
      let here ← cell id
      if here.routed && (← leadsTo value here.value) then
        let path ← fullPath id
        again (here.children ++ stack, found ++ [path])
      else again (here.children ++ stack, found)) (stack, found)

theorem find_all_eq (value : V) (stack : List NodeId) (found : List String) :
    findAll value stack found = (do
      match stack with
      | [] => pure found
      | id :: stack =>
        let here ← cell id
        if here.routed && (← leadsTo value here.value) then
          let path ← fullPath id
          findAll value (here.children ++ stack) (found ++ [path])
        else findAll value (here.children ++ stack) found) := by
  rw [findAll, rounds_eq]
  cases stack with
  | nil => exact stop_bind found _
  | cons id stack =>
      simp only [bind_assoc]
      refine bind_congr fun here => bind_congr fun leads => ?_
      cases here.routed && leads with
      | false => exact again_bind (here.children ++ stack, found) _ _
      | true =>
          simp only [if_true, bind_assoc, again_bind]
          rfl

def keysRoutedTo (value : V) : Action V (List String) := do
  pure (← findAll value (← table).directory.ids []).mergeSort

def endpoints (expression : String) : Action V (List (QuickMatch V)) := do
  let kind ← keyKind expression
  match ← findExact expression kind with
  | none => refuse (.notFound expression)
  | some id => pure (QuickMatch.descending (← collectBundle .trimmed [id] []))

def statistics : Action V Stats := do
  let table ← table
  let dynamic ← minus table.arena.live table.directory.count
  pure ⟨table.directory.count, dynamic, table.cache.entries.length, table.cache.stale,
    table.strategy, table.directory.capacity⟩

def isEmpty : Action V Bool := do
  pure ((← table).arena.live == 0)

def dumpQuickMatches : Action V (List (QuickMatch V)) := do
  ensureCache
  let entries := (← table).cache.entries
  report (Journal.note "Begin quick match expressions:")
  entries.zipIdx.forM fun (entry, index) =>
    report (Journal.note ("Expression #" ++ toString (index + 1) ++ " " ++ entry.path))
  report (Journal.note "End quick match expressions")
  pure entries

def outlineOf (here : Cell V) (depth : Nat) : String :=
  String.ofList (List.replicate (4 * depth) ' ') ++ "<" ++ here.segment.text ++ "> children:"
    ++ toString here.children.length ++ " optimized? " ++ (if here.value.isSome then "Y" else "N")

def outline (stack : List (NodeId × Nat)) (lines : List String) : Action V (List String) :=
  rounds (fun (stack, lines) => do
    match stack with
    | [] => stop lines
    | (id, depth) :: stack =>
      let here ← cell id
      again ((here.children.map fun child => (child, depth + 1)) ++ stack,
        lines ++ [outlineOf here depth])) (stack, lines)

theorem outline_eq (stack : List (NodeId × Nat)) (lines : List String) :
    (outline stack lines : Action V (List String)) = (do
      match stack with
      | [] => pure lines
      | (id, depth) :: stack =>
        let here ← cell id
        outline ((here.children.map fun child => (child, depth + 1)) ++ stack)
          (lines ++ [outlineOf here depth])) := by
  rw [outline, rounds_eq]
  cases stack with
  | nil => exact stop_bind lines _
  | cons top stack =>
      simp only [bind_assoc, again_bind]
      rfl

def traceTree : Action V String := do
  let roots := (← table).directory.ids
  pure (unlines (← outline (roots.map fun root => (root, 1)) []))

end TopicRouting.Linked
