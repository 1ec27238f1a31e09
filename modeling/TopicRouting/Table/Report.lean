import TopicRouting.Table.Lookup
import TopicRouting.Text.Lines

set_option autoImplicit false

namespace TopicRouting

universe u

structure Stats where
  rootNodes : Nat
  dynamicNodes : Nat
  quickMatchEntries : Nat
  quickMatchStale : Bool
  strategy : Strategy
  rootCapacity : Nat
deriving DecidableEq, Repr

namespace Stats

def totalNodes (stats : Stats) : Nat := stats.rootNodes + stats.dynamicNodes

def display (stats : Stats) : String :=
  "Routing table stats: " ++ toString stats.rootNodes ++ "/" ++ toString stats.rootCapacity
    ++ " root nodes, " ++ toString stats.dynamicNodes ++ " dynamic nodes, "
    ++ toString stats.quickMatchEntries ++ " quick-match entries"
    ++ (if stats.quickMatchStale then " (stale)" else "") ++ ", strategy " ++ stats.strategy.name

end Stats

namespace Table

variable {V : Type u}

def statistics (table : Table V) : Stats where
  rootNodes := table.roots.count
  dynamicNodes := table.roots.dynamicCount
  quickMatchEntries := table.cache.entries.length
  quickMatchStale := table.cache.stale
  strategy := table.strategy
  rootCapacity := table.roots.capacity

def dumpStatistics (table : Table V) : Logged Stats :=
  ⟨table.statistics, [Journal.note table.statistics.display]⟩

def traceLines (table : Table V) : List String :=
  table.forest.outline 1

def traceTree (table : Table V) : String :=
  unlines table.traceLines

def describe (table : Table V) : String :=
  "RoutingTable \x7b roots: " ++ toString table.roots.count ++ ", nodes: "
    ++ toString table.nodeCount ++ ", strategy: " ++ table.strategy.label
    ++ ", quick_match_stale: " ++ (if table.cache.stale then "true" else "false") ++ " \x7d"

def dumpQuickMatches (table : Table V) : Outcome (Table V) (List (QuickMatch V)) :=
  let ready := table.ensureCache
  let entries := ready.state.cache.entries
  ⟨entries, ready.state,
    ready.events ++ [Journal.note "Begin quick match expressions:"]
      ++ entries.zipIdx.map (fun (entry, index) =>
        Journal.note ("Expression #" ++ toString (index + 1) ++ " " ++ entry.path))
      ++ [Journal.note "End quick match expressions"]⟩

def keysRoutedTo (table : Table V) (value : V) : List String :=
  ((table.routes.filter fun (_, existing) => table.eqv existing value).map fun (path, _) =>
    path.text).mergeSort

def entriesBelow (path : Path) (here : Node V) : List (QuickMatch V) :=
  match here.target.value? with
  | some value => [.ofPath path value]
  | none => here.children.topmost.map fun (rest, value) => .ofPath (path ++ rest) value

def endpoints (table : Table V) (expression : String) :
    Logged (Except RouteError (List (QuickMatch V))) :=
  match table.keyPath expression with
  | .error error => ⟨.error error, []⟩
  | .ok path =>
    match table.forest.node? path with
    | none => ⟨.error (.notFound expression), []⟩
    | some here =>
      let chosen := QuickMatch.representatives table.eqv (entriesBelow path here)
      ⟨.ok (QuickMatch.descending chosen),
        chosen.map fun entry => Journal.expressionGenerated entry.path⟩

end Table

end TopicRouting
