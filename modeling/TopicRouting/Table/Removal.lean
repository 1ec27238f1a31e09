import TopicRouting.Table.Basic

/-!
Removing routes: the route of one key with everything more specific, or every route to a
destination. Removing a destination goes in passes, since a parent whose children agree again
may come to match; every pass that finds something frees a node, so the number of nodes bounds
the number of passes.
-/

set_option autoImplicit false

namespace TopicRouting

universe u

namespace Table

variable {V : Type u}

def detach (table : Table V) (path : Path) : Outcome (Table V) Nat :=
  match path, table.forest.node? path with
  | segment :: rest, some here =>
    let changed := table.roots.detach table.eqv segment rest
    ⟨(if here.target.isRoute then 1 else 0) + here.children.routeCount,
      { table with roots := changed.state, cache := table.cache.invalidate }, changed.events⟩
  | _, _ => ⟨0, table, []⟩

def isRegistered (table : Table V) (path : Path) : Bool :=
  (table.forest.node? path).any fun here => here.target.isRoute

def removeRoute (table : Table V) (key : String) : Outcome (Table V) (Except RouteError Unit) :=
  match table.keyPath key with
  | .error error => ⟨.error error, table, []⟩
  | .ok path =>
    if table.isRegistered path then
      let changed := table.detach path
      ⟨.ok (), changed.state, changed.events ++ [Journal.routeRemoved key changed.result]⟩
    else ⟨.error (.notFound key), table, []⟩

def matching (table : Table V) (value : V) : List Path :=
  (table.forest.topmost.filter fun (_, existing) => table.eqv existing value).map Prod.fst

def stillMatches (table : Table V) (value : V) (path : Path) : Bool :=
  (table.forest.node? path).any fun here => here.target.agreesWith table.eqv value

def detachMatching (value : V) (table : Table V) : List Path → Outcome (Table V) Nat
  | [] => ⟨0, table, []⟩
  | path :: rest =>
    if table.stillMatches value path then
      let first := table.detach path
      let others := detachMatching value first.state rest
      ⟨first.result + others.result, others.state, first.events ++ others.events⟩
    else detachMatching value table rest

def removalPasses (value : V) : (limit : Nat) → Table V → Outcome (Table V) Nat
  | 0, table => ⟨0, table, []⟩
  | limit + 1, table =>
    match table.matching value with
    | [] => ⟨0, table, []⟩
    | first :: rest =>
      let pass := detachMatching value table (first :: rest)
      let later := removalPasses value limit pass.state
      ⟨pass.result + later.result, later.state, pass.events ++ later.events⟩

def removeValue (table : Table V) (value : V) : Outcome (Table V) Nat :=
  let removed := removalPasses value table.nodeCount table
  ⟨removed.result, removed.state, removed.events ++ [Journal.valueRemoved removed.result]⟩

end Table

end TopicRouting
