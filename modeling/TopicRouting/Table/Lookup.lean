import TopicRouting.Table.Basic

set_option autoImplicit false

namespace TopicRouting

universe u

namespace Table

variable {V : Type u}

def exactValue? (table : Table V) (path : Path) : Option V :=
  (table.forest.node? path).bind fun here => here.target.value?

def firstValue? (table : Table V) (path : Path) : Option V :=
  table.forest.firstValue? path

def quickValue? (table : Table V) (key : String) (path : Path) : Option V :=
  if table.cache.stale then table.firstValue? path
  else (table.cache.find? key).map QuickMatch.value

def answer (key : String) : Option V → Except RouteError V
  | some value => .ok value
  | none => .error (.notFound key)

def lookupExhaustive (table : Table V) (key : String) : Except RouteError V :=
  match table.keyPath key with
  | .ok path => answer key (table.exactValue? path)
  | .error error => .error error

def lookupEarlyExit (table : Table V) (key : String) : Except RouteError V :=
  match table.keyPath key with
  | .ok path => answer key (table.firstValue? path)
  | .error error => .error error

def resolve (table : Table V) (key : String) : Except RouteError V :=
  match table.keyPath key with
  | .ok path =>
    answer key <|
      match table.strategy with
      | .exhaustive => table.exactValue? path
      | .earlyExit => table.firstValue? path
      | .quickCache => table.quickValue? key path
  | .error error => .error error

def refreshCache (table : Table V) : Outcome (Table V) Unit :=
  let cache := QuickCache.ofForest table.forest
  ⟨(), { table with cache },
    table.forest.quickMatches.map (fun entry => Journal.expressionGenerated entry.path)
      ++ [Journal.cacheRebuilt cache.entries.length]⟩

def ensureCache (table : Table V) : Outcome (Table V) Unit :=
  if table.cache.stale then table.refreshCache else ⟨(), table, []⟩

-- Resolves a key by the active strategy, with a fresh cache where it uses the cache. The
-- cache is brought up to date before the key is checked.
def lookup (table : Table V) (key : String) : Outcome (Table V) (Except RouteError V) :=
  let ready := if table.strategy = .quickCache then table.ensureCache else ⟨(), table, []⟩
  ⟨ready.state.resolve key, ready.state, ready.events⟩

-- Resolves a key through the cache, which is brought up to date once the key is checked.
def lookupQuick (table : Table V) (key : String) : Outcome (Table V) (Except RouteError V) :=
  match table.keyPath key with
  | .ok path =>
    let ready := table.ensureCache
    ⟨answer key (ready.state.quickValue? key path), ready.state, ready.events⟩
  | .error error => ⟨.error error, table, []⟩

end Table

end TopicRouting
