import TopicRouting.Table.Basic

set_option autoImplicit false

namespace TopicRouting

universe u

namespace Table

variable {V : Type u}

def accept (table : Table V) (key : String) (value : V) : Except RouteError KeyKind :=
  match table.keyKind key with
  | .error error => .error error
  | .ok kind =>
    match table.forest.node? (kind.path key), kind with
    | some _, .literal => .ok kind
    | some here, .topic =>
      if here.target.value?.isSome then .error (.duplicateRoute key)
      else if here.children.agreesWith table.eqv value then .ok kind
      else .error (.conflictingRoute key)
    | none, _ =>
      match (kind.path key).head?.bind table.roots.find? with
      | some _ => .ok kind
      | none =>
        if table.roots.isFull then .error (.capacityExceeded table.roots.capacity) else .ok kind

def register (table : Table V) (path : Path) (value : V) : Outcome (Table V) Unit :=
  match path with
  | [] => ⟨(), table, []⟩
  | segment :: rest =>
    let changed := table.roots.register table.eqv value segment rest
    ⟨(), { table with roots := changed.state, cache := table.cache.invalidate }, changed.events⟩

def literalWarning (table : Table V) (kind : KeyKind) (key : String) : List Event :=
  match kind, table.forest.node? (kind.path key) with
  | .literal, some _ => [Journal.literalRefreshed key]
  | _, _ => []

def setRoute (table : Table V) (key : String) (value : V) :
    Outcome (Table V) (Except RouteError Unit) :=
  match table.accept key value with
  | .error error => ⟨.error error, table, [Journal.routeRejected key error]⟩
  | .ok kind =>
    let changed := table.register (kind.path key) value
    let roots := changed.state.roots
    ⟨.ok (), changed.state,
      table.literalWarning kind key ++ changed.events
        ++ [Journal.routeSet key (roots.count - table.roots.count)
          (roots.dynamicCount - table.roots.dynamicCount)]⟩

end Table

end TopicRouting
