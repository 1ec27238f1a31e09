import TopicRouting.Table.Config
import TopicRouting.Table.QuickMatch
import TopicRouting.Table.Roots

set_option autoImplicit false

namespace TopicRouting

universe u

structure Table (V : Type u) where
  config : TableConfig
  eqv : Comparator V
  strategy : Strategy
  roots : Roots V
  cache : QuickCache V

namespace Table

variable {V : Type u}

def withComparator (config : TableConfig) (eqv : Comparator V) : Table V :=
  ⟨config, eqv, config.strategy, .empty config.rootCapacity, .empty⟩

def ofConfig [DecidableEq V] (config : TableConfig) : Table V :=
  withComparator config .equality

def new [DecidableEq V] : Table V :=
  ofConfig {}

def forest (table : Table V) : Forest V := table.roots.forest

def nodeCount (table : Table V) : Nat := table.forest.size

def isEmpty (table : Table V) : Bool := table.roots.count == 0

def routes (table : Table V) : List (Path × V) := table.forest.routes

def keyKind (table : Table V) (key : String) : Except RouteError KeyKind :=
  match table.config.keyRules.classify key with
  | .ok kind => .ok kind
  | .error fault => .error (.invalidKey key fault)

def keyPath (table : Table V) (key : String) : Except RouteError Path :=
  match table.keyKind key with
  | .ok kind => .ok (kind.path key)
  | .error error => .error error

def setStrategy (table : Table V) (strategy : Strategy) : Outcome (Table V) Unit :=
  ⟨(), { table with strategy },
    if table.strategy = strategy then [] else [Journal.strategyChanged table.strategy strategy]⟩

end Table

end TopicRouting
