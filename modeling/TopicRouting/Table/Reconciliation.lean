import TopicRouting.Table.Basic

set_option autoImplicit false

namespace TopicRouting

universe u

namespace Table

variable {V : Type u}

def setComparator (table : Table V) (eqv : Comparator V) : Outcome (Table V) Unit :=
  let changed := table.roots.reconcile eqv
  ⟨(), { table with eqv, roots := changed.state, cache := table.cache.invalidate },
    changed.events ++ [Journal.comparatorReplaced table.nodeCount]⟩

def resetComparator [DecidableEq V] (table : Table V) : Outcome (Table V) Unit :=
  table.setComparator .equality

end Table

end TopicRouting
