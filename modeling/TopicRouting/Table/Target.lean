import TopicRouting.Table.Comparator

set_option autoImplicit false

namespace TopicRouting

universe u

inductive Target (V : Type u) where
  -- The routes below lead to different destinations.
  | undecided
  -- The routes below agree, and this is their value.
  | collapsed (value : V)
  -- A route was registered for exactly this node.
  | route (value : V)
deriving DecidableEq, Repr

namespace Target

variable {V : Type u}

def value? : Target V → Option V
  | .undecided => none
  | .collapsed value => some value
  | .route value => some value

def isRoute : Target V → Bool
  | .route _ => true
  | _ => false

def route? : Target V → Option V
  | .route value => some value
  | _ => none

def agreesWith (eqv : Comparator V) (value : V) (target : Target V) : Bool :=
  target.value?.any fun existing => eqv existing value

def ofUniform : Option V → Target V
  | none => .undecided
  | some value => .collapsed value

end Target

end TopicRouting
