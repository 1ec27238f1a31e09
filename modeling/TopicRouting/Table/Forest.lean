import TopicRouting.Table.Target
import TopicRouting.Topic.Segment

/-!
Forests of segments. A forest is the ordered list of the nodes below one parent, each with
the forest of its own children, so a node is reached by the path of segments leading to it.
The operations here only read.
-/

set_option autoImplicit false

namespace TopicRouting

universe u

inductive Forest (V : Type u) where
  | nil
  | node (segment : Segment) (target : Target V) (children siblings : Forest V)
deriving DecidableEq, Repr

structure Node (V : Type u) where
  target : Target V
  children : Forest V
deriving DecidableEq, Repr

namespace Forest

variable {V : Type u}

def child? (segment : Segment) : Forest V → Option (Node V)
  | .nil => none
  | .node found target children siblings =>
    if found = segment then some ⟨target, children⟩ else siblings.child? segment

def walk : Path → Forest V → List (Node V)
  | [], _ => []
  | segment :: rest, forest =>
    match forest.child? segment with
    | none => []
    | some here => here :: walk rest here.children

def node? : Path → Forest V → Option (Node V)
  | [], _ => none
  | [segment], forest => forest.child? segment
  | segment :: next :: rest, forest =>
    match forest.child? segment with
    | none => none
    | some here => node? (next :: rest) here.children

def firstValue? (path : Path) (forest : Forest V) : Option V :=
  (forest.walk path).findSome? fun here => here.target.value?

def size : Forest V → Nat
  | .nil => 0
  | .node _ _ children siblings => 1 + children.size + siblings.size

def width : Forest V → Nat
  | .nil => 0
  | .node _ _ _ siblings => 1 + siblings.width

def routes : Forest V → List (Path × V)
  | .nil => []
  | .node segment target children siblings =>
    (target.route?.map fun value => ([segment], value)).toList
      ++ children.routes.map (fun (path, value) => (segment :: path, value))
      ++ siblings.routes

def routeCount : Forest V → Nat
  | .nil => 0
  | .node _ target children siblings =>
    (if target.isRoute then 1 else 0) + children.routeCount + siblings.routeCount

def topmost : Forest V → List (Path × V)
  | .nil => []
  | .node segment target children siblings =>
    (match target.value? with
      | some value => [([segment], value)]
      | none => children.topmost.map fun (path, value) => (segment :: path, value))
      ++ siblings.topmost

def agreesWith (eqv : Comparator V) (value : V) : Forest V → Bool
  | .nil => true
  | .node _ target _ siblings => target.agreesWith eqv value && siblings.agreesWith eqv value

def follows (eqv : Comparator V) (value : V) : Forest V → Bool
  | .nil => true
  | .node _ target _ siblings =>
    target.value?.any (fun incoming => eqv value incoming) && siblings.follows eqv value

def uniformValue? (eqv : Comparator V) : Forest V → Option V
  | .nil => none
  | .node _ target _ siblings =>
    target.value?.filter fun value => siblings.follows eqv value

def outline (depth : Nat) : Forest V → List String
  | .nil => []
  | .node segment target children siblings =>
    (String.ofList (List.replicate (4 * depth) ' ') ++ "<" ++ segment.text ++ "> children:"
        ++ toString children.width ++ " optimized? "
        ++ (if target.value?.isSome then "Y" else "N"))
      :: (children.outline (depth + 1) ++ siblings.outline depth)

end Forest

end TopicRouting
