import TopicRouting.Table.Forest
import TopicRouting.Table.Journal

/-!
Changes of a forest: registering a value at a path, detaching the node at a path, and
bringing every node in line with a new comparator.

A change goes down a path and comes back up. On the way down registration clears the values
that the new one contradicts; on the way up the parents of what changed are revised one after
the other: an inner node that lost its last child goes away, and one whose children agree
takes their value.
-/

set_option autoImplicit false

namespace TopicRouting

universe u

-- A changed forest: `rising` says whether the node above has to be revised as well.
structure Change (V : Type u) where
  forest : Forest V
  rising : Bool
  events : List Event

-- A node's target after a value was registered below it: `settled` says whether a node with
-- an equivalent value was met, so that nothing further down needs clearing.
structure Relaxed (V : Type u) where
  target : Target V
  settled : Bool
  events : List Event

namespace Target

variable {V : Type u}

def relax (eqv : Comparator V) (value : V) (segment : Segment) (settled : Bool)
    (target : Target V) : Relaxed V :=
  if settled then ⟨target, true, []⟩
  else
    match target.value? with
    | none => ⟨target, false, []⟩
    | some existing =>
      if eqv existing value then ⟨target, true, [Journal.alreadyConsistent segment]⟩
      else ⟨.undecided, false, [Journal.optimizationCancelled segment]⟩

end Target

namespace Forest

variable {V : Type u}

def chain (value : V) (segment : Segment) : Path → Forest V
  | [] => .node segment (.route value) .nil .nil
  | next :: rest => .node segment (.collapsed value) (chain value next rest) .nil

def revise (eqv : Comparator V) (segment : Segment) (target : Target V)
    (children siblings : Forest V) : Change V :=
  match children with
  | .nil =>
    if target.isRoute then ⟨.node segment target children siblings, false, []⟩
    else ⟨siblings, true, [Journal.childlessRemoved segment]⟩
  | .node .. =>
    match target with
    | .undecided =>
      match children.uniformValue? eqv with
      | some value =>
        ⟨.node segment (.collapsed value) children siblings, true, [Journal.collapsed segment]⟩
      | none => ⟨.node segment target children siblings, false, []⟩
    | _ => ⟨.node segment target children siblings, false, []⟩

def resume (eqv : Comparator V) (segment : Segment) (target : Target V) (below : Change V)
    (siblings : Forest V) : Change V :=
  if below.rising then
    let above := revise eqv segment target below.forest siblings
    { above with events := below.events ++ above.events }
  else ⟨.node segment target below.forest siblings, false, below.events⟩

def register (eqv : Comparator V) (value : V) :
    Forest V → Segment → Path → (settled : Bool) → Change V
  | .nil, segment, rest, _ => ⟨chain value segment rest, true, []⟩
  | .node found target children siblings, segment, rest, settled =>
    if found = segment then
      match rest with
      | [] => ⟨.node found (.route value) children siblings, true, []⟩
      | next :: rest =>
        let relaxed := target.relax eqv value found settled
        let below := register eqv value children next rest relaxed.settled
        let above := resume eqv found relaxed.target below siblings
        { above with events := relaxed.events ++ above.events }
    else
      let later := register eqv value siblings segment rest settled
      { later with forest := .node found target children later.forest }

def detach (eqv : Comparator V) : Forest V → Segment → Path → Change V
  | .nil, _, _ => ⟨.nil, false, []⟩
  | .node found target children siblings, segment, rest =>
    if found = segment then
      match rest with
      | [] => ⟨siblings, true, []⟩
      | next :: rest => resume eqv found target (detach eqv children next rest) siblings
    else
      let later := detach eqv siblings segment rest
      { later with forest := .node found target children later.forest }

-- What a node with children resolves to under a comparator: a route stays if all children
-- agree with it, and otherwise the children decide.
def reconciledTarget (eqv : Comparator V) (target : Target V) (children : Forest V) : Target V :=
  match children, target with
  | .nil, _ => target
  | .node .., .route value =>
    if children.agreesWith eqv value then target
    else .ofUniform (children.uniformValue? eqv)
  | .node .., _ => .ofUniform (children.uniformValue? eqv)

def reconcile (eqv : Comparator V) : Forest V → Forest V
  | .nil => .nil
  | .node segment target children siblings =>
    let settled := children.reconcile eqv
    .node segment (reconciledTarget eqv target settled) settled (siblings.reconcile eqv)

def withdrawals (eqv : Comparator V) : Forest V → List Event
  | .nil => []
  | .node segment target children siblings =>
    let withdrawn :=
      target.isRoute && !(reconciledTarget eqv target (children.reconcile eqv)).isRoute
    children.withdrawals eqv ++ (if withdrawn then [Journal.routeWithdrawn segment] else [])
      ++ siblings.withdrawals eqv

end Forest

end TopicRouting
