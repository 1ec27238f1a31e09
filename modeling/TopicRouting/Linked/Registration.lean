import TopicRouting.Linked.Change
import TopicRouting.Linked.Lookup

set_option autoImplicit false

namespace TopicRouting.Linked

variable {V : Type}

inductive Anchor where
  -- Below a node that exists.
  | child (parent : NodeId)
  -- As a new root, under its text.
  | root (text : List Char)

def newCells (value : V) : List (List Char) → List (Cell V)
  | [] => []
  | [last] => [⟨.ofToken last, some value, true, none, []⟩]
  | token :: next :: rest =>
    ⟨.ofToken token, some value, false, none, []⟩ :: newCells value (next :: rest)

def addBelow (parent : NodeId) : List (Cell V) → Action V Unit
  | [] => pure ()
  | here :: later => do
    let id ← allocate { here with parent := some parent }
    update parent fun above => { above with children := above.children ++ [id] }
    addBelow id later

def setValue (id : NodeId) (value : V) : Action V Unit :=
  update id fun cell => { cell with value := some value, routed := true }

def setLiteral (key : String) (value : V) : Action V Unit := do
  match ← findRoot key with
  | some id =>
    report (Journal.literalRefreshed key)
    setValue id value
  | none =>
    reserveRoot
    reserve 1
    let id ← allocate ⟨.literal key, some value, true, none, []⟩
    attachRoot key id

def routeExisting (key : String) (path : List NodeId) (value : V) : Action V Unit := do
  match path.getLast? with
  | none => refuse (.notFound key)
  | some target =>
    let here ← cell target
    if here.value.isSome then
      check false .valuedTarget "unresolved key names a valued node"
      refuse (.duplicateRoute key)
    else if !here.children.isEmpty && !(← childrenAgree target value) then
      refuse (.conflictingRoute key)
    else
      relax value path.dropLast
      let parent := (← cell target).parent
      setValue target value
      revise parent

def addPath (key : String) (path : List NodeId) (rest : List Char) (value : V) :
    Action V Unit := do
  let parts ← tokens rest []
  reserve parts.length
  let anchor ← match path.getLast? with
    | some parent =>
      let _above ← cell parent
      pure (Anchor.child parent)
    | none =>
      reserveRoot
      pure (Anchor.root (← headToken rest))
  match anchor, newCells value parts with
  | .child parent, cells =>
    relax value path
    addBelow parent cells
    revise (some parent)
  | .root _, [] =>
    notice (.lapse .emptyChain)
    refuse (.invalidKey key .emptySegment)
  | .root text, first :: later =>
    let id ← allocate first
    attachRoot (String.ofList text) id
    addBelow id later
    revise none

def setTopic (key : String) (value : V) : Action V Unit := do
  match ← exhaustive key .topic with
  | some _ => refuse (.duplicateRoute key)
  | none =>
    let (path, rest) ← tracePath key
    if rest.isEmpty then routeExisting key path value else addPath key path rest value

def setKey (key : String) (value : V) : Action V Unit := do
  match ← keyKind key with
  | .literal => setLiteral key value
  | .topic => setTopic key value

def setRoute (key : String) (value : V) : Action V Unit := do
  let before ← table
  match ← attempt (setKey key value) with
  | .ok () =>
    invalidateCache
    let after ← table
    let roots ← minus after.directory.count before.directory.count
    let nodes ← minus after.arena.live before.arena.live
    let dynamic ← minus nodes roots
    report (Journal.routeSet key roots dynamic)
  | .error error =>
    report (Journal.routeRejected key error)
    refuse error

end TopicRouting.Linked
