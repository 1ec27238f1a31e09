import TopicRouting.Linked.Walk

set_option autoImplicit false

namespace TopicRouting.Linked

variable {V : Type}

def allAgree (value : V) : List NodeId → Action V Bool
  | [] => pure true
  | id :: others => do
    match (← cell id).value with
    | none => pure false
    | some existing =>
      if (← table).eqv existing value then allAgree value others else pure false

def childrenAgree (id : NodeId) (value : V) : Action V Bool := do
  allAgree value (← cell id).children

-- Whether each of some nodes has a value to which `value` is equivalent.
def allFollow (value : V) : List NodeId → Action V Bool
  | [] => pure true
  | id :: others => do
    match (← cell id).value with
    | none => pure false
    | some incoming =>
      if (← table).eqv value incoming then allFollow value others else pure false

def uniformValue (id : NodeId) : Action V (Option V) := do
  match (← cell id).children with
  | [] => pure none
  | first :: others =>
    match (← cell first).value with
    | none => pure none
    | some value => pure (if ← allFollow value others then some value else none)

-- Clears the values on a path that are not equivalent to `value`, down to the first that is.
def relax (value : V) : List NodeId → Action V Unit
  | [] => pure ()
  | id :: below => do
    let here ← cell id
    match here.value with
    | none => relax value below
    | some existing =>
      if (← table).eqv existing value then report (Journal.alreadyConsistent here.segment)
      else do
        report (Journal.optimizationCancelled here.segment)
        update id fun cell => { cell with value := none, routed := false }
        relax value below

def unlink (id : NodeId) (parent : Option NodeId) : Action V Unit :=
  match parent with
  | some parent =>
    update parent fun cell => { cell with children := cell.children.filter (· ≠ id) }
  | none => releaseRoot id

def revise (start : Option NodeId) : Action V Unit :=
  rounds (fun start => do
    match start with
    | none => stop ()
    | some id =>
      let here ← cell id
      if here.children.isEmpty then
        if here.routed then stop ()
        else
          report (Journal.childlessRemoved here.segment)
          unlink id here.parent
          let _gone ← release id
          again here.parent
      else
        match here.value with
        | some _ => stop ()
        | none =>
          match ← uniformValue id with
          | none => stop ()
          | some value =>
            report (Journal.collapsed here.segment)
            update id fun cell => { cell with value := some value }
            again here.parent) start

theorem revise_eq (start : Option NodeId) :
    (revise start : Action V Unit) = (do
      match start with
      | none => pure ()
      | some id =>
        let here ← cell id
        if here.children.isEmpty then
          if here.routed then pure ()
          else
            report (Journal.childlessRemoved here.segment)
            unlink id here.parent
            let _gone ← release id
            revise here.parent
        else
          match here.value with
          | some _ => pure ()
          | none =>
            match ← uniformValue id with
            | none => pure ()
            | some value =>
              report (Journal.collapsed here.segment)
              update id fun cell => { cell with value := some value }
              revise here.parent) := by
  rw [revise, rounds_eq]
  cases start with
  | none => exact stop_bind () _
  | some id =>
      simp only [bind_assoc]
      refine bind_congr fun here => ?_
      cases here.children.isEmpty with
      | true =>
          cases here.routed with
          | true => exact stop_bind () _
          | false =>
              simp only [Bool.false_eq_true, if_false, if_true, bind_assoc, again_bind]
              rfl
      | false =>
          cases here.value with
          | some _ => exact stop_bind () _
          | none =>
              simp only [Bool.false_eq_true, if_false, bind_assoc]
              refine bind_congr fun decided => ?_
              cases decided with
              | none => exact stop_bind () _
              | some value =>
                  simp only [bind_assoc, again_bind]
                  rfl

-- Everything at or below the nodes on the stack, after the nodes there are already; a node comes
-- before its children, and the last child before the others.
def collectSubtree (stack order : List NodeId) : Action V (List NodeId) :=
  rounds (fun (stack, order) => do
    match stack with
    | [] => stop order
    | id :: stack =>
      let here ← cell id
      again (here.children.reverse ++ stack, order ++ [id])) (stack, order)

theorem collect_subtree_eq (stack order : List NodeId) :
    (collectSubtree stack order : Action V (List NodeId)) = (do
      match stack with
      | [] => pure order
      | id :: stack =>
        let here ← cell id
        collectSubtree (here.children.reverse ++ stack) (order ++ [id])) := by
  rw [collectSubtree, rounds_eq]
  cases stack with
  | nil => exact stop_bind order _
  | cons id stack =>
      simp only [bind_assoc, again_bind]
      rfl

def releaseAll : List NodeId → (routes : Nat) → Action V Nat
  | [], routes => pure routes
  | id :: others, routes => do
    match ← release id with
    | some gone => releaseAll others (routes + if gone.routed then 1 else 0)
    | none =>
      check false .releasedTwice "subtree node released twice"
      releaseAll others routes

def removeSubtree (id : NodeId) : Action V Nat := do
  let doomed ← collectSubtree [id] []
  let parent := (← cell id).parent
  unlink id parent
  let routes ← releaseAll doomed.reverse 0
  revise parent
  pure routes

end TopicRouting.Linked
