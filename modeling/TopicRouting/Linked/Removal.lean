import TopicRouting.Linked.Change
import TopicRouting.Linked.Lookup

set_option autoImplicit false

namespace TopicRouting.Linked

variable {V : Type}

def removeRoute (key : String) : Action V Unit := do
  let kind ← keyKind key
  match ← findExact key kind with
  | none => refuse (.notFound key)
  | some target =>
    if (← cell target).routed then
      let routes ← removeSubtree target
      invalidateCache
      report (Journal.routeRemoved key routes)
    else refuse (.notFound key)

def leadsTo (value : V) (held : Option V) : Action V Bool := do
  match held with
  | some existing => pure ((← table).eqv existing value)
  | none => pure false

def topmostMatching (value : V) (stack found : List NodeId) : Action V (List NodeId) :=
  rounds (fun (stack, found) => do
    match stack with
    | [] => stop found
    | id :: stack =>
      let here ← cell id
      if here.value.isSome then
        if ← leadsTo value here.value then again (stack, found ++ [id])
        else again (stack, found)
      else again (here.children ++ stack, found)) (stack, found)

theorem topmost_matching_eq (value : V) (stack found : List NodeId) :
    topmostMatching value stack found = (do
      match stack with
      | [] => pure found
      | id :: stack =>
        let here ← cell id
        if here.value.isSome then
          if ← leadsTo value here.value then topmostMatching value stack (found ++ [id])
          else topmostMatching value stack found
        else topmostMatching value (here.children ++ stack) found) := by
  rw [topmostMatching, rounds_eq]
  cases stack with
  | nil => exact stop_bind found _
  | cons id stack =>
      simp only [bind_assoc]
      refine bind_congr fun here => ?_
      cases here.value.isSome with
      | false => exact again_bind (here.children ++ stack, found) _ _
      | true =>
          simp only [if_true, bind_assoc]
          refine bind_congr fun leads => ?_
          cases leads with
          | true => exact again_bind (stack, found ++ [id]) _ _
          | false => exact again_bind (stack, found) _ _

def stillMatches (value : V) (id : NodeId) : Action V Bool := do
  if (← table).arena.contains id then leadsTo value (← cell id).value else pure false

def removeMatching (value : V) : List NodeId → (routes : Nat) → Action V Nat
  | [], routes => pure routes
  | id :: others, routes => do
    if ← stillMatches value id then
      let more ← removeSubtree id
      removeMatching value others (routes + more)
    else removeMatching value others routes

def removalPasses (value : V) (routes : Nat) : Action V Nat :=
  rounds (fun routes => do
    let found ← topmostMatching value (← table).directory.ids []
    if found.isEmpty then stop routes
    else
      let routes ← removeMatching value found routes
      invalidateCache
      again routes) routes

theorem removal_passes_eq (value : V) (routes : Nat) :
    removalPasses value routes = (do
      let found ← topmostMatching value (← table).directory.ids []
      if found.isEmpty then pure routes
      else
        let routes ← removeMatching value found routes
        invalidateCache
        removalPasses value routes) := by
  rw [removalPasses, rounds_eq]
  simp only [bind_assoc]
  refine bind_congr fun table => bind_congr fun found => ?_
  cases found.isEmpty with
  | true => exact stop_bind routes _
  | false =>
      simp only [Bool.false_eq_true, if_false, bind_assoc, again_bind]
      rfl

def removeValue (value : V) : Action V Nat := do
  let routes ← removalPasses value 0
  report (Journal.valueRemoved routes)
  pure routes

end TopicRouting.Linked
