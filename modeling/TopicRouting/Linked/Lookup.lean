import TopicRouting.Linked.Walk
import TopicRouting.Table.Lookup

set_option autoImplicit false

namespace TopicRouting.Linked

variable {V : Type}

def keyKind (key : String) : Action V KeyKind := do
  match (← table).config.keyRules.classify key with
  | .ok kind => pure kind
  | .error fault => refuse (.invalidKey key fault)

def answer (key : String) : Option V → Action V V
  | some value => pure value
  | none => refuse (.notFound key)

def exhaustive (key : String) (kind : KeyKind) : Action V (Option V) := do
  match ← findExact key kind with
  | none => pure none
  | some id => pure (← cell id).value

def earlyExit (key : String) (kind : KeyKind) : Action V (Option V) := do
  firstValue (← startWalk key kind)

def quick (key : String) (kind : KeyKind) : Action V (Option V) := do
  let cache := (← table).cache
  if cache.stale then earlyExit key kind else pure ((cache.find? key).map QuickMatch.value)

def resolve (key : String) : Action V V := do
  let kind ← keyKind key
  match (← table).strategy with
  | .exhaustive => answer key (← exhaustive key kind)
  | .earlyExit => answer key (← earlyExit key kind)
  | .quickCache => answer key (← quick key kind)

def lookupExhaustive (key : String) : Action V V := do
  let kind ← keyKind key
  answer key (← exhaustive key kind)

def lookupEarlyExit (key : String) : Action V V := do
  let kind ← keyKind key
  answer key (← earlyExit key kind)

inductive BundleMode where
  -- An entry for every topmost node with a value.
  | complete
  -- None for a value that an earlier entry represents.
  | trimmed
deriving DecidableEq, Repr

def BundleMode.skips (mode : BundleMode) (eqv : Comparator V) (entries : List (QuickMatch V))
    (value : V) : Bool :=
  mode = .trimmed && entries.any fun entry => eqv entry.value value

def collectBundle (mode : BundleMode) (stack : List NodeId) (entries : List (QuickMatch V)) :
    Action V (List (QuickMatch V)) :=
  rounds (fun (stack, entries) => do
    match stack with
    | [] => stop entries
    | id :: stack =>
      let here ← cell id
      match here.value with
      | some value =>
        if mode.skips (← table).eqv entries value then again (stack, entries)
        else
          let path ← fullPath id
          report (Journal.expressionGenerated path)
          again (stack, entries ++ [⟨path, value, here.segment.isLiteral⟩])
      | none => again (here.children ++ stack, entries)) (stack, entries)

theorem collect_bundle_eq (mode : BundleMode) (stack : List NodeId)
    (entries : List (QuickMatch V)) :
    collectBundle mode stack entries = (do
      match stack with
      | [] => pure entries
      | id :: stack =>
        let here ← cell id
        match here.value with
        | some value =>
          if mode.skips (← table).eqv entries value then collectBundle mode stack entries
          else
            let path ← fullPath id
            report (Journal.expressionGenerated path)
            collectBundle mode stack (entries ++ [⟨path, value, here.segment.isLiteral⟩])
        | none => collectBundle mode (here.children ++ stack) entries) := by
  rw [collectBundle, rounds_eq]
  cases stack with
  | nil => exact stop_bind entries _
  | cons id stack =>
      simp only [bind_assoc]
      refine bind_congr fun here => ?_
      cases here.value with
      | none => exact again_bind (here.children ++ stack, entries) _ _
      | some value =>
          simp only [bind_assoc]
          refine bind_congr fun table => ?_
          cases skipped : mode.skips table.eqv entries value with
          | true => exact again_bind (stack, entries) _ _
          | false =>
              simp only [Bool.false_eq_true, if_false, bind_assoc, again_bind]
              rfl

def refreshCache : Action V Unit := do
  let entries ← collectBundle .complete (← table).directory.ids []
  change fun table => { table with cache := ⟨QuickMatch.descending entries, false⟩ }
  report (Journal.cacheRebuilt entries.length)

def ensureCache : Action V Unit := do
  if (← table).cache.stale then refreshCache else pure ()

def lookup (key : String) : Action V V := do
  if (← table).strategy = .quickCache then ensureCache else pure ()
  resolve key

def lookupQuick (key : String) : Action V V := do
  let kind ← keyKind key
  ensureCache
  answer key (← quick key kind)

end TopicRouting.Linked
