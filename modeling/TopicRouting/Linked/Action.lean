import TopicRouting.Linked.Directory
import TopicRouting.Table.Basic

/-!
The routing table over linked nodes, and the actions it is worked on with. An action reads and
changes the table step by step, keeps a record of what it does, and may be refused with an error,
which leaves the table as it is at that moment.

What must never happen is part of the record or of the result: a check that does not hold is noted
as a lapse and the action goes on, and a step that makes no sense at all ends the action with a
fault. A loop goes through rounds until one has its result.
-/

set_option autoImplicit false

namespace TopicRouting

structure LinkedTable (V : Type) where
  config : TableConfig
  eqv : Comparator V
  strategy : Strategy
  arena : Arena V
  directory : Directory
  cache : QuickCache V

def LinkedTable.withComparator {V : Type} (config : TableConfig) (eqv : Comparator V) :
    LinkedTable V :=
  ⟨config, eqv, config.strategy, .empty, .ofCapacity config.rootCapacity, .empty⟩

inductive Fault where
  -- No cell has this number.
  | staleNode (id : NodeId)
  -- A slot outside the arena or the directory.
  | missingSlot (slot : Nat)
  -- A place outside a text or inside one of its characters.
  | badCut (bytes : Nat)
  | underflow (minuend subtrahend : Nat)
deriving DecidableEq, Repr

inductive Lapse where
  -- A key that does not resolve names a node with a value.
  | valuedTarget
  | releasedTwice
  | unlistedRoot
  -- The directory has no slot for a root that it promised to take.
  | rootRefused
  -- A path without nodes is to be added.
  | emptyChain
deriving DecidableEq, Repr

inductive Notice where
  | event (event : Event)
  | lapse (lapse : Lapse)
deriving DecidableEq, Repr

structure Progress (V : Type) where
  table : LinkedTable V
  notices : List Notice

instance {V : Type} : Nonempty (Progress V) := ⟨.withComparator {} fun _ _ => false, []⟩

abbrev Action (V : Type) := ExceptT RouteError (StateT (Progress V) (ExceptT Fault Option))

namespace Linked

variable {V σ α : Type}

-- Every way in which an action can end; none stands for no end at all.
abbrev Ending (V α : Type) := Option (Except Fault (Except RouteError α × Progress V))

def run (action : Action V α) (table : LinkedTable V) : Ending V α := action ⟨table, []⟩

def refuse (error : RouteError) : Action V α := fun progress => some (.ok (.error error, progress))

def attempt (action : Action V α) : Action V (Except RouteError α) :=
  fun progress =>
    match action progress with
    | none => none
    | some (.error fault) => some (.error fault)
    | some (.ok (result, progress)) => some (.ok (.ok result, progress))

def fail (fault : Fault) : Action V α := fun _ => some (.error fault)

def table : Action V (LinkedTable V) := fun progress => some (.ok (.ok progress.table, progress))

def change (f : LinkedTable V → LinkedTable V) : Action V Unit :=
  fun progress => some (.ok (.ok (), { progress with table := f progress.table }))

def notice (notice : Notice) : Action V Unit :=
  fun progress => some (.ok (.ok (), { progress with notices := progress.notices ++ [notice] }))

def report (event : Event) : Action V Unit := notice (.event event)

def minus (a b : Nat) : Action V Nat := if b ≤ a then pure (a - b) else fail (.underflow a b)

def check (holds : Bool) (lapse : Lapse) (message : String) : Action V Unit :=
  if holds then pure () else do
    notice (.lapse lapse)
    report (Journal.entry .warn ("Routing table invariant violated: " ++ message) [])

def again (state : σ) : Action V (σ ⊕ α) := pure (.inl state)

def stop (result : α) : Action V (σ ⊕ α) := pure (.inr result)

-- Goes through rounds up to the last. Where there is no last round, nothing more than the equation
-- below is known.
def rounds [Inhabited α] (round : σ → Action V (σ ⊕ α)) (state : σ) : Action V α :=
  repeatM round state

theorem rounds_eq [Inhabited α] (round : σ → Action V (σ ⊕ α)) (state : σ) :
    rounds round state = round state >>= Sum.elim (rounds round) pure := by
  rw [rounds, repeatM_eq_of_monadTail]
  exact bind_congr fun outcome => by cases outcome <;> rfl

theorem again_bind (state : σ) (f : σ → Action V α) (g : α → Action V α) :
    again state >>= Sum.elim f g = f state := pure_bind _ _

theorem stop_bind (result : α) (f : σ → Action V α) :
    stop result >>= Sum.elim f pure = pure result := pure_bind _ _

def cell (id : NodeId) : Action V (Cell V) := do
  match (← table).arena.cell? id with
  | some here => pure here
  | none => fail (.staleNode id)

def update (id : NodeId) (f : Cell V → Cell V) : Action V Unit := do
  let here ← cell id
  change fun table => { table with arena := table.arena.write id (f here) }

def reserve (more : Nat) : Action V Unit := do
  let arena := (← table).arena
  let _room ← minus (arena.slots.length + (more - arena.free.length)) arena.free.length
  pure ()

def allocate (here : Cell V) : Action V NodeId := do
  let arena := (← table).arena
  match arena.free with
  | id :: _ => if arena.slots.length ≤ id then fail (.missingSlot id) else pure ()
  | [] => pure ()
  change fun table => { table with arena := table.arena.insert here }
  pure arena.next

def release (id : NodeId) : Action V (Option (Cell V)) := do
  let arena := (← table).arena
  match arena.cell? id with
  | none => pure none
  | some here =>
    let _live ← minus arena.live 1
    change fun table => { table with arena := table.arena.vacate id }
    pure (some here)

def slotContent (slot : Nat) : Action V (Option NodeId) := do
  match (← table).directory.slots[slot]? with
  | some content => pure content
  | none => fail (.missingSlot slot)

def findRoot (text : String) : Action V (Option NodeId) := do
  match (← table).directory.slot? text with
  | none => pure none
  | some slot => slotContent slot

def reserveRoot : Action V Unit := do
  let directory := (← table).directory
  if directory.capacity ≤ directory.count then refuse (.capacityExceeded directory.capacity)
  else pure ()

def insertRoot (text : String) (id : NodeId) : Action V (Option Nat) := do
  match (← table).directory.vacancy? with
  | none => pure none
  | some slot =>
    change fun table => { table with directory := table.directory.put text slot id }
    pure (some slot)

def removeRootEntry (text : String) : Action V (Option NodeId) := do
  match (← table).directory.slot? text with
  | none => pure none
  | some slot =>
    let content ← slotContent slot
    change fun table => { table with directory := table.directory.drop text slot }
    pure content

def attachRoot (text : String) (id : NodeId) : Action V Unit := do
  match ← insertRoot text id with
  | some slot => report (Journal.rootAdded slot (← cell id).segment)
  | none =>
    notice (.lapse .rootRefused)
    let _gone ← release id
    refuse (.capacityExceeded (← table).directory.capacity)

def releaseRoot (id : NodeId) : Action V Unit := do
  let here ← cell id
  let content ← removeRootEntry here.segment.text
  check (content == some id) .unlistedRoot "released root missing from directory"
  report (Journal.rootRemoved here.segment)

def invalidateCache : Action V Unit :=
  change fun table => { table with cache := table.cache.invalidate }

end Linked

end TopicRouting
