import TopicRouting.Linked.Action

set_option autoImplicit false

namespace TopicRouting

def utf8Length : List Char → Nat
  | [] => 0
  | c :: rest => c.utf8Size + utf8Length rest

def separatorOffset? : List Char → Option Nat
  | [] => none
  | c :: rest =>
    if c = separator then some 0 else (separatorOffset? rest).map fun offset => c.utf8Size + offset

-- The characters before and after an offset, none if the text is shorter or the offset is inside
-- a character.
def cutAt? : (bytes : Nat) → List Char → Option (List Char × List Char)
  | 0, text => some ([], text)
  | _ + 1, [] => none
  | bytes + 1, c :: rest =>
    if c.utf8Size ≤ bytes + 1 then
      (cutAt? (bytes + 1 - c.utf8Size) rest).map fun (front, back) => (c :: front, back)
    else none

namespace Segment

def characters (segment : Segment) : List Char := segment.text.toList

def ofToken (token : List Char) : Segment :=
  if token.getLast? = some separator then .branch (String.ofList token.dropLast)
  else .leaf (String.ofList token)

def matchesHead (segment : Segment) (rest : List Char) : Bool :=
  match segment with
  | .branch _ => segment.characters.isPrefixOf rest
  | .leaf _ | .literal _ => rest == segment.characters

end Segment

namespace Linked

variable {V : Type}

def cut (bytes : Nat) (text : List Char) : Action V (List Char × List Char) :=
  match cutAt? bytes text with
  | some parts => pure parts
  | none => fail (.badCut bytes)

def headToken (rest : List Char) : Action V (List Char) :=
  match separatorOffset? rest with
  | some offset => do pure (← cut (offset + 1) rest).1
  | none => pure rest

def tokens (rest : List Char) (done : List (List Char)) : Action V (List (List Char)) :=
  rounds (fun (rest, done) => do
    if rest.isEmpty then stop done
    else
      let token ← headToken rest
      let (_, later) ← cut (utf8Length token) rest
      again (later, done ++ [token])) (rest, done)

theorem tokens_eq (rest : List Char) (done : List (List Char)) :
    (tokens rest done : Action V (List (List Char))) = (do
      if rest.isEmpty then pure done
      else
        let token ← headToken rest
        let (_, later) ← cut (utf8Length token) rest
        tokens later (done ++ [token])) := by
  rw [tokens, rounds_eq]
  cases empty : rest.isEmpty with
  | true => simp only [empty, if_true, stop_bind]
  | false =>
      simp only [empty, Bool.false_eq_true, if_false, bind_assoc, again_bind]
      rfl

structure Walk where
  -- The node to be visited next.
  next : Option NodeId
  -- What no visited node has matched.
  rest : List Char

def findChild (rest : List Char) : List NodeId → Action V (Option NodeId)
  | [] => pure none
  | child :: others => do
    if (← cell child).segment.matchesHead rest then pure (some child) else findChild rest others

def keyHead (key : String) : KeyKind → Action V (List Char)
  | .literal => pure key.toList
  | .topic => headToken key.toList

def startWalk (key : String) (kind : KeyKind) : Action V Walk := do
  match ← findRoot (String.ofList (← keyHead key kind)) with
  | none => pure ⟨none, key.toList⟩
  | some root =>
    let matched := (← cell root).segment.matchesHead key.toList
    pure ⟨if matched then some root else none, key.toList⟩

def advance (id : NodeId) (rest : List Char) : Action V Walk := do
  let here ← cell id
  let (_, later) ← cut (utf8Length here.segment.characters) rest
  if later.isEmpty then pure ⟨none, later⟩
  else pure ⟨← findChild later here.children, later⟩

def finishWalk (visited : List NodeId) (walk : Walk) : Action V (List NodeId × List Char) :=
  rounds (fun (visited, walk) => do
    match walk.next with
    | none => stop (visited, walk.rest)
    | some id => again (visited ++ [id], ← advance id walk.rest)) (visited, walk)

theorem finish_walk_eq (visited : List NodeId) (walk : Walk) :
    (finishWalk visited walk : Action V (List NodeId × List Char)) = (do
      match walk.next with
      | none => pure (visited, walk.rest)
      | some id => finishWalk (visited ++ [id]) (← advance id walk.rest)) := by
  rw [finishWalk, rounds_eq]
  cases next : walk.next with
  | none => simp only [next, stop_bind]
  | some id =>
      simp only [next, bind_assoc, again_bind]
      rfl

def firstValue (walk : Walk) : Action V (Option V) :=
  rounds (fun walk => do
    match walk.next with
    | none => stop none
    | some id =>
      let later ← advance id walk.rest
      match (← cell id).value with
      | some value => stop (some value)
      | none => again later) walk

theorem first_value_eq (walk : Walk) :
    (firstValue walk : Action V (Option V)) = (do
      match walk.next with
      | none => pure none
      | some id =>
        let later ← advance id walk.rest
        match (← cell id).value with
        | some value => pure (some value)
        | none => firstValue later) := by
  rw [firstValue, rounds_eq]
  cases walk.next with
  | none => exact stop_bind none _
  | some id =>
      simp only [bind_assoc]
      refine bind_congr fun later => bind_congr fun here => ?_
      cases here.value with
      | some value => exact stop_bind (some value) _
      | none => exact again_bind later _ _

def findExact (key : String) (kind : KeyKind) : Action V (Option NodeId) := do
  let (path, rest) ← finishWalk [] (← startWalk key kind)
  match path.getLast? with
  | none => pure none
  | some last => pure (if rest.isEmpty then some last else none)

def tracePath (key : String) : Action V (List NodeId × List Char) := do
  let _count ← tokens key.toList []
  finishWalk [] (← startWalk key .topic)

def climb (from_ : Option NodeId) (text : List String) : Action V (List String) :=
  rounds (fun (from_, text) => do
    match from_ with
    | none => stop text
    | some id =>
      let here ← cell id
      again (here.parent, here.segment.text :: text)) (from_, text)

theorem climb_eq (from_ : Option NodeId) (text : List String) :
    (climb from_ text : Action V (List String)) = (do
      match from_ with
      | none => pure text
      | some id =>
        let here ← cell id
        climb here.parent (here.segment.text :: text)) := by
  rw [climb, rounds_eq]
  cases from_ with
  | none => exact stop_bind text _
  | some id =>
      simp only [bind_assoc, again_bind]
      rfl

def fullPath (id : NodeId) : Action V String := do
  pure (String.join (← climb (some id) []))

end Linked

end TopicRouting
