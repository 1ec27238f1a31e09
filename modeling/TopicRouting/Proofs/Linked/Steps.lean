import TopicRouting.Linked.Action

/-!
What an action does from a table. It reads when it gives a result and leaves the table and the
record alone, it ends when it gives a result or a refusal and reports only events, and it proceeds
to another action when both come to the same. None of this allows a fault or a lapse, and of a loop
nothing is known but the rounds it goes through.
-/

set_option autoImplicit false

namespace TopicRouting.Linked

variable {V α β : Type}

def Ends (action : Action V α) (table : LinkedTable V) (result : Except RouteError α)
    (next : LinkedTable V) (events : List Event) : Prop :=
  ∀ notices, action ⟨table, notices⟩ = some (.ok (result, ⟨next, notices ++ events.map .event⟩))

def Reads (action : Action V α) (table : LinkedTable V) (result : α) : Prop :=
  ∀ notices, action ⟨table, notices⟩ = some (.ok (.ok result, ⟨table, notices⟩))

def Proceeds (action : Action V α) (table : LinkedTable V) (later : Action V α)
    (next : LinkedTable V) (events : List Event) : Prop :=
  ∀ notices, action ⟨table, notices⟩ = later ⟨next, notices ++ events.map .event⟩

theorem bind_run (action : Action V α) (f : α → Action V β) (progress : Progress V) :
    (action >>= f) progress =
      match action progress with
      | some (.ok (.ok result, later)) => f result later
      | some (.ok (.error error, later)) => some (.ok (.error error, later))
      | some (.error fault) => some (.error fault)
      | none => none := by
  simp only [bind, ExceptT.bind, ExceptT.mk, StateT.bind]
  cases action progress with
  | none => rfl
  | some ending =>
      cases ending with
      | error fault => rfl
      | ok completed =>
          obtain ⟨result, later⟩ := completed
          cases result <;> rfl

theorem ends_unique {table next last : LinkedTable V} {action : Action V α}
    {result ending : Except RouteError α} {front back : List Event}
    (first : Ends action table result next front) (second : Ends action table ending last back) :
    ending = result ∧ last = next := by
  have same : (some (.ok (ending, ⟨last, [] ++ back.map .event⟩)) : Ending V α) =
      some (.ok (result, ⟨next, [] ++ front.map .event⟩)) := (second []).symm.trans (first [])
  simp only [Option.some.injEq, Except.ok.injEq, Prod.mk.injEq, Progress.mk.injEq] at same
  exact ⟨same.1, same.2.1⟩

theorem reads_unique (action : Action V α) (table : LinkedTable V) (a b : α)
    (first : Reads action table a) (second : Reads action table b) : a = b := by
  have same := (first []).symm.trans (second [])
  cases same
  rfl

section

variable {table mid next : LinkedTable V} {action : Action V α} {f : α → Action V β} {result : α}
  {ending : Except RouteError β} {front back : List Event}

theorem ends_of_reads (reads : Reads action table result) :
    Ends action table (.ok result) table [] := by
  intro notices
  rw [reads notices]
  simp

theorem ends_bind (first : Ends action table (.ok result) mid front)
    (later : Ends (f result) mid ending next back) :
    Ends (action >>= f) table ending next (front ++ back) := by
  intro notices
  rw [bind_run, first notices, List.map_append, ← List.append_assoc]
  exact later (notices ++ front.map .event)

theorem ends_read (first : Reads action table result)
    (later : Ends (f result) table ending next back) : Ends (action >>= f) table ending next back :=
  ends_bind (ends_of_reads first) later

theorem ends_then (first : Ends action table (.ok result) mid [])
    (later : Ends (f result) mid ending next back) : Ends (action >>= f) table ending next back :=
  ends_bind first later

theorem ends_last (output : β) (first : Ends action table (.ok result) next front)
    (later : Reads (f result) next output) :
    Ends (action >>= f) table (.ok output) next front := by
  simpa using ends_bind first (ends_of_reads later)

theorem ends_refused (error : RouteError) (first : Ends action table (.error error) next front) :
    Ends (action >>= f) table (.error error) next front := by
  intro notices
  rw [bind_run, first notices]

theorem reads_bind (output : β) (first : Reads action table result)
    (later : Reads (f result) table output) : Reads (action >>= f) table output := by
  intro notices
  rw [bind_run, first notices]
  exact later notices

theorem proceeds_read (first : Reads action table result) :
    Proceeds (action >>= f) table (f result) table [] := by
  intro notices
  rw [bind_run, first notices]
  simp

theorem proceeds_bind (first : Ends action table (.ok result) next front) :
    Proceeds (action >>= f) table (f result) next front := by
  intro notices
  rw [bind_run, first notices]

end

section

variable {table mid next : LinkedTable V} {action later last : Action V α}
  {ending : Except RouteError α} {front back : List Event}

theorem proceeds_refl : Proceeds action table action table [] := by
  intro notices
  simp

theorem proceeds_trans (first : Proceeds action table later mid front)
    (second : Proceeds later mid last next back) :
    Proceeds action table last next (front ++ back) := by
  intro notices
  rw [first notices, second, List.map_append, List.append_assoc]

theorem proceeds_silent (first : Proceeds action table later mid [])
    (second : Proceeds later mid last next back) : Proceeds action table last next back :=
  proceeds_trans first second

theorem proceeds_ends (first : Proceeds action table later mid front)
    (second : Ends later mid ending next back) : Ends action table ending next (front ++ back) := by
  intro notices
  rw [first notices, second, List.map_append, List.append_assoc]

theorem silent_ends (first : Proceeds action table later mid [])
    (second : Ends later mid ending next back) : Ends action table ending next back :=
  proceeds_ends first second

theorem proceeds_reads (result : α) (first : Proceeds action table later table [])
    (second : Reads later table result) : Reads action table result := by
  intro notices
  rw [first notices, second]
  simp

theorem ends_attempt (ends : Ends action table ending next front) :
    Ends (attempt action) table (.ok ending) next front := by
  intro notices
  rw [attempt, ends notices]

end

theorem reads_pure (table : LinkedTable V) (result : α) : Reads (pure result) table result :=
  fun _ => rfl

theorem ends_refuse (table : LinkedTable V) (error : RouteError) :
    Ends (refuse error : Action V α) table (.error error) table [] := by
  intro notices
  simp [refuse]

theorem reads_table (table : LinkedTable V) : Reads Linked.table table table := fun _ => rfl

theorem ends_change (table : LinkedTable V) (f : LinkedTable V → LinkedTable V) :
    Ends (change f) table (.ok ()) (f table) [] := by
  intro notices
  simp [change]

theorem ends_report (table : LinkedTable V) (event : Event) :
    Ends (report event) table (.ok ()) table [event] := fun _ => rfl

theorem reads_minus (table : LinkedTable V) (a b : Nat) (enough : b ≤ a) :
    Reads (minus a b) table (a - b) := by
  rw [minus, if_pos enough]
  exact reads_pure table (a - b)

theorem reads_check (table : LinkedTable V) (lapse : Lapse) (message : String) :
    Reads (check true lapse message) table () := reads_pure table ()

theorem reads_cell (table : LinkedTable V) (id : NodeId) (here : Cell V)
    (found : table.arena.cell? id = some here) : Reads (cell id) table here := by
  refine reads_bind here (reads_table table) ?_
  rw [found]
  exact reads_pure table here

theorem ends_update (table : LinkedTable V) (id : NodeId) (here : Cell V)
    (found : table.arena.cell? id = some here) (f : Cell V → Cell V) :
    Ends (update id f) table (.ok ()) { table with arena := table.arena.write id (f here) } [] :=
  ends_read (reads_cell table id here found) (ends_change table _)

theorem ends_release (table : LinkedTable V) (id : NodeId) (here : Cell V)
    (found : table.arena.cell? id = some here) (counted : 0 < table.arena.live) :
    Ends (release id) table (.ok (some here))
      { table with arena := table.arena.vacate id } [] := by
  refine ends_read (reads_table table) ?_
  simp only [found]
  refine ends_read (reads_minus table _ 1 counted) ?_
  exact ends_last _ (ends_change table _) (reads_pure _ _)

theorem ends_allocate (table : LinkedTable V) (here : Cell V)
    (within : ∀ id ∈ table.arena.free, id < table.arena.slots.length) :
    Ends (allocate here) table (.ok table.arena.next)
      { table with arena := table.arena.insert here } [] := by
  refine ends_read (reads_table table) ?_
  have stored : Ends
      (do change fun table => { table with arena := table.arena.insert here }
          pure table.arena.next)
      table (.ok table.arena.next) { table with arena := table.arena.insert here } [] :=
    ends_last _ (ends_change table _) (reads_pure _ _)
  cases isFree : table.arena.free with
  | nil =>
      simp only [isFree]
      exact stored
  | cons id free =>
      have inside : ¬ table.arena.slots.length ≤ id :=
        Nat.not_le.mpr (within id (isFree ▸ List.mem_cons_self))
      simp only [isFree, if_neg inside]
      exact stored

theorem reads_reserve (table : LinkedTable V) (more : Nat)
    (total : table.arena.free.length ≤ table.arena.slots.length) :
    Reads (reserve more) table () := by
  refine reads_bind () (reads_table table) ?_
  exact reads_bind () (reads_minus table _ _ (by omega)) (reads_pure table ())

end TopicRouting.Linked
