import TopicRouting.Linked.Arena

set_option autoImplicit false

namespace TopicRouting.Arena

variable {V : Type}

theorem contains_iff (arena : Arena V) (id : NodeId) :
    arena.contains id = true ↔ ∃ here, arena.cell? id = some here :=
  Option.isSome_iff_exists

theorem cell_bound (arena : Arena V) (id : NodeId) (here : Cell V)
    (found : arena.cell? id = some here) : id < arena.slots.length := by
  rw [cell?, Option.join_eq_some_iff] at found
  exact (List.getElem?_eq_some_iff.mp found).1

theorem write_here (arena : Arena V) (id : NodeId) (here new : Cell V)
    (found : arena.cell? id = some here) : (arena.write id new).cell? id = some new := by
  simp [cell?, write, List.getElem?_set_self (cell_bound arena id here found)]

theorem write_other (arena : Arena V) (id other : NodeId) (new : Cell V)
    (different : other ≠ id) : (arena.write id new).cell? other = arena.cell? other := by
  simp [cell?, write, List.getElem?_set_ne (Ne.symm different)]

theorem vacate_here (arena : Arena V) (id : NodeId) : (arena.vacate id).cell? id = none := by
  by_cases bound : id < arena.slots.length <;> simp [cell?, vacate, bound]

theorem vacate_other (arena : Arena V) (id other : NodeId) (different : other ≠ id) :
    (arena.vacate id).cell? other = arena.cell? other := by
  simp [cell?, vacate, List.getElem?_set_ne (Ne.symm different)]

structure Tallies (arena : Arena V) (ids : List NodeId) : Prop where
  distinct : ids.Nodup
  used : ∀ id, arena.contains id = true ↔ id ∈ ids
  live : arena.live = ids.length
  once : arena.free.Nodup
  vacant : ∀ id, id ∈ arena.free ↔ id < arena.slots.length ∧ arena.cell? id = none
  total : arena.live + arena.free.length = arena.slots.length

theorem tallies_empty : (empty : Arena V).Tallies [] := by
  refine ⟨List.nodup_nil, ?_, rfl, List.nodup_nil, ?_, rfl⟩ <;> simp [empty, contains, cell?]

theorem tallies_permute (arena : Arena V) (ids others : List NodeId) (tallies : arena.Tallies ids)
    (same : ids.Perm others) : arena.Tallies others where
  distinct := same.nodup_iff.mp tallies.distinct
  used id := (tallies.used id).trans same.mem_iff
  live := tallies.live.trans same.length_eq
  once := tallies.once
  vacant := tallies.vacant
  total := tallies.total

theorem tallies_cell (arena : Arena V) (ids : List NodeId) (tallies : arena.Tallies ids)
    (id : NodeId) (member : id ∈ ids) : ∃ here, arena.cell? id = some here :=
  (contains_iff arena id).mp ((tallies.used id).mpr member)

theorem tallies_live (arena : Arena V) (ids : List NodeId) (tallies : arena.Tallies ids)
    (id : NodeId) (member : id ∈ ids) : 0 < arena.live := by
  rw [tallies.live]
  exact List.length_pos_of_mem member

theorem tallies_write (arena : Arena V) (ids : List NodeId) (tallies : arena.Tallies ids)
    (id : NodeId) (here new : Cell V) (found : arena.cell? id = some here) :
    (arena.write id new).Tallies ids := by
  have same : ∀ other, ((arena.write id new).cell? other).isSome = (arena.cell? other).isSome := by
    intro other
    by_cases at_ : other = id
    · rw [at_, write_here arena id here new found, found]
      rfl
    · rw [write_other arena id other new at_]
  refine ⟨tallies.distinct, ?_, tallies.live, tallies.once, ?_, ?_⟩
  · intro other
    rw [contains, same]
    exact tallies.used other
  · intro other
    rw [← Option.not_isSome_iff_eq_none, same, Option.not_isSome_iff_eq_none]
    simpa [write] using tallies.vacant other
  · simpa [write] using tallies.total

theorem tallies_vacate (arena : Arena V) (id : NodeId) (ids : List NodeId)
    (tallies : arena.Tallies (id :: ids)) : (arena.vacate id).Tallies ids := by
  obtain ⟨here, found⟩ := tallies_cell arena _ tallies id List.mem_cons_self
  have bound := cell_bound arena id here found
  have parts := List.nodup_cons.mp tallies.distinct
  have live := tallies.live
  have total := tallies.total
  rw [List.length_cons] at live
  refine ⟨parts.2, ?_, ?_, ?_, ?_, ?_⟩
  · intro other
    by_cases same : other = id
    · subst same
      simp [contains, vacate_here, parts.1]
    · rw [contains, vacate_other arena id other same]
      exact (tallies.used other).trans (by simp [same])
  · simp only [vacate]
    omega
  · refine List.nodup_cons.mpr ⟨?_, tallies.once⟩
    intro member
    rw [tallies.vacant, found] at member
    exact nomatch member.2
  · intro other
    by_cases same : other = id
    · subst same
      rw [vacate_here]
      simpa [vacate] using bound
    · rw [vacate_other arena id other same]
      simpa [vacate, same] using tallies.vacant other
  · simp only [vacate, List.length_cons, List.length_set]
    omega

theorem next_vacant (arena : Arena V) (ids : List NodeId) (tallies : arena.Tallies ids) :
    arena.cell? arena.next = none := by
  cases isFree : arena.free with
  | nil => simp [cell?, next, isFree]
  | cons id free =>
      have member : id ∈ arena.free := isFree ▸ List.mem_cons_self
      simpa [next, isFree] using ((tallies.vacant id).mp member).2

theorem next_fresh (arena : Arena V) (ids : List NodeId) (tallies : arena.Tallies ids) :
    arena.next ∉ ids := by
  intro member
  obtain ⟨here, found⟩ := tallies_cell arena ids tallies _ member
  exact nomatch (next_vacant arena ids tallies).symm.trans found

theorem free_bound (arena : Arena V) (ids : List NodeId) (tallies : arena.Tallies ids)
    (id : NodeId) (member : id ∈ arena.free) : id < arena.slots.length :=
  ((tallies.vacant id).mp member).1

theorem insert_here (arena : Arena V) (ids : List NodeId) (tallies : arena.Tallies ids)
    (new : Cell V) : (arena.insert new).cell? arena.next = some new := by
  cases isFree : arena.free with
  | nil => simp [cell?, insert, next, isFree]
  | cons id free =>
      have bound := free_bound arena ids tallies id (isFree ▸ List.mem_cons_self)
      simp [cell?, insert, next, isFree, List.getElem?_set_self bound]

theorem insert_other (arena : Arena V) (other : NodeId) (new : Cell V)
    (different : other ≠ arena.next) : (arena.insert new).cell? other = arena.cell? other := by
  cases isFree : arena.free with
  | nil =>
      have apart : other ≠ arena.slots.length := by simpa [next, isFree] using different
      simp only [cell?, insert, isFree]
      by_cases bound : other < arena.slots.length
      · rw [List.getElem?_append_left bound]
      · have outside : (arena.slots ++ [some new]).length ≤ other := by
          rw [List.length_append, List.length_singleton]
          exact Nat.lt_of_le_of_ne (Nat.not_lt.mp bound) (Ne.symm apart)
        rw [List.getElem?_eq_none outside, List.getElem?_eq_none (Nat.not_lt.mp bound)]
  | cons id free =>
      have apart : other ≠ id := by simpa [next, isFree] using different
      simp [cell?, insert, isFree, List.getElem?_set_ne (Ne.symm apart)]

theorem tallies_insert (arena : Arena V) (ids : List NodeId) (tallies : arena.Tallies ids)
    (new : Cell V) : (arena.insert new).Tallies (arena.next :: ids) := by
  have fresh := next_fresh arena ids tallies
  have here := insert_here arena ids tallies new
  have live := tallies.live
  have total := tallies.total
  refine ⟨List.nodup_cons.mpr ⟨fresh, tallies.distinct⟩, ?_, ?_, ?_, ?_, ?_⟩
  · intro other
    by_cases same : other = arena.next
    · subst same
      simp [contains, here]
    · rw [contains, insert_other arena other new same]
      exact (tallies.used other).trans (by simp [same])
  · cases isFree : arena.free <;> simp [insert, isFree, live]
  · have once := tallies.once
    cases isFree : arena.free with
    | nil => simp [insert, isFree]
    | cons id free =>
        rw [isFree] at once
        simpa [insert, isFree] using (List.nodup_cons.mp once).2
  · intro other
    have vacant := tallies.vacant other
    by_cases same : other = arena.next
    · subst same
      rw [here]
      have once := tallies.once
      cases isFree : arena.free with
      | nil => simp [insert, isFree]
      | cons id free =>
          rw [isFree] at once
          simpa [insert, isFree, next] using (List.nodup_cons.mp once).1
    · rw [insert_other arena other new same]
      cases isFree : arena.free with
      | nil =>
          rw [isFree] at vacant
          have apart : other ≠ arena.slots.length := by simpa [next, isFree] using same
          simp only [insert, isFree, List.length_append, List.length_cons, List.length_nil]
          refine ⟨fun member => (nomatch member), fun ⟨bound, empty⟩ => vacant.mpr ⟨?_, empty⟩⟩
          exact Nat.lt_of_le_of_ne (Nat.le_of_lt_succ bound) apart
      | cons id free =>
          rw [isFree] at vacant
          have apart : other ≠ id := by simpa [next, isFree] using same
          simpa [insert, isFree, apart] using vacant
  · cases isFree : arena.free with
    | nil =>
        rw [isFree] at total
        simp only [insert, isFree, List.length_append, List.length_cons, List.length_nil] at total ⊢
        omega
    | cons id free =>
        rw [isFree] at total
        simp only [insert, isFree, List.length_set, List.length_cons] at total ⊢
        omega

end TopicRouting.Arena
