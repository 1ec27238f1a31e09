import TopicRouting.Proofs.Table.Directory
import TopicRouting.Proofs.Table.Runs

set_option autoImplicit false

namespace TopicRouting

universe u

variable {V : Type u}

namespace Roots

theorem place_length (tree : Tree V) (slots : List (Option (Tree V))) :
    (place tree slots).length = max slots.length ((slots.filterMap id).length + 1) := by
  induction slots with
  | nil => simp [place]
  | cons slot slots ih =>
      cases slot with
      | some held =>
          have counted : ((some held :: slots).filterMap id).length =
              (slots.filterMap id).length + 1 := rfl
          rw [place, List.length_cons, ih, counted, List.length_cons]
          omega
      | none =>
          have bound : (slots.filterMap id).length ≤ slots.length := List.length_filterMap_le id slots
          have counted : ((none :: slots).filterMap id).length = (slots.filterMap id).length := rfl
          rw [place, List.length_cons, counted, List.length_cons]
          omega

theorem count_bound (roots : Roots V) : roots.count ≤ roots.slots.length :=
  List.length_filterMap_le id roots.slots

theorem register_capacity (roots : Roots V) (eqv : Comparator V) (value : V) (segment : Segment)
    (rest : Path) : (roots.register eqv value segment rest).state.capacity = roots.capacity := by
  cases found : roots.find? segment <;> simp [register, found, modify, add]

theorem register_length (roots : Roots V) (eqv : Comparator V) (value : V) (segment : Segment)
    (rest : Path) :
    (roots.register eqv value segment rest).state.slots.length =
      if (roots.find? segment).isSome then roots.slots.length
      else max roots.slots.length (roots.count + 1) := by
  cases found : roots.find? segment with
  | some tree => simp [register, found, modify]
  | none => simp [register, found, add, place_length, count, trees]

theorem detach_slots (roots : Roots V) (eqv : Comparator V) (segment : Segment) (rest : Path) :
    (roots.detach eqv segment rest).state.capacity = roots.capacity ∧
      (roots.detach eqv segment rest).state.slots.length = roots.slots.length := by
  cases found : roots.find? segment with
  | none => simp [detach, found]
  | some tree =>
      cases left : (tree.toForest.detach eqv segment rest).forest.firstTree? <;>
        simp [detach, found, left, modify]

end Roots

namespace Table

structure Fits (table : Table V) : Prop where
  capacity : table.roots.capacity = table.config.rootCapacity
  slots : table.roots.slots.length ≤ table.roots.capacity

theorem fits_count (table : Table V) (fits : table.Fits) :
    table.roots.count ≤ table.config.rootCapacity := by
  have counted := table.roots.count_bound
  have bounded := fits.slots
  rw [fits.capacity] at bounded
  omega

theorem accept_room (table : Table V) (key : String) (value : V) (kind : KeyKind)
    (accepted : table.accept key value = .ok kind) (segment : Segment) (rest : Path)
    (path : kind.path key = segment :: rest) (absent : table.roots.find? segment = none) :
    table.roots.count < table.roots.capacity := by
  have missing : table.forest.node? (segment :: rest) = none :=
    table.roots.forest_rootless segment rest absent
  unfold accept at accepted
  cases valid : table.keyKind key with
  | error error =>
      rw [valid] at accepted
      cases accepted
  | ok found =>
      have same : found = kind := by
        simp only [valid] at accepted
        split at accepted <;> grind
      subst same
      simp only [valid, path, missing, List.head?_cons, Option.bind_some, absent] at accepted
      by_cases full : table.roots.isFull = true
      · rw [if_pos full] at accepted
        cases accepted
      · simpa [Roots.isFull] using full

theorem register_fits (table : Table V) (key : String) (value : V) (kind : KeyKind)
    (fits : table.Fits) (accepted : table.accept key value = .ok kind) :
    (table.register (kind.path key) value).state.Fits := by
  have room := accept_room table key value kind accepted
  generalize kind.path key = path at room
  cases path with
  | nil => exact fits
  | cons segment rest =>
      refine ⟨(Roots.register_capacity ..).trans fits.capacity, ?_⟩
      have bounded := fits.slots
      simp only [register, Roots.register_length, Roots.register_capacity]
      cases found : table.roots.find? segment with
      | some tree => simpa using bounded
      | none =>
          have vacant := room segment rest rfl found
          simp only [Option.isSome_none, Bool.false_eq_true, if_false]
          omega

theorem detach_fits (table : Table V) (path : Path) (fits : table.Fits) :
    (table.detach path).state.Fits := by
  rcases detach_state table path with same | ⟨segment, rest, changed⟩
  · rwa [same]
  · obtain ⟨capacity, length⟩ := table.roots.detach_slots table.eqv segment rest
    rw [changed]
    exact ⟨capacity.trans fits.capacity, by rw [length, capacity]; exact fits.slots⟩

theorem kept_fits (permits : Comparator V → Prop) : Kept permits Fits where
  start _ _ _ := ⟨rfl, Nat.zero_le _⟩
  register table key value kind fits accepted := register_fits table key value kind fits accepted
  detach := detach_fits
  install table eqv fits _ :=
    ⟨fits.capacity, by simpa [setComparator, Roots.reconcile, Roots.map] using fits.slots⟩
  select _ _ fits := ⟨fits.capacity, fits.slots⟩
  refresh _ fits := ⟨fits.capacity, fits.slots⟩

theorem reachable_fits (permits : Comparator V → Prop) (table : Table V)
    (reachable : Reachable permits table) : table.Fits :=
  reachable_keeps permits Fits (kept_fits permits) table reachable

end Table

end TopicRouting
