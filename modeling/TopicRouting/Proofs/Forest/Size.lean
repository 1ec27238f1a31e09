import TopicRouting.Proofs.Forest.Changes
import TopicRouting.Table.Roots

set_option autoImplicit false

namespace TopicRouting

universe u

variable {V : Type u}

namespace Forest

theorem size_zero (forest : Forest V) : forest.size = 0 ↔ forest = .nil := by
  cases forest with
  | nil => simp [size]
  | node segment target children siblings => simp [size]

theorem resume_size (eqv : Comparator V) (segment : Segment) (target : Target V)
    (below : Change V) (siblings : Forest V) :
    (resume eqv segment target below siblings).forest.size ≤
      1 + below.forest.size + siblings.size := by
  rw [resume_forest]
  cases revised eqv target below with
  | none => exact Nat.le_add_left ..
  | some settled => exact Nat.le_refl _

theorem detach_size (eqv : Comparator V) (forest : Forest V) (segment : Segment) (rest : Path)
    (here : Node V) (found : forest.node? (segment :: rest) = some here) :
    (forest.detach eqv segment rest).forest.size < forest.size := by
  induction forest generalizing segment rest with
  | nil => cases (nil_node _).symm.trans found
  | node first target children siblings below beside =>
      by_cases same : first = segment
      · subst same
        cases rest with
        | nil =>
            simp only [detach, if_true, size]
            omega
        | cons next rest =>
            rw [node_at_head] at found
            have lower := below next rest found
            have above := resume_size eqv first target (children.detach eqv next rest) siblings
            rw [detach, if_pos rfl, size]
            omega
      · rw [node_beside _ _ _ _ _ _ same] at found
        have later := beside segment rest found
        simp only [detach, if_neg same, size]
        omega

theorem register_size (eqv : Comparator V) (value : V) (forest : Forest V) (segment : Segment)
    (rest : Path) (settled : Bool) :
    forest.size ≤ (forest.register eqv value segment rest settled).forest.size := by
  induction forest generalizing segment rest settled with
  | nil => exact Nat.zero_le _
  | node first target children siblings below beside =>
      by_cases same : first = segment
      · subst same
        cases rest with
        | nil =>
            simp only [register, if_true, size]
            omega
        | cons next rest =>
            rw [register, if_pos rfl]
            generalize target.relax eqv value first settled = relaxed
            have lower := below next rest relaxed.settled
            have filled := register_nonempty eqv value children next rest relaxed.settled
            obtain ⟨kept, isKept⟩ := revised_kept eqv relaxed.target _ filled
            simp only [resume_forest, isKept, size]
            omega
      · have later := beside segment rest settled
        simp only [register, if_neg same, size]
        omega

theorem first_tree_size (forest : Forest V) (tree : Tree V) (first : forest.firstTree? = some tree) :
    tree.toForest.size ≤ forest.size := by
  cases forest with
  | nil => cases first
  | node segment target children siblings =>
      cases first
      simp only [Tree.toForest, size]
      omega

end Forest

end TopicRouting
