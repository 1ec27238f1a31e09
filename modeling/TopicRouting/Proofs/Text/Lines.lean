import TopicRouting.Text.Lines

set_option autoImplicit false

namespace TopicRouting

structure OneLine (line : String) : Prop where
  unbroken : '\n' ∉ line.toList
  closed : line.toList.getLast? ≠ some '\r'

theorem finish_line (line : String) (closed : line.toList.getLast? ≠ some '\r') :
    finishLine line.toList.reverse = line := by
  rw [← List.head?_reverse] at closed
  unfold finishLine
  split
  · rename_i reversed
    rw [reversed] at closed
    exact (closed rfl).elim
  · rw [List.reverse_reverse, String.ofList_toList]

theorem scan_line (pending line rest : List Char) (unbroken : '\n' ∉ line) :
    scanLines pending (line ++ '\n' :: rest) =
      finishLine (line.reverse ++ pending) :: scanLines [] rest := by
  induction line generalizing pending with
  | nil => rfl
  | cons c line ih =>
      obtain ⟨other, later⟩ := not_or.mp (mt List.mem_cons.mpr unbroken)
      rw [List.cons_append, scanLines, ih _ later, List.reverse_cons, List.append_assoc,
        List.singleton_append]
      exact fun same => other same.symm

theorem lines_unlines (texts : List String) (single : ∀ line ∈ texts, OneLine line) :
    lines (unlines texts) = texts := by
  induction texts with
  | nil => rfl
  | cons line texts ih =>
      obtain ⟨unbroken, closed⟩ := single line List.mem_cons_self
      have later := ih fun other member => single other (List.mem_cons_of_mem _ member)
      rw [lines] at later
      rw [lines, unlines, String.toList_append, String.toList_append, List.append_assoc]
      rw [show "\n".toList = ['\n'] from rfl, List.singleton_append, scan_line _ _ _ unbroken,
        List.append_nil, finish_line line closed, later]

end TopicRouting
