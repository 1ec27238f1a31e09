import TopicRouting.Proofs.Forest.Nodes
import TopicRouting.Proofs.Text.Lines
import TopicRouting.Proofs.Text.Numerals

/-!
Forests read back from their outlines. The text of a segment stands between the first and the last
angle bracket of its line, whatever it contains, since nothing after it has another bracket; and the
indentation of the lines after a node tells which of them are below it.
-/

set_option autoImplicit false

namespace TopicRouting

universe u

variable {V : Type u}

inductive Sketch where
  | nil
  | node (text : String) (valued : Bool) (children siblings : Sketch)
deriving DecidableEq, Repr

structure Mark where
  depth : Nat
  text : String
  valued : Bool
deriving DecidableEq, Repr

namespace Mark

-- The characters between the first opening bracket and the last closing one.
def bracketed (characters : List Char) : List Char :=
  let opened := (characters.dropWhile (· != '<')).tail
  ((opened.reverse.dropWhile (· != '>')).tail).reverse

def read (line : String) : Mark where
  depth := (line.toList.takeWhile (· == ' ')).length / 4
  text := String.ofList (bracketed line.toList)
  valued := line.toList.getLast? == some 'Y'

theorem bracketed_between (front text back : List Char) (before : '<' ∉ front)
    (after : '>' ∉ back) : bracketed (front ++ '<' :: (text ++ '>' :: back)) = text := by
  have opens : ∀ c ∈ front, (c != '<') = true := by
    intro c member
    exact bne_iff_ne.mpr fun same => before (same ▸ member)
  have closes : ∀ c ∈ back.reverse, (c != '>') = true := by
    intro c member
    exact bne_iff_ne.mpr fun same => after (same ▸ List.mem_reverse.mp member)
  have opened : ((front ++ '<' :: (text ++ '>' :: back)).dropWhile (· != '<')).tail =
      text ++ '>' :: back := by
    rw [List.dropWhile_append_of_pos opens]
    rfl
  rw [bracketed, opened, List.reverse_append, List.reverse_cons, List.append_assoc,
    List.dropWhile_append_of_pos closes]
  exact text.reverse_reverse

end Mark

namespace Forest

def suffix (width : Nat) (valued : Bool) : String :=
  " children:" ++ toString width ++ " optimized? " ++ (if valued then "Y" else "N")

def line (depth : Nat) (segment : Segment) (target : Target V) (children : Forest V) : String :=
  String.ofList (List.replicate (4 * depth) ' ') ++ "<" ++ segment.text ++ "> children:"
    ++ toString children.width ++ " optimized? " ++ (if target.value?.isSome then "Y" else "N")

theorem line_characters (depth : Nat) (segment : Segment) (target : Target V)
    (children : Forest V) :
    (line depth segment target children).toList = List.replicate (4 * depth) ' ' ++
      '<' :: (segment.text.toList ++
        '>' :: (suffix children.width target.value?.isSome).toList) := by
  have opens : "<".toList = ['<'] := rfl
  have closes : "> children:".toList = '>' :: " children:".toList := rfl
  simp only [line, suffix, String.toList_append, String.toList_ofList, opens, closes,
    List.append_assoc, List.cons_append, List.nil_append]

theorem suffix_clear (width : Nat) (valued : Bool) (c : Char) (digit : c.isDigit = false)
    (other : ∀ word ∈ [" children:", " optimized? ", "Y", "N"], c ∉ word.toList) :
    c ∉ (suffix width valued).toList := by
  simp only [suffix, String.toList_append, List.mem_append, not_or]
  refine ⟨⟨⟨other _ (by simp), numeral_clear width c digit⟩, other _ (by simp)⟩, ?_⟩
  cases valued <;> exact other _ (by simp)

theorem line_last (depth : Nat) (segment : Segment) (target : Target V) (children : Forest V) :
    (line depth segment target children).toList.getLast? =
      some (if target.value?.isSome then 'Y' else 'N') := by
  rw [line, String.toList_append, List.getLast?_append]
  cases target.value?.isSome <;> rfl

theorem read_line (depth : Nat) (segment : Segment) (target : Target V) (children : Forest V) :
    Mark.read (line depth segment target children) =
      ⟨depth, segment.text, target.value?.isSome⟩ := by
  have characters := line_characters depth segment target children
  have blanks : ∀ c ∈ List.replicate (4 * depth) ' ', (c == ' ') = true := by
    intro c member
    exact beq_iff_eq.mpr (List.eq_of_mem_replicate member)
  have indented : (line depth segment target children).toList.takeWhile (· == ' ') =
      List.replicate (4 * depth) ' ' := by
    rw [characters, List.takeWhile_append_of_pos blanks]
    simp
  have between : Mark.bracketed (line depth segment target children).toList =
      segment.text.toList := by
    rw [characters]
    refine Mark.bracketed_between _ _ _ ?_ (suffix_clear _ _ _ (by decide) (by decide))
    intro member
    cases List.eq_of_mem_replicate member
  rw [Mark.read, indented, between, line_last, List.length_replicate, String.ofList_toList,
    Nat.mul_div_cancel_left depth (by decide)]
  cases target.value?.isSome <;> rfl

theorem outline_node (depth : Nat) (segment : Segment) (target : Target V)
    (children siblings : Forest V) :
    (node segment target children siblings).outline depth = line depth segment target children ::
      (children.outline (depth + 1) ++ siblings.outline depth) := rfl

theorem outline_length (forest : Forest V) (depth : Nat) :
    (forest.outline depth).length = forest.size := by
  induction forest generalizing depth with
  | nil => rfl
  | node segment target children siblings below beside =>
      rw [outline_node, size, List.length_cons, List.length_append, below, beside]
      omega

theorem outline_single (forest : Forest V) (depth : Nat)
    (unbroken : ∀ path here, (path, here) ∈ forest.nodes → '\n' ∉ path.text.toList) :
    ∀ text ∈ forest.outline depth, OneLine text := by
  induction forest generalizing depth with
  | nil => exact fun text member => (nomatch member)
  | node segment target children siblings below beside =>
      have own := unbroken [segment] _ List.mem_cons_self
      have lower : ∀ path here, (path, here) ∈ children.nodes → '\n' ∉ path.text.toList := by
        intro path here member broken
        refine unbroken (segment :: path) here (List.mem_cons_of_mem _ ?_) ?_
        · exact List.mem_append_left _ (List.mem_map.mpr ⟨(path, here), member, rfl⟩)
        · rw [Path.text, String.toList_append]
          exact List.mem_append_right _ broken
      have later : ∀ path here, (path, here) ∈ siblings.nodes → '\n' ∉ path.text.toList :=
        fun path here member =>
          unbroken path here (List.mem_cons_of_mem _ (List.mem_append_right _ member))
      have clear := suffix_clear children.width target.value?.isSome '\n' (by decide) (by decide)
      intro text member
      rw [outline_node, List.mem_cons, List.mem_append] at member
      rcases member with rfl | inner | outer
      · constructor
        · rw [Path.text, Path.text, String.append_empty] at own
          rw [line_characters]
          simp [own, clear]
        · rw [line_last]
          split <;> decide
      · exact below _ lower text inner
      · exact beside _ later text outer

def sketch : Forest V → Sketch
  | .nil => .nil
  | .node segment target children siblings =>
    .node segment.text target.value?.isSome children.sketch siblings.sketch

def marks (depth : Nat) : Forest V → List Mark
  | .nil => []
  | .node segment target children siblings =>
    ⟨depth, segment.text, target.value?.isSome⟩
      :: (children.marks (depth + 1) ++ siblings.marks depth)

theorem outline_marks (forest : Forest V) (depth : Nat) :
    (forest.outline depth).map Mark.read = forest.marks depth := by
  induction forest generalizing depth with
  | nil => rfl
  | node segment target children siblings below beside =>
      rw [outline_node, List.map_cons, List.map_append, below, beside, read_line, marks]

end Forest

namespace Sketch

-- The nodes at a depth as far as nothing above them comes; what is deeper is below the node before.
def ofMarks : List Mark → (depth : Nat) → Sketch
  | [], _ => .nil
  | mark :: later, depth =>
    if mark.depth < depth then .nil
    else if mark.depth = depth then
      .node mark.text mark.valued (ofMarks later (depth + 1)) (ofMarks later depth)
    else ofMarks later depth

def ofTrace (text : String) : Sketch := ofMarks ((lines text).map Mark.read) 1

theorem marks_passed (forest : Forest V) (depth upper : Nat) (above : upper < depth)
    (rest : List Mark) : ofMarks (forest.marks depth ++ rest) upper = ofMarks rest upper := by
  induction forest generalizing depth rest with
  | nil => rfl
  | node segment target children siblings below beside =>
      rw [Forest.marks, List.cons_append, ofMarks, if_neg (Nat.not_lt.mpr (Nat.le_of_lt above)),
        if_neg (Nat.ne_of_gt above), List.append_assoc, below _ (Nat.lt_succ_of_lt above),
        beside _ above]

theorem marks_sketch (forest : Forest V) (depth : Nat) (rest : List Mark)
    (ended : ∀ lower, depth ≤ lower → ofMarks rest lower = .nil) :
    ofMarks (forest.marks depth ++ rest) depth = forest.sketch := by
  induction forest generalizing depth rest with
  | nil => exact ended depth (Nat.le_refl depth)
  | node segment target children siblings below beside =>
      have endedBelow : ∀ lower, depth + 1 ≤ lower →
          ofMarks (siblings.marks depth ++ rest) lower = .nil := by
        intro lower deeper
        cases siblings with
        | nil => exact ended lower (Nat.le_of_succ_le deeper)
        | node next nextTarget nextChildren nextSiblings =>
            exact if_pos deeper
      rw [Forest.marks, List.cons_append, ofMarks, if_neg (Nat.lt_irrefl depth), if_pos rfl,
        List.append_assoc, below _ _ endedBelow, marks_passed _ _ _ (Nat.lt_succ_self depth),
        beside _ _ ended, Forest.sketch]

theorem trace_sketch (forest : Forest V)
    (unbroken : ∀ path here, (path, here) ∈ forest.nodes → '\n' ∉ path.text.toList) :
    ofTrace (unlines (forest.outline 1)) = forest.sketch := by
  have whole := marks_sketch forest 1 [] fun _ _ => rfl
  rw [List.append_nil] at whole
  rw [ofTrace, lines_unlines _ (forest.outline_single 1 unbroken), forest.outline_marks, whole]

end Sketch

end TopicRouting
