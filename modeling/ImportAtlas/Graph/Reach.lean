import ImportAtlas.Graph.Basic

/-! # Transitive dependencies

Breadth-first search over one direction of a graph. A node enters the queue when it
is first met, so every round either shortens the queue or meets a node for the first
time.
-/

namespace ImportAtlas.DependencyGraph

def unmet (size : Nat) (met : List NodeId) : Nat :=
  (List.range size).countP fun id => !met.contains id

def fresh (size : Nat) (adjacency : List (List NodeId)) (met : List NodeId) (id : NodeId) :
    List NodeId :=
  (adjacency.getD id []).filter fun neighbour =>
    decide (neighbour < size) && !met.contains neighbour

private theorem countP_lt_of_imp {keep also : NodeId → Bool} {values : List NodeId}
    (implied : ∀ value, keep value = true → also value = true) {witness : NodeId}
    (member : witness ∈ values) (dropped : keep witness = false) (kept : also witness = true) :
    values.countP keep < values.countP also := by
  induction values with
  | nil => simp at member
  | cons head tail induction =>
      have bound : tail.countP keep ≤ tail.countP also :=
        List.countP_mono_left fun value _ => implied value
      rcases List.mem_cons.mp member with equal | inTail
      · subst equal
        simp only [List.countP_cons, dropped, kept, if_true, Bool.false_eq_true, if_false]
        omega
      · have smaller := induction inTail
        by_cases keepHead : keep head = true
        · simp [keepHead, implied head keepHead, smaller]
        · by_cases alsoHead : also head = true
          · simp [keepHead, alsoHead]; omega
          · simp [keepHead, alsoHead, smaller]

private theorem unmet_lt {size : Nat} {adjacency : List (List NodeId)} {met : List NodeId}
    {id : NodeId}
    (found : fresh size adjacency met id ≠ []) :
    unmet size (met ++ fresh size adjacency met id) < unmet size met := by
  rcases List.exists_mem_of_ne_nil _ found with ⟨neighbour, member⟩
  have filtered := List.mem_filter.mp member
  simp only [Bool.and_eq_true, decide_eq_true_eq, Bool.not_eq_true'] at filtered
  refine countP_lt_of_imp ?_ (List.mem_range.mpr filtered.2.1) ?_ ?_
  · intro value absent
    simp_all
  · simp [member]
  · simp only [filtered.2.2, Bool.not_false]

def explore (size : Nat) (adjacency : List (List NodeId)) (met queue : List NodeId) :
    List NodeId :=
  match queue with
  | [] => met
  | head :: tail =>
      let new := fresh size adjacency met head
      explore size adjacency (met ++ new) (tail ++ new)
termination_by (unmet size met, queue.length)
decreasing_by
  by_cases found : fresh size adjacency met head = []
  · simp only [found, List.append_nil]
    exact Prod.Lex.right _ (Nat.lt_succ_self _)
  · exact Prod.Lex.left _ _ (unmet_lt found)

/-- The paths reached from a path over at least one edge, the path itself apart, in
code-point order. -/
def reachable (graph : DependencyGraph) (adjacency : List (List NodeId)) (path : String) :
    List String :=
  match graph.idOf? path with
  | none => []
  | some start =>
      let met := explore graph.nodeCount adjacency [start] [start]
      (((met.filter (· ≠ start)).map graph.pathOf).mergeSort
        fun left right => left ≤ right).eraseDups

def transitiveImports (graph : DependencyGraph) (path : String) : List String :=
  graph.reachable graph.outgoing path

def transitiveImporters (graph : DependencyGraph) (path : String) : List String :=
  graph.reachable graph.incoming path

end ImportAtlas.DependencyGraph
