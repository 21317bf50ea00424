import ImportAtlas.Graph.Reach
import ImportAtlas.Proofs.Graph.History
import Mathlib.Logic.Relation

/-! # Transitive queries

The search meets exactly the nodes that chains of edges lead to: every node that it meets lies on
such a chain, and once the queue is empty no edge leads from what it has met to anything else.
Main statement: the paths that are reachable from a path are those that chains of one or more
edges lead to, itself apart.
-/

namespace ImportAtlas.DependencyGraph

open Relation

/-! ## The search -/

section Search

variable {size : Nat} {adjacency : List (List NodeId)}

theorem mem_fresh_iff {met : List NodeId} {id neighbour : NodeId} :
    neighbour ∈ fresh size adjacency met id ↔
      neighbour ∈ adjacency.getD id [] ∧ neighbour < size ∧ neighbour ∉ met := by
  simp [fresh]

private theorem mem_explore_of_mem {met queue : List NodeId} {id : NodeId} (member : id ∈ met) :
    id ∈ explore size adjacency met queue := by
  fun_induction explore size adjacency met queue with
  | case1 met => exact member
  | case2 met head tail new induction => exact induction (List.mem_append_left new member)

theorem explore_sound {P : NodeId → Prop}
    (passed : ∀ id, P id → ∀ neighbour ∈ adjacency.getD id [], P neighbour)
    {met queue : List NodeId} (metHolds : ∀ id ∈ met, P id) (queueHolds : ∀ id ∈ queue, P id) :
    ∀ id ∈ explore size adjacency met queue, P id := by
  fun_induction explore size adjacency met queue with
  | case1 met => exact metHolds
  | case2 met head tail new induction =>
      have newHolds : ∀ id ∈ new, P id := by
        intro id member
        exact passed head (queueHolds head List.mem_cons_self) id (mem_fresh_iff.mp member).1
      apply induction
      · intro id member
        rcases List.mem_append.mp member with old | isNew
        · exact metHolds id old
        · exact newHolds id isNew
      · intro id member
        rcases List.mem_append.mp member with old | isNew
        · exact queueHolds id (List.mem_cons_of_mem head old)
        · exact newHolds id isNew

def IsSettled (size : Nat) (adjacency : List (List NodeId)) (met queue : List NodeId) : Prop :=
  ∀ id ∈ met, id ∉ queue → ∀ neighbour ∈ adjacency.getD id [], neighbour < size → neighbour ∈ met

theorem IsSettled.step {met tail : List NodeId} {head : NodeId}
    (settled : IsSettled size adjacency met (head :: tail)) :
    IsSettled size adjacency (met ++ fresh size adjacency met head)
      (tail ++ fresh size adjacency met head) := by
  intro id member left neighbour isNeighbour inRange
  rw [List.mem_append, not_or] at left
  have wasMet : id ∈ met := (List.mem_append.mp member).resolve_right left.2
  by_cases known : neighbour ∈ met
  · exact List.mem_append_left _ known
  · by_cases isHead : id = head
    · subst isHead
      exact List.mem_append_right met (mem_fresh_iff.mpr ⟨isNeighbour, inRange, known⟩)
    · have settledBefore : id ∉ head :: tail := by
        rw [List.mem_cons, not_or]
        exact ⟨isHead, left.1⟩
      exact List.mem_append_left _ (settled id wasMet settledBefore neighbour isNeighbour inRange)

private theorem explore_closed {met queue : List NodeId}
    (settled : IsSettled size adjacency met queue) :
    IsSettled size adjacency (explore size adjacency met queue) [] := by
  fun_induction explore size adjacency met queue with
  | case1 met => exact settled
  | case2 met head tail new induction => exact induction settled.step

private theorem mem_explore_iff
    (neighbour_lt : ∀ id, ∀ neighbour ∈ adjacency.getD id [], neighbour < size)
    (start : NodeId) {id : NodeId} :
    id ∈ explore size adjacency [start] [start] ↔
      ReflTransGen (fun node neighbour => neighbour ∈ adjacency.getD node []) start id := by
  constructor
  · have startReached : ∀ id ∈ [start],
        ReflTransGen (fun node neighbour => neighbour ∈ adjacency.getD node []) start id := by
      intro id member
      rw [List.mem_singleton.mp member]
    exact explore_sound (fun _ reached _ isNeighbour => reached.tail isNeighbour) startReached
      startReached id
  · intro chain
    have settled : IsSettled size adjacency [start] [start] :=
      fun _ member left => absurd member left
    induction chain with
    | refl => exact mem_explore_of_mem List.mem_cons_self
    | tail _ edge met =>
        exact explore_closed settled _ met List.not_mem_nil _ edge (neighbour_lt _ _ edge)

end Search

/-! ## Paths -/

namespace WellFormed

variable {graph : DependencyGraph} {adjacency : List (List NodeId)}

private theorem chain_iff (wellFormed : graph.WellFormed) (direction : graph.IsDirection adjacency)
    {start : NodeId} {path other : String} (found : graph.paths[start]? = some path) :
    ReflTransGen (fun path next => next ∈ graph.neighboursOf adjacency path) path other ↔
      ∃ id, graph.paths[id]? = some other ∧
        ReflTransGen (fun node neighbour => neighbour ∈ adjacency.getD node []) start id := by
  constructor
  · intro chain
    induction chain with
    | refl => exact ⟨start, found, .refl⟩
    | tail _ edge reached =>
        rcases reached with ⟨id, idFound, chain⟩
        have known := (wellFormed.mem_paths_of_mem_neighboursOf direction edge).2
        rcases List.mem_iff_getElem?.mp known with ⟨next, nextFound⟩
        exact ⟨next, nextFound,
          chain.tail ((wellFormed.mem_neighboursOf_iff direction idFound nextFound).mp edge)⟩
  · rintro ⟨id, idFound, chain⟩
    induction chain generalizing other with
    | refl =>
        rw [found, Option.some.injEq] at idFound
        rw [idFound]
    | @tail node _ _ edge reached =>
        have inRange : node < graph.nodeCount := by
          rw [← direction.length_eq]
          by_contra outside
          rw [List.getD_eq_getElem?_getD, List.getElem?_eq_none (Nat.not_lt.mp outside)] at edge
          cases edge
        have nodeFound := getElem?_pathOf inRange
        exact (reached nodeFound).tail
          ((wellFormed.mem_neighboursOf_iff direction nodeFound idFound).mpr edge)

private theorem mem_reachable_iff_exists (direction : graph.IsDirection adjacency) {start : NodeId}
    {path other : String} (known : graph.idOf? path = some start) :
    other ∈ graph.reachable adjacency path ↔ ∃ id, id ≠ start ∧ graph.paths[id]? = some other ∧
      ReflTransGen (fun node neighbour => neighbour ∈ adjacency.getD node []) start id := by
  simp only [reachable, known, List.mem_eraseDups, List.mem_mergeSort, List.mem_map,
    List.mem_filter, mem_explore_iff direction.neighbour_lt start, decide_eq_true_eq]
  constructor
  · rintro ⟨id, ⟨chain, different⟩, rfl⟩
    have inRange : id < graph.nodeCount := by
      cases chain with
      | refl => exact absurd rfl different
      | tail _ edge => exact direction.neighbour_lt _ _ edge
    exact ⟨id, different, getElem?_pathOf inRange, chain⟩
  · rintro ⟨id, different, idFound, chain⟩
    exact ⟨id, ⟨chain, different⟩, pathOf_eq idFound⟩

private theorem not_transGen_of_idOf?_eq_none {path : String} (unknown : graph.idOf? path = none)
    (other : String) :
    ¬TransGen (fun path next => next ∈ graph.neighboursOf adjacency path) path other := by
  intro chain
  rcases TransGen.head'_iff.mp chain with ⟨next, edge, _⟩
  simp [neighboursOf, unknown] at edge

/-- The paths that are reachable from a path are those that chains of edges lead to from it, itself
apart. -/
theorem mem_reachable_iff (wellFormed : graph.WellFormed) (direction : graph.IsDirection adjacency)
    {path other : String} :
    other ∈ graph.reachable adjacency path ↔ other ≠ path ∧
      TransGen (fun path next => next ∈ graph.neighboursOf adjacency path) path other := by
  cases known : graph.idOf? path with
  | none => simp [reachable, known, not_transGen_of_idOf?_eq_none known other]
  | some start =>
      have found := wellFormed.idOf?_eq_some_iff.mp known
      rw [mem_reachable_iff_exists direction known]
      constructor
      · rintro ⟨id, different, idFound, chain⟩
        have apart : other ≠ path := by
          intro equal
          exact different (wellFormed.id_unique (equal ▸ idFound) found)
        have pathChain := (wellFormed.chain_iff direction found).mpr ⟨id, idFound, chain⟩
        exact ⟨apart, (reflTransGen_iff_eq_or_transGen.mp pathChain).resolve_left apart⟩
      · rintro ⟨apart, chain⟩
        rcases (wellFormed.chain_iff direction found).mp chain.to_reflTransGen with
          ⟨id, idFound, idChain⟩
        refine ⟨id, ?_, idFound, idChain⟩
        intro equal
        rw [equal, found, Option.some.injEq] at idFound
        exact apart idFound.symm

end WellFormed

theorem pairwise_reachable (graph : DependencyGraph) (adjacency : List (List NodeId))
    (path : String) : (graph.reachable adjacency path).Pairwise (· < ·) := by
  unfold reachable
  split
  · exact List.Pairwise.nil
  · exact Distinct.pairwise_lt_eraseDups _

end ImportAtlas.DependencyGraph
