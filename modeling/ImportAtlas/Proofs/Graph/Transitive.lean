import ImportAtlas.Proofs.Graph.Reach
import Mathlib.Data.List.Perm.Subperm
import Mathlib.Logic.Function.Iterate

/-! # Searches that end

The search goes round by round until its queue is empty. A node joins the queue when it is first
met, and one node leaves it in every round, so there are as many rounds as nodes are met. Main
statement: in any graph that calls make the search ends within as many rounds as there are nodes,
and the transitive queries give what chains of edges lead to.
-/

namespace ImportAtlas.DependencyGraph

open Relation

/-! ## Rounds -/

structure Search where
  met : List NodeId
  queue : List NodeId
deriving DecidableEq, Repr

def Search.round (adjacency : List (List NodeId)) (search : Search) : Search :=
  match search.queue with
  | [] => search
  | head :: tail =>
      let new := (adjacency.getD head []).filter fun neighbour => !search.met.contains neighbour
      ⟨search.met ++ new, tail ++ new⟩

section Rounds

variable {size : Nat} {adjacency : List (List NodeId)}

private theorem nodup_explore (nodup : ∀ id, (adjacency.getD id []).Nodup) {met queue : List NodeId}
    (metNodup : met.Nodup) : (explore size adjacency met queue).Nodup := by
  fun_induction explore size adjacency met queue with
  | case1 met => exact metNodup
  | case2 met head tail new induction =>
      apply induction
      rw [List.nodup_append]
      refine ⟨metNodup, (nodup head).filter _, ?_⟩
      intro left inMet right isNew equal
      exact (mem_fresh_iff.mp isNew).2.2 (equal ▸ inMet)

variable (neighbour_lt : ∀ id, ∀ neighbour ∈ adjacency.getD id [], neighbour < size)
include neighbour_lt

private theorem round_cons (met tail : List NodeId) (head : NodeId) :
    Search.round adjacency ⟨met, head :: tail⟩ =
      ⟨met ++ fresh size adjacency met head, tail ++ fresh size adjacency met head⟩ := by
  have sameNew : fresh size adjacency met head =
      (adjacency.getD head []).filter fun neighbour => !met.contains neighbour := by
    apply List.filter_congr
    intro neighbour isNeighbour
    simp [neighbour_lt head neighbour isNeighbour]
  rw [Search.round, sameNew]

private theorem exists_rounds (met queue : List NodeId) :
    ∃ count, count + met.length = (explore size adjacency met queue).length + queue.length ∧
      (Search.round adjacency)^[count] ⟨met, queue⟩ =
        ⟨explore size adjacency met queue, []⟩ := by
  fun_induction explore size adjacency met queue with
  | case1 met => exact ⟨0, by simp, rfl⟩
  | case2 met head tail new induction =>
      rcases induction with ⟨count, counted, ended⟩
      refine ⟨count + 1, ?_, ?_⟩
      · rw [List.length_append, List.length_append] at counted
        rw [List.length_cons]
        omega
      · rw [Function.iterate_succ_apply, round_cons neighbour_lt]
        exact ended

private theorem exists_rounds_le (nodup : ∀ id, (adjacency.getD id []).Nodup) {start : NodeId}
    (inRange : start < size) :
    ∃ count ≤ size, (Search.round adjacency)^[count] ⟨[start], [start]⟩ =
      ⟨explore size adjacency [start] [start], []⟩ := by
  rcases exists_rounds neighbour_lt [start] [start] with ⟨count, counted, ended⟩
  have distinct : (explore size adjacency [start] [start]).Nodup :=
    nodup_explore nodup (List.pairwise_singleton _ start)
  have startInRange : ∀ id ∈ [start], id < size := by
    intro id member
    rw [List.mem_singleton.mp member]
    exact inRange
  have bounded : explore size adjacency [start] [start] ⊆ List.range size := by
    intro id member
    apply List.mem_range.mpr
    exact explore_sound (fun id _ => neighbour_lt id) startInRange startInRange id member
  have notLonger := (List.subperm_of_subset distinct bounded).length_le
  rw [List.length_range] at notLonger
  refine ⟨count, ?_, ended⟩
  rw [List.length_singleton] at counted
  omega

end Rounds

/-! ## Chains of edges -/

namespace WellFormed

variable {graph : DependencyGraph}

theorem mem_transitiveImports_iff (wellFormed : graph.WellFormed) {path other : String} :
    other ∈ graph.transitiveImports path ↔ other ≠ path ∧
      TransGen (fun source target => graph.hasEdge source target = true) path other := by
  have sameSteps : (fun source target => graph.hasEdge source target = true) =
      fun path next => next ∈ graph.neighboursOf graph.outgoing path := by
    funext source target
    exact propext wellFormed.hasEdge_iff
  rw [sameSteps]
  exact wellFormed.mem_reachable_iff wellFormed.outgoing_isDirection

theorem mem_transitiveImporters_iff (wellFormed : graph.WellFormed) {path other : String} :
    other ∈ graph.transitiveImporters path ↔ other ≠ path ∧
      TransGen (fun target source => graph.hasEdge source target = true) path other := by
  have sameSteps : (fun target source => graph.hasEdge source target = true) =
      fun path next => next ∈ graph.neighboursOf graph.incoming path := by
    funext target source
    exact propext (wellFormed.hasEdge_iff.trans wellFormed.mem_importsOf_iff)
  rw [sameSteps]
  exact wellFormed.mem_reachable_iff wellFormed.incoming_isDirection

private theorem mem_transitiveImports_comm (wellFormed : graph.WellFormed) {path other : String} :
    other ∈ graph.transitiveImports path ↔ path ∈ graph.transitiveImporters other := by
  rw [wellFormed.mem_transitiveImports_iff, wellFormed.mem_transitiveImporters_iff, ne_comm,
    transGen_swap (r := fun source target => graph.hasEdge source target = true)]

end WellFormed

private theorem reachable_of_not_contains {graph : DependencyGraph} {path : String}
    (unknown : graph.contains path = false) (adjacency : List (List NodeId)) :
    graph.reachable adjacency path = [] := by
  rw [contains, Option.isSome_eq_false_iff, Option.isNone_iff_eq_none] at unknown
  rw [reachable, unknown]

private theorem nodup_reachable (graph : DependencyGraph) (adjacency : List (List NodeId))
    (path : String) : (graph.reachable adjacency path).Nodup := by
  apply (pairwise_reachable graph adjacency path).imp
  intro left right before equal
  exact String.lt_irrefl right (equal ▸ before)

/-- The transitive queries are exact. From any known path the rounds of the search end, in either
direction, after no more of them than there are nodes. What a path imports transitively is what
chains of one or more edges lead to from it, the path itself apart, and its transitive importers are
what such chains lead from; nothing is listed twice, and for an unknown path nothing is. -/
theorem transitive_exact (changes : List Change) (path : String) :
    (∀ start, (ofChanges changes).idOf? path = some start →
      ∀ adjacency ∈ [(ofChanges changes).outgoing, (ofChanges changes).incoming],
        ∃ count ≤ (ofChanges changes).nodeCount,
          (Search.round adjacency)^[count] ⟨[start], [start]⟩ =
            ⟨explore (ofChanges changes).nodeCount adjacency [start] [start], []⟩) ∧
    (∀ other, other ∈ (ofChanges changes).transitiveImports path ↔ other ≠ path ∧
      TransGen (fun source target => (ofChanges changes).hasEdge source target = true)
        path other) ∧
    (∀ other, other ∈ (ofChanges changes).transitiveImporters path ↔ other ≠ path ∧
      TransGen (fun target source => (ofChanges changes).hasEdge source target = true)
        path other) ∧
    (∀ other, other ∈ (ofChanges changes).transitiveImports path ↔
      path ∈ (ofChanges changes).transitiveImporters other) ∧
    path ∉ (ofChanges changes).transitiveImports path ∧
    path ∉ (ofChanges changes).transitiveImporters path ∧
    ((ofChanges changes).contains path = false →
      (ofChanges changes).transitiveImports path = [] ∧
      (ofChanges changes).transitiveImporters path = []) ∧
    ((ofChanges changes).transitiveImports path).Nodup ∧
    ((ofChanges changes).transitiveImporters path).Nodup := by
  have wellFormed := wellFormed_ofChanges changes
  refine ⟨?_, fun _ => wellFormed.mem_transitiveImports_iff,
    fun _ => wellFormed.mem_transitiveImporters_iff,
    fun _ => wellFormed.mem_transitiveImports_comm, ?_, ?_, ?_,
    nodup_reachable _ _ path, nodup_reachable _ _ path⟩
  · intro start known adjacency isDirection
    have inRange : start < (ofChanges changes).nodeCount :=
      (List.getElem?_eq_some_iff.mp (wellFormed.idOf?_eq_some_iff.mp known)).1
    rcases List.mem_cons.mp isDirection with outgoing | incoming
    · rw [outgoing]
      exact exists_rounds_le wellFormed.target_lt wellFormed.targets_nodup inRange
    · rw [List.mem_singleton.mp incoming]
      exact exists_rounds_le wellFormed.source_lt wellFormed.sources_nodup inRange
  · intro itself
    exact (wellFormed.mem_transitiveImports_iff.mp itself).1 rfl
  · intro itself
    exact (wellFormed.mem_transitiveImporters_iff.mp itself).1 rfl
  · intro unknown
    exact ⟨reachable_of_not_contains unknown _, reachable_of_not_contains unknown _⟩

end ImportAtlas.DependencyGraph
