import ImportAtlas.Graph.Check
import Mathlib.Data.List.Nodup
import Mathlib.Data.List.Perm.Subperm

/-! # What the check of a graph reports

The parts of a stored graph may disagree in any way, as long as the positions in it are those of
nodes. The check goes over the index entry by entry, and over each direction of the edges neighbour
by neighbour, and has at most one thing to say of each. That nothing is said although the check
never compares two nodes, and never looks for the nodes in the index, is enough: if there are as
many entries as nodes, and every entry leads to the node of its path, then there is one for every
node. Main statement: every disagreement is reported once, in a fixed order, and nothing is reported
exactly if the parts agree.
-/

namespace ImportAtlas.StoredGraph

/-! ## Graphs whose positions are those of nodes -/

structure IsPlaced (graph : StoredGraph) (adjacency : List (List Int)) : Prop where
  length_eq : adjacency.length = graph.nodeCount
  bounds : ∀ neighbours ∈ adjacency, ∀ id ∈ neighbours, 0 ≤ id ∧ id < graph.nodeCount

/-- Neighbours are nodes, and the index has at most one entry for a path, which counts from the
front but may lead behind the last node. -/
structure IsAddressed (graph : StoredGraph) : Prop where
  keys_nodup : (graph.index.map Prod.fst).Nodup
  index_nonneg : ∀ entry ∈ graph.index, 0 ≤ entry.2
  outgoing : graph.IsPlaced graph.outgoing
  incoming : graph.IsPlaced graph.incoming

/-- The parts of a graph agree. No path has two nodes; the index leads from the path of every node
to its position and knows no other path; an edge is known to both of its ends or to neither; and the
edges are counted right. -/
structure IsConsistent (graph : StoredGraph) : Prop where
  distinct : graph.paths.Nodup
  indexed : ∀ path id, graph.idOf? path = some id ↔
    ∃ position : Nat, id = position ∧ graph.paths[position]? = some path
  symmetric : ∀ source target : Nat, (target : Int) ∈ graph.outgoing.getD source [] ↔
    (source : Int) ∈ graph.incoming.getD target []
  counted : graph.edgeCount = graph.outgoing.flatten.length

/-! ## Disagreements -/

def nameOf (graph : StoredGraph) (id : Int) : String := graph.paths.getD id.toNat ""

def wrongEntries (graph : StoredGraph) : List (String × Int) :=
  graph.index.filter fun entry => graph.paths[entry.2.toNat]? ≠ some entry.1

def oneSided (adjacency opposite : List (List Int)) : List (Int × Int) :=
  (adjacentPairs adjacency).filter fun pair => pair.1 ∉ opposite.getD pair.2.toNat []

/-- All disagreements between the parts of a graph. -/
def reports (graph : StoredGraph) : List Problem :=
  (if graph.index.length = graph.nodeCount then []
    else [.indexSize graph.index.length graph.nodeCount])
  ++ graph.wrongEntries.map (fun entry => .indexEntry entry.1)
  ++ (oneSided graph.outgoing graph.incoming).map (fun (source, target) =>
      .missingSource (graph.nameOf source) (graph.nameOf target))
  ++ (oneSided graph.incoming graph.outgoing).map (fun (target, source) =>
      .missingTarget (graph.nameOf target) (graph.nameOf source))
  ++ (if graph.edgeCount = graph.outgoing.flatten.length then []
    else [.edgeCount graph.edgeCount graph.outgoing.flatten.length])

/-! ## Reading positions -/

private theorem itemAt_natCast {α : Type} {items : List α} {position : Nat} {item : α}
    (found : items[position]? = some item) : itemAt items (position : Int) = .ok item := by
  have inRange : position < items.length := (List.getElem?_eq_some_iff.mp found).1
  have notNegative : ¬((position : Int) < 0) := by omega
  have fromFront : (0 : Int) ≤ position ∧ (position : Int) < items.length := by omega
  simp [itemAt, slot?, notNegative, fromFront, found]

theorem itemAt_eq_getD {α : Type} {items : List α} {position : Int}
    (inRange : 0 ≤ position ∧ position < items.length) (fallback : α) :
    itemAt items position = .ok (items.getD position.toNat fallback) := by
  obtain ⟨slot, rfl⟩ := Int.eq_ofNat_of_zero_le inRange.1
  have bounded : slot < items.length := by omega
  apply itemAt_natCast
  simp [bounded]

theorem pathAt_eq_nameOf {graph : StoredGraph} {id : Int}
    (inRange : 0 ≤ id ∧ id < graph.nodeCount) : graph.pathAt id = .ok (graph.nameOf id) :=
  itemAt_eq_getD inRange ""

theorem mem_getD_nil_iff {adjacency : List (List Int)} {position : Nat} {neighbour : Int} :
    neighbour ∈ adjacency.getD position [] ↔
      ∃ neighbours, adjacency[position]? = some neighbours ∧ neighbour ∈ neighbours := by
  rw [List.getD_eq_getElem?_getD]
  cases adjacency[position]? <;> simp

theorem mem_adjacentPairs_iff {adjacency : List (List Int)} {id neighbour : Int} :
    (id, neighbour) ∈ adjacentPairs adjacency ↔
      ∃ position : Nat, id = position ∧ neighbour ∈ adjacency.getD position [] := by
  simp only [adjacentPairs, List.mem_flatMap, List.mem_map, Prod.exists,
    List.mk_mem_zipIdx_iff_getElem?, Prod.mk.injEq, mem_getD_nil_iff]
  constructor
  · rintro ⟨neighbours, position, found, other, member, rfl, rfl⟩
    exact ⟨position, rfl, neighbours, found, member⟩
  · rintro ⟨position, rfl, neighbours, found, member⟩
    exact ⟨neighbours, position, found, neighbour, member, rfl, rfl⟩

namespace IsPlaced

variable {graph : StoredGraph} {adjacency : List (List Int)}

theorem neighbour_bounds (placed : graph.IsPlaced adjacency) {position : Nat} {neighbour : Int}
    (member : neighbour ∈ adjacency.getD position []) :
    position < graph.nodeCount ∧ 0 ≤ neighbour ∧ neighbour < graph.nodeCount := by
  obtain ⟨neighbours, found, inNeighbours⟩ := mem_getD_nil_iff.mp member
  have inRange : position < adjacency.length := (List.getElem?_eq_some_iff.mp found).1
  exact ⟨placed.length_eq ▸ inRange,
    placed.bounds neighbours (List.mem_of_getElem? found) neighbour inNeighbours⟩

private theorem pair_bounds (placed : graph.IsPlaced adjacency) {pair : Int × Int}
    (member : pair ∈ adjacentPairs adjacency) :
    (0 ≤ pair.1 ∧ pair.1 < graph.nodeCount) ∧ 0 ≤ pair.2 ∧ pair.2 < graph.nodeCount := by
  obtain ⟨position, first, inNeighbours⟩ := mem_adjacentPairs_iff.mp member
  have bounds := placed.neighbour_bounds inNeighbours
  have inRange : (position : Int) < graph.nodeCount := by exact_mod_cast bounds.1
  rw [first]
  exact ⟨⟨Int.natCast_nonneg position, inRange⟩, bounds.2⟩

end IsPlaced

/-! ## What is said of one thing, and of all -/

theorem flatten_mapM_eq {α : Type} {values : List α}
    {question : α → Except Misplaced (List Problem)} {isWrong : α → Bool} {report : α → Problem}
    (answered : ∀ value ∈ values, question value =
      .ok (if isWrong value then [report value] else [])) :
    (values.mapM question).map List.flatten = .ok ((values.filter isWrong).map report) := by
  induction values with
  | nil => rfl
  | cons head tail induction =>
      have headAnswered := answered head List.mem_cons_self
      have tailAnswered := induction fun value member =>
        answered value (List.mem_cons_of_mem head member)
      rw [List.mapM_cons, headAnswered]
      cases answers : tail.mapM question with
      | error misplaced =>
          rw [answers] at tailAnswered
          cases tailAnswered
      | ok found =>
          rw [answers] at tailAnswered
          have collected : found.flatten = (tail.filter isWrong).map report :=
            Except.ok.inj tailAnswered
          by_cases wrong : isWrong head = true <;>
            simp [bind, Except.bind, pure, Except.pure, Except.map, wrong, collected]

section Entries

variable {graph : StoredGraph}

private theorem entryProblems_eq {entry : String × Int} (nonneg : 0 ≤ entry.2) :
    graph.entryProblems entry =
      .ok (if decide (graph.paths[entry.2.toNat]? ≠ some entry.1) then [.indexEntry entry.1]
        else []) := by
  unfold entryProblems
  by_cases behind : (graph.nodeCount : Int) ≤ entry.2
  · have noNode : graph.paths[entry.2.toNat]? = none := by
      rw [List.getElem?_eq_none_iff]
      unfold nodeCount at behind
      omega
    simp [behind, noNode]
  · have inRange : 0 ≤ entry.2 ∧ entry.2 < graph.nodeCount := ⟨nonneg, Int.not_le.mp behind⟩
    have bounded : entry.2.toNat < graph.paths.length := by
      unfold nodeCount at inRange
      omega
    have found : graph.paths[entry.2.toNat]? = some (graph.nameOf entry.2) := by
      simp [nameOf, bounded]
    rw [if_neg behind, pathAt_eq_nameOf inRange, found]
    by_cases same : graph.nameOf entry.2 = entry.1 <;> simp [Except.map, same]

private theorem indexProblems_eq (addressed : graph.IsAddressed) :
    graph.indexProblems = .ok (graph.wrongEntries.map fun entry => .indexEntry entry.1) :=
  flatten_mapM_eq fun entry member => entryProblems_eq (addressed.index_nonneg entry member)

end Entries

/-! The two directions of the edges are compared in the same way, so what is said of a pair is
stated for any two neighbour lists. -/

section Sides

variable {graph : StoredGraph} {adjacency opposite : List (List Int)}

def pairProblems (graph : StoredGraph) (opposite : List (List Int))
    (report : String → String → Problem) (pair : Int × Int) : Except Misplaced (List Problem) := do
  if (← itemAt opposite pair.2).contains pair.1 then return []
  return [report (← graph.pathAt pair.1) (← graph.pathAt pair.2)]

private theorem pairProblems_eq (placed : graph.IsPlaced opposite)
    (report : String → String → Problem)
    {pair : Int × Int} (first : 0 ≤ pair.1 ∧ pair.1 < graph.nodeCount)
    (second : 0 ≤ pair.2 ∧ pair.2 < graph.nodeCount) :
    graph.pairProblems opposite report pair =
      .ok (if decide (pair.1 ∉ opposite.getD pair.2.toNat []) then
        [report (graph.nameOf pair.1) (graph.nameOf pair.2)] else []) := by
  have inRange : 0 ≤ pair.2 ∧ pair.2 < opposite.length := by
    rw [placed.length_eq]
    exact second
  simp only [pairProblems, itemAt_eq_getD inRange [], pathAt_eq_nameOf first,
    pathAt_eq_nameOf second, bind, Except.bind, pure, Except.pure, List.contains_iff_mem,
    decide_not, Bool.not_eq_true', decide_eq_false_iff_not, ite_not]
  split <;> rfl

theorem flatten_mapM_pairProblems (placed : graph.IsPlaced adjacency)
    (oppositePlaced : graph.IsPlaced opposite) (report : String → String → Problem) :
    ((adjacentPairs adjacency).mapM (graph.pairProblems opposite report)).map List.flatten =
      .ok ((oneSided adjacency opposite).map fun pair =>
        report (graph.nameOf pair.1) (graph.nameOf pair.2)) := by
  apply flatten_mapM_eq
  intro pair member
  have bounds := placed.pair_bounds member
  exact pairProblems_eq oppositePlaced report bounds.1 bounds.2

end Sides

section Directions

variable {graph : StoredGraph} (addressed : graph.IsAddressed)
include addressed

private theorem outgoingProblems_eq : graph.outgoingProblems =
    .ok ((oneSided graph.outgoing graph.incoming).map fun pair =>
      .missingSource (graph.nameOf pair.1) (graph.nameOf pair.2)) :=
  flatten_mapM_pairProblems addressed.outgoing addressed.incoming .missingSource

private theorem incomingProblems_eq : graph.incomingProblems =
    .ok ((oneSided graph.incoming graph.outgoing).map fun pair =>
      .missingTarget (graph.nameOf pair.1) (graph.nameOf pair.2)) :=
  flatten_mapM_pairProblems addressed.incoming addressed.outgoing .missingTarget

theorem problems_eq_reports : graph.problems = .ok graph.reports := by
  have counted : graph.countProblems =
      if graph.edgeCount = graph.outgoing.flatten.length then []
      else [.edgeCount graph.edgeCount graph.outgoing.flatten.length] := by
    simp only [countProblems, eq_comm]
  simp only [problems, indexProblems_eq addressed, outgoingProblems_eq addressed,
    incomingProblems_eq addressed, counted]
  rfl

end Directions

/-! ## Graphs without reports -/

section Agreement

variable {graph : StoredGraph}

theorem wrongEntries_eq_nil_iff : graph.wrongEntries = [] ↔
    ∀ entry ∈ graph.index, graph.paths[entry.2.toNat]? = some entry.1 := by
  simp [wrongEntries, List.filter_eq_nil_iff]

theorem entries_perm_zipIdx (addressed : graph.IsAddressed)
    (sameSize : graph.index.length = graph.nodeCount) (right : graph.wrongEntries = []) :
    (graph.index.map fun entry => (entry.1, entry.2.toNat)).Perm graph.paths.zipIdx := by
  have distinct : (graph.index.map fun entry => (entry.1, entry.2.toNat)).Nodup := by
    apply List.Nodup.of_map Prod.fst
    rw [List.map_map]
    exact addressed.keys_nodup
  have listed : graph.index.map (fun entry => (entry.1, entry.2.toNat)) ⊆ graph.paths.zipIdx := by
    intro _ member
    rcases List.mem_map.mp member with ⟨entry, inIndex, rfl⟩
    exact List.mk_mem_zipIdx_iff_getElem?.mpr (wrongEntries_eq_nil_iff.mp right entry inIndex)
  apply (distinct.subperm listed).perm_of_length_le
  rw [List.length_zipIdx, List.length_map]
  exact Nat.le_of_eq sameSize.symm

private theorem keys_perm_paths (addressed : graph.IsAddressed)
    (sameSize : graph.index.length = graph.nodeCount) (right : graph.wrongEntries = []) :
    (graph.index.map Prod.fst).Perm graph.paths := by
  have keys := (entries_perm_zipIdx addressed sameSize right).map Prod.fst
  rw [List.map_map, List.zipIdx_map_fst] at keys
  exact keys

theorem idOf?_eq_some_iff (addressed : graph.IsAddressed) {path : String} {id : Int} :
    graph.idOf? path = some id ↔ (path, id) ∈ graph.index :=
  ⟨Keyed.mem_of_get?, Keyed.get?_of_mem addressed.keys_nodup⟩

private theorem indexed_of_wrongEntries (addressed : graph.IsAddressed)
    (sameSize : graph.index.length = graph.nodeCount) (right : graph.wrongEntries = [])
    (path : String) (id : Int) : graph.idOf? path = some id ↔
      ∃ position : Nat, id = position ∧ graph.paths[position]? = some path := by
  have back : ∀ entry ∈ graph.index, (entry.2.toNat : Int) = entry.2 :=
    fun entry member => Int.toNat_of_nonneg (addressed.index_nonneg entry member)
  rw [idOf?_eq_some_iff addressed]
  constructor
  · intro member
    exact ⟨id.toNat, (back _ member).symm, wrongEntries_eq_nil_iff.mp right _ member⟩
  · rintro ⟨position, rfl, found⟩
    have listed := List.mk_mem_zipIdx_iff_getElem?.mpr found
    rw [← (entries_perm_zipIdx addressed sameSize right).mem_iff] at listed
    rcases List.mem_map.mp listed with ⟨⟨key, id⟩, member, equal⟩
    rcases Prod.mk.inj equal with ⟨rfl, rfl⟩
    rw [back _ member]
    exact member

namespace IsConsistent

theorem wrongEntries (consistent : graph.IsConsistent) (addressed : graph.IsAddressed) :
    graph.wrongEntries = [] := by
  rw [wrongEntries_eq_nil_iff]
  intro entry member
  rcases (consistent.indexed entry.1 entry.2).mp ((idOf?_eq_some_iff addressed).mpr member) with
    ⟨position, id, found⟩
  rw [id, Int.toNat_natCast]
  exact found

private theorem length_index (consistent : graph.IsConsistent) (addressed : graph.IsAddressed) :
    graph.index.length = graph.nodeCount := by
  have sameKeys : (graph.index.map Prod.fst).Perm graph.paths := by
    rw [List.perm_ext_iff_of_nodup addressed.keys_nodup consistent.distinct]
    intro path
    rw [← not_iff_not, ← Keyed.get?_eq_none_iff, List.mem_iff_getElem?,
      Option.eq_none_iff_forall_ne_some]
    constructor
    · rintro unlisted ⟨position, found⟩
      exact unlisted position ((consistent.indexed path position).mpr ⟨position, rfl, found⟩)
    · intro absent id listed
      rcases (consistent.indexed path id).mp listed with ⟨position, _, found⟩
      exact absent ⟨position, found⟩
  rw [← List.length_map Prod.fst, sameKeys.length_eq, nodeCount]

end IsConsistent

private theorem oneSided_eq_nil_iff {adjacency : List (List Int)}
    (placed : graph.IsPlaced adjacency)
    (opposite : List (List Int)) :
    oneSided adjacency opposite = [] ↔ ∀ id neighbour : Nat,
      (neighbour : Int) ∈ adjacency.getD id [] → (id : Int) ∈ opposite.getD neighbour [] := by
  rw [oneSided, List.filter_eq_nil_iff]
  constructor
  · intro known id neighbour member
    simpa using known (id, neighbour) (mem_adjacentPairs_iff.mpr ⟨id, rfl, member⟩)
  · rintro known ⟨id, neighbour⟩ pair
    obtain ⟨position, rfl, member⟩ := mem_adjacentPairs_iff.mp pair
    obtain ⟨other, rfl⟩ := Int.eq_ofNat_of_zero_le (placed.neighbour_bounds member).2.1
    simpa using known position other member

theorem reports_eq_nil_iff (addressed : graph.IsAddressed) :
    graph.reports = [] ↔ graph.IsConsistent := by
  have sides := oneSided_eq_nil_iff addressed.outgoing graph.incoming
  have otherSides := oneSided_eq_nil_iff addressed.incoming graph.outgoing
  simp only [reports, List.append_eq_nil_iff, List.map_eq_nil_iff, ite_eq_left_iff,
    List.cons_ne_nil, imp_false, not_not]
  constructor
  · rintro ⟨⟨⟨⟨sameSize, right⟩, outgoing⟩, incoming⟩, counted⟩
    exact
      { distinct :=
          (keys_perm_paths addressed sameSize right).nodup_iff.mp addressed.keys_nodup
        indexed := indexed_of_wrongEntries addressed sameSize right
        symmetric := fun source target =>
          ⟨sides.mp outgoing source target, otherSides.mp incoming target source⟩
        counted }
  · intro consistent
    have outgoing := sides.mpr fun source target => (consistent.symmetric source target).mp
    have incoming := otherSides.mpr fun target source => (consistent.symmetric source target).mpr
    exact ⟨⟨⟨⟨consistent.length_index addressed, consistent.wrongEntries addressed⟩, outgoing⟩,
      incoming⟩, consistent.counted⟩

end Agreement

/-- The check of a graph whose positions are those of nodes has an answer: it reports a wrong size
of the index, every wrong entry of it, every neighbour that only the importing and every neighbour
that only the imported side knows, and a wrong count of edges, in this order; and it reports nothing
exactly if the parts of the graph agree. -/
theorem problems_exact {graph : StoredGraph} (addressed : graph.IsAddressed) :
    graph.problems = .ok graph.reports ∧ (graph.reports = [] ↔ graph.IsConsistent) :=
  ⟨problems_eq_reports addressed, reports_eq_nil_iff addressed⟩

def damagedGraph : StoredGraph where
  paths := ["a", "b", "a"]
  index := [("a", 0), ("b", 7)]
  outgoing := [[1, 2], [], []]
  incoming := [[], [0], [1]]
  edgeCount := 5

theorem problems_exact_damagedGraph :
    damagedGraph.IsAddressed ∧ ¬damagedGraph.IsConsistent ∧
      damagedGraph.problems = .ok [.indexSize 2 3, .indexEntry "b", .missingSource "a" "a",
        .missingTarget "a" "b", .edgeCount 5 2] := by
  have addressed : damagedGraph.IsAddressed :=
    { keys_nodup := by decide
      index_nonneg := by decide
      outgoing := ⟨by decide, by decide⟩
      incoming := ⟨by decide, by decide⟩ }
  obtain ⟨checked, silent_iff⟩ := problems_exact addressed
  have reported : damagedGraph.reports = [.indexSize 2 3, .indexEntry "b", .missingSource "a" "a",
      .missingTarget "a" "b", .edgeCount 5 2] := by decide +kernel
  refine ⟨addressed, ?_, checked.trans (congrArg Except.ok reported)⟩
  rw [← silent_iff, reported]
  exact List.cons_ne_nil _ _

end ImportAtlas.StoredGraph
