import ImportAtlas.Proofs.Graph.Calls

/-! # Ranked files

The files that others import are ranked by the number of their importers. The numbers are those of
incoming neighbours, and since the two directions of the edges agree, they count the files from
which an edge leads there. Sorting is stable, so files with equally many importers stay in the order
in which they were added. Main statement: the front of the ranking has the files with the most
importers, in this order.
-/

namespace ImportAtlas.DependencyGraph

/-! ## Sorting by counts -/

def sortByCount (entries : List ImporterCount) : List ImporterCount :=
  entries.mergeSort fun left right => right.count ≤ left.count

theorem count_le_trans (first second third : ImporterCount)
    (before : decide (second.count ≤ first.count) = true)
    (after : decide (third.count ≤ second.count) = true) :
    decide (third.count ≤ first.count) = true := by
  rw [decide_eq_true_eq] at before after ⊢
  exact Nat.le_trans after before

theorem count_le_total (left right : ImporterCount) :
    (decide (right.count ≤ left.count) || decide (left.count ≤ right.count)) = true := by
  rw [Bool.or_eq_true, decide_eq_true_eq, decide_eq_true_eq]
  exact Nat.le_total right.count left.count

theorem sortByCount_perm (entries : List ImporterCount) : (sortByCount entries).Perm entries :=
  List.mergeSort_perm entries _

private theorem filter_sortByCount (entries : List ImporterCount) (count : Nat) :
    (sortByCount entries).filter (fun entry => entry.count = count) =
      entries.filter fun entry => entry.count = count := by
  have ties : (entries.filter fun entry => entry.count = count).Pairwise
      fun left right => decide (right.count ≤ left.count) = true := by
    apply List.pairwise_of_forall_mem_list
    intro left inLeft right inRight
    have leftCount := of_decide_eq_true (List.mem_filter.mp inLeft).2
    have rightCount := of_decide_eq_true (List.mem_filter.mp inRight).2
    rw [decide_eq_true_eq]
    exact Nat.le_of_eq (rightCount.trans leftCount.symm)
  have kept : (entries.filter fun entry => entry.count = count).Sublist (sortByCount entries) :=
    List.sublist_mergeSort count_le_trans count_le_total ties List.filter_sublist
  have within := kept.filter fun entry => entry.count = count
  simp only [List.filter_filter, Bool.and_self] at within
  exact (within.eq_of_length ((sortByCount_perm entries).filter _).length_eq.symm).symm

private theorem pairwise_sortByCount {entries : List ImporterCount}
    {precedes : ImporterCount → ImporterCount → Prop} (ordered : entries.Pairwise precedes) :
    (sortByCount entries).Pairwise fun left right => right.count < left.count ∨
      (right.count = left.count ∧ precedes left right) := by
  have falling : (sortByCount entries).Pairwise
      fun left right => decide (right.count ≤ left.count) = true :=
    List.pairwise_mergeSort count_le_trans count_le_total entries
  rw [List.pairwise_iff_forall_sublist] at falling ordered ⊢
  intro left right pair
  have atMost := of_decide_eq_true (falling pair)
  rcases Nat.lt_or_eq_of_le atMost with fewer | same
  · exact .inl fewer
  · have tied := pair.filter fun entry => entry.count = left.count
    rw [filter_sortByCount] at tied
    have both : [left, right].filter (fun entry => entry.count = left.count) = [left, right] := by
      simp [same]
    rw [both] at tied
    exact .inr ⟨same, ordered (tied.trans List.filter_sublist)⟩

/-! ## The files with importers -/

def importingFiles (graph : DependencyGraph) (path : String) : List String :=
  graph.paths.filter fun source => graph.hasEdge source path

def importerCounts (graph : DependencyGraph) : List ImporterCount :=
  graph.paths.map fun path => ⟨path, (graph.importingFiles path).length⟩

/-- One file comes before another in the ranking: it has more importers, or it has as many and was
added earlier. -/
def Outranks (graph : DependencyGraph) (left right : ImporterCount) : Prop :=
  right.count < left.count ∨
    (right.count = left.count ∧ graph.paths.idxOf left.path < graph.paths.idxOf right.path)

private theorem mem_importerCounts_iff {graph : DependencyGraph} {entry : ImporterCount} :
    entry ∈ graph.importerCounts ↔
      entry.path ∈ graph.paths ∧ entry.count = (graph.importingFiles entry.path).length := by
  rw [importerCounts, List.mem_map]
  constructor
  · rintro ⟨path, known, rfl⟩
    exact ⟨known, rfl⟩
  · rintro ⟨known, counted⟩
    exact ⟨entry.path, known, by rw [← counted]⟩

private theorem map_path_importerCounts (graph : DependencyGraph) :
    graph.importerCounts.map ImporterCount.path = graph.paths := by
  rw [importerCounts, List.map_map]
  exact List.map_id graph.paths

private theorem pairwise_idxOf {paths : List String} (distinct : paths.Nodup) :
    paths.Pairwise fun left right => paths.idxOf left < paths.idxOf right := by
  rw [List.pairwise_iff_getElem]
  intro first second firstInRange secondInRange before
  rw [distinct.idxOf_getElem, distinct.idxOf_getElem]
  exact before

namespace WellFormed

variable {graph : DependencyGraph}

theorem importersOf_perm (wellFormed : graph.WellFormed) (path : String) :
    (graph.importersOf path).Perm (graph.importingFiles path) := by
  have distinct : (graph.importingFiles path).Nodup := wellFormed.distinct.filter _
  rw [List.perm_ext_iff_of_nodup (wellFormed.nodup_importersOf path) distinct]
  intro source
  rw [importingFiles, List.mem_filter, wellFormed.hasEdge_iff, wellFormed.mem_importsOf_iff]
  constructor
  · intro imports
    exact ⟨(wellFormed.mem_paths_of_mem_neighboursOf wellFormed.incoming_isDirection imports).2,
      imports⟩
  · intro imports
    exact imports.2

theorem rankedByImporters_eq (wellFormed : graph.WellFormed) :
    graph.rankedByImporters =
      sortByCount (graph.importerCounts.filter fun entry => entry.count ≠ 0) := by
  have counts : (graph.paths.zip (graph.incoming.map List.length)).map
      (fun entry => ImporterCount.mk entry.1 entry.2) = graph.importerCounts := by
    rw [wellFormed.map_length_incoming, ← List.map_prod_left_eq_zip, List.map_map, importerCounts]
    apply List.map_congr_left
    intro path _
    rw [← (wellFormed.importersOf_perm path).length_eq]
    rfl
  exact congrArg (fun entries => sortByCount (entries.filter fun entry => entry.count ≠ 0)) counts

theorem mem_rankedByImporters_iff (wellFormed : graph.WellFormed) {entry : ImporterCount} :
    entry ∈ graph.rankedByImporters ↔ entry.path ∈ graph.paths ∧
      entry.count = (graph.importingFiles entry.path).length ∧ 1 ≤ entry.count := by
  rw [wellFormed.rankedByImporters_eq, (sortByCount_perm _).mem_iff, List.mem_filter,
    mem_importerCounts_iff, decide_eq_true_eq, and_assoc, Nat.one_le_iff_ne_zero]

private theorem length_rankedByImporters (wellFormed : graph.WellFormed) :
    graph.rankedByImporters.length =
      graph.paths.countP fun path => graph.importingFiles path ≠ [] := by
  rw [wellFormed.rankedByImporters_eq, (sortByCount_perm _).length_eq,
    ← List.countP_eq_length_filter, importerCounts, List.countP_map]
  apply List.countP_congr
  intro path _
  simp

private theorem nodup_rankedByImporters (wellFormed : graph.WellFormed) :
    (graph.rankedByImporters.map ImporterCount.path).Nodup := by
  rw [wellFormed.rankedByImporters_eq, ((sortByCount_perm _).map _).nodup_iff]
  apply List.Nodup.sublist (List.filter_sublist.map ImporterCount.path)
  rw [map_path_importerCounts]
  exact wellFormed.distinct

theorem pairwise_rankedByImporters (wellFormed : graph.WellFormed) :
    graph.rankedByImporters.Pairwise graph.Outranks := by
  rw [wellFormed.rankedByImporters_eq]
  apply pairwise_sortByCount
  apply List.Pairwise.filter
  rw [importerCounts, List.pairwise_map]
  exact pairwise_idxOf wellFormed.distinct

end WellFormed

/-! ## The front of the ranking -/

theorem mem_rankedByImporters_of_mem {graph : DependencyGraph} {limit : Int}
    {entry : ImporterCount} (listed : entry ∈ graph.mostConnected limit) :
    entry ∈ graph.rankedByImporters := by
  unfold mostConnected takeSigned at listed
  cases limit with
  | ofNat _ => exact List.mem_of_mem_take listed
  | negSucc _ => exact List.mem_of_mem_take listed

private theorem mostConnected_natCast (graph : DependencyGraph) (limit : Nat) :
    graph.mostConnected limit = graph.rankedByImporters.take limit := rfl

/-- The files with the most importers, as many as a limit allows: different files with at least one
importer, each with the number of its importers, in the order of the ranking. If a file with
importers is left out although the limit is not zero, the last of those that are listed comes before
it. -/
structure IsTop (graph : DependencyGraph) (limit : Nat) (listed : List ImporterCount) : Prop where
  length_eq : listed.length =
    min limit (graph.paths.countP fun path => graph.importingFiles path ≠ [])
  nodup : (listed.map ImporterCount.path).Nodup
  counted : ∀ entry ∈ listed, entry.path ∈ graph.paths ∧
    entry.count = (graph.importingFiles entry.path).length ∧ 1 ≤ entry.count
  ordered : listed.Pairwise graph.Outranks
  last_outranks : 1 ≤ limit → ∀ path ∈ graph.paths, graph.importingFiles path ≠ [] →
    path ∉ listed.map ImporterCount.path → ∃ last, listed.getLast? = some last ∧
      graph.Outranks last ⟨path, (graph.importingFiles path).length⟩

namespace WellFormed

variable {graph : DependencyGraph}

private theorem outranks_of_not_mem (wellFormed : graph.WellFormed) {limit : Nat}
    {entry other : ImporterCount} (listed : entry ∈ graph.rankedByImporters.take limit)
    (ranked : other ∈ graph.rankedByImporters)
    (leftOut : other ∉ graph.rankedByImporters.take limit) : graph.Outranks entry other := by
  have ordered := wellFormed.pairwise_rankedByImporters
  rw [← List.take_append_drop limit graph.rankedByImporters] at ordered ranked
  have behind := (List.mem_append.mp ranked).resolve_left leftOut
  exact (List.pairwise_append.mp ordered).2.2 entry listed other behind

private theorem isTop_take (wellFormed : graph.WellFormed) (limit : Nat) :
    graph.IsTop limit (graph.rankedByImporters.take limit) where
  length_eq := by
    rw [List.length_take, wellFormed.length_rankedByImporters]
  nodup := wellFormed.nodup_rankedByImporters.sublist ((List.take_sublist limit _).map _)
  counted := by
    intro entry listed
    exact wellFormed.mem_rankedByImporters_iff.mp (List.mem_of_mem_take listed)
  ordered := wellFormed.pairwise_rankedByImporters.sublist (List.take_sublist limit _)
  last_outranks := by
    intro positive path known imported unlisted
    have ranked : ⟨path, (graph.importingFiles path).length⟩ ∈ graph.rankedByImporters :=
      wellFormed.mem_rankedByImporters_iff.mpr
        ⟨known, rfl, List.length_pos_iff.mpr imported⟩
    have leftOut : ⟨path, (graph.importingFiles path).length⟩ ∉
        graph.rankedByImporters.take limit :=
      fun member => unlisted (List.mem_map_of_mem member)
    have nonempty : graph.rankedByImporters.take limit ≠ [] := by
      rw [ne_eq, List.take_eq_nil_iff, not_or]
      exact ⟨Nat.one_le_iff_ne_zero.mp positive, List.ne_nil_of_mem ranked⟩
    refine ⟨_, List.getLast?_eq_some_getLast nonempty, ?_⟩
    exact wellFormed.outranks_of_not_mem (List.getLast_mem nonempty) ranked leftOut

end WellFormed

/-- After any calls and for any limit, the files that are listed as the most connected ones are
those with the most importers, and a smaller limit lists the front of what a larger one lists. -/
theorem mostConnected_isTop (changes : List Change) (limit : Nat) :
    (ofChanges changes).IsTop limit ((ofChanges changes).mostConnected limit) ∧
      ∀ larger, limit ≤ larger → (ofChanges changes).mostConnected limit =
        ((ofChanges changes).mostConnected larger).take limit := by
  have wellFormed := wellFormed_ofChanges changes
  refine ⟨wellFormed.isTop_take limit, ?_⟩
  intro larger bounded
  rw [mostConnected_natCast, mostConnected_natCast, List.take_take, Nat.min_eq_left bounded]

example : (ofChanges [.edge "a" "b", .edge "a" "c", .edge "b" "c", .edge "c" "a"]).mostConnected 2 =
    [⟨"c", 2⟩, ⟨"a", 1⟩] := by cbv

end ImportAtlas.DependencyGraph
