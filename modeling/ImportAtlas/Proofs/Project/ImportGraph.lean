import ImportAtlas.Proofs.FileSystem.Lookup
import ImportAtlas.Proofs.Graph.History
import ImportAtlas.Proofs.Path.Names
import ImportAtlas.Project.Graph

/-! # The import graph of listed files

Building the graph of some files comes down to a row of calls: one for every file, then one
for every import that resolves to a listed file. So the nodes are the listed files, and the
imports of a file are the listed files that the targets in its text resolve to. Main
statement: the built graph is exactly that.
-/

namespace ImportAtlas

/-! ## Texts that are scanned -/

namespace Import

/-- A file has a text to scan: it can be read, has at most as many bytes as the limit allows,
and is UTF-8. Line ends in the text are unified. -/
def HasText (system : FileSystem) (place : Location) (limit : Option Int) (text : String) : Prop :=
  ∃ bytes chars, system.read place = .ok bytes ∧
    (∀ bound, limit = some bound → (bytes.length : Int) ≤ bound) ∧
    Text.Utf8.decode? bytes = some chars ∧ text = String.ofList (Text.unifyNewlines chars)

def text? (system : FileSystem) (place : Location) (limit : Option Int) : Option String :=
  match system.read place with
  | .error _ => none
  | .ok bytes =>
      if exceeds bytes.length limit then none
      else (FileSystem.decodeText? bytes).map String.ofList

theorem exceeds_eq_false_iff {size : Nat} {limit : Option Int} :
    exceeds size limit = false ↔ ∀ bound, limit = some bound → (size : Int) ≤ bound := by
  cases limit with
  | none => simp [exceeds]
  | some bound => simp [exceeds]

theorem text?_eq_some_iff {system : FileSystem} {place : Location} {limit : Option Int}
    {text : String} : text? system place limit = some text ↔ HasText system place limit text := by
  unfold text? HasText
  cases readable : system.read place with
  | error cause => simp
  | ok bytes =>
      by_cases allowed : exceeds bytes.length limit = false
      · have bounded := exceeds_eq_false_iff.mp allowed
        simp only [allowed, Bool.false_eq_true, if_false, FileSystem.decodeText?, Option.map_map,
          Option.map_eq_some_iff, Except.ok.injEq, exists_and_left, exists_eq_left']
        constructor
        · rintro ⟨chars, decoded, equal⟩
          exact ⟨bounded, chars, decoded, equal.symm⟩
        · rintro ⟨_, chars, decoded, equal⟩
          exact ⟨chars, decoded, equal.symm⟩
      · have tooLarge : exceeds bytes.length limit = true := by simpa using allowed
        have unbounded := fun bounded => allowed (exceeds_eq_false_iff.mpr bounded)
        simp only [tooLarge, if_true, reduceCtorEq, false_iff, Except.ok.injEq]
        rintro ⟨_, _, rfl, bounded, _⟩
        exact unbounded bounded

@[simp] theorem outcome_noTargets (place : Location) (reason : String) :
    (noTargets place reason).outcome = .ok [] := by
  simp [noTargets, Except.bind]

private theorem outcome_refusedTargets {place : Location} {cause : Cause}
    (known : cause ≠ .nullCharacter) :
    (refusedTargets place cause).outcome = .ok [] := by
  simp [refusedTargets, known]

section Read

variable {system : FileSystem} {place : Location} {limit : Option Int}

private theorem exceeds_of_sizeUnder {size : Nat} (sized : sizeUnder system place limit = .ok size)
    {bytes : List UInt8} (readable : system.read place = .ok bytes) :
    exceeds size limit = exceeds bytes.length limit := by
  cases limit with
  | none => rfl
  | some bound =>
      rw [sizeUnder, FileSystem.size_of_read readable, Except.ok.injEq] at sized
      rw [sized]

private theorem text?_of_sizeUnder_eq_error {cause : Cause}
    (refused : sizeUnder system place limit = .error cause) : text? system place limit = none := by
  unfold text?
  cases readable : system.read place with
  | error _ => rfl
  | ok bytes =>
      cases limit with
      | none => cases refused
      | some bound =>
          rw [sizeUnder, FileSystem.size_of_read readable] at refused
          cases refused

private theorem sizeUnder_ne_nullCharacter (clean : '\x00' ∉ place.text.toList) :
    sizeUnder system place limit ≠ .error .nullCharacter := by
  cases limit with
  | none => simp [sizeUnder]
  | some bound => exact FileSystem.size_ne_nullCharacter clean

private theorem outcome_readTargets (limit : Option Int) (clean : '\x00' ∉ place.text.toList) :
    (readTargets system place limit).outcome =
      .ok (((text? system place limit).map targets).getD []) := by
  unfold readTargets
  cases sized : sizeUnder system place limit with
  | error cause =>
      have known : cause ≠ .nullCharacter := by
        intro equal
        exact sizeUnder_ne_nullCharacter clean (equal ▸ sized)
      simp [outcome_refusedTargets known, text?_of_sizeUnder_eq_error sized]
  | ok size =>
      simp only [FileSystem.readText, text?]
      cases readable : system.read place with
      | error cause =>
          have known : cause ≠ .nullCharacter := by
            intro equal
            exact FileSystem.read_ne_nullCharacter clean (equal ▸ readable)
          by_cases tooLarge : exceeds size limit = true <;>
            simp [tooLarge, outcome_refusedTargets known]
      | ok bytes =>
          rw [exceeds_of_sizeUnder sized readable]
          by_cases tooLarge : exceeds bytes.length limit = true
          · simp [tooLarge]
          · cases decoded : FileSystem.decodeText? bytes with
            | none => simp [tooLarge, decoded]
            | some chars => simp [tooLarge, decoded]

end Read

end Import

/-! ## Building as a row of calls -/

namespace DependencyGraph

def isListed (records : List FileRecord) (path : String) : Bool :=
  (records.map FileRecord.path).contains path

/-- The listed files that the targets in the text of a file resolve to, in the order of the
targets; none if the file is not scanned. -/
def resolvedTargets (system : FileSystem) (root : Location) (limit : Option Int)
    (records : List FileRecord) (record : FileRecord) : List String :=
  if Import.isScannable record.extension then
    (((Import.text? system (root.child record.path) limit).map Import.targets).getD []).filterMap
      fun target => Import.resolve? (isListed records) target record.path
  else []

def importChanges (system : FileSystem) (root : Location) (limit : Option Int)
    (records : List FileRecord) (record : FileRecord) : List Change :=
  (resolvedTargets system root limit records record).map (.edge record.path)

def buildChanges (system : FileSystem) (root : Location) (limit : Option Int)
    (records : List FileRecord) : List Change :=
  records.map (fun record => .node record.path) ++
    records.flatMap (importChanges system root limit records)

private theorem ofRecords_eq (records : List FileRecord) :
    ofRecords records = ofChanges (records.map fun record => .node record.path) := by
  rw [ofChanges, List.foldl_map]
  rfl

private theorem outcome_addImports (isKnown : String → Bool) (path : String)
    (graph : DependencyGraph)
    (targets : List String) :
    ∃ unresolved, (addImports isKnown path graph targets).outcome =
      .ok (((targets.filterMap fun target => Import.resolve? isKnown target path).map
        (Change.edge path)).foldl apply graph, unresolved) := by
  induction targets generalizing graph with
  | nil => exact ⟨0, rfl⟩
  | cons target rest induction =>
      unfold addImports
      cases resolved : Import.resolve? isKnown target path with
      | some known =>
          simp only [List.filterMap_cons, resolved, List.map_cons, List.foldl_cons]
          exact induction (graph.addEdge path known)
      | none =>
          rcases induction graph with ⟨unresolved, added⟩
          refine ⟨unresolved + 1, ?_⟩
          simp only [List.filterMap_cons, resolved]
          by_cases relative : Import.isRelative target = true <;>
            simp [relative, added, Except.bind]

private theorem outcome_addFiles (system : FileSystem) {root : Location} (limit : Option Int)
    (records : List FileRecord) {files : List FileRecord}
    (clean : ∀ record ∈ files, '\x00' ∉ (root.child record.path).text.toList)
    (graph : DependencyGraph) (count : ScanCount) :
    ∃ counted, (addFiles system root limit (isListed records) graph count files).outcome =
      .ok ((files.flatMap (importChanges system root limit records)).foldl apply graph,
        counted) := by
  induction files generalizing graph count with
  | nil => exact ⟨count, rfl⟩
  | cons record rest induction =>
      have cleanRest : ∀ other ∈ rest, '\x00' ∉ (root.child other.path).text.toList :=
        fun other member => clean other (List.mem_cons_of_mem record member)
      unfold addFiles
      rw [List.flatMap_cons, List.foldl_append]
      by_cases scanned : Import.isScannable record.extension = true
      · have read : (Import.readTargets system (root.child record.path) limit).outcome = _ :=
          Import.outcome_readTargets limit (clean record List.mem_cons_self)
        rcases outcome_addImports (isListed records) record.path graph
            (((Import.text? system (root.child record.path) limit).map Import.targets).getD []) with
          ⟨unresolved, added⟩
        rcases induction cleanRest
            ((importChanges system root limit records record).foldl apply graph)
            ⟨count.scanned + 1, count.unresolved + unresolved⟩ with ⟨counted, finished⟩
        refine ⟨counted, ?_⟩
        rw [if_pos scanned, ← finished]
        simp [read, added, Except.bind, importChanges, resolvedTargets, scanned]
      · have noImports : importChanges system root limit records record = [] := by
          simp [importChanges, resolvedTargets, scanned]
        rw [if_neg scanned, noImports]
        exact induction cleanRest graph count

theorem outcome_build {system : FileSystem} {root : Location} (limit : Option Int)
    {records : List FileRecord}
    (clean : ∀ record ∈ records, '\x00' ∉ (root.child record.path).text.toList) :
    (build system root records limit).outcome =
      .ok (ofChanges (buildChanges system root limit records)) := by
  have sameTest : (fun path => records.any fun record => record.path == path) =
      isListed records := by
    funext path
    rw [Bool.eq_iff_iff, isListed, List.contains_iff_mem]
    simp
  rcases outcome_addFiles system limit records clean (ofRecords records) ⟨0, 0⟩ with
    ⟨counted, added⟩
  simp only [build, sameTest, Reported.outcome_bind, added, Except.bind]
  rw [buildChanges, ofChanges, List.foldl_append, ofRecords_eq, ofChanges]
  rfl

/-! ## What a built graph holds -/

/-- One path imports another: the first is that of a listed file with a scannable extension and
a text, and some target in this text resolves to the second. -/
def Imports (system : FileSystem) (root : Location) (limit : Option Int)
    (records : List FileRecord) (source target : String) : Prop :=
  ∃ record ∈ records, record.path = source ∧ Import.isScannable record.extension = true ∧
    ∃ text, Import.HasText system (root.child source) limit text ∧
      ∃ raw ∈ Import.targets text,
        Import.resolve? (isListed records) raw source = some target

section Built

variable {system : FileSystem} {root : Location} {limit : Option Int} {records : List FileRecord}

private theorem isListed_of_resolve? {isKnown : String → Bool} {raw importer target : String}
    (resolved : Import.resolve? isKnown raw importer = some target) : isKnown target = true :=
  List.find?_some resolved

theorem resolvedTargets_of_text {record : FileRecord} {text : String}
    (scanned : Import.isScannable record.extension = true)
    (given : Import.HasText system (root.child record.path) limit text) :
    resolvedTargets system root limit records record = (Import.targets text).filterMap
      fun raw => Import.resolve? (isListed records) raw record.path := by
  rw [resolvedTargets, if_pos scanned, Import.text?_eq_some_iff.mpr given]
  rfl

theorem mem_resolvedTargets_iff {record : FileRecord} {target : String} :
    target ∈ resolvedTargets system root limit records record ↔
      Import.isScannable record.extension = true ∧
        ∃ text, Import.HasText system (root.child record.path) limit text ∧
          ∃ raw ∈ Import.targets text,
            Import.resolve? (isListed records) raw record.path = some target := by
  constructor
  · intro member
    by_cases scanned : Import.isScannable record.extension = true
    · refine ⟨scanned, ?_⟩
      rw [resolvedTargets, if_pos scanned, List.mem_filterMap] at member
      rcases member with ⟨raw, inTargets, resolved⟩
      cases given : Import.text? system (root.child record.path) limit with
      | none =>
          rw [given] at inTargets
          cases inTargets
      | some text =>
          rw [given] at inTargets
          exact ⟨text, Import.text?_eq_some_iff.mp given, raw, inTargets, resolved⟩
    · rw [resolvedTargets, if_neg scanned] at member
      cases member
  · rintro ⟨scanned, text, given, raw, inTargets, resolved⟩
    rw [resolvedTargets_of_text scanned given, List.mem_filterMap]
    exact ⟨raw, inTargets, resolved⟩

private theorem mem_paths_of_mem_resolvedTargets {record : FileRecord} {target : String}
    (member : target ∈ resolvedTargets system root limit records record) :
    target ∈ records.map FileRecord.path := by
  rcases mem_resolvedTargets_iff.mp member with ⟨_, _, _, _, _, resolved⟩
  exact List.contains_iff_mem.mp (isListed_of_resolve? resolved)

private theorem paths_buildChanges (distinct : (records.map FileRecord.path).Nodup) :
    ((buildChanges system root limit records).flatMap Change.paths).eraseDups =
      records.map FileRecord.path := by
  have nodesFirst : (records.map fun record => Change.node record.path).flatMap Change.paths =
      records.map FileRecord.path := by
    rw [List.flatMap_map, List.map_eq_flatMap]
    rfl
  have nothingNew : ∀ path ∈
      (records.flatMap (importChanges system root limit records)).flatMap Change.paths,
      path ∈ records.map FileRecord.path := by
    intro path member
    rcases List.mem_flatMap.mp member with ⟨change, inChanges, mentioned⟩
    rcases List.mem_flatMap.mp inChanges with ⟨record, listed, inImports⟩
    rcases List.mem_map.mp inImports with ⟨target, resolved, rfl⟩
    have endpoint : path = record.path ∨ path = target := by
      simpa [Change.paths] using mentioned
    rcases endpoint with rfl | rfl
    · exact List.mem_map_of_mem listed
    · exact mem_paths_of_mem_resolvedTargets resolved
  rw [buildChanges, List.flatMap_append, nodesFirst,
    Distinct.eraseDups_append_of_subset nothingNew, Distinct.eraseDups_eq_self distinct]

private theorem importsFor_buildChanges (distinct : (records.map FileRecord.path).Nodup)
    {record : FileRecord} (listed : record ∈ records) :
    (buildChanges system root limit records).filterMap (Change.importFor? record.path) =
      resolvedTargets system root limit records record := by
  have perFile : ∀ other : FileRecord,
      (importChanges system root limit records other).filterMap
        (Change.importFor? record.path) =
      if other.path = record.path then resolvedTargets system root limit records other
      else [] := by
    intro other
    rw [importChanges, List.filterMap_map]
    by_cases same : other.path = record.path <;>
      simp [Function.comp_def, Change.importFor?, same]
  have noneFromNodes : (records.map fun other => Change.node other.path).filterMap
      (Change.importFor? record.path) = [] := by
    simp [Change.importFor?]
  rw [buildChanges, List.filterMap_append, noneFromNodes, List.nil_append,
    List.filterMap_flatMap, funext perFile]
  exact Distinct.flatMap_if_eq distinct _ listed

theorem importersFor_buildChanges (distinct : (records.map FileRecord.path).Nodup)
    (target : String) :
    ((buildChanges system root limit records).filterMap
      (Change.importerFor? target)).eraseDups =
      (records.filter fun record =>
        (resolvedTargets system root limit records record).contains target).map
          FileRecord.path := by
  have noneFromNodes : (records.map fun other => Change.node other.path).filterMap
      (Change.importerFor? target) = [] := by
    simp [Change.importerFor?]
  have own : ∀ record ∈ records, ∀ importer ∈
      (importChanges system root limit records record).filterMap (Change.importerFor? target),
      importer = record.path := by
    intro record _ importer member
    rcases List.mem_filterMap.mp member with ⟨change, inImports, made⟩
    rcases List.mem_map.mp inImports with ⟨resolved, _, rfl⟩
    by_cases asked : resolved = target
    · simpa [Change.importerFor?, asked, eq_comm] using made
    · simp [Change.importerFor?, asked] at made
  rw [buildChanges, List.filterMap_append, noneFromNodes, List.nil_append,
    List.filterMap_flatMap, Distinct.eraseDups_flatMap_keys distinct own]
  congr 1
  apply List.filter_congr
  intro record _
  rw [Bool.eq_iff_iff, List.contains_iff_mem]
  simp [importChanges, Change.importerFor?, List.filterMap_eq_nil_iff]

theorem importsOf_ofChanges_buildChanges (distinct : (records.map FileRecord.path).Nodup)
    {record : FileRecord} (listed : record ∈ records) :
    (ofChanges (buildChanges system root limit records)).importsOf record.path =
      (resolvedTargets system root limit records record).eraseDups := by
  rw [importsOf_ofChanges, importsFor_buildChanges distinct listed]

theorem paths_ofChanges_buildChanges (distinct : (records.map FileRecord.path).Nodup) :
    (ofChanges (buildChanges system root limit records)).paths = records.map FileRecord.path := by
  rw [paths_ofChanges, paths_buildChanges distinct]

theorem mem_importsOf_iff_imports (distinct : (records.map FileRecord.path).Nodup)
    {source target : String} :
    target ∈ (ofChanges (buildChanges system root limit records)).importsOf source ↔
      Imports system root limit records source target := by
  have wellFormed := wellFormed_ofChanges (buildChanges system root limit records)
  constructor
  · intro imported
    have known := (wellFormed.mem_paths_of_mem_neighboursOf wellFormed.outgoing_isDirection
      imported).1
    rw [paths_ofChanges_buildChanges distinct] at known
    rcases List.mem_map.mp known with ⟨record, listed, rfl⟩
    rw [importsOf_ofChanges_buildChanges distinct listed, List.mem_eraseDups] at imported
    exact ⟨record, listed, rfl, mem_resolvedTargets_iff.mp imported⟩
  · rintro ⟨record, listed, rfl, imported⟩
    rw [importsOf_ofChanges_buildChanges distinct listed, List.mem_eraseDups]
    exact mem_resolvedTargets_iff.mpr imported

/-- The built graph is exact. Its nodes are the listed files, and it has an edge wherever one file
imports another. The imports of a file stand in the order of the targets that first resolve to
them, the importers in the order of the files, and none stands twice. -/
theorem build_exact (distinct : (records.map FileRecord.path).Nodup)
    (rootClean : '\x00' ∉ root.text.toList)
    (pathsClean : ∀ record ∈ records, '\x00' ∉ record.path.toList) :
    ∃ graph, (build system root records limit).outcome = .ok graph ∧
      graph.paths = records.map FileRecord.path ∧
      (∀ source target, graph.hasEdge source target = true ↔
        Imports system root limit records source target) ∧
      (∀ source target, target ∈ graph.importsOf source ↔ graph.hasEdge source target = true) ∧
      (∀ record ∈ records, ∀ text, Import.isScannable record.extension = true →
        Import.HasText system (root.child record.path) limit text →
        graph.importsOf record.path = ((Import.targets text).filterMap fun raw =>
          Import.resolve? (isListed records) raw record.path).eraseDups) ∧
      (∀ target, graph.importersOf target =
        (records.map FileRecord.path).filter fun source => graph.hasEdge source target) ∧
      ∀ path, (graph.importsOf path).Nodup ∧ (graph.importersOf path).Nodup := by
  have clean : ∀ record ∈ records, '\x00' ∉ (root.child record.path).text.toList := by
    intro record listed member
    rcases Location.mem_of_mem_text_child (by decide) (by decide) member with inRoot | inPath
    · exact rootClean inRoot
    · exact pathsClean record listed inPath
  have wellFormed := wellFormed_ofChanges (buildChanges system root limit records)
  refine ⟨_, outcome_build limit clean, paths_ofChanges_buildChanges distinct, ?_,
    fun _ _ => wellFormed.hasEdge_iff.symm, ?_, ?_, ?_⟩
  · intro source target
    rw [wellFormed.hasEdge_iff, mem_importsOf_iff_imports distinct]
  · intro record listed text scanned given
    rw [importsOf_ofChanges_buildChanges distinct listed, resolvedTargets_of_text scanned given]
  · intro target
    rw [importersOf_ofChanges, importersFor_buildChanges distinct, List.filter_map]
    congr 1
    apply List.filter_congr
    intro record listed
    rw [Bool.eq_iff_iff, List.contains_iff_mem, Function.comp_apply, wellFormed.hasEdge_iff,
      importsOf_ofChanges_buildChanges distinct listed, List.mem_eraseDups]
  · intro path
    rw [importsOf_ofChanges, importersOf_ofChanges]
    exact ⟨Distinct.nodup_eraseDups _, Distinct.nodup_eraseDups _⟩

end Built

def twoFiles : FileSystem where
  top := .directory .newDirectory [("r", .directory .newDirectory [
    ("a.ts", .file .newFile ("import './b'\nimport './b.ts'".toList.map Char.toUInt8)),
    ("b.ts", .file .newFile [])])]
  workingDirectory := []
  isPrivileged := false

theorem build_exact_twoFiles :
    ∃ graph, (build twoFiles (.ofText "/r") [.ofPath "a.ts", .ofPath "b.ts"] (some 100)).outcome =
        .ok graph ∧
      graph.paths = ["a.ts", "b.ts"] ∧ graph.importsOf "a.ts" = ["b.ts"] ∧
      graph.hasEdge "a.ts" "b.ts" = true := by
  have given : Import.HasText twoFiles ((Location.ofText "/r").child "a.ts") (some 100)
      "import './b'\nimport './b.ts'" := by
    refine ⟨"import './b'\nimport './b.ts'".toList.map Char.toUInt8,
      "import './b'\nimport './b.ts'".toList, by decide +kernel, ?_, by decide +kernel,
      by decide +kernel⟩
    rintro bound ⟨⟩
    decide +kernel
  rcases @build_exact twoFiles (.ofText "/r") (some 100) [.ofPath "a.ts", .ofPath "b.ts"]
      (by decide +kernel) (by decide +kernel) (by decide +kernel)
    with ⟨graph, built, paths, _, edges, imports, _⟩
  have imported : graph.importsOf "a.ts" = ["b.ts"] := by
    refine (imports (.ofPath "a.ts") List.mem_cons_self _ (by decide +kernel) given).trans ?_
    decide +kernel
  refine ⟨graph, built, paths, imported, (edges "a.ts" "b.ts").mp ?_⟩
  rw [imported]
  exact List.mem_cons_self

end DependencyGraph

end ImportAtlas
