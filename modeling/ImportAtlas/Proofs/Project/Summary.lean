import ImportAtlas.Proofs.Project.Views
import ImportAtlas.Proofs.Text.Halves
import Mathlib.Data.List.Nodup

/-! # Lines of a summary

A summary shows the name of the project and its files as they are, so it has more lines than these
where a line feed stands in one of them. Main statement: the lines of a summary are those of its
header and of its files, in order, and each of them has one line exactly if no shown name has a line
feed in it.
-/

namespace ImportAtlas

open Text (Code Coded)

/-! ## Lines of joined texts -/

namespace Text

section Split

variable {α : Type} [DecidableEq α] {separator : α} {parts : List (List α)}

private theorem split_join_eq_flatMap (nonempty : parts ≠ []) :
    split separator (join [separator] parts) = parts.flatMap (split separator) := by
  induction parts with
  | nil => exact absurd rfl nonempty
  | cons part rest induction =>
      cases rest with
      | nil => simp [join]
      | cons next parts =>
          rw [join, List.append_assoc, List.singleton_append, split_append,
            induction (List.cons_ne_nil next parts)]
          exact List.flatMap_cons.symm

private theorem split_join_eq_self_iff (nonempty : parts ≠ []) :
    split separator (join [separator] parts) = parts ↔ ∀ part ∈ parts, separator ∉ part := by
  constructor
  · intro same part member
    rw [← same] at member
    exact separator_not_mem_of_mem_split member
  · exact split_join nonempty

end Split

def Coded.lines (text : Coded) : List Coded :=
  split (.char '\n') text

end Text

/-! ## Lines of files and headers -/

private theorem lineFeed_not_mem_toString (number : Nat) : '\n' ∉ (toString number).toList := by
  intro member
  have isDigit : '\n'.isDigit = true :=
    Nat.isDigit_of_mem_toDigits (by decide) (by decide) (Nat.toList_repr ▸ member)
  exact absurd isDigit (by decide)

private theorem FileContext.lineFeed_mem_summaryLine {file : FileContext} :
    .char '\n' ∈ file.summaryLine ↔ '\n' ∈ file.path.toList := by
  simp only [summaryLine, lineAbout, List.mem_append, Coded.mem_ofText, lineFeed_not_mem_toString]
  simp

namespace ProjectContext

variable {context : ProjectContext}

/-- Whether the name and the version of a project are free of line feeds, as far as they are
shown. -/
def HasPlainTitle (context : ProjectContext) : Prop :=
  ∀ manifest ∈ context.manifest, ∀ name ∈ manifest.name, name ≠ [] →
    .char '\n' ∉ name ∧ ∀ version ∈ manifest.version, .char '\n' ∉ version

theorem header?_cases (context : ProjectContext) :
    (context.header? = none ∧
      ∀ manifest ∈ context.manifest, ∀ name ∈ manifest.name, name = []) ∨
    ∃ manifest name, context.manifest = some manifest ∧ manifest.name = some name ∧ name ≠ [] ∧
      ∃ header, context.header? = some header ∧
        (.char '\n' ∈ header ↔
          .char '\n' ∈ name ∨ ∃ version ∈ manifest.version, .char '\n' ∈ version) := by
  rcases context with ⟨files, _ | ⟨_ | name, version, dependencies, devDependencies, scripts⟩⟩
  · exact Or.inl ⟨rfl, nofun⟩
  · refine Or.inl ⟨rfl, ?_⟩
    rintro _ ⟨⟩ name ⟨⟩
  · by_cases empty : name = []
    · refine Or.inl ⟨by simp [header?, empty], ?_⟩
      rintro _ ⟨⟩ _ ⟨⟩
      exact empty
    · refine Or.inr ⟨_, name, rfl, rfl, empty, ?_⟩
      rcases version with _ | version
      · exact ⟨"# " ++ name, by simp [header?, Option.filter, empty], by simp⟩
      · -- An empty version is not shown, but there is no line feed in it either.
        by_cases noVersion : version = []
        · refine ⟨"# " ++ name, ?_, by simp [noVersion]⟩
          simp [header?, Option.filter, empty, noVersion]
        · refine ⟨"# " ++ name ++ " " ++ version, ?_, by simp⟩
          simp [header?, Option.filter, empty, noVersion]

private theorem header?_isSome_iff : context.header?.isSome = true ↔
    ∃ manifest ∈ context.manifest, ∃ name ∈ manifest.name, name ≠ [] := by
  rcases context.header?_cases with ⟨header, unnamed⟩ |
    ⟨manifest, name, given, named, nonempty, header, isHeader, _⟩
  · rw [header]
    refine iff_of_false nofun ?_
    rintro ⟨manifest, given, name, named, nonempty⟩
    exact nonempty (unnamed manifest given name named)
  · rw [isHeader]
    exact iff_of_true rfl ⟨manifest, given, name, named, nonempty⟩

private theorem hasPlainTitle_iff :
    context.HasPlainTitle ↔ ∀ header ∈ context.header?, Code.char '\n' ∉ header := by
  rcases context.header?_cases with ⟨header, unnamed⟩ |
    ⟨manifest, name, given, named, nonempty, header, isHeader, broken⟩
  · rw [header]
    refine iff_of_true ?_ nofun
    intro manifest given name named nonempty
    exact absurd (unnamed manifest given name named) nonempty
  · simp [HasPlainTitle, given, named, nonempty, isHeader, broken, not_or]

theorem summaryParts_ne_nil (someFile : context.files ≠ []) :
    context.header?.toList ++ context.summaryLines ≠ [] := by
  simp [summaryLines, someFile]

private theorem lines_summary_iff (someFile : context.files ≠ []) :
    context.summary.lines = context.header?.toList ++ context.summaryLines ↔
      context.HasPlainTitle ∧ ∀ file ∈ context.files, '\n' ∉ file.path.toList := by
  have ofFiles : (∀ line ∈ context.summaryLines, Code.char '\n' ∉ line) ↔
      ∀ file ∈ context.files, '\n' ∉ file.path.toList := by
    simp [summaryLines, FileContext.lineFeed_mem_summaryLine]
  rw [summary, Coded.lines, Text.split_join_eq_self_iff (summaryParts_ne_nil someFile),
    List.forall_mem_append, ofFiles, hasPlainTitle_iff]
  simp

end ProjectContext

/-! ## Summaries of projects -/

namespace Project

variable {project : Project} {config : Config} {records : List FileRecord}
  {graph : DependencyGraph}

theorem IsBuilt.outcome_context (isBuilt : project.IsBuilt config records graph)
    (reading : config.readManifest = true) {manifest : Option Manifest}
    (read : (Manifest.load project.limits.json project.system project.root
      config.manifestFilename).outcome =
      .ok manifest) :
    project.context.outcome = .ok ⟨records.map (contextOf graph), manifest⟩ := by
  refine Reported.outcome_bind_eq_ok_iff.mpr ⟨config, isBuilt.configured, ?_⟩
  refine Reported.outcome_bind_eq_ok_iff.mpr ⟨records, isBuilt.listed, ?_⟩
  refine Reported.outcome_bind_eq_ok_iff.mpr ⟨graph, isBuilt.built, ?_⟩
  simp only [reading, if_true]
  exact Reported.outcome_bind_eq_ok_iff.mpr ⟨manifest, read, rfl⟩

theorem isBuilt_singleton (explicit : project.config = some config)
    (proper : project.system.top.isProper = true)
    (valid : Scan.validateRoot project.system project.root = .ok ())
    (undisturbed : (project.scan config).Undisturbed) {ofRoot ofFile : Permission} {name : String}
    {content : List UInt8}
    (isRoot : (project.scan config).IsRoot (.directory ofRoot [(name, .file ofFile content)]))
    (lists : (project.scan config).Lists [] name) :
    project.IsBuilt config [.ofPath name] (.ofChanges (DependencyGraph.buildChanges project.system
      project.root (config.maxFileSize.map fun size => (size : Int)) [.ofPath name])) := by
  rcases exists_isBuilt explicit proper valid undisturbed with ⟨records, graph, isBuilt⟩
  rcases found_of_listFiles proper isBuilt.listed with ⟨_, found, _⟩
  have isOpen := undisturbed.opens isRoot .nil [] (List.prefix_refl [])
  have isListed := isBuilt.mem_of_lists proper isOpen lists
  have onlyListed : ∀ record ∈ records, record = .ofPath name := by
    intro record member
    rcases (found.mem_iff record).mp member with ⟨directory, other, _, _, listsOther, rfl⟩
    rcases isRoot.at?_of_reaches listsOther.reached with ⟨_, _, atDirectory⟩
    -- The tree has no directory that a file could be listed in but the root.
    have inTree : directory ∈ [[]] := Entry.mem_directoryTrails atDirectory rfl
    rw [List.mem_singleton.mp inTree] at listsOther ⊢
    rcases listsOther.isFile with ⟨entry, isEntry, _⟩
    have present :=
      isRoot.get?_of_entryAt rfl (List.forall_mem_nil _) listsOther.isName isEntry
    have sameName : other = name :=
      congrArg Prod.fst (List.mem_singleton.mp (Keyed.mem_of_get? present))
    rw [List.nil_append, Scan.pathText_singleton, sameName]
  have distinct : records.Nodup := (distinct_of_listFiles proper isBuilt.listed).of_map _
  have sameMembers : ∀ record, record ∈ records ↔ record ∈ [.ofPath name] := by
    intro record
    rw [List.mem_singleton]
    exact ⟨onlyListed record, fun same => same ▸ isListed⟩
  have alone : records = [.ofPath name] :=
    List.perm_singleton.mp
      ((List.perm_ext_iff_of_nodup distinct (List.pairwise_singleton _ _)).mpr sameMembers)
  rw [alone] at isBuilt
  rw [← isBuilt.graph_eq_ofChanges proper]
  exact isBuilt

/-- The lines of a summary are those of its header, which there is exactly if a manifest with a
name is read, and of its files, in the order of their list. Each of them has one line exactly if no
line feed stands in the path of a file or in the name and version that the header shows. -/
theorem summary_lines (listed : project.files.outcome = .ok records) (someFile : records ≠ [])
    {text : Coded} (summarized : project.summary.outcome = .ok text) :
    ∃ context, project.context.outcome = .ok context ∧
      context.files.map FileContext.path = records.map FileRecord.path ∧
      text.lines = (context.header?.toList ++ context.summaryLines).flatMap Coded.lines ∧
      (context.header?.isSome = true ↔
        ∃ manifest ∈ context.manifest, ∃ name ∈ manifest.name, name ≠ []) ∧
      (text.lines = context.header?.toList ++ context.summaryLines ↔
        context.HasPlainTitle ∧ ∀ record ∈ records, '\n' ∉ record.path.toList) := by
  rcases Reported.outcome_bind_eq_ok_iff.mp summarized with ⟨context, taken, written⟩
  rw [Reported.outcome_pure, Except.ok.injEq] at written
  rcases isBuilt_of_context taken with ⟨config, built, graph, isBuilt, files⟩
  obtain rfl : built = records := Except.ok.inj (isBuilt.files_eq.symm.trans listed)
  have someContext : context.files ≠ [] := by simpa [files] using someFile
  have sameFiles : (∀ file ∈ context.files, '\n' ∉ file.path.toList) ↔
      ∀ record ∈ built, '\n' ∉ record.path.toList := by
    rw [files, List.forall_mem_map]
    rfl
  refine ⟨context, taken, map_path_files files, ?_, ProjectContext.header?_isSome_iff, ?_⟩
  · rw [← written]
    exact Text.split_join_eq_flatMap (ProjectContext.summaryParts_ne_nil someContext)
  · rw [← written, ProjectContext.lines_summary_iff someContext, sameFiles]

def onlyFile (name : String) (content : List UInt8) : Project where
  limits := ⟨9, 0, 0, 0, 0⟩
  system := ⟨.directory .newDirectory
    [("r", .directory .newDirectory [(name, .file .newFile content)])], [], false⟩
  root := .ofText "/r"
  config := some ⟨[], [], "package.json", true, none⟩

def titledContent : List UInt8 :=
  "\x7b\"name\": \"demo\"\x7d".toList.map Char.toUInt8

theorem summary_lines_titled :
    ∃ text, (onlyFile "package.json" titledContent).summary.outcome = .ok text ∧
      text.lines = ["# demo", "- package.json (imports: 0, imported by: 0)"] := by
  have isRoot : ((onlyFile "package.json" titledContent).scan
      ⟨[], [], "package.json", true, none⟩).IsRoot (.directory .newDirectory
        [("package.json", .file .newFile titledContent)]) := ⟨rfl, rfl, by decide⟩
  have isBuilt := isBuilt_singleton rfl (by decide) rfl
    (.of_directoryTrails isRoot (by decide) (by decide) (by decide)
      (by decide) (by decide)) isRoot
    ⟨.nil, by decide, by decide, ⟨_, rfl, rfl⟩, by decide⟩
  have read : (Manifest.load 9 (onlyFile "package.json" titledContent).system
      (onlyFile "package.json" titledContent).root "package.json").outcome =
        .ok (some ⟨some "demo", none, none, none, none⟩) := by
    rw [Manifest.load, Location.named?_ofText]
    decide
  have snapshot := isBuilt.outcome_context rfl read
  have summarized : (onlyFile "package.json" titledContent).summary.outcome = .ok _ :=
    Reported.outcome_bind_eq_ok_iff.mpr ⟨_, snapshot, rfl⟩
  refine ⟨_, summarized, ?_⟩
  rcases summary_lines isBuilt.files_eq (List.cons_ne_nil _ _) summarized with
    ⟨context, taken, _, _, _, exact⟩
  obtain rfl := Except.ok.inj (snapshot.symm.trans taken)
  rw [exact.mpr ⟨by simp [ProjectContext.HasPlainTitle], by decide⟩]
  decide

theorem summary_breaks_at_lineFeed :
    (onlyFile "a\nb.ts" []).files.outcome = .ok [.ofPath "a\nb.ts"] ∧
    (onlyFile "a\nb.ts" []).context.outcome =
      .ok ⟨[⟨"a\nb.ts", some "ts", [], []⟩], none⟩ ∧
    ∃ text, (onlyFile "a\nb.ts" []).summary.outcome = .ok text ∧
      text.lines = ["- a", "b.ts (imports: 0, imported by: 0)"] := by
  have isRoot : ((onlyFile "a\nb.ts" []).scan ⟨[], [], "package.json", true, none⟩).IsRoot
      (.directory .newDirectory [("a\nb.ts", .file .newFile [])]) := ⟨rfl, rfl, by decide⟩
  have isBuilt := isBuilt_singleton rfl (by decide) rfl
    (.of_directoryTrails isRoot (by decide) (by decide) (by decide)
      (by decide) (by decide)) isRoot
    ⟨.nil, by decide, by decide, ⟨_, rfl, rfl⟩, by decide⟩
  have read : (Manifest.load 9 (onlyFile "a\nb.ts" []).system
      (onlyFile "a\nb.ts" []).root "package.json").outcome = .ok none := by
    rw [Manifest.load, Location.named?_ofText]
    decide
  have snapshot : (onlyFile "a\nb.ts" []).context.outcome =
      .ok ⟨[⟨"a\nb.ts", some "ts", [], []⟩], none⟩ := by
    rw [isBuilt.outcome_context rfl read]
    decide
  have summarized : (onlyFile "a\nb.ts" []).summary.outcome = .ok _ :=
    Reported.outcome_bind_eq_ok_iff.mpr ⟨_, snapshot, rfl⟩
  exact ⟨isBuilt.files_eq, snapshot, _, summarized, by decide⟩

end Project

end ImportAtlas
