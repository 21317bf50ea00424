import ImportAtlas.FileSystem.Source
import ImportAtlas.Failure
import ImportAtlas.Graph.Basic
import ImportAtlas.Import.Resolve
import ImportAtlas.Import.Scan
import ImportAtlas.Project.Record
import ImportAtlas.Reported

/-! # Import graphs of projects

Every listed file becomes a node; then the files with a scannable extension are read, and
every import that resolves to a listed file becomes an edge. A file that is too large or
gives no text has no imports.
-/

namespace ImportAtlas

namespace Import

def skipped (place : Location) (reason : String) : Log.Event :=
  .plain Log.Level.debug Log.Logger.extraction
    ("Skipping import scan of " ++ place.text ++ ": " ++ reason)

def noTargets (place : Location) (reason : String) : Reported Failure (List String) := do
  Reported.report (skipped place reason)
  return []

/-- No imports because the file system refuses. A name that does not reach the file system
is not recovered from. -/
def refusedTargets (place : Location) (cause : Cause) : Reported Failure (List String) :=
  if cause = .nullCharacter then Reported.fail (.system ⟨cause, place.text⟩)
  else noTargets place (SystemFault.message ⟨cause, place.text⟩)

def exceeds (size : Nat) (limit : Option Int) : Bool :=
  match limit with
  | none => false
  | some limit => decide (limit < size)

def sizeUnder (system : FileSystem) (place : Location) (limit : Option Int) : Except Cause Nat :=
  match limit with
  | none => .ok 0
  | some _ => system.size place

def readTargets (system : FileSystem) (place : Location) (limit : Option Int) :
    Reported Failure (List String) :=
  match sizeUnder system place limit with
  | .error cause => refusedTargets place cause
  | .ok size =>
      if exceeds size limit then
        noTargets place ("larger than " ++ toString (limit.getD 0) ++ " bytes")
      else
        match system.readText place with
        | .error (.refused cause) => refusedTargets place cause
        | .error .undecodable => noTargets place "not valid UTF-8"
        | .ok text => pure (targets (String.ofList text))

end Import

namespace DependencyGraph

def ofRecords (records : List FileRecord) : DependencyGraph :=
  records.foldl (fun graph record => (graph.addNode record.path).1) empty

def addImports (isKnown : String → Bool) (path : String) (graph : DependencyGraph) :
    List String → Reported Failure (DependencyGraph × Nat)
  | [] => pure (graph, 0)
  | target :: rest =>
      match Import.resolve? isKnown target path with
      | some resolved => addImports isKnown path (graph.addEdge path resolved) rest
      | none => do
          if Import.isRelative target then Reported.report (Import.unresolved target path)
          let (graph, unresolved) ← addImports isKnown path graph rest
          return (graph, unresolved + 1)

structure ScanCount where
  scanned : Nat
  unresolved : Nat
deriving DecidableEq, Repr

def addFiles (system : FileSystem) (root : Location) (limit : Option Int)
    (isKnown : String → Bool) (graph : DependencyGraph) (count : ScanCount) :
    List FileRecord → Reported Failure (DependencyGraph × ScanCount)
  | [] => pure (graph, count)
  | record :: rest =>
      if Import.isScannable record.extension then do
        let targets ← Import.readTargets system (root.child record.path) limit
        let (graph, unresolved) ← addImports isKnown record.path graph targets
        addFiles system root limit isKnown graph
          ⟨count.scanned + 1, count.unresolved + unresolved⟩ rest
      else addFiles system root limit isKnown graph count rest

def build (system : FileSystem) (root : Location) (records : List FileRecord)
    (limit : Option Int) : Reported Failure DependencyGraph := do
  let isKnown := fun path => records.any fun record => record.path == path
  let (graph, count) ← addFiles system root limit isKnown (ofRecords records) ⟨0, 0⟩ records
  Reported.report (.plain Log.Level.debug Log.Logger.context
    ("Scanned " ++ toString count.scanned ++ " of " ++ toString records.length ++ " files: "
      ++ toString graph.edgeCount ++ " edges, " ++ toString count.unresolved
      ++ " imports without a project target"))
  return graph

end DependencyGraph

end ImportAtlas
