import ImportAtlas.Graph.Basic
import ImportAtlas.Json.Basic

/-! # Exported graphs

A graph flattened for readers outside the program: counts, every file with its
degrees, every edge, and the files with the most importers.
-/

namespace ImportAtlas

structure ExportedFile where
  path : String
  name : String
  importCount : Nat
  importerCount : Nat
deriving DecidableEq, Repr

structure GraphExport where
  totalFiles : Nat
  totalEdges : Int
  projectRoot : Option String
  files : List ExportedFile
  edges : List (String × String)
  mostConnected : List DependencyGraph.ImporterCount
deriving DecidableEq, Repr

namespace DependencyGraph

def exportLimit : Int := 10

def toExport (graph : DependencyGraph) (projectRoot : Option String) : GraphExport where
  totalFiles := graph.nodeCount
  totalEdges := graph.edgeCount
  projectRoot := projectRoot.filter (· ≠ "")
  files := graph.paths.zipIdx.map fun (path, id) =>
    ⟨path, Path.baseName path, (graph.targetsOf id).length, (graph.sourcesOf id).length⟩
  edges := graph.edges
  mostConnected := graph.mostConnected exportLimit

def ImporterCount.toJson (entry : ImporterCount) : Json :=
  .object [("file", .text entry.path), ("dependent_count", .ofNat entry.count)]

end DependencyGraph

def ExportedFile.toJson (file : ExportedFile) : Json :=
  .object
    [("path", .text file.path), ("name", .text file.name),
     ("import_count", .ofNat file.importCount), ("imported_by_count", .ofNat file.importerCount)]

/-- An exported graph as JSON, with the time at which it was made if that is given. -/
def GraphExport.toJson (exported : GraphExport) (timestamp : Option String) : Json :=
  let text (given : Option String) : Option Json := given.map fun value => .text value
  let counts : List (Text.Coded × Json) :=
    [("total_files", .ofNat exported.totalFiles), ("total_edges", .int exported.totalEdges)]
  .object
    [("metadata", .object
       (Json.optionalMember "timestamp" (text timestamp) ++ counts
         ++ Json.optionalMember "project_root" (text exported.projectRoot))),
     ("files", .array (exported.files.map ExportedFile.toJson)),
     ("edges", .array (exported.edges.map fun (source, target) =>
       .object [("source", .text source), ("target", .text target)])),
     ("graph_metadata", .object
       [("most_connected_files",
         .array (exported.mostConnected.map DependencyGraph.ImporterCount.toJson))])]

end ImportAtlas
