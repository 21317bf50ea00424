import ImportAtlas.Project.Service

/-! # Tools of the server

The questions about projects that the server answers, each as a tool with named
parameters. While a tool works it sends notes to whoever asked.
-/

namespace ImportAtlas.Server

def name : String := "project-graph"

inductive Tool
  | enumerateFiles
  | projectContext
  | fileDependencies
  | dependencyGraph
deriving DecidableEq, Repr

namespace Tool

def all : List Tool := [enumerateFiles, projectContext, fileDependencies, dependencyGraph]

def name : Tool → String
  | enumerateFiles => "enumerate_files"
  | projectContext => "get_project_context"
  | fileDependencies => "get_file_dependencies"
  | dependencyGraph => "get_dependency_graph"

def ofName? (text : String) : Option Tool :=
  all.find? fun tool => tool.name = text

def summary : Tool → String
  | enumerateFiles => "List the files of a project, honoring .gitignore rules."
  | projectContext => "Build a project snapshot with import relationships."
  | fileDependencies => "Show what a file imports and what imports it."
  | dependencyGraph => "Export the import graph of a project."

def parameters : Tool → List String
  | fileDependencies => ["root_path", "file_path"]
  | _ => ["root_path"]

end Tool

/-! ## Answers -/

inductive NoteKind
  | info
  | error
deriving DecidableEq, Repr

def NoteKind.name : NoteKind → String
  | info => "info"
  | error => "error"

structure Note where
  kind : NoteKind
  text : Text.Coded
deriving DecidableEq, Repr

/-- What a tool answers: its result with the events on the way, and the notes it sends. -/
structure Reply where
  result : Reported Failure Json
  notes : List Note

structure Request where
  tool : Tool
  rootPath : String
  filePath : String
deriving DecidableEq, Repr

/-- The notes of a tool in their order: one before the work and, depending on how the work
ends, one after it. -/
def reply {α : Type} (opening : String) (work : Reported Failure α) (closing : α → Option String)
    (complaint : Failure → Text.Coded) (toJson : α → Json) : Reply :=
  match work.outcome with
  | .ok value =>
      ⟨⟨.ok (toJson value), work.events⟩,
        ⟨.info, opening⟩ :: ((closing value).toList.map fun text : String => ⟨.info, text⟩)⟩
  | .error failure =>
      ⟨⟨.error failure, work.events⟩, [⟨.info, opening⟩, ⟨.error, complaint failure⟩]⟩

def isRootFailure : Failure → Bool
  | .missingRoot _ | .rootNotDirectory _ | .unreadableRoot _ => true
  | .system fault => [Cause.missing, .notDirectory, .denied].contains fault.cause
  | _ => false

def isValueFailure : Failure → Bool
  | .outsideRoot _ | .unknownFile _ | .overlongInteger _ | .undecodable _ => true
  | .unshown fault => fault = .overlongInteger
  | .system fault => fault.cause = .nullCharacter
  | .scalar fault =>
      match fault with
      | .notInteger _ _ | .notFloat _ | .overlongInteger _ | .calendar _ => true
      | .noCharacter code => code < 0x80000000
      | .emptyNumber | .hugePlace | .notBool _ | .notTimestamp | .noTimestampText => false
      | .endless | .nested => false
  | _ => false

def rootComplaint (activity rootPath : String) (failure : Failure) : Text.Coded :=
  if isRootFailure failure then
    "Invalid project root " ++ rootPath ++ ": " ++ failure.message
  else "Unexpected error " ++ activity ++ " " ++ rootPath ++ ": " ++ failure.message

def fileComplaint (filePath : String) (failure : Failure) : Text.Coded :=
  if isValueFailure failure then failure.message
  else "Unexpected error querying " ++ filePath ++ ": " ++ failure.message

def answer (limits : Limits) (system : FileSystem) (config : Option Config)
    (timestamp : Option String) (request : Request) : Reply :=
  let root := request.rootPath
  let project : Project := ⟨limits, system, .ofText root, config⟩
  match request.tool with
  | .enumerateFiles =>
      reply ("Enumerating files under " ++ root) project.files (fun _ => none)
        (rootComplaint "enumerating" root) fun records => .array (records.map FileRecord.toJson)
  | .projectContext =>
      reply ("Building project context for " ++ root) project.context
        (fun context =>
          some ("Project context built: " ++ toString context.files.length ++ " files"))
        (rootComplaint "building context for" root) ProjectContext.toJson
  | .fileDependencies =>
      reply ("Querying dependencies of " ++ request.filePath)
        (project.dependenciesOf request.filePath) (fun _ => none)
        (fileComplaint request.filePath) FileDependencies.toJson
  | .dependencyGraph =>
      reply ("Exporting dependency graph for " ++ root) project.exportGraph
        (fun exported =>
          some ("Graph exported: " ++ toString exported.files.length ++ " files, "
            ++ toString exported.edges.length ++ " edges"))
        (fun failure => "Error exporting dependency graph: " ++ failure.message)
        fun exported => exported.toJson timestamp

end ImportAtlas.Server
