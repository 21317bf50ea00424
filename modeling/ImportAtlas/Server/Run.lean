import ImportAtlas.Log.Session
import ImportAtlas.Server.Options
import ImportAtlas.Server.Tools

/-! # Runs of the server

A run of the program: its command line is read, the log is set up, the configuration is
loaded, and the server listens on a transport until that ends. The end of the server is
logged however the transport has ended.
-/

namespace ImportAtlas.Server

/-! ## Events -/

def event (message : String) : Log.Event :=
  .plain Log.Level.info Log.Logger.server message

def startEvents : List Log.Event :=
  [event ("MCP tools registered: " ++ ", ".intercalate (Tool.all.map Tool.name)),
   event "ProjectGraphMCPServer initialized"]

def listenEvent (transport : Given Transport) : Log.Event :=
  event ("Starting MCP server with " ++ (transport.map Transport.name).text ++ " transport")

def stopEvents : List Log.Event :=
  [event "Shutting down MCP server",
   .plain Log.Level.info Log.Logger.service "ProjectContextService shut down"]

/-! ## Runs -/

/-- Why a run ends otherwise than by the end of its server. -/
inductive Stop
  | help
  | usage (fault : UsageFault)
  | nothingGiven (flag : Flag)
  | log (fault : SystemFault)
  | config (failure : Failure)
  | transport (message : String)
deriving DecidableEq, Repr

def Flag.firstUse : Flag → String
  | logLevel => "upper"
  | logDirectory => "mkdir"
  | config => "exists"
  | help | transport => ""

def Stop.message : Stop → Text.Coded
  | help => ""
  | usage fault => fault.report
  | nothingGiven flag => "'list' object has no attribute '" ++ flag.firstUse ++ "'"
  | log fault => fault.message
  | config failure => failure.message
  | transport message => message

structure Instant where
  created : Time.Timestamp
  day : Time.Date
deriving DecidableEq, Repr

def Given.need {α : Type} (flag : Flag) : Given α → Except Stop α
  | value given => .ok given
  | nothing => .error (.nothingGiven flag)

def Options.loadConfig (limits : Limits) (options : Options) (system : FileSystem) :
    Reported Stop (Option Config) :=
  match options.config with
  | none => pure none
  | some given => do
      let place ← Reported.ofExcept (given.need .config)
      let config ← (Config.load limits system place).mapError .config
      return some config

def Options.logSettings (options : Options) : Except Stop Log.Session.Settings := do
  let threshold ← options.logLevel.need .logLevel
  let directory ← options.logDirectory.mapM (Given.need .logDirectory)
  return { directory, threshold, showsConsole := true }

/-- Do all that comes before a server listens. The result is its configuration. -/
def prepare (limits : Limits) (session : Log.Session) (instant : Instant) (options : Options) :
    Log.Session × Except Stop (Option Config) :=
  match options.logSettings with
  | .error stop => (session, .error stop)
  | .ok settings =>
      match session.setUp instant.created instant.day settings with
      | (session, .error fault) => (session, .error (.log fault))
      | (session, .ok _) =>
          let loaded := options.loadConfig limits session.system
          let session := session.emitEvents instant.created loaded.events
          match loaded.outcome with
          | .error stop => (session, .error stop)
          | .ok config =>
              let events := startEvents ++ [listenEvent options.transport]
              (session.emitEvents instant.created events, .ok config)

def finish (session : Log.Session) (instant : Instant) : Log.Session :=
  session.emitEvents instant.created stopEvents

structure Run where
  session : Log.Session
  transports : List (Given Transport)
  outcome : Except Stop Unit

def run (limits : Limits) (session : Log.Session) (instant : Instant) (words : List String)
    (listen : Given Transport → Except String Unit) : Run :=
  match Command.ofWords words with
  | .error fault => ⟨session, [], .error (.usage fault)⟩
  | .ok .showHelp => ⟨session, [], .error .help⟩
  | .ok (.serve options) =>
      match prepare limits session instant options with
      | (session, .error stop) => ⟨session, [], .error stop⟩
      | (session, .ok _) =>
          ⟨finish session instant, [options.transport],
            (listen options.transport).mapError .transport⟩

end ImportAtlas.Server
