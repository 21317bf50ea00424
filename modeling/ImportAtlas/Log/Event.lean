import ImportAtlas.Log.Field
import ImportAtlas.Log.Level

/-! # Log events

What a computation reports while it runs: a message with a severity, from one of
the parts of the program, with fields for whoever filters the log.
-/

namespace ImportAtlas.Log

open Text (Coded)

/-! ## Loggers

Every part of the program that reports has a name under which it does. -/

namespace Logger

def configuration : String := "projgraph.config"
def enumeration : String := "projgraph.enumerator"
def extraction : String := "projgraph.extractor"
def resolution : String := "projgraph.resolver"
def graph : String := "projgraph.graph"
def manifest : String := "projgraph.manifest"
def context : String := "projgraph.context"
def service : String := "projgraph.service"
def server : String := "projgraph.mcp_server"
def setup : String := "projgraph.logging_setup"

end Logger

/-! ## Events -/

/-- A message reported by a part of the program. -/
structure Event where
  level : Level
  logger : String
  message : Coded
  fields : Fields
deriving Repr, Inhabited

def Event.plain (level : Level) (logger : String) (message : Coded) : Event :=
  ⟨level, logger, message, []⟩

end ImportAtlas.Log
