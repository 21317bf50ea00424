import ImportAtlas.Text.Capital

/-! # Severity levels

A level is a number; five of them, and zero, have names.
-/

namespace ImportAtlas.Log

abbrev Level := Int

namespace Level

def debug : Level := 10
def info : Level := 20
def warning : Level := 30
def error : Level := 40
def critical : Level := 50

def names : List (Level × String) :=
  [(0, "NOTSET"), (debug, "DEBUG"), (info, "INFO"), (warning, "WARNING"), (error, "ERROR"),
   (critical, "CRITICAL")]

def name (level : Level) : String :=
  (names.lookup level).getD ("Level " ++ toString level)

def choices : List String :=
  ["DEBUG", "INFO", "WARNING", "ERROR"]

/-- Why a name is no level. -/
structure UnknownName where
  name : String
deriving DecidableEq, Repr

def UnknownName.message (fault : UnknownName) : String :=
  "Unknown log level '" ++ fault.name ++ "', expected one of " ++ ", ".intercalate choices

def ofChoice? (name : String) : Option Level :=
  if choices.contains name then (names.find? fun entry => entry.2 = name).map Prod.fst else none

def parse (name : String) : Except UnknownName Level :=
  match ofChoice? (Text.capitalize name) with
  | some level => .ok level
  | none => .error ⟨name⟩

end Level

end ImportAtlas.Log
