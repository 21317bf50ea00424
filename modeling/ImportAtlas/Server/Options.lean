import ImportAtlas.Keyed
import ImportAtlas.Log.Level
import ImportAtlas.Path.Location
import ImportAtlas.Text.DecimalDigit
import ImportAtlas.Text.Quoted

/-! # The command line

A command line is a list of words. Words that begin with a hyphen name options, which may
be abbreviated as long as it is clear which one is meant; the value of an option follows
an equals sign in the same word, or is the next word. A separator after the equals sign
gives the option nothing. Nothing else is accepted. All words are recognised first, and
their values are read in a second pass.
-/

namespace ImportAtlas.Server

inductive Transport
  | stdio
  | streamableHttp
  | sse
deriving DecidableEq, Repr

namespace Transport

def all : List Transport := [stdio, streamableHttp, sse]

def name : Transport → String
  | stdio => "stdio"
  | streamableHttp => "streamable-http"
  | sse => "sse"

def ofName? (text : String) : Option Transport :=
  all.find? fun transport => transport.name = text

end Transport

/-- What an option is given: a value, or nothing, which is not the same as leaving the option
out. -/
inductive Given (α : Type)
  | value (value : α)
  | nothing
deriving DecidableEq, Repr

namespace Given

def map {α β : Type} (change : α → β) : Given α → Given β
  | value given => .value (change given)
  | nothing => .nothing

def text : Given String → String
  | value given => given
  | nothing => "[]"

end Given

structure Options where
  config : Option (Given Location)
  logDirectory : Option (Given Location)
  logLevel : Given Log.Level
  transport : Given Transport
deriving DecidableEq, Repr

def Options.default : Options where
  config := none
  logDirectory := none
  logLevel := .value Log.Level.info
  transport := .value .stdio

inductive Command
  | serve (options : Options)
  | showHelp
deriving DecidableEq, Repr

/-! ## Option names -/

inductive Flag
  | help
  | config
  | logDirectory
  | logLevel
  | transport
deriving DecidableEq, Repr

namespace Flag

def names : List (String × Flag) :=
  [("-h", help), ("--help", help), ("--config", config), ("--log-dir", logDirectory),
   ("--log-level", logLevel), ("--transport", transport)]

def title (flag : Flag) : String :=
  Text.joinText "/" ((names.filter fun entry => entry.2 = flag).map Prod.fst)

def choices : Flag → List String
  | logLevel => Log.Level.choices
  | transport => Transport.all.map Transport.name
  | _ => []

def set? (options : Options) (value : String) : Flag → Option Options
  | help => some options
  | config => some { options with config := some (.value (.ofText value)) }
  | logDirectory => some { options with logDirectory := some (.value (.ofText value)) }
  | logLevel =>
      (Log.Level.ofChoice? value).map fun level => { options with logLevel := .value level }
  | transport =>
      (Transport.ofName? value).map fun transport => { options with transport := .value transport }

def clear (options : Options) : Flag → Options
  | help => options
  | config => { options with config := some .nothing }
  | logDirectory => { options with logDirectory := some .nothing }
  | logLevel => { options with logLevel := .nothing }
  | transport => { options with transport := .nothing }

def summary : Flag → String
  | help => "show this help and exit"
  | config => "configuration file applied to every request (default: the one of each root)"
  | logDirectory => "directory of the log files (default: ./.projgraph_logs)"
  | logLevel => "least level to log (default: INFO)"
  | transport => "transport of the server (default: stdio)"

def all : List Flag := [help, config, logDirectory, logLevel, transport]

end Flag

def helpLines : List String :=
  "Project dependency graph server" :: "" :: "options:" ::
    Flag.all.map fun flag => "  " ++ flag.title ++ ": " ++ flag.summary

/-! ## Faults -/

inductive UsageFault
  | ambiguous (word : String) (names : List String)
  | missingValue (flag : Flag)
  | unwantedValue (flag : Flag) (value : String)
  | invalidChoice (flag : Flag) (value : String)
  | unrecognized (words : List String)
deriving DecidableEq, Repr

namespace UsageFault

def message : UsageFault → String
  | ambiguous word names =>
      "ambiguous option: " ++ word ++ " could match " ++ ", ".intercalate names
  | missingValue flag => "argument " ++ flag.title ++ ": expected one argument"
  | unwantedValue flag value =>
      "argument " ++ flag.title ++ ": ignored explicit argument " ++ Text.quoted value
  | invalidChoice flag value =>
      "argument " ++ flag.title ++ ": invalid choice: " ++ Text.quoted value ++ " (choose from "
        ++ ", ".intercalate (flag.choices.map fun choice : String => Text.quoted choice) ++ ")"
  | unrecognized words => "unrecognized arguments: " ++ " ".intercalate words

def report (fault : UsageFault) : String :=
  "projgraph: error: " ++ fault.message

end UsageFault

/-! ## Words -/

inductive Word
  | plain (text : String)
  | separator
  | option (flag : Flag) (value : Option String)
  | group (letters : List Char)
  | unknown (text : String)
deriving DecidableEq, Repr

def Word.text : Word → String
  | plain text => text
  | separator => "--"
  | unknown text => text
  | option _ _ | group _ => ""

def splitEquals (chars : List Char) : List Char × Option (List Char) :=
  match chars.dropWhile (· ≠ '=') with
  | [] => (chars, none)
  | _ :: value => (chars.takeWhile (· ≠ '='), some value)

def isNegativeNumber (chars : List Char) : Bool :=
  let isDigit (char : Char) : Bool := (Text.decimalValue? char).isSome
  let chars := if chars.getLast? = some '\n' then chars.dropLast else chars
  match chars with
  | '-' :: number =>
      let whole := number.takeWhile isDigit
      match number.drop whole.length with
      | [] => !whole.isEmpty
      | '.' :: fraction => !fraction.isEmpty && fraction.all isDigit
      | _ => false
  | _ => false

/-- The options that a word may stand for, with their names and values. A word with one
hyphen may be a group of one-letter options; a word with two may be an abbreviation. -/
def interpretations (chars : List Char) : List (String × Word) :=
  match chars with
  | '-' :: '-' :: _ =>
      let (start, value) := splitEquals chars
      (Flag.names.filter fun entry => start.isPrefixOf entry.1.toList).map fun (name, flag) =>
        (name, .option flag (value.map String.ofList))
  | '-' :: 'h' :: letters => [("-h", .group letters)]
  | _ => []

def recognize (text : String) : Except UsageFault Word :=
  let chars := text.toList
  if chars.head? ≠ some '-' then .ok (.plain text)
  else
    match Keyed.get? text Flag.names with
    | some flag => .ok (.option flag none)
    | none =>
        if chars.length = 1 then .ok (.plain text)
        else
          let (start, value) := splitEquals chars
          match value, Keyed.get? (String.ofList start) Flag.names with
          | some value, some flag =>
              if start = ['-', 'h'] then .ok (.group value)
              else .ok (.option flag (some (String.ofList value)))
          | _, _ =>
              match interpretations chars with
              | [(_, word)] => .ok word
              | [] =>
                  if isNegativeNumber chars || chars.contains ' ' then .ok (.plain text)
                  else .ok (.unknown text)
              | several => .error (.ambiguous text (several.map Prod.fst))

def recognizeAll : List String → Except UsageFault (List Word)
  | [] => .ok []
  | "--" :: rest => .ok (.separator :: rest.map .plain)
  | head :: tail => do
      let word ← recognize head
      let words ← recognizeAll tail
      return word :: words

/-! ## Values -/

def choose (options : Options) (flag : Flag) (value : String) : Except UsageFault Options :=
  if value = Word.separator.text then .ok (flag.clear options)
  else (flag.set? options value).elim (.error (.invalidChoice flag value)) .ok

/-- Work off the letters of a group. Only help has one letter and does nothing before the
group has ended, so what follows it must be letters of help. -/
def interpretGroup : List Char → Except UsageFault Command
  | [] => .error (.unwantedValue .help "")
  | ['h'] => .ok .showHelp
  | 'h' :: letters => interpretGroup letters
  | letters => .error (.unwantedValue .help (String.ofList letters))

/-- Work off the words of a command line from the left. Words that have no place in it are
collected and refused at the end. -/
def interpret (options : Options) (leftover : List String) : List Word → Except UsageFault Command
  | [] => if leftover.isEmpty then .ok (.serve options) else .error (.unrecognized leftover)
  | .option .help value :: _ =>
      match value with
      | some value => .error (.unwantedValue .help value)
      | none => .ok .showHelp
  | .group letters :: _ => interpretGroup letters
  | .option flag (some value) :: rest =>
      match choose options flag value with
      | .error fault => .error fault
      | .ok options => interpret options leftover rest
  | .option flag none :: .plain value :: rest =>
      match choose options flag value with
      | .error fault => .error fault
      | .ok options => interpret options leftover rest
  | .option flag none :: _ => .error (.missingValue flag)
  | word :: rest => interpret options (leftover ++ [word.text]) rest

def Command.ofWords (words : List String) : Except UsageFault Command :=
  (recognizeAll words).bind (interpret .default [])

end ImportAtlas.Server
