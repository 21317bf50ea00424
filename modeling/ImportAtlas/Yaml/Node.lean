import ImportAtlas.Yaml.Tag
import ImportAtlas.Yaml.Token

/-! # YAML nodes

The tree of a document: scalars, sequences and mappings with their anchors and tags,
and aliases that are not looked up yet. A node that is left out is an empty plain
scalar.
-/

namespace ImportAtlas.Yaml

/-- What may be written in front of a node. A missing tag is chosen by the content. -/
structure Properties where
  anchor : Option String
  tag : Option String
deriving DecidableEq, Repr, Inhabited

inductive Node
  | alias (name : String)
  | scalar (properties : Properties) (text : Text.Coded) (isPlain : Bool)
  | sequence (properties : Properties) (items : List Node)
  | mapping (properties : Properties) (entries : List (Node × Node))
deriving Repr, Inhabited

def Node.absent : Node := .scalar ⟨none, none⟩ [] true

abbrev Handles := List (String × String)

def defaultHandles : Handles := [("!", "!"), ("!!", commonTag)]

abbrev Parsed (α : Type) := Except Fault (α × List Token)

def unexpected {α : Type} : List Token → Except Fault α
  | .fault fault :: _ => .error fault
  | _ => .error .malformed

def resolveTag (handles : Handles) (handle : Option String) (suffix : String) :
    Except Fault String :=
  match handle with
  | none => .ok suffix
  | some handle =>
      match handles.lookup handle with
      | some meaning => .ok (meaning ++ suffix)
      | none => .error .malformed

def parseProperties (handles : Handles) : List Token → Parsed Properties
  | .anchor anchor :: .tag handle suffix :: rest =>
      (resolveTag handles handle suffix).map fun tag => (⟨some anchor, some tag⟩, rest)
  | .anchor anchor :: rest => .ok (⟨some anchor, none⟩, rest)
  | .tag handle suffix :: .anchor anchor :: rest =>
      (resolveTag handles handle suffix).map fun tag => (⟨some anchor, some tag⟩, rest)
  | .tag _ _ :: .fault fault :: _ => .error fault
  | .tag handle suffix :: rest =>
      (resolveTag handles handle suffix).map fun tag => (⟨none, some tag⟩, rest)
  | tokens => .ok (⟨none, none⟩, tokens)

inductive Context
  | flow
  | block
  | blockEntry
deriving DecidableEq, Repr

def Properties.withoutBareTag (properties : Properties) : Properties :=
  { properties with tag := properties.tag.filter (· ≠ "!") }

def scalarNode (properties : Properties) (text : Text.Coded) (isPlain : Bool) : Node :=
  .scalar properties.withoutBareTag text
    (properties.tag = some "!" ∨ (isPlain ∧ properties.tag = none))

def aliasName? : List Token → Option (String × List Token)
  | .alias name :: rest => some (name, rest)
  | _ => none

/-! ## Depth -/

/-- What a node depends on: the handles of its document, and how many collections there is
room for inside each other. -/
structure Scope where
  handles : Handles
  room : Nat
deriving Repr

def Scope.inner (scope : Scope) : Except Fault Scope :=
  match scope.room with
  | 0 => .error (.scalar .nested)
  | room + 1 => .ok { scope with room }

/-! ## Nodes -/

mutual

def parseNode (scope : Scope) (context : Context) (tokens : List Token) : Parsed Node :=
  match aliasName? tokens with
  | some (name, rest) => .ok (.alias name, rest)
  | none =>
      match parseProperties scope.handles tokens with
      | .error fault => .error fault
      | .ok (properties, rest) =>
          if _bound : rest.length ≤ tokens.length then
            parseContent scope context properties rest
          else .error .malformed
termination_by 8 * tokens.length + 2

def parseContent (scope : Scope) (context : Context) (properties : Properties)
    (tokens : List Token) : Parsed Node :=
  match tokens with
  | .scalar text isPlain :: rest => .ok (scalarNode properties text isPlain, rest)
  | .openSequence :: rest =>
      scope.inner.bind fun scope =>
        (parseFlowItems scope true rest).map fun (items, rest) =>
          (.sequence properties.withoutBareTag items, rest)
  | .openMapping :: rest =>
      scope.inner.bind fun scope =>
        (parseFlowEntries scope true rest).map fun (entries, rest) =>
          (.mapping properties.withoutBareTag entries, rest)
  | token :: rest =>
      if token = .blockEntry ∧ context = .blockEntry then
        scope.inner.bind fun scope =>
          (parseIndentlessItems scope (token :: rest)).map fun (items, rest) =>
            (.sequence properties.withoutBareTag items, rest)
      else if token = .blockSequence ∧ context ≠ .flow then
        scope.inner.bind fun scope =>
          (parseBlockItems scope rest).map fun (items, rest) =>
            (.sequence properties.withoutBareTag items, rest)
      else if token = .blockMapping ∧ context ≠ .flow then
        scope.inner.bind fun scope =>
          (parseBlockEntries scope rest).map fun (entries, rest) =>
            (.mapping properties.withoutBareTag entries, rest)
      else if properties = ⟨none, none⟩ then unexpected (token :: rest)
      else .ok (.scalar properties.withoutBareTag []
        (properties.tag = none ∨ properties.tag = some "!"), token :: rest)
  | [] => unexpected tokens
termination_by 8 * tokens.length + 1

def parseOptional (scope : Scope) (context : Context) (stops : List Token)
    (tokens : List Token) : Parsed Node :=
  match tokens with
  | [] => unexpected tokens
  | token :: rest =>
      if stops.contains token then .ok (.absent, token :: rest)
      else parseNode scope context (token :: rest)
termination_by 8 * tokens.length + 3

def parseValue (scope : Scope) (context : Context) (stops : List Token)
    (tokens : List Token) : Parsed Node :=
  match tokens with
  | .value :: rest => parseOptional scope context stops rest
  | _ => .ok (.absent, tokens)
termination_by 8 * tokens.length + 0

def parseEntry (scope : Scope) (context : Context) (keyStops valueStops : List Token)
    (tokens : List Token) : Parsed (Node × Node) :=
  match parseOptional scope context keyStops tokens with
  | .error fault => .error fault
  | .ok (key, rest) =>
      if _bound : rest.length ≤ tokens.length then
        match parseValue scope context valueStops rest with
        | .error fault => .error fault
        | .ok (value, rest) => .ok ((key, value), rest)
      else .error .malformed
termination_by 8 * tokens.length + 4

def parseBlockItems (scope : Scope) (tokens : List Token) : Parsed (List Node) :=
  match tokens with
  | .blockEnd :: rest => .ok ([], rest)
  | .blockEntry :: rest =>
      match parseOptional scope .block [.blockEntry, .blockEnd] rest with
      | .error fault => .error fault
      | .ok (item, next) =>
          if _moved : next.length ≤ rest.length then
            (parseBlockItems scope next).map fun (items, rest) => (item :: items, rest)
          else .error .malformed
  | _ => unexpected tokens
termination_by 8 * tokens.length + 0

def parseIndentlessItems (scope : Scope) (tokens : List Token) : Parsed (List Node) :=
  match tokens with
  | .blockEntry :: rest =>
      match parseOptional scope .block [.blockEntry, .key, .value, .blockEnd] rest with
      | .error fault => .error fault
      | .ok (item, next) =>
          if _moved : next.length ≤ rest.length then
            (parseIndentlessItems scope next).map fun (items, rest) => (item :: items, rest)
          else .error .malformed
  | _ => .ok ([], tokens)
termination_by 8 * tokens.length + 0

def parseBlockEntries (scope : Scope) (tokens : List Token) : Parsed (List (Node × Node)) :=
  match tokens with
  | .blockEnd :: rest => .ok ([], rest)
  | .key :: rest =>
      let stops : List Token := [.key, .value, .blockEnd]
      match parseEntry scope .blockEntry stops stops rest with
      | .error fault => .error fault
      | .ok (entry, next) =>
          if _moved : next.length ≤ rest.length then
            (parseBlockEntries scope next).map fun (entries, rest) => (entry :: entries, rest)
          else .error .malformed
  | _ => unexpected tokens
termination_by 8 * tokens.length + 0

def parseFlowItems (scope : Scope) (isFirst : Bool) (tokens : List Token) :
    Parsed (List Node) :=
  if isFirst then parseFlowItemsAfterComma scope tokens
  else
    match tokens with
    | .closeSequence :: rest => .ok ([], rest)
    | .flowEntry :: rest => parseFlowItemsAfterComma scope rest
    | _ => unexpected tokens
termination_by 8 * tokens.length + 6

def parseFlowItemsAfterComma (scope : Scope) (tokens : List Token) : Parsed (List Node) :=
  match tokens with
  | [] => unexpected []
  | token :: rest =>
      if token = .closeSequence then .ok ([], rest)
      else if token = .key then
        match scope.inner.bind fun scope =>
            parseEntry scope .flow [.value, .flowEntry, .closeSequence]
              [.flowEntry, .closeSequence] rest with
        | .error fault => .error fault
        | .ok (entry, next) =>
            if _moved : next.length ≤ rest.length then
              (parseFlowItems scope false next).map fun (items, rest) =>
                (.mapping ⟨none, none⟩ [entry] :: items, rest)
            else .error .malformed
      else
        match parseNode scope .flow (token :: rest) with
        | .error fault => .error fault
        | .ok (item, next) =>
            if _moved : next.length ≤ rest.length then
              (parseFlowItems scope false next).map fun (items, rest) => (item :: items, rest)
            else .error .malformed
termination_by 8 * tokens.length + 5

def parseFlowEntries (scope : Scope) (isFirst : Bool) (tokens : List Token) :
    Parsed (List (Node × Node)) :=
  if isFirst then parseFlowEntriesAfterComma scope tokens
  else
    match tokens with
    | .closeMapping :: rest => .ok ([], rest)
    | .flowEntry :: rest => parseFlowEntriesAfterComma scope rest
    | _ => unexpected tokens
termination_by 8 * tokens.length + 6

def parseFlowEntriesAfterComma (scope : Scope) (tokens : List Token) :
    Parsed (List (Node × Node)) :=
  match tokens with
  | [] => unexpected []
  | token :: rest =>
      if token = .closeMapping then .ok ([], rest)
      else if token = .key then
        match parseEntry scope .flow [.value, .flowEntry, .closeMapping]
            [.flowEntry, .closeMapping] rest with
        | .error fault => .error fault
        | .ok (entry, next) =>
            if _moved : next.length ≤ rest.length then
              (parseFlowEntries scope false next).map fun (entries, rest) =>
                (entry :: entries, rest)
            else .error .malformed
      else
        match parseNode scope .flow (token :: rest) with
        | .error fault => .error fault
        | .ok (key, next) =>
            if _moved : next.length ≤ rest.length then
              (parseFlowEntries scope false next).map fun (entries, rest) =>
                ((key, .absent) :: entries, rest)
            else .error .malformed
termination_by 8 * tokens.length + 5

end

/-! ## Names of nodes -/

def refuseNode : List Token → List Token
  | .tag handle suffix :: rest => .tag handle suffix :: refuseNode rest
  | .fault fault :: _ => [.fault fault]
  | _ => [.fault .malformed]

/-- Tokens up to the first name that does not fit: that of an alias has to be taken before,
that of any other node has to be new. -/
def refuseNames (names : List String) : List Token → List Token
  | [] => []
  | .alias name :: rest =>
      if names.contains name then .alias name :: refuseNames names rest
      else [.fault .malformed]
  | .anchor name :: rest =>
      if names.contains name then .anchor name :: refuseNode rest
      else .anchor name :: refuseNames (name :: names) rest
  | token :: rest => token :: refuseNames names rest

/-! ## Documents -/

def parseDirectives (versioned : Bool) (handles : Handles) : List Token → Parsed Handles
  | .directive .other :: rest => parseDirectives versioned handles rest
  | .directive (.version major) :: rest =>
      if versioned ∨ major ≠ 1 then .error .malformed else parseDirectives true handles rest
  | .directive (.tag handle meaning) :: rest =>
      if (handles.lookup handle).isSome then .error .malformed
      else parseDirectives versioned (handles ++ [(handle, meaning)]) rest
  | tokens => .ok (handles, tokens)

/-- Accept the end of the text after a document. Another document is refused where it
starts, after its directives. -/
def expectEnd (tokens : List Token) : Except Fault Unit :=
  match tokens.dropWhile (· = .documentEnd) with
  | [.streamEnd] => .ok ()
  | rest => do
      let (_, rest) ← parseDirectives false [] rest
      unexpected rest

def parseDocument (limit : Nat) (tokens : List Token) : Except Fault (Option Node) :=
  match tokens with
  | [.streamEnd] => .ok none
  | .directive _ :: _ | .documentStart :: _ => do
      let (handles, rest) ← parseDirectives false [] tokens
      match rest with
      | .documentStart :: rest =>
          let stops := rest.head?.any fun token =>
            token matches .directive _ | .documentStart | .documentEnd | .streamEnd
          let (node, rest) ←
            if stops then pure (Node.absent, rest)
            else parseNode ⟨handles ++ defaultHandles, limit⟩ .block rest
          expectEnd rest
          return some node
      | _ => unexpected rest
  | _ => do
      let (node, rest) ← parseNode ⟨defaultHandles, limit⟩ .block tokens
      expectEnd rest
      return some node

end ImportAtlas.Yaml
