import ImportAtlas.Text.Utf8
import ImportAtlas.Yaml.Scalar

/-! # YAML tokens

The lexemes of a document, with the starts and ends of blocks made explicit from the
indentation. A key need not be marked: when a colon follows a node on the same line,
the mark of the key is put before that node.
-/

namespace ImportAtlas.Yaml

inductive Directive
  | version (major : Nat)
  | tag (handle meaning : String)
  | other
deriving DecidableEq, Repr

inductive Token
  | streamEnd
  | directive (directive : Directive)
  | documentStart
  | documentEnd
  | blockSequence
  | blockMapping
  | blockEnd
  | openSequence
  | closeSequence
  | openMapping
  | closeMapping
  | key
  | value
  | blockEntry
  | flowEntry
  | alias (name : String)
  | anchor (name : String)
  | tag (handle : Option String) (suffix : String)
  | scalar (text : Text.Coded) (isPlain : Bool)
  | fault (fault : Fault)
deriving DecidableEq, Repr

open Reading

/-! ## Names, tags and directives -/

def name : Reading String := do
  let chars ← takeWhile isNameChar
  if chars.isEmpty then malformed
  return String.ofList chars

def anchorName : Reading String := do
  forward 1
  let anchor ← name
  let char ← peek 0
  unless isGapOrEnd char || ['?', ':', ',', ']', '\x7D', '%', '@', '`'].contains char do malformed
  return anchor

def isTagChar (char : Char) : Bool :=
  char.isAlphanum || "-;/?:@&=+$,_.!~*'()[]".toList.contains char

def percentChars : Reading (List Char) := do
  let bytes ← many do
    if (← peek 0) ≠ '%' then return none
    forward 1
    let code ← hexAhead 2
    forward 2
    return some (UInt8.ofNat code)
  match Text.Utf8.decode? bytes with
  | some chars => return chars
  | none => malformed

def tagText : Reading String := do
  let parts ← many do
    let run ← takeWhile isTagChar
    if !run.isEmpty then return some run
    else if (← peek 0) = '%' then return some (← percentChars)
    else return none
  if parts.isEmpty then malformed
  return String.ofList parts.flatten

def tagHandle : Reading String := do
  if (← peek 0) ≠ '!' then malformed
  forward 1
  if (← peek 0) = ' ' then return "!"
  let chars ← takeWhile isNameChar
  if (← peek 0) ≠ '!' then malformed
  forward 1
  return String.ofList ('!' :: chars ++ ['!'])

def tagToken : Reading Token := do
  let char ← peek 1
  let token ←
    if char = '<' then do
      forward 2
      let suffix ← tagText
      if (← peek 0) ≠ '>' then malformed
      forward 1
      pure (Token.tag none suffix)
    else if isGapOrEnd char then do
      forward 1
      pure (Token.tag none "!")
    else do
      let body := ((← get).rest.drop 1).takeWhile fun char => char ≠ '!' && !isSpaceOrEnd char
      if (← peek (body.length + 1)) = '!' then
        let handle ← tagHandle
        pure (Token.tag (some handle) (← tagText))
      else
        forward 1
        pure (Token.tag (some "!") (← tagText))
  unless isSpaceOrEnd (← peek 0) do malformed
  return token

def directiveNumber : Reading Nat := do
  let digits ← takeWhile Char.isDigit
  if digits.isEmpty then malformed
  if Decimal.digitLimit < digits.length then
    throw (.scalar (.overlongInteger digits.length))
  return digits.foldl (fun total digit => 10 * total + (digit.toNat - 48)) 0

def directiveToken : Reading Token := do
  forward 1
  let kind ← name
  unless isSpaceOrEnd (← peek 0) do malformed
  let directive ←
    if kind = "YAML" then do
      skipSpaces
      let major ← directiveNumber
      if (← peek 0) ≠ '.' then malformed
      forward 1
      discard directiveNumber
      unless isSpaceOrEnd (← peek 0) do malformed
      pure (Directive.version major)
    else if kind = "TAG" then do
      skipSpaces
      let handle ← tagHandle
      if (← peek 0) ≠ ' ' then malformed
      skipSpaces
      let meaning ← tagText
      unless isSpaceOrEnd (← peek 0) do malformed
      pure (Directive.tag handle meaning)
    else do
      discard (takeWhile (!isBreakOrEnd ·))
      pure Directive.other
  endOfLine
  return .directive directive

/-! ## The lexer -/

/-- A node that turns out to be a key if a colon follows it on its line. -/
structure KeyCandidate where
  tokenNumber : Nat
  isRequired : Bool
  index : Nat
  line : Nat
  column : Nat
deriving Repr

def KeyCandidate.isStale (candidate : KeyCandidate) (cursor : Cursor) : Bool :=
  candidate.line ≠ cursor.line || decide (1024 < cursor.index - candidate.index)

/-- What the lexer keeps: the tokens so far in reverse, the depth of brackets, the
indentation of the open blocks, and for every depth the node that may still be a key. -/
structure Lexer where
  cursor : Cursor
  reversed : List Token
  count : Nat
  depth : Nat
  indent : Int
  outerIndents : List Int
  allowsKey : Bool
  candidates : List (Nat × KeyCandidate)
deriving Inhabited

abbrev Lexing := StateT Lexer (Except Fault)

namespace Lexing

def read {α : Type} (reading : Reading α) : Lexing α := do
  let lexer ← get
  let (result, cursor) ← (reading lexer.cursor : Except Fault (α × Cursor))
  set { lexer with cursor }
  return result

def malformed {α : Type} : Lexing α := throw Fault.malformed

def emit (token : Token) : Lexing Unit :=
  modify fun lexer =>
    { lexer with reversed := token :: lexer.reversed, count := lexer.count + 1 }

def insert (number : Nat) (token : Token) : Lexing Unit :=
  modify fun lexer =>
    let after := lexer.count - number
    { lexer with
      reversed := lexer.reversed.take after ++ token :: lexer.reversed.drop after
      count := lexer.count + 1 }

def allowKey (allowed : Bool) : Lexing Unit :=
  modify fun lexer => { lexer with allowsKey := allowed }

def inFlow : Lexing Bool := return (← get).depth ≠ 0

def skipToToken : Lexing Unit := do
  if (← get).cursor.index = 0 then
    if (← read (peek 0)) = '\uFEFF' then read (forward 1)
  let lineEnds ← read <| many do
    skipSpaces
    if (← peek 0) = '#' then discard (takeWhile (!isBreakOrEnd ·))
    let lineEnd ← lineBreak
    return if lineEnd.isEmpty then none else some ()
  unless lineEnds.isEmpty || (← inFlow) do allowKey true

def dropStale : Lexing Unit := do
  let lexer ← get
  let isStale (candidate : KeyCandidate) : Bool := candidate.isStale lexer.cursor
  if lexer.candidates.any fun entry => isStale entry.2 && entry.2.isRequired then malformed
  set { lexer with candidates := lexer.candidates.filter fun entry => !isStale entry.2 }

def dropCandidate : Lexing Unit := do
  let lexer ← get
  match lexer.candidates.lookup lexer.depth with
  | none => return
  | some candidate =>
      if candidate.isRequired then malformed
      set { lexer with candidates := lexer.candidates.filter (·.1 ≠ lexer.depth) }

def noteCandidate : Lexing Unit := do
  let lexer ← get
  if lexer.allowsKey then
    dropCandidate
    let cursor := lexer.cursor
    let isRequired := lexer.depth = 0 ∧ lexer.indent = cursor.column
    let candidate : KeyCandidate :=
      ⟨lexer.count, isRequired, cursor.index, cursor.line, cursor.column⟩
    modify fun lexer =>
      { lexer with candidates := (lexer.depth, candidate) :: lexer.candidates }

def closeBlocks (column : Int) : Lexing Unit := do
  let lexer ← get
  if lexer.depth = 0 then
    let isDeeper (indent : Int) : Bool := decide (column < indent)
    let closed := (lexer.indent :: lexer.outerIndents).takeWhile isDeeper
    match (lexer.indent :: lexer.outerIndents).drop closed.length with
    | [] => return
    | indent :: outerIndents =>
        set { lexer with
          reversed := List.replicate closed.length Token.blockEnd ++ lexer.reversed
          count := lexer.count + closed.length, indent, outerIndents }

def opensBlock (column : Nat) : Lexing Bool := do
  let lexer ← get
  if lexer.indent < column then
    set { lexer with indent := column, outerIndents := lexer.indent :: lexer.outerIndents }
    return true
  else return false

def openBlock (token : Token) : Lexing Unit := do
  unless ← inFlow do
    unless (← get).allowsKey do malformed
    if ← opensBlock (← get).cursor.column then emit token

def streamEnd : Lexing Unit := do
  closeBlocks (-1)
  dropCandidate
  modify fun lexer => { lexer with allowsKey := false, candidates := [] }
  emit .streamEnd

def outsideBlocks (reading : Reading Token) : Lexing Unit := do
  closeBlocks (-1)
  dropCandidate
  allowKey false
  emit (← read reading)

def mark (token : Token) : Lexing Unit := do
  read (forward 1)
  emit token

def openFlow (token : Token) : Lexing Unit := do
  noteCandidate
  modify fun lexer => { lexer with depth := lexer.depth + 1, allowsKey := true }
  mark token

def closeFlow (token : Token) : Lexing Unit := do
  dropCandidate
  read (forward 1)
  unless ← inFlow do malformed
  modify fun lexer => { lexer with depth := lexer.depth - 1, allowsKey := false }
  emit token

def keyable (reading : Reading Token) : Lexing Unit := do
  noteCandidate
  allowKey false
  emit (← read reading)

def valueMark : Lexing Unit := do
  let lexer ← get
  match lexer.candidates.lookup lexer.depth with
  | some candidate =>
      set { lexer with candidates := lexer.candidates.filter (·.1 ≠ lexer.depth) }
      insert candidate.tokenNumber .key
      unless ← inFlow do
        if ← opensBlock candidate.column then insert candidate.tokenNumber .blockMapping
      allowKey false
  | none =>
      openBlock .blockMapping
      allowKey (!(← inFlow))
      dropCandidate
  mark .value

def plain : Lexing Unit := do
  noteCandidate
  let lexer ← get
  let (text, ended) ← read (plainScalar (lexer.depth ≠ 0) (lexer.indent + 1))
  allowKey ended
  emit (.scalar (Text.Coded.ofChars text) true)

def isIndicator (char : Char) : Bool :=
  ['-', '?', ':', ',', '[', ']', '\x7B', '\x7D', '#', '&', '*', '!', '|', '>', '\'', '"', '%', '@',
    '`'].contains char

/-- Whether a plain scalar may start here. An indicator that may start one has to be followed
by something. -/
def startsPlain (inFlow : Bool) : Reading Bool := do
  let char ← peek 0
  if isGapOrEnd char || isIndicator char then
    let isGapNext := isGapOrEnd (← peek 1)
    return !isGapNext && (char == '-' || (!inFlow && (char == '?' || char == ':')))
  else return true

def atLineMarker (mark : Char) : Reading Bool := do
  if (← get).column = 0 ∧ (← peek 0) = mark then atMarker mark else return false

/-- Whether the character that stands here is the mark of an entry, a key or a value, and
nothing but such a mark: inside brackets no gap has to follow a key or a value. -/
def isMark (inFlow : Bool) (mark : Char) : Reading Bool := do
  if (← peek 0) ≠ mark then return false
  else if inFlow && mark ≠ '-' then return true
  else return isGapOrEnd (← peek 1)

def lexeme : Lexing Unit := do
  skipToToken
  dropStale
  closeBlocks (← get).cursor.column
  let flow ← inFlow
  let char ← read (peek 0)
  let startsDocument ← read (atLineMarker '-')
  let endsDocument ← read (atLineMarker '.')
  if char = '\x00' then streamEnd
  else if char = '%' ∧ (← get).cursor.column = 0 then outsideBlocks directiveToken
  else if startsDocument then outsideBlocks (do forward 3; return .documentStart)
  else if endsDocument then outsideBlocks (do forward 3; return .documentEnd)
  else if char = '[' then openFlow .openSequence
  else if char = '\x7B' then openFlow .openMapping
  else if char = ']' then closeFlow .closeSequence
  else if char = '\x7D' then closeFlow .closeMapping
  else if char = ',' then
    allowKey true
    dropCandidate
    mark .flowEntry
  else if ← read (isMark flow '-') then
    openBlock .blockSequence
    allowKey true
    dropCandidate
    mark .blockEntry
  else if ← read (isMark flow '?') then
    openBlock .blockMapping
    allowKey (!flow)
    dropCandidate
    mark .key
  else if ← read (isMark flow ':') then valueMark
  else if char = '*' then keyable (return .alias (← anchorName))
  else if char = '&' then keyable (return .anchor (← anchorName))
  else if char = '!' then keyable tagToken
  else if (char = '|' ∨ char = '>') ∧ ¬flow then
    allowKey true
    dropCandidate
    let text ← read (blockScalar (char = '>') (← get).indent)
    emit (.scalar (Text.Coded.ofChars text) false)
  else if char = '\'' ∨ char = '"' then
    keyable (return .scalar (← quotedScalar (char = '"')) false)
  else if ← read (startsPlain flow) then plain
  else malformed

end Lexing

def Lexer.settledCount (lexer : Lexer) : Nat :=
  let pending := lexer.candidates.filter fun entry => !entry.2.isStale lexer.cursor
  pending.foldl (fun count entry => min count entry.2.tokenNumber) lexer.count

/-- The settled tokens and a fault. What a candidate is cannot be known before the text after
it has been read, so a fault in that text comes before it. -/
def Lexer.tokensBefore (lexer : Lexer) (fault : Fault) : List Token :=
  (.fault fault :: lexer.reversed.drop (lexer.count - lexer.settledCount)).reverse

def tokensFrom (lexer : Lexer) : List Token :=
  match Lexing.lexeme lexer with
  | .error fault => lexer.tokensBefore fault
  | .ok (_, next) =>
      if next.reversed.head? = some .streamEnd then next.reversed.reverse
      else if _moved : next.cursor.rest.length < lexer.cursor.rest.length then tokensFrom next
      else (.fault .malformed :: next.reversed).reverse
termination_by lexer.cursor.rest.length

def tokens (source : Source) : List Token :=
  tokensFrom ⟨.start source, [], 0, 0, -1, [], true, []⟩

end ImportAtlas.Yaml
