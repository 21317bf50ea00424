import ImportAtlas.Datum
import ImportAtlas.Number.Decimal
import ImportAtlas.Number.Notation

/-! # Message templates

A template is a text with directives that start with a percent sign. Each directive takes
an argument, in order or by name, and says in what form it is written. A template is cut
into tokens first; the tokens are then worked off from the left, so that of several faults
the first one counts.
-/

namespace ImportAtlas.Log.Template

open Text (Code Coded)

/-! ## Faults -/

inductive Fault
  | incomplete
  | incompleteKey
  | tooFewArguments
  | tooManyArguments
  | needsMapping
  | missingKey (name : Coded)
  | widthTooBig
  | precisionTooBig
  | needsInteger
  | hugeWidth
  | hugePrecision
  | unsupported (conversion : Code) (index : Nat)
  | notNumber (conversion : Char) (kind : String)
  | notInteger (conversion : Char) (kind : String)
  | notReal (kind : String)
  | notChar
  | noChar
  | infinite
  | undefined
  | tooLarge
  | precisionTooLarge
  | noMemory
  | argument (fault : WriteFault)
deriving DecidableEq, Repr

def hexText (value : Nat) : String :=
  String.ofList (Nat.toDigits 16 value)

def Fault.message : Fault → String
  | incomplete => "incomplete format"
  | incompleteKey => "incomplete format key"
  | tooFewArguments => "not enough arguments for format string"
  | tooManyArguments => "not all arguments converted during string formatting"
  | needsMapping => "format requires a mapping"
  | missingKey name => Text.quoted name
  | widthTooBig => "width too big"
  | precisionTooBig => "precision too big"
  | needsInteger => "* wants int"
  | hugeWidth => "Python int too large to convert to C ssize_t"
  | hugePrecision => "Python int too large to convert to C int"
  | unsupported conversion index =>
      let isShown (char : Char) : Bool := 31 ≤ char.toNat ∧ char.toNat ≤ 126
      let shown := (conversion.char?.filter isShown).getD '?'
      "unsupported format character '" ++ shown.toString ++ "' (0x" ++ hexText conversion.number
        ++ ") at index " ++ toString index
  | notNumber conversion kind =>
      "%" ++ conversion.toString ++ " format: a real number is required, not " ++ kind
  | notInteger conversion kind =>
      "%" ++ conversion.toString ++ " format: an integer is required, not " ++ kind
  | notReal kind => "must be real number, not " ++ kind
  | notChar => "%c requires int or char"
  | noChar => "%c arg not in range(0x110000)"
  | infinite => "cannot convert float infinity to integer"
  | undefined => "cannot convert float NaN to integer"
  | tooLarge => "int too large to convert to float"
  | precisionTooLarge => "precision too large"
  | noMemory => ""
  | argument fault => fault.message "getting the repr of an object"

/-! ## Tokens -/

structure Layout where
  isLeft : Bool
  showsPlus : Bool
  leavesBlank : Bool
  isAlternate : Bool
  isZeroPadded : Bool
  width : Nat
  precision : Option Nat
deriving DecidableEq, Repr

/-- A piece of a template. Width and precision may be arguments themselves, which are taken
before the argument that is written. -/
inductive Token
  | literal (code : Code)
  | key (name : Option Coded)
  | takeWidth
  | takePrecision
  | convert (layout : Layout) (conversion : Code) (index : Nat)
  | fault (fault : Fault)
deriving Repr

def closingParenthesis (depth : Nat) : Coded → Option (Coded × Coded)
  | [] => none
  | head :: tail =>
      if head = .char ')' ∧ depth = 0 then some ([], tail)
      else
        let depth :=
          if head = .char ')' then depth - 1 else if head = .char '(' then depth + 1 else depth
        (closingParenthesis depth tail).map fun (name, rest) => (head :: name, rest)

def spanKey (codes : Coded) : List Token × Coded :=
  match codes with
  | .char '(' :: tail =>
      match closingParenthesis 0 tail with
      | some (name, rest) => ([.key (some name)], rest)
      | none => ([.key none], [])
  | _ => ([], codes)

def isDigit (code : Code) : Bool :=
  code.char?.any Char.isDigit

def spanNumber (limit : Nat) (star : Token) (excess : Fault) (codes : Coded) :
    Option Nat × List Token × Coded :=
  match codes with
  | .char '*' :: tail => (none, [star], tail)
  | _ =>
      match (codes.takeWhile isDigit).filterMap Code.char? with
      | [] => (none, [], codes)
      | digits =>
          let value := Decimal.value digits
          let fault := if limit < value then [.fault excess] else []
          (some value, fault, codes.dropWhile isDigit)

def isFlag (code : Code) : Bool :=
  (Coded.ofText "-+ #0").contains code

/-- The tokens of a directive after its percent sign, and what follows it. The index is that
of the first character after the percent sign. -/
def directive (index : Nat) (codes : Coded) : List Token × Coded :=
  match codes with
  | .char '%' :: rest => ([.literal '%'], rest)
  | _ =>
      let (key, afterKey) := spanKey codes
      let flags := afterKey.takeWhile isFlag
      let (width, widthTokens, afterWidth) :=
        spanNumber 0x7FFFFFFFFFFFFFFF .takeWidth .widthTooBig (afterKey.drop flags.length)
      let (precision, precisionTokens, afterPrecision) :=
        match afterWidth with
        | .char '.' :: rest =>
            let (precision, tokens, rest) :=
              spanNumber 0x7FFFFFFF .takePrecision .precisionTooBig rest
            (some (precision.getD 0), tokens, rest)
        | _ => (none, [], afterWidth)
      let afterSize :=
        match afterPrecision with
        | size :: rest => if (Coded.ofText "hlL").contains size then rest else afterPrecision
        | [] => []
      let layout : Layout :=
        { isLeft := flags.contains (.char '-'), showsPlus := flags.contains (.char '+')
          leavesBlank := flags.contains (.char ' '), isAlternate := flags.contains (.char '#')
          isZeroPadded := flags.contains (.char '0'), width := width.getD 0, precision }
      match afterSize with
      | [] => (key ++ widthTokens ++ precisionTokens ++ [.fault .incomplete], [])
      | conversion :: rest =>
          (key ++ widthTokens ++ precisionTokens
            ++ [.convert layout conversion (index + (codes.length - afterSize.length))], rest)

def tokensFrom : (skipped index : Nat) → Coded → List Token
  | _, _, [] => []
  | skipped + 1, index, _ :: tail => tokensFrom skipped (index + 1) tail
  | 0, index, head :: tail =>
      if head = .char '%' then
        let (tokens, rest) := directive (index + 1) tail
        tokens ++ tokensFrom (tail.length - rest.length) (index + 1) tail
      else .literal head :: tokensFrom 0 (index + 1) tail

def tokens (template : Coded) : List Token :=
  tokensFrom 0 0 template

/-! ## Forms of arguments -/

/-- A written argument with its sign and the mark of its base in front, filled up to the
width. Zeros come after the sign, spaces before it. -/
def arrange (layout : Layout) (isNumeric : Bool) (sign mark body : Coded) : Coded :=
  let missing := layout.width - (sign.length + mark.length + body.length)
  if layout.isLeft then sign ++ mark ++ body ++ List.replicate missing (.char ' ')
  else if layout.isZeroPadded && isNumeric then
    sign ++ mark ++ List.replicate missing (.char '0') ++ body
  else List.replicate missing (.char ' ') ++ sign ++ mark ++ body

def signText (layout : Layout) (isNegative : Bool) : Coded :=
  if isNegative then ['-']
  else if layout.showsPlus then ['+']
  else if layout.leavesBlank then [' ']
  else []

def textForm (layout : Layout) (text : Coded) : Coded :=
  let kept :=
    match layout.precision with
    | some precision => text.take precision
    | none => text
  arrange layout false [] [] kept

def asciiText (text : List Char) : List Char :=
  text.flatMap fun char => if char.toNat < 128 then [char] else Text.codeEscape char

def wholeNumber (conversion : Char) : Datum → Except Fault Int
  | .bool value => .ok (if value then 1 else 0)
  | .int value => .ok value
  | .float (.finite negative significand exponent) =>
      let (numerator, denominator) := Binary64.signedRatio negative significand exponent
      .ok (numerator.tdiv denominator)
  | .float (.infinite _) => .error .infinite
  | .float .notANumber | .ownNotANumber _ => .error .undefined
  | other => .error (.notNumber conversion other.kindName)

def integer (conversion : Char) : Datum → Except Fault Int
  | .bool value => .ok (if value then 1 else 0)
  | .int value => .ok value
  | other => .error (.notInteger conversion other.kindName)

def digitsBound : Nat := 0x7FFFFFFC

def integerForm (layout : Layout) (base : Nat) (mark : Coded) (isUpper : Bool)
    (value : Int) : Except Fault Coded :=
  let precision := layout.precision.getD 0
  if digitsBound < precision then .error .precisionTooLarge
  else
    let digits := Nat.toDigits base value.natAbs
    let digits := if isUpper then digits.map Char.toUpper else digits
    let body := List.replicate (precision - digits.length) '0' ++ digits
    let mark := if layout.isAlternate then mark else []
    .ok (arrange layout true (signText layout (value < 0)) mark (.ofChars body))

def decimalForm (layout : Layout) (value : Int) : Except Fault Coded := do
  let form ← integerForm layout 10 [] false value
  (WriteFault.ofInt value).elim (.ok form) fun fault => .error (.argument fault)

def real : Datum → Except Fault Binary64
  | .bool value => .ok (Binary64.ofInt (if value then 1 else 0))
  | .int value =>
      match Binary64.ofInt value with
      | .infinite _ => .error .tooLarge
      | number => .ok number
  | .float value => .ok value
  | .ownNotANumber _ => .ok .notANumber
  | other => .error (.notReal other.kindName)

def greatestPrecision : Nat := 0x7FFFFFFF

def digitsEnough : Nat := 800

/-- A number with a point in the notation that a letter in lower case stands for. Scientific
notation takes the greatest precision for none, and mixed notation drops the zeros after
the last digit that counts. -/
def realBody (layout : Layout) (letter : Char) (significand : Nat) (exponent : Int) :
    List Char :=
  let (numerator, denominator) := Binary64.ratio significand exponent
  let precision := layout.precision.getD 6
  if letter = 'f' then Binary64.positional precision layout.isAlternate numerator denominator
  else if letter = 'e' then
    let precision := if precision = greatestPrecision then 0 else precision
    Binary64.scientific precision layout.isAlternate numerator denominator
  else
    let precision := if layout.isAlternate then precision else min precision digitsEnough
    Binary64.mixed precision layout.isAlternate numerator denominator

def realForm (layout : Layout) (conversion : Char) (value : Binary64) : Coded :=
  let (isNegative, body) :=
    match value with
    | .finite negative significand exponent =>
        (negative, realBody layout conversion.toLower significand exponent)
    | .infinite negative => (negative, "inf".toList)
    | .notANumber => (false, "nan".toList)
  let body := if conversion.isUpper then body.map Char.toUpper else body
  arrange layout true (signText layout isNegative) [] (.ofChars body)

def codeForm (layout : Layout) (code : Code) : Coded :=
  let blanks := List.replicate (layout.width - 1) (.char ' ')
  if layout.isLeft then code :: blanks else blanks ++ [code]

def charForm (layout : Layout) : Datum → Except Fault Coded
  | .text [code] => .ok (codeForm layout code)
  | .bool value => .ok (codeForm layout (.ofNumber (if value then 1 else 0)))
  | .int value =>
      if 0 ≤ value ∧ value < 0x110000 then .ok (codeForm layout (.ofNumber value.toNat))
      else .error .noChar
  | _ => .error .notChar

def shownForm (room : Nat) (layout : Layout) (value : Datum) (text : Coded) :
    Except Fault Coded :=
  (value.firstFault room).elim (.ok (textForm layout text)) fun fault => .error (.argument fault)

def convert (room : Nat) (layout : Layout) (conversion : Code) (index : Nat) (value : Datum) :
    Except Fault Coded :=
  match conversion.char?.getD '\x00' with
  | 's' => shownForm room layout value value.display
  | 'r' => shownForm room layout value value.literal
  | 'a' => shownForm room layout value (.ofChars (asciiText value.literal.toList))
  | 'd' => do decimalForm layout (← wholeNumber 'd' value)
  | 'i' => do decimalForm layout (← wholeNumber 'i' value)
  | 'u' => do decimalForm layout (← wholeNumber 'u' value)
  | 'o' => do integerForm layout 8 "0o" false (← integer 'o' value)
  | 'x' => do integerForm layout 16 "0x" false (← integer 'x' value)
  | 'X' => do integerForm layout 16 "0X" true (← integer 'X' value)
  | 'c' => charForm layout value
  | letter =>
      if ['e', 'E', 'f', 'F', 'g', 'G'].contains letter then
        (real value).map (realForm layout letter)
      else .error (.unsupported conversion index)

def widthBound : Nat := 0x8000000000

/-- An argument in the form that a conversion letter asks for, if there is memory for its
width. Whether it has that form at all is found out first. -/
def convertWithin (room : Nat) (layout : Layout) (conversion : Code) (index : Nat)
    (value : Datum) : Except Fault Coded :=
  if layout.width < widthBound then convert room layout conversion index value
  else do
    discard (convert room { layout with width := 0 } conversion index value)
    throw .noMemory

/-! ## Messages -/

structure Supply where
  pending : List Datum
  named : Option (List (Datum × Datum))
deriving Repr

def supplyOf : List Datum → Supply
  | [.mapping (entry :: entries)] =>
      ⟨[.mapping (entry :: entries)], some (entry :: entries)⟩
  | arguments => ⟨arguments, none⟩

def Supply.take (supply : Supply) : Except Fault (Datum × Supply) :=
  match supply.pending with
  | [] => .error .tooFewArguments
  | head :: tail => .ok (head, { supply with pending := tail })

def Supply.select (supply : Supply) (name : Option Coded) : Except Fault Supply :=
  match supply.named, name with
  | none, _ => .error .needsMapping
  | some _, none => .error .incompleteKey
  | some entries, some name =>
      match entries.find? fun entry => entry.1.isSameKey (.text name) with
      | some (_, value) => .ok { supply with pending := [value] }
      | none => .error (.missingKey name)

structure Taken where
  width : Option Int
  precision : Option Int
deriving Repr

def leastWidth : Int := -0x8000000000000000

def Taken.apply (taken : Taken) (layout : Layout) : Layout :=
  let layout :=
    match taken.width with
    | some width =>
        { layout with
          width := if width = leastWidth then 0 else width.natAbs
          isLeft := layout.isLeft || width < 0 }
    | none => layout
  match taken.precision with
  | some precision => { layout with precision := some precision.toNat }
  | none => layout

def takenNumber (limit : Int) (excess : Fault) : Datum → Except Fault Int
  | .bool value => .ok (if value then 1 else 0)
  | .int value => if -limit ≤ value ∧ value < limit then .ok value else .error excess
  | _ => .error .needsInteger

def fill (room : Nat) (supply : Supply) (taken : Taken) : List Token → Except Fault Coded
  | [] =>
      if supply.pending.isEmpty || supply.named.isSome then .ok [] else .error .tooManyArguments
  | .literal code :: rest => (fill room supply taken rest).map (code :: ·)
  | .fault fault :: _ => .error fault
  | .key name :: rest =>
      match supply.select name with
      | .error fault => .error fault
      | .ok supply => fill room supply taken rest
  | .takeWidth :: rest => do
      let (value, supply) ← supply.take
      let width ← takenNumber 0x8000000000000000 .hugeWidth value
      fill room supply { taken with width := some width } rest
  | .takePrecision :: rest => do
      let (value, supply) ← supply.take
      let precision ← takenNumber 0x80000000 .hugePrecision value
      fill room supply { taken with precision := some precision } rest
  | .convert layout conversion index :: rest => do
      let (value, supply) ← supply.take
      let written ← convertWithin room (taken.apply layout) conversion index value
      let others ← fill room supply ⟨none, none⟩ rest
      return written ++ others

def format (room : Nat) (template : Coded) (arguments : List Datum) : Except Fault Coded :=
  if arguments.isEmpty then .ok template
  else fill room (supplyOf arguments) ⟨none, none⟩ (tokens template)

end ImportAtlas.Log.Template
