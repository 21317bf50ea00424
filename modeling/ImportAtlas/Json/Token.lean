import ImportAtlas.Json.Basic
import ImportAtlas.Number.Decimal
import ImportAtlas.Text.Hex

/-! # JSON tokens

The lexemes of a JSON text, found by reading one character at a time. What is no
lexeme becomes the token `invalid`, so that the parser meets faults in the order
in which they stand in the text.
-/

namespace ImportAtlas.Json

open Decimal
open Text (Code Coded)

inductive Token
  | openArray
  | closeArray
  | openObject
  | closeObject
  | colon
  | comma
  | text (value : Coded)
  | scalar (value : Json)
  | overlong (digits : Nat)
  | invalid
deriving Inhabited

/-- Where the lexer stands: between lexemes, in a word or number, or in a text. What has been
read of these is kept in reverse. -/
inductive LexState
  | idle
  | word (reversed : List Char)
  | text (reversed : Coded)
  | escape (reversed : Coded)
  | unicode (reversed : Coded) (digits : List Char)
deriving Inhabited

def isWordChar (char : Char) : Bool :=
  char.isAlphanum || char == '+' || char == '-' || char == '.'

def numberTokens (negative : Bool) (whole rest : List Char) : List Token :=
  let (fraction, afterFraction) := spanFraction rest
  let (exponent, rest) := spanExponent afterFraction
  let token : Token :=
    if fraction.isEmpty && exponent.isNone then
      if whole.length > digitLimit then .overlong whole.length
      else
        let value : Int := Decimal.value whole
        .scalar (.int (if negative then -value else value))
    else
      .scalar (.float (Binary64.ofDecimal negative (Decimal.value (whole ++ fraction))
        (exponent.getD 0 - fraction.length)))
  token :: (if rest.isEmpty then [] else [.invalid])

def wordTokens (chars : List Char) : List Token :=
  if chars = "null".toList then [.scalar .null]
  else if chars = "true".toList then [.scalar (.bool true)]
  else if chars = "false".toList then [.scalar (.bool false)]
  else if chars = "NaN".toList then [.scalar (.float .notANumber)]
  else if chars = "Infinity".toList then [.scalar (.float (.infinite false))]
  else if chars = "-Infinity".toList then [.scalar (.float (.infinite true))]
  else
    let (negative, unsigned) :=
      match chars with
      | '-' :: tail => (true, tail)
      | _ => (false, chars)
    match unsigned with
    | '0' :: rest => numberTokens negative ['0'] rest
    | _ =>
        match spanDigits unsigned with
        | ([], _) => [.invalid]
        | (whole, rest) => numberTokens negative whole rest

def escapedChar? (char : Char) : Option Char :=
  match char with
  | '"' | '\\' | '/' => some char
  | 'b' => some '\x08'
  | 'f' => some '\x0C'
  | 'n' => some '\n'
  | 'r' => some '\r'
  | 't' => some '\t'
  | _ => none

def pushCode (code : Code) (reversed : Coded) : Coded :=
  match reversed with
  | [] => [code]
  | last :: before =>
      match Coded.pair? last code with
      | some char => .char char :: before
      | none => code :: last :: before

def idleStep (char : Char) : List Token × LexState :=
  match char with
  | ' ' | '\t' | '\n' | '\r' => ([], .idle)
  | '[' => ([.openArray], .idle)
  | ']' => ([.closeArray], .idle)
  | '\x7B' => ([.openObject], .idle)
  | '\x7D' => ([.closeObject], .idle)
  | ':' => ([.colon], .idle)
  | ',' => ([.comma], .idle)
  | '"' => ([], .text [])
  | _ => if isWordChar char then ([], .word [char]) else ([.invalid], .idle)

def lexStep (state : LexState) (char : Char) : List Token × LexState :=
  match state with
  | .idle => idleStep char
  | .word reversed =>
      if isWordChar char then ([], .word (char :: reversed))
      else
        let (tokens, next) := idleStep char
        (wordTokens reversed.reverse ++ tokens, next)
  | .text reversed =>
      if char = '"' then ([.text reversed.reverse], .idle)
      else if char = '\\' then ([], .escape reversed)
      else if char.toNat < 32 then ([.invalid], .text reversed)
      else ([], .text (.char char :: reversed))
  | .escape reversed =>
      if char = 'u' then ([], .unicode reversed [])
      else
        match escapedChar? char with
        | some escaped => ([], .text (.char escaped :: reversed))
        | none => ([.invalid], .text reversed)
  | .unicode reversed digits =>
      match Text.hexNumber? (digits ++ [char]) with
      | none => ([.invalid], .text reversed)
      | some number =>
          if digits.length < 3 then ([], .unicode reversed (digits ++ [char]))
          else ([], .text (pushCode (.ofNumber number) reversed))

def lexEnd : LexState → List Token
  | .idle => []
  | .word reversed => wordTokens reversed.reverse
  | _ => [.invalid]

def tokensFrom (state : LexState) : List Char → List Token
  | [] => lexEnd state
  | head :: tail =>
      let (tokens, next) := lexStep state head
      tokens ++ tokensFrom next tail

def tokens (chars : List Char) : List Token :=
  tokensFrom .idle chars

end ImportAtlas.Json
