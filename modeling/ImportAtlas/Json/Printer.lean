import ImportAtlas.Json.Basic
import ImportAtlas.Number.Shortest
import ImportAtlas.Text.Quoted

/-! # Writing JSON

A value on one line in ASCII, with a space after every comma and colon. Characters
outside printable ASCII are written by their UTF-16 codes.
-/

namespace ImportAtlas.Json

open Text (Code Coded unitEscape)

def textChar (char : Char) : List Char :=
  if char = '"' then ['\\', '"']
  else if char = '\\' then ['\\', '\\']
  else if char = '\n' then ['\\', 'n']
  else if char = '\r' then ['\\', 'r']
  else if char = '\t' then ['\\', 't']
  else if char = '\x08' then ['\\', 'b']
  else if char = '\x0C' then ['\\', 'f']
  else if 32 ≤ char.toNat ∧ char.toNat < 127 then [char]
  else if char.toNat < 0x10000 then unitEscape char.toNat
  else
    let offset := char.toNat - 0x10000
    unitEscape (0xD800 + offset / 0x400) ++ unitEscape (0xDC00 + offset % 0x400)

def codeChars : Code → List Char
  | .char char => textChar char
  | half => unitEscape half.number

def textChars (text : Coded) : List Char :=
  '"' :: text.flatMap codeChars ++ ['"']

/-- A double-precision number; the values that are no numbers have names. -/
def floatText : Binary64 → String
  | .notANumber => "NaN"
  | .infinite negative => if negative then "-Infinity" else "Infinity"
  | value => value.text

def commaSeparated (written : List (List Char)) : List Char :=
  [',', ' '].intercalate written

def objectChars (members : List (Coded × List Char)) : List Char :=
  '\x7B' :: commaSeparated (members.map fun (name, value) => textChars name ++ ':' :: ' ' :: value)
    ++ ['\x7D']

mutual

def chars : Json → List Char
  | .null => "null".toList
  | .bool value => (if value then "true" else "false").toList
  | .int value => (toString value).toList
  | .float value => (floatText value).toList
  | .text value => textChars value
  | .array items => '[' :: commaSeparated (itemsChars items) ++ [']']
  | .object members => objectChars (membersChars members)

def itemsChars : List Json → List (List Char)
  | [] => []
  | head :: tail => chars head :: itemsChars tail

def membersChars : List (Coded × Json) → List (Coded × List Char)
  | [] => []
  | (name, value) :: tail => (name, chars value) :: membersChars tail

end

def render (value : Json) : String :=
  String.ofList (chars value)

end ImportAtlas.Json
