import ImportAtlas.Text.Coded
import ImportAtlas.Text.Hex
import ImportAtlas.Text.Printable

/-! # Quoted text

The form in which messages show a text: between single quotes, or between double
quotes when the text holds a single quote and no double one. The quote in use and
the backslash are escaped, line ends and tabs have short escapes, and any other
unprintable character is written by its code, as is half of a surrogate pair.
-/

namespace ImportAtlas.Text

def quoteFor (chars : List Char) : Char :=
  if chars.contains '\'' && !chars.contains '"' then '"' else '\''

def unitEscape (unit : Nat) : List Char :=
  '\\' :: 'u' :: hexDigits 4 unit

def codeEscape (char : Char) : List Char :=
  if char.toNat < 0x100 then '\\' :: 'x' :: hexDigits 2 char.toNat
  else if char.toNat < 0x10000 then unitEscape char.toNat
  else '\\' :: 'U' :: hexDigits 8 char.toNat

def quotedChar (quote char : Char) : List Char :=
  if char = quote ∨ char = '\\' then ['\\', char]
  else if char = '\n' then ['\\', 'n']
  else if char = '\r' then ['\\', 'r']
  else if char = '\t' then ['\\', 't']
  else if isPrintable char then [char]
  else codeEscape char

def quotedCode (quote : Char) : Code → List Char
  | .char char => quotedChar quote char
  | half => unitEscape half.number

def quoteChars (text : Coded) : List Char :=
  let quote := quoteFor (text.filterMap Code.char?)
  quote :: text.flatMap (quotedCode quote) ++ [quote]

def quoted (text : Coded) : String :=
  String.ofList (quoteChars text)

/-- A text for a reader to whom only characters can be shown: halves by their numbers. -/
def shown (text : Coded) : String :=
  String.ofList (text.flatMap fun
    | .char char => [char]
    | half => unitEscape half.number)

end ImportAtlas.Text
