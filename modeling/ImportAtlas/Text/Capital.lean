/-! # Capital letters for keyword comparison

The capital form of a text, exact wherever the result can be an ASCII word. The
letters outside ASCII whose capital form is written in ASCII are listed; every
other character outside ASCII stays as it is, since its capital form lies outside
ASCII as well and can equal no ASCII word.
-/

namespace ImportAtlas.Text

def asciiCapitals : List (Char × List Char) :=
  [('\u00DF', ['S', 'S']), ('\u0131', ['I']), ('\u017F', ['S']), ('\uFB00', ['F', 'F']),
   ('\uFB01', ['F', 'I']), ('\uFB02', ['F', 'L']), ('\uFB03', ['F', 'F', 'I']),
   ('\uFB04', ['F', 'F', 'L']), ('\uFB05', ['S', 'T']), ('\uFB06', ['S', 'T'])]

def capital (char : Char) : List Char :=
  match asciiCapitals.lookup char with
  | some letters => letters
  | none => [char.toUpper]

def capitalize (text : String) : String :=
  String.ofList (text.toList.flatMap capital)

end ImportAtlas.Text
