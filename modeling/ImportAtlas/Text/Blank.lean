import ImportAtlas.Text.Range

/-! # White space

The white-space characters of Unicode together with the four ASCII separators, and the removal
of what a text ends in.
-/

namespace ImportAtlas.Text

def blankRanges : List CodeRange :=
  [(0x09, 0x0D), (0x1C, 0x20), (0x85, 0x85), (0xA0, 0xA0), (0x1680, 0x1680), (0x2000, 0x200A),
   (0x2028, 0x2029), (0x202F, 0x202F), (0x205F, 0x205F), (0x3000, 0x3000)]

def isBlank (char : Char) : Bool :=
  inRanges blankRanges char

def dropEndWhile {α : Type} (drops : α → Bool) (row : List α) : List α :=
  (row.reverse.dropWhile drops).reverse

def dropTrailingBlanks (chars : List Char) : List Char :=
  dropEndWhile isBlank chars

end ImportAtlas.Text
