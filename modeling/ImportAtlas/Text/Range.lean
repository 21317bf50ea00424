/-! # Character ranges

Classes of characters given as inclusive ranges of code points, in increasing
order, so that a search may stop at the first range that starts too late.
-/

namespace ImportAtlas.Text

abbrev CodeRange := Nat × Nat

def codeInRanges (code : Nat) : List CodeRange → Bool
  | [] => false
  | (first, last) :: tail =>
      if code < first then false
      else if code ≤ last then true
      else codeInRanges code tail

def inRanges (ranges : List CodeRange) (char : Char) : Bool :=
  codeInRanges char.toNat ranges

end ImportAtlas.Text
