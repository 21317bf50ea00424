/-! # Matching by what is left

A way to match the front of a text is described by the texts that may be left after
it, the preferred one first. Runs of characters prefer to be long.
-/

namespace ImportAtlas.Text

def restsOfChar (accepts : Char → Bool) : List Char → List (List Char)
  | [] => []
  | head :: tail => if accepts head then [tail] else []

def restsOfShortRuns (accepts : Char → Bool) : List Char → List (List Char)
  | [] => [[]]
  | head :: tail =>
      (head :: tail) :: (if accepts head then restsOfShortRuns accepts tail else [])

def restsOfRun (accepts : Char → Bool) (text : List Char) : List (List Char) :=
  (restsOfShortRuns accepts text).reverse

/-- The texts left after nonempty runs of accepted characters, after the longest first. -/
def restsOfSome (accepts : Char → Bool) (text : List Char) : List (List Char) :=
  (restsOfChar accepts text).flatMap (restsOfRun accepts)

def restsOfWord : (word text : List Char) → List (List Char)
  | [], text => [text]
  | char :: word, text => (restsOfChar (· == char) text).flatMap (restsOfWord word)

end ImportAtlas.Text
