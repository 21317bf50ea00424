import ImportAtlas.Text.Coded
import ImportAtlas.Text.Matching

/-! # Globs

The pattern language of one path component. A glob is a row of symbols, each of
which consumes a part of a name; no symbol but a bracket expression consumes a
slash.
-/

namespace ImportAtlas.Ignore

open Text (Code Coded restsOfChar restsOfRun)

inductive BracketItem
  | single (code : Code)
  | range (first last : Code)
deriving DecidableEq, Repr

def BracketItem.contains (item : BracketItem) (char : Char) : Bool :=
  match item with
  | single only => only == .char char
  | range first last => decide (first.number ≤ char.toNat ∧ char.toNat ≤ last.number)

inductive GlobSymbol
  | literal (code : Code)
  | anyChar
  | anyChars
  | bracket (negated : Bool) (items : List BracketItem)
deriving DecidableEq, Repr

def bracketItems : Coded → List BracketItem
  | [] => []
  | [first, .char '-'] => [.single first, .single '-']
  | first :: .char '-' :: last :: tail => .range first last :: bracketItems tail
  | first :: tail => .single first :: bracketItems tail

def bracketNegation : Coded → Bool × Coded
  | .char '!' :: tail => (true, tail)
  | .char '^' :: tail => (true, tail)
  | codes => (false, codes)

/-- What a bracket expression holds and what follows its closing bracket. A closing
bracket in the first place stands for itself. -/
def bracketBody? (codes : Coded) : Option (Coded × Coded) :=
  let (opening, tail) :=
    match codes with
    | .char ']' :: tail => ([Code.char ']'], tail)
    | _ => ([], codes)
  match tail.dropWhile (· ≠ .char ']') with
  | [] => none
  | _ :: rest => some (opening ++ tail.takeWhile (· ≠ .char ']'), rest)

def bracket? (codes : Coded) : Option (GlobSymbol × Coded) :=
  let (negated, tail) := bracketNegation codes
  (bracketBody? tail).map fun (body, rest) => (.bracket negated (bracketItems body), rest)

private theorem bracketNegation_length (codes : Coded) :
    (bracketNegation codes).2.length ≤ codes.length := by
  unfold bracketNegation
  split <;> simp

private theorem bracketBody?_length {codes body rest : Coded}
    (found : bracketBody? codes = some (body, rest)) : rest.length < codes.length := by
  unfold bracketBody? at found
  split at found
  next opening tail equal =>
    split at found
    · simp at found
    next closing rest' dropped =>
      simp only [Option.some.injEq, Prod.mk.injEq] at found
      rcases found with ⟨-, rfl⟩
      have bound := (List.dropWhile_sublist (l := tail) (· ≠ .char ']')).length_le
      rw [dropped, List.length_cons] at bound
      split at equal <;> simp only [Prod.mk.injEq] at equal <;> obtain ⟨-, rfl⟩ := equal
      · simp only [List.length_cons]; omega
      · omega

private theorem bracket?_length {codes rest : Coded} {symbol : GlobSymbol}
    (found : bracket? codes = some (symbol, rest)) : rest.length < codes.length := by
  simp only [bracket?, Option.map_eq_some_iff, Prod.mk.injEq, Prod.exists] at found
  rcases found with ⟨body, rest', found, -, rfl⟩
  exact Nat.lt_of_lt_of_le (bracketBody?_length found) (bracketNegation_length codes)

/-- The symbols of a glob. A backslash makes the next code stand for itself, and
there is no glob when no code follows it. -/
def globSymbols? (codes : Coded) : Option (List GlobSymbol) :=
  match codes with
  | [] => some []
  | .char '\\' :: code :: tail => (globSymbols? tail).map (.literal code :: ·)
  | [.char '\\'] => none
  | .char '*' :: tail => (globSymbols? tail).map (.anyChars :: ·)
  | .char '?' :: tail => (globSymbols? tail).map (.anyChar :: ·)
  | .char '[' :: tail =>
      match found : bracket? tail with
      | some (symbol, rest) =>
          have := bracket?_length found
          (globSymbols? rest).map (symbol :: ·)
      | none => (globSymbols? tail).map (.literal '[' :: ·)
  | code :: tail => (globSymbols? tail).map (.literal code :: ·)
termination_by codes.length

def isNameChar (char : Char) : Bool := char ≠ '/'

def GlobSymbol.rests (text : List Char) : GlobSymbol → List (List Char)
  | .literal code => restsOfChar (fun char => .char char == code) text
  | .anyChar => restsOfChar isNameChar text
  | .anyChars => restsOfRun isNameChar text
  | .bracket negated items =>
      restsOfChar (fun char => items.any (·.contains char) != negated) text

/-! ## Ranges that end before they start -/

def escapedChars : Coded :=
  "()[]\x7B\x7D?*+-|^$\\.&~# \t\n\r\x0B\x0C"

def expandedCode (code : Code) : Coded :=
  if code = .char '\\' then ['\\', '\\'] else [code]

def BracketItem.expanded : BracketItem → Coded
  | single code => expandedCode code
  | range first last => expandedCode first ++ .char '-' :: expandedCode last

def GlobSymbol.expanded : GlobSymbol → Coded
  | literal code => if escapedChars.contains code then ['\\', code] else [code]
  | anyChar => "[^/]"
  | anyChars => "[^/]*"
  | bracket negated items =>
      (if negated then "[^" else "[") ++ items.flatMap BracketItem.expanded ++ "]"

structure ReversedRange where
  first : Code
  last : Code
  position : Nat
deriving DecidableEq, Repr

def reversedItem? (position : Nat) : List BracketItem → Option ReversedRange
  | [] => none
  | .range first last :: tail =>
      if last.number < first.number then some ⟨first, last, position⟩
      else reversedItem? (position + (BracketItem.range first last).expanded.length) tail
  | item :: tail => reversedItem? (position + item.expanded.length) tail

def GlobSymbol.reversedRange? (position : Nat) : GlobSymbol → Option ReversedRange
  | .bracket negated items => reversedItem? (position + if negated then 2 else 1) items
  | _ => none

end ImportAtlas.Ignore
