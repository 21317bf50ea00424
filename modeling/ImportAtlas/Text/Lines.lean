import ImportAtlas.Text.Split

/-! # Line ends

Source files end their lines in one of three ways, which are read as one. Lists
of lines, such as ignore files, also break at the rarer separators of Unicode.
-/

namespace ImportAtlas.Text

def unifyNewlines : List Char → List Char
  | [] => []
  | '\r' :: '\n' :: tail => '\n' :: unifyNewlines tail
  | head :: tail => (if head = '\r' then '\n' else head) :: unifyNewlines tail

def rareBreaks : List Char :=
  ['\x0B', '\x0C', '\x1C', '\x1D', '\x1E', '\u0085', '\u2028', '\u2029']

def lines (chars : List Char) : List (List Char) :=
  let unified := (unifyNewlines chars).map fun char =>
    if rareBreaks.contains char then '\n' else char
  let parts := split '\n' unified
  if parts.getLast? = some [] then parts.dropLast else parts

theorem unifyNewlines_eq_self {chars : List Char} (noReturn : '\r' ∉ chars) :
    unifyNewlines chars = chars := by
  induction chars with
  | nil => rfl
  | cons head tail induction =>
      rw [List.mem_cons, not_or] at noReturn
      have notReturn : head ≠ '\r' := Ne.symm noReturn.1
      rw [unifyNewlines, if_neg notReturn, induction noReturn.2]
      rintro _ rfl
      exact absurd rfl notReturn

end ImportAtlas.Text
