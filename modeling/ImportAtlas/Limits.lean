import ImportAtlas.Number.Decimal

/-! # Limits

What descends into a value takes room on a stack, of which so much is left as the caller has
left. A value that lies too deep for that room is refused. How much room there is belongs to
no computation here: it is given, and what is said holds for all limits.
-/

namespace ImportAtlas

/-- The room for what lies inside each other, counted in levels. -/
structure Limits where
  /-- Arrays and objects of a JSON document. -/
  json : Nat
  /-- Collections of a YAML document. -/
  yaml : Nat
  /-- Mappings that are merged into others. -/
  merged : Nat
  /-- Mappings that have others as their default. -/
  defaults : Nat
  /-- What lies in a value that a report shows. -/
  shown : Nat
deriving DecidableEq, Repr, Inhabited

/-! ## Writing values -/

inductive WriteFault
  | overlongInteger
  | nested
deriving DecidableEq, Repr

namespace WriteFault

def message (activity : String) : WriteFault → String
  | overlongInteger => Decimal.unwritableMessage
  | nested => "maximum recursion depth exceeded while " ++ activity

@[irreducible] def integerBound : Nat := Nat.pow 10 Decimal.digitLimit

def ofInt (value : Int) : Option WriteFault :=
  if value.natAbs < integerBound then none else some .overlongInteger

theorem ofInt_integerBound : ofInt integerBound = some .overlongInteger := by
  rw [ofInt, Int.natAbs_natCast, if_neg (Nat.lt_irrefl _)]

end WriteFault

end ImportAtlas
