import ImportAtlas.Json.Token

/-! # Reading JSON

The parser moves over the tokens with a stack of the arrays and objects that are
still open. A member name that occurs again replaces the earlier value.
-/

namespace ImportAtlas.Json

open Text (Coded)

inductive ParseError
  | malformed
  | overlongInteger (digits : Nat)
  | nested (isObject : Bool)
deriving DecidableEq, Repr

def nestedMessage (isObject : Bool) : String :=
  "maximum recursion depth exceeded while decoding a JSON "
    ++ (if isObject then "object" else "array") ++ " from a unicode string"

inductive Frame
  | array (reversed : List Json)
  | object (members : List (Coded × Json)) (name : Coded)
deriving Inhabited

inductive Expectation
  | value
  | firstItem
  | firstName (members : List (Coded × Json))
  | name (members : List (Coded × Json))
  | colon (members : List (Coded × Json)) (name : Coded)
  | finished (value : Json)
deriving Inhabited

structure ParseState where
  stack : List Frame
  expectation : Expectation
deriving Inhabited

def beginValue (limit : Nat) (stack : List Frame) : Token → Except ParseError ParseState
  | .scalar value => .ok ⟨stack, .finished value⟩
  | .text value => .ok ⟨stack, .finished (.text value)⟩
  | .openArray =>
      if limit ≤ stack.length then .error (.nested false) else .ok ⟨stack, .firstItem⟩
  | .openObject =>
      if limit ≤ stack.length then .error (.nested true) else .ok ⟨stack, .firstName []⟩
  | .overlong digits => .error (.overlongInteger digits)
  | _ => .error .malformed

def continueAfter (value : Json) : List Frame → Token → Except ParseError ParseState
  | .array reversed :: stack, .comma => .ok ⟨.array (value :: reversed) :: stack, .value⟩
  | .array reversed :: stack, .closeArray =>
      .ok ⟨stack, .finished (.array (value :: reversed).reverse)⟩
  | .object members name :: stack, .comma => .ok ⟨stack, .name (Keyed.put name value members)⟩
  | .object members name :: stack, .closeObject =>
      .ok ⟨stack, .finished (.object (Keyed.put name value members))⟩
  | _, _ => .error .malformed

def parseStep (limit : Nat) (state : ParseState) (token : Token) :
    Except ParseError ParseState :=
  match state.expectation, token with
  | .value, token => beginValue limit state.stack token
  | .firstItem, .closeArray => .ok ⟨state.stack, .finished (.array [])⟩
  | .firstItem, token => beginValue limit (.array [] :: state.stack) token
  | .firstName members, .closeObject => .ok ⟨state.stack, .finished (.object members)⟩
  | .firstName members, .text name => .ok ⟨state.stack, .colon members name⟩
  | .name members, .text name => .ok ⟨state.stack, .colon members name⟩
  | .colon members name, .colon => .ok ⟨.object members name :: state.stack, .value⟩
  | .finished value, token => continueAfter value state.stack token
  | _, _ => .error .malformed

def parseEnd : ParseState → Except ParseError Json
  | ⟨[], .finished value⟩ => .ok value
  | _ => .error .malformed

/-- The document in a text. Arrays and objects may lie inside each other up to a limit, which is the
room that the reader has left. -/
def parseWithin (limit : Nat) (chars : List Char) : Except ParseError Json := do
  parseEnd (← (tokens chars).foldlM (parseStep limit) ⟨[], .value⟩)

end ImportAtlas.Json
