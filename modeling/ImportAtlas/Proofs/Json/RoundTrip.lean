import ImportAtlas.Json.Parser
import ImportAtlas.Proofs.Json.Spelling
import ImportAtlas.Proofs.Keyed

/-! # Reading what is written

The parser goes over the tokens of a value and ends with that value, whatever is open around it.
Main statement: what spells a value is read as it, if arrays and objects may lie as deep inside
each other as they do in the value. In its texts, halves that stand side by side have become one
character.
-/

namespace ImportAtlas.Json

open Text (Coded)

variable {limit : Nat} {stack : List Frame} {rest : List Token}

/-! ## Depth -/

mutual

/-- How many arrays and objects lie inside each other. -/
def depth : Json → Nat
  | .array items => itemsDepth items + 1
  | .object members => membersDepth members + 1
  | _ => 0

def itemsDepth : List Json → Nat
  | [] => 0
  | head :: tail => max (depth head) (itemsDepth tail)

def membersDepth : List (Coded × Json) → Nat
  | [] => 0
  | (_, value) :: tail => max (depth value) (membersDepth tail)

end

theorem membersDepth_le_iff {members : List (Coded × Json)} {bound : Nat} :
    membersDepth members ≤ bound ↔ ∀ member ∈ members, member.2.depth ≤ bound := by
  induction members with
  | nil => simp [membersDepth]
  | cons member others induction => simp [membersDepth, induction]

/-! ## Values as they are read -/

mutual

/-- A value with the pairs of halves in its texts joined, and each name at its first place with its
last value. -/
def joined : Json → Json
  | .text value => .text value.joinPairs
  | .array items => .array (itemsJoined items)
  | .object members => .object (Keyed.ofPairs (membersJoined members))
  | value => value

def itemsJoined : List Json → List Json
  | [] => []
  | head :: tail => joined head :: itemsJoined tail

def membersJoined : List (Coded × Json) → List (Coded × Json)
  | [] => []
  | (name, value) :: tail => (name.joinPairs, joined value) :: membersJoined tail

end

mutual

/-- Whether no text in a value has a pair of halves, and no object has a name twice. -/
def isPlain : Json → Bool
  | .text value => decide value.IsUnpaired
  | .array items => itemsPlain items
  | .object members => decide (members.map Prod.fst).Nodup && membersPlain members
  | _ => true

def itemsPlain : List Json → Bool
  | [] => true
  | head :: tail => isPlain head && itemsPlain tail

def membersPlain : List (Coded × Json) → Bool
  | [] => true
  | (name, value) :: tail => decide name.IsUnpaired && isPlain value && membersPlain tail

end

private theorem membersPlain_iff {members : List (Coded × Json)} :
    membersPlain members = true ↔
      ∀ member ∈ members, member.1.IsUnpaired ∧ member.2.isPlain = true := by
  induction members with
  | nil => simp [membersPlain]
  | cons member others induction => simp [membersPlain, induction]

theorem isPlain_object {members : List (Coded × Json)} :
    (Json.object members).isPlain = true ↔
      (members.map Prod.fst).Nodup ∧
        ∀ member ∈ members, member.1.IsUnpaired ∧ member.2.isPlain = true := by
  rw [isPlain, Bool.and_eq_true, decide_eq_true_eq, membersPlain_iff]

mutual

theorem joined_of_isPlain : (value : Json) → value.isPlain = true → value.joined = value
  | .null, _ | .bool _, _ | .int _, _ | .float _, _ => rfl
  | .text value, plain =>
    congrArg Json.text (Coded.joinPairs_of_isUnpaired (of_decide_eq_true plain))
  | .array items, plain => congrArg Json.array (itemsJoined_of_itemsPlain items plain)
  | .object members, plain => by
      rcases Bool.and_eq_true_iff.mp plain with ⟨distinct, plainMembers⟩
      rw [joined, membersJoined_of_membersPlain members plainMembers,
        Keyed.ofPairs_of_nodup (of_decide_eq_true distinct)]

theorem itemsJoined_of_itemsPlain : (items : List Json) → itemsPlain items = true →
    itemsJoined items = items
  | [], _ => rfl
  | head :: tail, plain => by
      rcases Bool.and_eq_true_iff.mp plain with ⟨plainHead, plainTail⟩
      rw [itemsJoined, joined_of_isPlain head plainHead, itemsJoined_of_itemsPlain tail plainTail]

theorem membersJoined_of_membersPlain : (members : List (Coded × Json)) →
    membersPlain members = true → membersJoined members = members
  | [], _ => rfl
  | (name, value) :: tail, plain => by
      rcases Bool.and_eq_true_iff.mp plain with ⟨plainHead, plainTail⟩
      rcases Bool.and_eq_true_iff.mp plainHead with ⟨unpaired, plainValue⟩
      rw [membersJoined, Coded.joinPairs_of_isUnpaired (of_decide_eq_true unpaired),
        joined_of_isPlain value plainValue, membersJoined_of_membersPlain tail plainTail]

end

/-! ## Rows of texts -/

theorem isWritable_ofTexts (texts : List String) : (ofTexts texts).isWritable = true := by
  induction texts with
  | nil => rfl
  | cons text others induction => exact induction

theorem isPlain_ofTexts (texts : List String) : (ofTexts texts).isPlain = true := by
  induction texts with
  | nil => rfl
  | cons text others induction =>
      exact Bool.and_eq_true_iff.mpr ⟨decide_eq_true (Coded.isUnpaired_ofText text), induction⟩

theorem depth_ofTexts_le (texts : List String) : (ofTexts texts).depth ≤ 1 := by
  induction texts with
  | nil => exact Nat.le_refl 1
  | cons text others induction => simpa [ofTexts, depth, itemsDepth] using induction

/-! ## Runs of the parser -/

theorem foldlM_cons_ok {state : ParseState} {token : Token} (next : ParseState)
    (stepped : parseStep limit state token = .ok next) :
    (token :: rest).foldlM (parseStep limit) state = rest.foldlM (parseStep limit) next := by
  rw [List.foldlM_cons, stepped]
  rfl

private theorem foldlM_firstItem (value : Json) :
    (valueTokens value ++ rest).foldlM (parseStep limit) ⟨stack, .firstItem⟩ =
      (valueTokens value ++ rest).foldlM (parseStep limit) ⟨.array [] :: stack, .value⟩ := by
  cases value <;> rfl

private theorem intercalate_cons {α : Type} (mark first : List α) (others : List (List α)) :
    mark.intercalate (first :: others) = first ++ others.flatMap (mark ++ ·) := by
  induction others generalizing first with
  | nil => simp
  | cons next rest induction =>
      rw [List.intercalate_cons_cons, induction, List.flatMap_cons, List.append_assoc,
        List.append_assoc]

private theorem parseStep_openArray (less : stack.length < limit) :
    parseStep limit ⟨stack, .value⟩ .openArray = .ok ⟨stack, .firstItem⟩ :=
  if_neg (Nat.not_le.mpr less)

private theorem parseStep_openObject (less : stack.length < limit) :
    parseStep limit ⟨stack, .value⟩ .openObject = .ok ⟨stack, .firstName []⟩ :=
  if_neg (Nat.not_le.mpr less)

-- A row is left to its end once a value in it has been read: what follows that value begins with a
-- comma, or is the end, so the induction goes over the values that are left.
mutual

theorem foldlM_valueTokens (value : Json) (stack : List Frame) (rest : List Token)
    (bounded : stack.length + value.depth ≤ limit) :
    (valueTokens value ++ rest).foldlM (parseStep limit) ⟨stack, .value⟩ =
      rest.foldlM (parseStep limit) ⟨stack, .finished value.joined⟩ := by
  match value with
  | .null | .bool _ | .int _ | .float _ | .text _ => rfl
  | .array [] => exact foldlM_cons_ok _ (parseStep_openArray (by simp [depth] at bounded; omega))
  | .array (head :: tail) =>
      simp only [depth, itemsDepth] at bounded
      rw [valueTokens, itemsTokens, intercalate_cons, List.cons_append, List.cons_append,
        foldlM_cons_ok _ (parseStep_openArray (by omega)), List.append_assoc, List.append_assoc,
        foldlM_firstItem, foldlM_valueTokens head _ _ (by rw [List.length_cons]; omega)]
      exact foldlM_itemsTokens tail [] head.joined stack rest (by omega)
  | .object [] => exact foldlM_cons_ok _ (parseStep_openObject (by simp [depth] at bounded; omega))
  | .object ((name, value) :: tail) =>
      simp only [depth, membersDepth] at bounded
      rw [valueTokens, membersTokens, intercalate_cons, List.cons_append, List.cons_append,
        foldlM_cons_ok _ (parseStep_openObject (by omega)), List.append_assoc, List.append_assoc,
        List.cons_append, List.cons_append,
        foldlM_cons_ok ⟨stack, .colon [] name.joinPairs⟩ rfl,
        foldlM_cons_ok ⟨.object [] name.joinPairs :: stack, .value⟩ rfl,
        foldlM_valueTokens value _ _ (by rw [List.length_cons]; omega)]
      exact foldlM_membersTokens tail [] name.joinPairs value.joined stack rest (by omega)

theorem foldlM_itemsTokens (items reversed : List Json) (value : Json) (stack : List Frame)
    (rest : List Token) (bounded : stack.length + 1 + itemsDepth items ≤ limit) :
    ((itemsTokens items).flatMap ([Token.comma] ++ ·) ++ ([Token.closeArray] ++ rest)).foldlM
        (parseStep limit) ⟨.array reversed :: stack, .finished value⟩ =
      rest.foldlM (parseStep limit)
        ⟨stack, .finished (.array (reversed.reverse ++ value :: itemsJoined items))⟩ := by
  match items with
  | [] =>
      rw [itemsJoined, List.append_cons, ← List.reverse_cons, List.append_nil]
      exact foldlM_cons_ok _ rfl
  | head :: tail =>
      simp only [itemsDepth] at bounded
      rw [itemsTokens, List.flatMap_cons, List.append_assoc, List.append_assoc,
        List.singleton_append, foldlM_cons_ok ⟨.array (value :: reversed) :: stack, .value⟩ rfl,
        foldlM_valueTokens head _ _ (by rw [List.length_cons]; omega),
        foldlM_itemsTokens tail (value :: reversed) head.joined stack rest (by omega),
        itemsJoined, List.reverse_cons, List.append_assoc, List.singleton_append]

theorem foldlM_membersTokens (members before : List (Coded × Json)) (name : Coded) (value : Json)
    (stack : List Frame) (rest : List Token)
    (bounded : stack.length + 1 + membersDepth members ≤ limit) :
    ((membersTokens members).flatMap ([Token.comma] ++ ·) ++ ([Token.closeObject] ++ rest)).foldlM
        (parseStep limit) ⟨.object before name :: stack, .finished value⟩ =
      rest.foldlM (parseStep limit)
        ⟨stack, .finished (.object
          (Keyed.update (Keyed.put name value before) (membersJoined members)))⟩ := by
  match members with
  | [] => exact foldlM_cons_ok _ rfl
  | (next, nextValue) :: tail =>
      simp only [membersDepth] at bounded
      rw [membersTokens, List.flatMap_cons, List.append_assoc, List.append_assoc,
        List.singleton_append, foldlM_cons_ok ⟨stack, .name (Keyed.put name value before)⟩ rfl,
        List.cons_append, List.cons_append,
        foldlM_cons_ok ⟨stack, .colon (Keyed.put name value before) next.joinPairs⟩ rfl,
        foldlM_cons_ok
          ⟨.object (Keyed.put name value before) next.joinPairs :: stack, .value⟩ rfl,
        foldlM_valueTokens nextValue _ _ (by rw [List.length_cons]; omega),
        foldlM_membersTokens tail
          (Keyed.put name value before) next.joinPairs nextValue.joined stack
          rest (by omega), membersJoined, Keyed.update_cons]

end

/-! ## Whole texts -/

theorem parseWithin_of_spells {chars : List Char} {value : Json}
    (spelled : Spells chars (valueTokens value)) (bounded : value.depth ≤ limit) :
    parseWithin limit chars = .ok value.joined := by
  have run := foldlM_valueTokens value [] [] (by simpa using bounded)
  rw [List.append_nil] at run
  rw [parseWithin, spelled.tokens_eq, run]
  rfl

theorem parseWithin_chars {value : Json} (writable : value.isWritable = true)
    (plain : value.isPlain = true) (bounded : value.depth ≤ limit) :
    parseWithin limit value.chars = .ok value := by
  rw [parseWithin_of_spells (spells_chars value writable) bounded, joined_of_isPlain value plain]

end ImportAtlas.Json
