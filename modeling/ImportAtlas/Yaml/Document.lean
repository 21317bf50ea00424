import ImportAtlas.SlotOrder
import ImportAtlas.Yaml.Formation

/-! # YAML documents

The datum that a text holds. A collection that lies in itself is shown by a back reference
where it occurs again; any other node that has several places has the same datum in each.
-/

namespace ImportAtlas.Yaml

def distinct (members : List Datum) : List Datum :=
  (Datum.ofEntries (members.map fun member => (member, .null))).map Prod.fst

def Piece.datum? (datumOf : NodeId → Option Datum) : Piece → Option Datum
  | .datum value => some value
  | .list items => (items.mapM datumOf).map .list
  | .pairs items =>
      (items.mapM fun (first, second) =>
        return Datum.pair (← datumOf first) (← datumOf second)).map .list
  | .mapping entries =>
      (entries.mapM fun (key, value) => return (← datumOf key, ← datumOf value)).map
        fun entries => .mapping (Datum.ofEntries entries)
  | .set members =>
      (members.mapM datumOf).map fun members => .set (SlotOrder.arrange (distinct members))

namespace Pieces

/-! ## Nodes outside all cycles -/

def settleOnce (pieces : Pieces) (known : Array (Option Datum)) : Array (Option Datum) :=
  (List.range pieces.size).foldr
    (fun id known =>
      match known[id]?.join, pieces[id]?.join with
      | none, some piece =>
          known.setIfInBounds id (piece.datum? fun member => known[member]?.join)
      | _, _ => known)
    known

def countKnown (known : Array (Option Datum)) : Nat :=
  known.countP Option.isSome

def settle (pieces : Pieces) (rounds : Nat) (known : Array (Option Datum)) : Array (Option Datum) :=
  match rounds with
  | 0 => known
  | rounds + 1 =>
      let more := pieces.settleOnce known
      if countKnown more = countKnown known then known else pieces.settle rounds more

/-! ## All nodes -/

def unfold (pieces : Pieces) (known : Array (Option Datum)) (steps : Nat) (opened : List NodeId)
    (id : NodeId) : Datum :=
  match known[id]?.join, steps, pieces[id]?.join with
  | some datum, _, _ => datum
  | none, steps + 1, some piece =>
      if opened.contains id then
        .backReference (piece matches .mapping _)
      else
        (piece.datum? fun member => some (pieces.unfold known steps (id :: opened) member)).getD
          .null
  | none, _, _ => .null

/-- The datum of a document. Nothing is open around the entries of its mapping, since they
are looked at one by one. -/
def datum (pieces : Pieces) : Datum :=
  let known := pieces.settle pieces.size (.replicate pieces.size none)
  let steps := pieces.size + 1
  match pieces[0]?.join with
  | some (Piece.mapping entries) =>
      .mapping (Datum.ofEntries (entries.map fun (key, value) =>
        (pieces.unfold known steps [] key, pieces.unfold known steps [] value)))
  | _ => pieces.unfold known steps [] 0

end Pieces

def read (limits : Limits) (text : Text.Portioned) : Except Fault Datum :=
  match parseDocument limits.yaml (refuseNames [] (tokens (.ofText text))) with
  | .error fault => .error fault
  | .ok none => .ok .null
  | .ok (some node) => do
      let graph ← NodeGraph.ofNode node
      return (← graph.pieces limits).datum

end ImportAtlas.Yaml
