import ImportAtlas.Limits
import ImportAtlas.Yaml.Merge
import ImportAtlas.Yaml.Value

/-! # Forming values

The values of the nodes of a document. A scalar has its value at once. A collection comes
into being empty and is filled later, after all collections that came into being before it,
so it may hold itself. The first fault in this order counts.
-/

namespace ImportAtlas.Yaml

inductive Piece
  | datum (value : Datum)
  | list (items : List NodeId)
  | pairs (items : List (NodeId × NodeId))
  | mapping (entries : List (NodeId × NodeId))
  | set (members : List NodeId)
deriving Repr, Inhabited

abbrev Pieces := Array (Option Piece)

def Tag.collection? : Tag → Option Piece
  | .list => some (.list [])
  | .mapping => some (.mapping [])
  | .set => some (.set [])
  | .orderedMapping | .pairs => some (.pairs [])
  | _ => none

structure Formation where
  limits : Limits
  graph : NodeGraph
  pieces : Pieces
  pending : List NodeId

namespace Formation

def ofGraph (limits : Limits) (graph : NodeGraph) : Formation :=
  ⟨limits, graph, .replicate graph.size none, []⟩

def put (formation : Formation) (id : NodeId) (piece : Piece) : Formation :=
  { formation with pieces := formation.pieces.setIfInBounds id (some piece) }

/-- The text of a scalar. A mapping has the text of the first of its values whose key marks
it as the default, which takes a step. -/
def scalarText (graph : NodeGraph) (steps : Nat) (id : NodeId) : Except Fault Text.Coded :=
  match steps, graph[id]?.map Vertex.content with
  | _, some (.scalar text) => .ok text
  | 0, some (.mapping _) => .error (.scalar .endless)
  | steps + 1, some (.mapping entries) =>
      match entries.find? fun entry => graph.tag entry.1 = .value with
      | some entry => scalarText graph steps entry.2
      | none => .error .malformed
  | _, _ => .error .malformed

def scalarDatum (limit : Nat) (graph : NodeGraph) (id : NodeId) : Except Fault Datum := do
  if graph.tag id matches .unknown | .merge | .value then throw .malformed
  let text ← scalarText graph limit id
  if graph.tag id = .timestamp ∧ (graph.entries? id).isSome then
    throw (.scalar .noTimestampText)
  scalarValue id (graph.tag id) text

def form (formation : Formation) (id : NodeId) : Except Fault Formation :=
  match formation.pieces[id]? with
  | some none =>
      match (formation.graph.tag id).collection? with
      | some piece =>
          .ok { formation.put id piece with pending := id :: formation.pending }
      | none =>
          (scalarDatum formation.limits.defaults formation.graph id).map fun datum =>
            formation.put id (.datum datum)
  | _ => .ok formation

def formEntry (formation : Formation) (entry : NodeId × NodeId) : Except Fault Formation := do
  let formation ← formation.form entry.1
  if (formation.graph.tag entry.1).collection?.isSome then throw .malformed
  formation.form entry.2

def formMapping (formation : Formation) (id : NodeId) :
    Except Fault (List (NodeId × NodeId) × Formation) := do
  let graph ← formation.graph.merge formation.limits.merged id
  let entries := (graph.entries? id).getD []
  return (entries, ← entries.foldlM formEntry { formation with graph })

def formPairs (formation : Formation) :
    List NodeId → Except Fault (List (NodeId × NodeId) × Formation)
  | [] => .ok ([], formation)
  | head :: tail =>
      match formation.graph.entries? head with
      | some [(key, value)] => do
          let formation ← (← formation.form key).form value
          let (pairs, formation) ← formation.formPairs tail
          return ((key, value) :: pairs, formation)
      | _ => .error .malformed

def fill (formation : Formation) (id : NodeId) : Except Fault Formation :=
  match formation.graph.tag id with
  | .list =>
      match formation.graph.items? id with
      | none => .error .malformed
      | some items => (items.foldlM form formation).map fun formed => formed.put id (.list items)
  | .mapping =>
      (formation.formMapping id).map fun (entries, formed) => formed.put id (.mapping entries)
  | .set =>
      (formation.formMapping id).map fun (entries, formed) =>
        formed.put id (.set (entries.map Prod.fst))
  | _ =>
      match formation.graph.items? id with
      | none => .error .malformed
      | some items =>
          (formation.formPairs items).map fun (pairs, formed) => formed.put id (.pairs pairs)

/-- Fill the pending collections and those that come into being with them. Every round
fills at least one collection for good, so as many rounds as there are nodes are enough. -/
def complete (rounds : Nat) (formation : Formation) : Except Fault Formation :=
  match rounds, formation.pending with
  | 0, _ | _, [] => .ok formation
  | rounds + 1, pending => do
      let formation ← pending.reverse.foldlM fill { formation with pending := [] }
      complete rounds formation

end Formation

def NodeGraph.pieces (limits : Limits) (graph : NodeGraph) : Except Fault Pieces := do
  let formation ← (Formation.ofGraph limits graph).form 0
  return (← formation.complete graph.size).pieces

end ImportAtlas.Yaml
