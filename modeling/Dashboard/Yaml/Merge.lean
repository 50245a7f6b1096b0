import Dashboard.Yaml.Graph

/-!
# Merged maps

Under the key `<<` a map names other maps, whose entries come before its own. `Graph.merge` puts
them there: first those of the maps that are named, which are merged before, and of a list of maps
the entries of the last one first. Nothing is left under the key `<<`, and the mark `=` becomes a
text where it is a key.
-/

namespace Dashboard
namespace Yaml
namespace Graph

/-- The entries of a map; other nodes have none. -/
def entries (g : Graph) (n : Nat) : List (Nat × Nat) :=
  match (g.node n).content with
  | .map entries => entries
  | _ => []

/-- The entry has the key `<<`. -/
def isMerge (g : Graph) (e : Nat × Nat) : Bool := (g.node e.1).tag == .merge

/-- The number of entries with the key `<<`. -/
def mergeCount (g : Graph) : Nat :=
  ((List.range g.size).flatMap g.entries).countP g.isMerge

/-- The key of an entry as a text if it is the mark `=`. -/
def plainKey (g : Graph) (e : Nat × Nat) : Graph :=
  if (g.node e.1).tag == .value then g.setTag e.1 .str else g

/-- Merges the map `n`, of which the entries `added` have been merged already; `steps` bounds the
number of entries with the key `<<`. -/
def mergeFrom (added : List (Nat × Nat)) :
    Nat → Nat → Graph → Except YamlError Graph
  | 0, _, _ => throw .endless
  | steps + 1, n, g =>
    match (g.entries n).find? g.isMerge with
    | none =>
      let g := (g.entries n).foldl plainKey g
      return g.setContent n (.map (added ++ g.entries n))
    | some (key, source) => do
      let g := g.setContent n (.map ((g.entries n).erase (key, source)))
      match (g.node source).content with
      | .map _ =>
        let g ← mergeFrom [] steps source g
        mergeFrom (added ++ g.entries source) steps n g
      | .seq items =>
        let (g, lists) ← items.foldlM (fun (g, lists) item => do
          match (g.node item).content with
          | .map _ =>
            let g ← mergeFrom [] steps item g
            return (g, g.entries item :: lists)
          | _ => throw .malformed) (g, ([] : List (List (Nat × Nat))))
        mergeFrom (added ++ lists.flatten) steps n g
      | .scalar _ => throw .malformed

/-- Merges a map. -/
def merge (g : Graph) (n : Nat) : Except YamlError Graph :=
  mergeFrom [] (if (g.entries n).any g.isMerge then g.mergeCount + 1 else 1) n g

end Graph
end Yaml
end Dashboard
